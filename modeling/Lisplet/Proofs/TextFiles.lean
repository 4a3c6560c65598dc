import Lisplet.Interpreter.Basic
import Lisplet.Proofs.Answers
import Lisplet.Proofs.EncodedText
import Lisplet.Proofs.Nesting
import Lisplet.Proofs.SettledFiles

/-!
# Text in files

What is written to a file is read back, but for the ends of lines: nothing is changed on
writing, and every way to end a line becomes a line feed on reading. Writing opens its file
before it has the text, so a value without a text leaves an empty file behind.
-/

namespace Lisplet

namespace Text

def pairsUnited : List Char → List Char
  | [] => []
  | '\r' :: '\n' :: rest => '\n' :: pairsUnited rest
  | character :: rest => character :: pairsUnited rest

def returnsReplaced (text : List Char) : List Char :=
  text.map fun character => if character = '\r' then '\n' else character

theorem unify_newlines_eq (text : List Char) :
    unifyNewlines text = returnsReplaced (pairsUnited text) := by
  fun_induction unifyNewlines text with
  | case1 => rfl
  | case2 rest ih => simpa [pairsUnited, returnsReplaced] using ih
  | case3 rest apart ih =>
      rw [pairsUnited, ih]
      · simp [returnsReplaced]
      · simpa using apart
  | case4 character rest pair single ih =>
      have other : character ≠ '\r' := single
      rw [pairsUnited, ih]
      · simp [returnsReplaced, other]
      · exact pair

theorem return_not_mem_unify (text : List Char) : '\r' ∉ unifyNewlines text := by
  rw [unify_newlines_eq, returnsReplaced]
  intro member
  obtain ⟨character, -, replaced⟩ := List.mem_map.mp member
  split_ifs at replaced with carriage
  · exact absurd replaced (by decide)
  · exact carriage replaced

theorem unify_newlines_eq_self_iff (text : List Char) :
    unifyNewlines text = text ↔ '\r' ∉ text := by
  constructor
  · intro same
    rw [← same]
    exact return_not_mem_unify text
  · intro free
    fun_induction unifyNewlines text with
    | case1 => rfl
    | case2 rest ih => simp at free
    | case3 rest apart ih => simp at free
    | case4 character rest pair single ih => rw [ih (fun later => free (.tail _ later))]

/-- The text that reading makes of a text: every pair of a carriage return and a line feed, and
then every other carriage return, is a line feed. -/
def withLineFeeds (text : String) : String :=
  String.ofList (returnsReplaced (pairsUnited text.toList))

theorem with_line_feeds_eq_self_iff (text : String) :
    withLineFeeds text = text ↔ '\r' ∉ text.toList := by
  rw [withLineFeeds, ← unify_newlines_eq, ← unify_newlines_eq_self_iff]
  constructor
  · intro same
    rw [← String.toList_inj, String.toList_ofList] at same
    exact same
  · intro same
    rw [same, String.ofList_toList]

end Text

namespace FileSystem

variable {files : FileSystem} {path : String} {place : List String}

theorem open_for_writing_eq_ok_iff {opened : FileSystem} :
    files.openForWriting path = .ok (place, opened) ↔
      '\x00' ∉ path.toList ∧ files.Reaches path place ∧ files.node? place ≠ some .directory ∧
        opened = files.put place (.file []) := by
  rw [← truncate_eq_ok_iff, openForWriting]
  by_cases null : '\x00' ∈ path.toList
  · simp [null]
  · rw [if_neg (by simpa using null)]
    cases truncated : files.truncate path with
    | error fault => simp
    | ok pair => simp [null]

theorem read_text_of_reaches {text : String} (sound : '\x00' ∉ path.toList)
    (reaches : files.Reaches path place)
    (present : files.node? place = some (.file (Text.encodeText text))) :
    files.readText path = .ok (String.ofList (Text.unifyNewlines text.toList)) := by
  rw [readText, readDecoded, if_neg (by simpa using sound), read_of_reaches reaches present]
  simp only [Text.decode_encode]

end FileSystem

namespace Value

/-- A string displays its own text, and any other value displays its description. -/
def Displays (value : Value) (text : String) : Prop :=
  value = .string text ∨ (∀ content, value ≠ .string content) ∧ value.describe = .ok text

theorem display_text_eq_iff {value : Value} {text : String} :
    value.displayText = .ok (some text) ↔ value.Displays text := by
  unfold displayText Displays
  split
  next content => simp [pure, Except.pure]
  next => simp [describe, describeWithin, Atom.describe, pure, Except.pure]
  next noString noText =>
    have other : ∀ content, value ≠ .string content := noString
    cases described : value.describe with
    | error reason => simp [other, Functor.map, Except.map]
    | ok shown => simp [other, Functor.map, Except.map]

end Value

/-- The ways an application of `write-file` can end. -/
inductive WritingEnds (site : ScopeId) (machine : Machine) :
    List Value → EStateM.Result Failure Machine Value → Prop where
  /-- Something else was given than a path and a value. -/
  | refused {arguments : List Value} {cause : Fault}
      (unfit : ∀ path value, arguments ≠ [.string path, value]) :
      WritingEnds site machine arguments (.error (.native cause site) machine)
  | unopened {path : String} {value : Value} {cause : Fault}
      (fault : machine.settled.files.openForWriting path = .error cause) :
      WritingEnds site machine [.string path, value]
        (.error (.native cause site) machine.settled)
  /-- The file was opened, and then no text was found for the value. -/
  | emptied {path : String} {value : Value} {place : List String} {cause : Fault}
      (sound : '\x00' ∉ path.toList) (reaches : machine.settled.files.Reaches path place)
      (file : machine.settled.files.node? place ≠ some .directory)
      (textless : ∀ text, ¬ value.Displays text) :
      WritingEnds site machine [.string path, value] (.error (.native cause site)
        { machine.settled with files := machine.settled.files.put place (.file []) })
  | written {path : String} {value : Value} {place : List String} {text : String}
      (sound : '\x00' ∉ path.toList) (reaches : machine.settled.files.Reaches path place)
      (file : machine.settled.files.node? place ≠ some .directory)
      (displays : value.Displays text) :
      WritingEnds site machine [.string path, value] (.ok .nil
        { machine.settled with
          files := machine.settled.files.put place (.file (Text.encodeText text)) })

namespace Prelude

variable {machine : Machine} {path : String} {value : Value} {cause : Fault}

theorem file_written_unopened (fault : machine.settled.files.openForWriting path = .error cause) :
    fileWritten [.string path, value] machine = .error (.host cause) machine.settled := by
  change (EvalM.ofExcept (machine.settled.files.openForWriting path) >>= _) machine.settled = _
  rw [fault]
  rfl

section Opened

variable {place : List String} {opened : FileSystem}
  (opens : machine.settled.files.openForWriting path = .ok (place, opened))

include opens

theorem file_written_textless (textless : ∀ text, ¬ value.Displays text) :
    ∃ cause, fileWritten [.string path, value] machine =
      .error (.host cause) { machine.settled with files := opened } := by
  change ∃ _, (EvalM.ofExcept (machine.settled.files.openForWriting path) >>= _)
    machine.settled = _
  rw [opens]
  cases shown : value.displayText with
  | error reason => exact ⟨.unwritable reason, rfl⟩
  | ok content =>
      cases content with
      | some text => exact absurd (Value.display_text_eq_iff.mp shown) (textless text)
      | none => exact ⟨.noText .content, rfl⟩

theorem file_written_text {text : String} (displays : value.Displays text) :
    fileWritten [.string path, value] machine = .ok .nil
      { machine.settled with files := opened.put place (.file (Text.encodeText text)) } := by
  change (EvalM.ofExcept (machine.settled.files.openForWriting path) >>= _) machine.settled = _
  rw [opens]
  change (EvalM.ofText value.displayText >>= _) { machine.settled with files := opened } = _
  rw [Value.display_text_eq_iff.mpr displays]
  rfl

end Opened

theorem file_written_refused {arguments : List Value}
    (unfit : ∀ path value, arguments ≠ [.string path, value]) :
    ∃ cause, fileWritten arguments machine = .error (.host cause) machine := by
  unfold fileWritten
  split
  next pathValue value =>
    have fault : ∃ cause, textFor .writeFile .path pathValue = .error cause := by
      unfold textFor text
      split
      next content => exact absurd rfl (unfit content value)
      next => exact ⟨_, rfl⟩
      next =>
        unfold complain
        split <;> exact ⟨_, rfl⟩
    obtain ⟨cause, fault⟩ := fault
    rw [fault]
    exact ⟨cause, rfl⟩
  next => exact ⟨_, rfl⟩

end Prelude

theorem writing_ends (apply : Applier) (arguments : List Value) (site : ScopeId)
    (machine : Machine) :
    WritingEnds site machine arguments
      (callNative false apply .writeFile arguments site machine) := by
  have failing : ∀ {cause after}, Prelude.fileWritten arguments (machine.inNative site) =
      .error (.host cause) after → callNative false apply .writeFile arguments site machine =
        .error (.native cause site) after.outOfNative :=
    fun failed => call_native_of_error (EvalM.map_error Reply.value failed)
  have succeeding : ∀ {result after}, Prelude.fileWritten arguments (machine.inNative site) =
      .ok result after → callNative false apply .writeFile arguments site machine =
        .ok result after.outOfNative :=
    fun ran => call_native_of_ok (EvalM.map_ok Reply.value ran)
  by_cases fit : ∃ path value, arguments = [.string path, value]
  · obtain ⟨path, value, rfl⟩ := fit
    have settled := machine.settled_in_native site
    have seen : (machine.inNative site).settled.files = machine.settled.files := by
      rw [settled]
      rfl
    cases opens : machine.settled.files.openForWriting path with
    | error cause =>
        rw [failing (Prelude.file_written_unopened (by rw [seen, opens])), settled]
        exact .unopened opens
    | ok pair =>
        obtain ⟨place, opened⟩ := pair
        obtain ⟨sound, reaches, file, rfl⟩ := FileSystem.open_for_writing_eq_ok_iff.mp opens
        -- The function itself sees the machine with its own call in progress.
        have inside := opens
        rw [← seen] at inside
        by_cases shows : ∃ text, value.Displays text
        · obtain ⟨text, displays⟩ := shows
          rw [succeeding (Prelude.file_written_text inside displays), seen, FileSystem.put_again,
            settled]
          exact .written sound reaches file displays
        · have textless := not_exists.mp shows
          obtain ⟨cause, failed⟩ := Prelude.file_written_textless inside textless
          rw [failing failed, settled]
          exact .emptied sound reaches file textless
  · have unfit : ∀ path value, arguments ≠ [.string path, value] :=
      fun path value same => fit ⟨path, value, same⟩
    obtain ⟨cause, failed⟩ := Prelude.file_written_refused unfit
    rw [failing failed]
    exact .refused unfit

theorem call_read_file {apply : Applier} {site : ScopeId} {machine : Machine} {path text : String}
    (found : machine.settled.files.readText path = .ok text) :
    callNative false apply .readFile [.string path] site machine =
      .ok (.string text) machine.settled := by
  have settled := machine.settled_in_native site
  have ran : Prelude.fileRead [.string path] (machine.inNative site) =
      .ok (.string text) (machine.settled.inNative site) := by
    change (EvalM.ofExcept ((machine.inNative site).settled.files.readText path) >>= _)
      (machine.inNative site).settled = _
    rw [settled]
    change (EvalM.ofExcept (machine.settled.files.readText path) >>= _) _ = _
    rw [found]
    rfl
  have invoked : Prelude.invoke (callBack apply) .readFile [.string path]
      (machine.inNative site) = .ok (.value (.string text)) (machine.settled.inNative site) :=
    EvalM.map_ok Reply.value ran
  exact call_native_of_ok invoked

section Announcing

variable {tracing : Bool} {function : Native} {arguments : List Value} {machine begun : Machine}

theorem announced_files
    (told : EvalM.announce tracing (fun _ => .native function arguments) machine = .ok () begun) :
    begun.files = machine.files ∧ begun.traceFile = machine.traceFile := by
  rcases (ensures_announce tracing _ machine).of_ok told with same | ⟨text, same⟩
  · rw [same]
    exact ⟨rfl, rfl⟩
  · rw [same]
    exact ⟨rfl, rfl⟩

theorem announced_or_unchanged (tracing : Bool) (apply : Applier) (function : Native)
    (arguments : List Value) (site : ScopeId) (machine : Machine) :
    (∃ begun, EvalM.announce tracing (fun _ => .native function arguments) machine =
        .ok () begun ∧
      applyWith tracing apply (.native function) arguments site machine =
        callNative false apply function arguments site begun) ∨
    tracing = true ∧ ∃ failure,
      applyWith tracing apply (.native function) arguments site machine =
        .error failure machine := by
  cases told : EvalM.announce tracing (fun _ => .native function arguments) machine with
  | ok _ begun => exact .inl ⟨begun, rfl, call_native_announced told⟩
  | error failure stopped =>
      obtain ⟨same, -⟩ := (ensures_announce tracing _ machine).of_error told
      rw [same] at told
      have traced : tracing = true := by
        cases tracing with
        | true => rfl
        | false => cases told
      exact .inr ⟨traced, failure, EvalM.bind_error told _⟩

end Announcing

/-- Reading a path finds the text that lies at its place, if no trace is written over it. -/
theorem read_file_at {again : Bool} {apply : Applier} {site : ScopeId} {machine : Machine}
    {path text : String} {place : List String} (sound : '\x00' ∉ path.toList)
    (reaches : machine.files.Reaches path place)
    (present : machine.files.node? place = some (.file (Text.encodeText text)))
    (still : again = false ∧ machine.CaughtUp ∨ machine.TracesElsewhere place) :
    ∃ last, applyWith again apply (.native .readFile) [.string path] site machine =
      .ok (.string (Text.withLineFeeds text)) last := by
  have told : ∃ begun, EvalM.announce again (fun _ => .native .readFile [.string path]) machine =
      .ok () begun := by
    cases again <;> exact ⟨_, rfl⟩
  obtain ⟨begun, told⟩ := told
  obtain ⟨files, trace⟩ := announced_files told
  have found : begun.settled.files.Reaches path place ∧
      begun.settled.files.node? place = some (.file (Text.encodeText text)) := by
    rcases still with ⟨rfl, caught⟩ | elsewhere
    · cases told
      rw [Machine.settled_of_caught_up caught]
      exact ⟨reaches, present⟩
    · have apart : begun.TracesElsewhere place := elsewhere.of_same files trace
      rw [← files] at reaches present
      exact ⟨apart.reaches_settled reaches, apart.node_settled.trans present⟩
  refine ⟨begun.settled, (call_native_announced told).trans (call_read_file ?_)⟩
  rw [FileSystem.read_text_of_reaches sound found.1 found.2, Text.unify_newlines_eq]
  rfl

/-- What was written to a path reads back from it with line feeds at the ends of its lines, and
lies there unchanged; all other files are what they were. Only a trace that is kept in the same
file could write over it between the two. -/
theorem written_text_reads_back {tracing : Bool} {apply : Applier} {pathValue value result : Value}
    {site : ScopeId} {machine after : Machine}
    (written : applyWith tracing apply (.native .writeFile) [pathValue, value] site machine =
      .ok result after) :
    ∃ path place text, pathValue = .string path ∧ value.Displays text ∧
      after.files.Reaches path place ∧
      after.files.node? place = some (.file (Text.encodeText text)) ∧
      (∀ other, other ≠ place → machine.TracesElsewhere other →
        after.files.node? other = machine.files.node? other) ∧
      (∀ again applier scope later, later.files = after.files →
        later.traceFile = after.traceFile →
        again = false ∧ later.events = after.events ∨ after.TracesElsewhere place →
        ∃ last, applyWith again applier (.native .readFile) [pathValue] scope later =
          .ok (.string (Text.withLineFeeds text)) last) ∧
      (Text.withLineFeeds text = text ↔ '\r' ∉ text.toList) := by
  rcases announced_or_unchanged tracing apply .writeFile [pathValue, value] site machine with
    ⟨begun, told, same⟩ | ⟨-, failure, failed⟩
  · obtain ⟨files, trace⟩ := announced_files told
    have ends := writing_ends apply [pathValue, value] site begun
    rw [← same, written] at ends
    cases ends with
    | @written path _ place text sound reaches file displays =>
        obtain ⟨arrives, present⟩ := reaches.put file (.file (Text.encodeText text))
        refine ⟨path, place, text, rfl, displays, arrives, present, ?_, ?_, ?_⟩
        · intro other apart elsewhere
          have kept := (elsewhere.of_same files trace).node_settled
          rw [FileSystem.node_put_other _ apart, kept, files]
        · intro again applier scope later sameFiles sameTrace still
          refine read_file_at sound (by rwa [sameFiles]) (by rwa [sameFiles]) ?_
          rcases still with ⟨untraced, sameEvents⟩ | elsewhere
          · exact .inl ⟨untraced, begun.caught_up_settled.of_same sameTrace sameEvents⟩
          · exact .inr (elsewhere.of_same sameFiles sameTrace)
        · exact Text.with_line_feeds_eq_self_iff text
  · rw [failed] at written
    cases written

theorem written_text_reads_back_two_lines :
    ∃ after last, applyWith true (applyWithin true 0) (.native .writeFile)
        [.string "a.txt", .string "x\r\ny"] 0 {} = .ok .nil after ∧
      applyWith true (applyWithin true 0) (.native .readFile) [.string "a.txt"] 0 after =
        .ok (.string "x\ny") last := by
  have written : ∃ after, applyWith true (applyWithin true 0) (.native .writeFile)
      [.string "a.txt", .string "x\r\ny"] 0 {} = .ok .nil after ∧ after.traceFile = none :=
    ⟨_, rfl, rfl⟩
  obtain ⟨after, written, untraced⟩ := written
  obtain ⟨path, place, text, -, displays, -, -, -, reads, -⟩ := written_text_reads_back written
  obtain ⟨last, read⟩ := reads true (applyWithin true 0) 0 after rfl rfl
    (.inr fun trace kept => by simp [untraced] at kept)
  have same : text = "x\r\ny" := by
    rcases displays with string | other
    · cases string
      rfl
    · exact absurd rfl (other.1 _)
  rw [same] at read
  exact ⟨after, last, written, read⟩

namespace Value

theorem displays_of_describe {value : Value} {shown : String}
    (described : value.describe = .ok shown) : ∃ text, value.Displays text := by
  by_cases string : ∃ content, value = .string content
  · obtain ⟨content, same⟩ := string
    exact ⟨content, .inl same⟩
  · exact ⟨shown, .inr ⟨not_exists.mp string, described⟩⟩

end Value

theorem displays_of_announced {function : Native} {path : String} {value : Value}
    {machine begun : Machine} (told : EvalM.announce true
      (fun _ => .native function [.string path, value]) machine = .ok () begun) :
    ∃ text, value.Displays text := by
  cases described : (Value.list [.string path, value]).describe with
  | ok text =>
      obtain ⟨shown, written⟩ := Value.describe_of_list described
        (List.mem_cons_of_mem _ (List.mem_singleton_self value))
      exact Value.displays_of_describe written
  | error reason =>
      have silent : (TraceStep.native function [.string path, value]).render = .error reason := by
        simp only [TraceStep.render, described, bind, Except.bind]
      have failed : EvalM.announce true (fun _ => .native function [.string path, value]) machine =
          .error (.host (.unwritable reason)) machine := by
        change (EvalM.ofText (TraceStep.native function [.string path, value]).render >>= _)
          machine = _
        rw [silent]
        rfl
      rw [failed] at told
      cases told

/-- The application opens the file at a place and has no text to write there. -/
def Machine.Empties (machine : Machine) (arguments : List Value) (place : List String) : Prop :=
  ∃ path value, arguments = [.string path, value] ∧ '\x00' ∉ path.toList ∧
    machine.settled.files.Reaches path place ∧
    machine.settled.files.node? place ≠ some .directory ∧ ∀ text, ¬ value.Displays text

theorem not_empties_of_announced {function : Native} {arguments : List Value}
    {machine begun : Machine}
    (told : EvalM.announce true (fun _ => .native function arguments) machine = .ok () begun)
    (place : List String) : ¬ begun.Empties arguments place := by
  rintro ⟨path, value, rfl, -, -, -, textless⟩
  obtain ⟨text, displays⟩ := displays_of_announced told
  exact textless text displays

theorem WritingEnds.node_of_error {site : ScopeId} {machine after : Machine}
    {arguments : List Value} {failure : Failure}
    (ends : WritingEnds site machine arguments (.error failure after)) (place : List String) :
    (machine.Empties arguments place → after.files.node? place = some (.file [])) ∧
    (¬ machine.Empties arguments place → machine.TracesElsewhere place →
      after.files.node? place = machine.files.node? place) := by
  cases ends with
  | refused unfit =>
      constructor
      · rintro ⟨path, value, fits, -⟩
        exact absurd fits (unfit path value)
      · intro _ _
        rfl
  | @unopened path value cause fault =>
      constructor
      · rintro ⟨_, _, fits, sound, reaches, file, -⟩
        cases fits
        rw [FileSystem.open_for_writing_eq_ok_iff.mpr ⟨sound, reaches, file, rfl⟩] at fault
        cases fault
      · intro _ elsewhere
        exact elsewhere.node_settled
  | @emptied path value opened cause sound reaches file textless =>
      constructor
      · rintro ⟨_, _, fits, -, leads, -⟩
        cases fits
        obtain rfl := leads.unique reaches
        exact (reaches.put file _).2
      · intro full elsewhere
        have apart : place ≠ opened := by
          rintro rfl
          exact full ⟨path, value, rfl, sound, reaches, file, textless⟩
        rw [FileSystem.node_put_other _ apart, elsewhere.node_settled]

/-- Writing that fails leaves an empty file exactly where it had opened one and found no text to
write, which tracing forestalls: there such a value fails to be announced. All other files are
what they were. -/
theorem failed_writing_empties_or_keeps {tracing : Bool} {apply : Applier}
    {arguments : List Value} {site : ScopeId} {machine after : Machine} {failure : Failure}
    (failed : applyWith tracing apply (.native .writeFile) arguments site machine =
      .error failure after) (place : List String) :
    (tracing = false ∧ machine.Empties arguments place →
      after.files.node? place = some (.file [])) ∧
    (¬ (tracing = false ∧ machine.Empties arguments place) → machine.TracesElsewhere place →
      after.files.node? place = machine.files.node? place) := by
  rcases announced_or_unchanged tracing apply .writeFile arguments site machine with
    ⟨begun, told, same⟩ | ⟨traced, early, unchanged⟩
  · have ends := writing_ends apply arguments site begun
    rw [← same, failed] at ends
    obtain ⟨empties, keeps⟩ := ends.node_of_error place
    cases tracing with
    | false =>
        cases told
        exact ⟨fun both => empties both.2,
          fun neither elsewhere => keeps (fun full => neither ⟨rfl, full⟩) elsewhere⟩
    | true =>
        -- The announcement described all arguments, so the value has a text.
        obtain ⟨files, trace⟩ := announced_files told
        refine ⟨fun both => absurd both.1 (by decide), fun _ elsewhere => ?_⟩
        rw [keeps (not_empties_of_announced told place) (elsewhere.of_same files trace), files]
  · rw [unchanged] at failed
    cases failed
    exact ⟨fun both => absurd (traced.symm.trans both.1) (by decide), fun _ _ => rfl⟩

def keptFile : FileSystem :=
  ⟨[(["kept.txt"], .file (Text.encodeText "kept"))]⟩

/-- A string without a text empties the file it is written to, and no other. -/
theorem failed_writing_empties_or_keeps_textless :
    ∃ failure after, applyWith false (applyWithin false 0) (.native .writeFile)
        [.string "other.txt", .unmatched] 0 { files := keptFile } = .error failure after ∧
      after.files.node? ["other.txt"] = some (.file []) ∧
      after.files.node? ["kept.txt"] = some (.file (Text.encodeText "kept")) := by
  have failed : ∃ failure after, applyWith false (applyWithin false 0) (.native .writeFile)
      [.string "other.txt", .unmatched] 0 { files := keptFile } = .error failure after :=
    ⟨_, _, rfl⟩
  obtain ⟨failure, after, failed⟩ := failed
  have textless : ∀ text, ¬ Value.unmatched.Displays text := by
    rintro text (string | described)
    · cases string
    · cases described.2
  have reaches : keptFile.Reaches "other.txt" ["other.txt"] :=
    ⟨⟨[], "other.txt", false⟩, rfl, rfl, [], rfl, rfl, by decide, rfl⟩
  have emptied := (failed_writing_empties_or_keeps failed ["other.txt"]).1
    ⟨rfl, "other.txt", .unmatched, rfl, by decide, reaches, by decide, textless⟩
  have kept := (failed_writing_empties_or_keeps failed ["kept.txt"]).2
  refine ⟨failure, after, failed, emptied, kept ?_ ?_⟩
  · rintro ⟨-, path, value, fits, -, also, -⟩
    cases fits
    exact absurd (reaches.unique also) (by decide)
  · intro trace none
    cases none

/-- Computes ten to the power of ten thousand and writes it over a file. -/
def overlongWriting : String :=
  "(define tenth [x] (* x x x x x x x x x x)) " ++
    "(write-file \"kept.txt\" (tenth (tenth (tenth (tenth 10)))))"

def nativeReason? : Except RunError Value → Option (Unwritable × ScopeId)
  | .error (.failed (.native (.unwritable reason) scope)) => some (reason, scope)
  | _ => none

/-- The number has too many digits to be written, and the file is empty all the same. -/
theorem overlong_writing_empties_file :
    ((Interpreter.start {} .output keptFile).run overlongWriting).1 =
        .error (.failed (.native (.unwritable .tooManyDigits) globalScope)) ∧
      keptFile.node? ["kept.txt"] = some (.file (Text.encodeText "kept")) ∧
      ((Interpreter.start {} .output keptFile).run overlongWriting).2.machine.files.node?
        ["kept.txt"] = some (.file []) := by
  have reason : nativeReason? ((Interpreter.start {} .output keptFile).run overlongWriting).1 =
      some (.tooManyDigits, globalScope) := by decide +kernel
  have failed : ((Interpreter.start {} .output keptFile).run overlongWriting).1 =
      .error (.failed (.native (.unwritable .tooManyDigits) globalScope)) := by
    unfold nativeReason? at reason
    split at reason
    next cause scope failed =>
      cases reason
      exact failed
    next => cases reason
  exact ⟨failed, by decide, by decide +kernel⟩

end Lisplet
