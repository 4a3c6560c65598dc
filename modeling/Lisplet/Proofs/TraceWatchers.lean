import Lisplet.Proofs.CallTree
import Mathlib.Data.List.DropRight

/-!
# Watchers of a trace agree

A buffer with a limit forgets, a stream does not. Both are compared with the list of the
messages that a watcher was sent, which only grows until someone clears it: the buffer
holds the newest part of that list, and the stream has written all of it, line by line.
Messages come from the runs of an interpreter and from outside, in any order.
-/

namespace Lisplet

def newest {Item : Type} (limit : Option Nat) (items : List Item) : List Item :=
  match limit with
  | none => items
  | some count => items.rtake count

section Newest

variable {Item Other : Type} (limit : Option Nat)

theorem length_rtake (items : List Item) (count : Nat) :
    (items.rtake count).length = min count items.length := by
  rw [List.rtake, List.length_drop]
  omega

theorem rtake_append (first second : List Item) (count : Nat) :
    (first ++ second).rtake count = first.rtake (count - second.length) ++ second.rtake count := by
  rw [List.rtake_eq_reverse_take_reverse, List.reverse_append, List.take_append,
    List.reverse_append, List.length_reverse, ← List.rtake_eq_reverse_take_reverse,
    ← List.rtake_eq_reverse_take_reverse]

theorem rtake_rtake (items : List Item) {fewer count : Nat} (fits : fewer ≤ count) :
    (items.rtake count).rtake fewer = items.rtake fewer := by
  rw [List.rtake, length_rtake, List.rtake, List.rtake, List.drop_drop]
  congr 1
  omega

@[simp]
theorem newest_nil : newest limit ([] : List Item) = [] := by
  cases limit with
  | none => rfl
  | some count => exact List.rtake_nil count

theorem newest_map (change : Item → Other) (items : List Item) :
    (newest limit items).map change = newest limit (items.map change) := by
  cases limit with
  | none => rfl
  | some count =>
      simp only [newest, List.rtake]
      rw [List.map_drop, List.length_map]

/-- What was forgotten before more came would be forgotten after it as well. -/
theorem newest_newest_append (first second : List Item) :
    newest limit (newest limit first ++ second) = newest limit (first ++ second) := by
  cases limit with
  | none => rfl
  | some count =>
      simp only [newest]
      rw [rtake_append, rtake_append, rtake_rtake first (Nat.sub_le _ _)]

theorem newest_append_newest (first second : List Item) :
    newest limit (first ++ newest limit second) = newest limit (first ++ second) := by
  cases limit with
  | none => rfl
  | some count =>
      have room : count - min count second.length = count - second.length := by omega
      simp only [newest]
      rw [rtake_append, rtake_append, rtake_rtake second le_rfl, length_rtake, room]

end Newest

/-- A text without the characters of a kind at both ends. -/
structure Trimmed (drops : Char → Bool) (text trimmed : String) : Prop where
  cut : ∃ before after : String, text = before ++ trimmed ++ after ∧
    (∀ character ∈ before.toList, drops character = true) ∧
    ∀ character ∈ after.toList, drops character = true
  first : ∀ character ∈ trimmed.toList.head?, drops character = false
  last : ∀ character ∈ trimmed.toList.getLast?, drops character = false

theorem trim_where_trimmed (drops : Char → Bool) (text : String) :
    Trimmed drops text (Text.trimWhere drops text) := by
  let rest := text.toList.dropWhile drops
  have kept : (Text.trimWhere drops text).toList = rest.rdropWhile drops := String.toList_ofList
  refine ⟨⟨String.ofList (text.toList.takeWhile drops), String.ofList (rest.rtakeWhile drops),
    ?_, ?_, ?_⟩, ?_, ?_⟩
  · apply String.toList_injective
    rw [String.toList_append, String.toList_append, String.toList_ofList, String.toList_ofList, kept,
      List.append_assoc, List.rdropWhile_append_rtakeWhile, List.takeWhile_append_dropWhile]
  · rw [String.toList_ofList]
    exact fun character member => List.mem_takeWhile_imp member
  · rw [String.toList_ofList]
    exact fun character member => List.mem_rtakeWhile_imp member
  · -- What is dropped behind leaves the first character that was not dropped before.
    rw [kept]
    intro character first
    obtain ⟨dropped, split⟩ := rest.rdropWhile_prefix drops
    have heads : rest.head? = some character := by
      rw [← split]
      exact List.mem_head?_append_of_mem_head? first
    have solid := text.toList.head?_dropWhile_not drops
    rwa [heads] at solid
  · rw [kept]
    intro character last
    obtain ⟨some, rfl⟩ := List.mem_getLast?_eq_getLast last
    exact Bool.eq_false_iff.mpr (rest.rdropWhile_last_not drops some)

/-- A step is told by a message: one mark may stand before it, and blanks around it. -/
def Tells (message step : String) : Prop :=
  ∃ body : String,
    (message = traceMark ++ body ∨ ¬traceMark.toList <+: message.toList ∧ message = body) ∧
      Trimmed Text.isBlank body step

theorem tells_step_text (message : String) : Tells message (TraceBuffer.stepText message) := by
  by_cases marked : traceMark.toList <+: message.toList
  · let body := String.ofList (message.toList.drop traceMark.toList.length)
    have whole : message = traceMark ++ body := by
      apply String.toList_injective
      rw [String.toList_append, String.toList_ofList]
      exact (List.prefix_iff_eq_append.mp marked).symm
    refine ⟨body, .inl whole, ?_⟩
    unfold TraceBuffer.stepText
    rw [if_pos (List.isPrefixOf_iff_prefix.mpr marked)]
    exact trim_where_trimmed Text.isBlank body
  · refine ⟨message, .inr ⟨marked, rfl⟩, ?_⟩
    unfold TraceBuffer.stepText
    rw [if_neg fun found => marked (List.isPrefixOf_iff_prefix.mp found)]
    exact trim_where_trimmed Text.isBlank message

/-- What can be asked of a watcher that keeps messages. -/
inductive WatcherCall where
  | message (text : String)
  | clear
  deriving DecidableEq

def WatcherCall.text? : WatcherCall → Option String
  | .message text => some text
  | .clear => none

theorem texts_of_messages (texts : List String) :
    (texts.map .message).filterMap WatcherCall.text? = texts := by
  rw [List.filterMap_map]
  exact List.filterMap_some

/-- The messages that were sent since the latest clearing. -/
def sinceClear (calls : List WatcherCall) : List String :=
  (calls.rtakeWhile (· ≠ .clear)).filterMap WatcherCall.text?

section SinceClear

variable (calls : List WatcherCall)

theorem since_clear_message (text : String) :
    sinceClear (calls ++ [.message text]) = sinceClear calls ++ [text] := by
  unfold sinceClear
  rw [List.rtakeWhile_concat_pos _ _ _ (by simp), List.filterMap_append]
  rfl

theorem since_clear_clear : sinceClear (calls ++ [.clear]) = [] := by
  unfold sinceClear
  rw [List.rtakeWhile_concat_neg _ _ _ (by decide), List.filterMap_nil]

theorem since_clear_messages (texts : List String) :
    sinceClear (calls ++ texts.map .message) = sinceClear calls ++ texts := by
  induction texts generalizing calls with
  | nil => rw [List.map_nil, List.append_nil, List.append_nil]
  | cons text texts ih =>
      rw [List.map_cons, List.append_cons, ih, since_clear_message, ← List.append_cons]

theorem since_clear_of_unclear {calls : List WatcherCall} (unclear : .clear ∉ calls) :
    sinceClear calls = calls.filterMap WatcherCall.text? := by
  unfold sinceClear
  rw [List.rtakeWhile_eq_self_iff.mpr fun call member => ?_]
  exact decide_eq_true fun same => unclear (same ▸ member)

end SinceClear

namespace TraceBuffer

/-- A buffer holds the newest of the messages that it received. -/
structure Holds (limit : Option Nat) (received : List String) (buffer : TraceBuffer) : Prop where
  limited : buffer.limit = limit
  traces_eq : buffer.traces = newest limit received

def receive (buffer : TraceBuffer) : WatcherCall → TraceBuffer
  | .message text => buffer.record text
  | .clear => buffer.clear

def receiveAll (buffer : TraceBuffer) (calls : List WatcherCall) : TraceBuffer :=
  calls.foldl receive buffer

theorem record_limit (buffer : TraceBuffer) (text : String) :
    (buffer.record text).limit = buffer.limit := by
  unfold record
  cases buffer.limit with
  | none => rfl
  | some count =>
      dsimp only
      split <;> rfl

theorem record_traces (buffer : TraceBuffer) (text : String) :
    (buffer.record text).traces = newest buffer.limit (buffer.traces ++ [text]) := by
  have pushed : (buffer.messages.push text).toList = buffer.traces ++ [text] := Array.toList_push
  unfold record
  cases limited : buffer.limit with
  | none => exact pushed
  | some count =>
      rw [← pushed]
      dsimp only [newest, List.rtake]
      rw [Array.length_toList]
      split
      · change (Array.extract _ _ _).toList = _
        rw [Array.toList_extract, List.extract_eq_take_drop, List.take_of_length_le]
        rw [List.length_drop, Array.length_toList]
      · next room =>
        rw [Nat.sub_eq_zero_of_le (Nat.le_of_not_lt room), List.drop_zero]
        rfl

namespace Holds

variable {limit : Option Nat} {received : List String} {buffer : TraceBuffer}

theorem fresh : Holds limit (sinceClear []) { limit } :=
  ⟨rfl, (newest_nil limit).symm⟩

theorem record (holds : buffer.Holds limit received) (text : String) :
    (buffer.record text).Holds limit (received ++ [text]) := by
  refine ⟨(buffer.record_limit text).trans holds.limited, ?_⟩
  rw [record_traces, holds.limited, holds.traces_eq, newest_newest_append]

variable {before : List WatcherCall}

theorem receive (holds : buffer.Holds limit (sinceClear before)) (call : WatcherCall) :
    (buffer.receive call).Holds limit (sinceClear (before ++ [call])) := by
  cases call with
  | message text =>
      rw [since_clear_message]
      exact holds.record text
  | clear =>
      rw [since_clear_clear]
      exact ⟨holds.limited, (newest_nil limit).symm⟩

theorem receive_all (holds : buffer.Holds limit (sinceClear before)) (calls : List WatcherCall) :
    (buffer.receiveAll calls).Holds limit (sinceClear (before ++ calls)) := by
  induction calls generalizing buffer before with
  | nil =>
      rw [List.append_nil]
      exact holds
  | cons call calls ih =>
      rw [List.append_cons]
      exact ih (holds.receive call)

/-- Entries that a buffer passes over, for they would have to go again, leave it as if it
had taken them. -/
theorem record_all (holds : buffer.Holds limit (sinceClear before)) (entries : List TraceEntry) :
    (buffer.recordAll entries).Holds limit
      (sinceClear (before ++ (entries.map TraceEntry.message).map .message)) := by
  have recent : buffer.recent entries = newest limit entries := by
    unfold recent
    rw [holds.limited]
    rfl
  have taken := holds.receive_all (((newest limit entries).map TraceEntry.message).map .message)
  have same : buffer.recordAll entries =
      buffer.receiveAll (((newest limit entries).map TraceEntry.message).map .message) := by
    unfold recordAll receiveAll
    rw [recent, List.foldl_map, List.foldl_map]
    rfl
  rw [same]
  refine ⟨taken.limited, ?_⟩
  rw [taken.traces_eq, since_clear_messages, since_clear_messages, newest_map,
    newest_append_newest]

end Holds

theorem steps_told (buffer : TraceBuffer) : List.Forall₂ Tells buffer.traces buffer.steps := by
  unfold steps
  rw [List.forall₂_map_right_iff, List.forall₂_same]
  exact fun message _ => tells_step_text message

theorem of_limit_ok_iff {limit : Int} {buffer : TraceBuffer} :
    ofLimit limit = .ok buffer ↔
      0 ≤ limit ∧ limit < limitBound ∧ buffer = { limit := some limit.toNat } := by
  have positive : 0 < limitBound := by decide
  unfold ofLimit
  simp only [Bool.or_eq_true, decide_eq_true_eq]
  split_ifs with outside negative
  · refine iff_of_false not_false ?_
    rintro ⟨natural, bounded, -⟩
    omega
  · refine iff_of_false not_false ?_
    rintro ⟨natural, -, -⟩
    omega
  · rw [Except.ok.injEq, eq_comm]
    exact ⟨fun made => ⟨by omega, by omega, made⟩, fun made => made.2.2⟩

theorem made_iff {buffer : TraceBuffer} :
    (∃ setting, ofSetting setting = .ok buffer) ↔
      buffer = { limit := buffer.limit } ∧ ∀ count ∈ buffer.limit, (count : Int) < limitBound := by
  constructor
  · rintro ⟨setting, made⟩
    have within {limit : Int} (made : ofLimit limit = .ok buffer) :
        buffer = { limit := buffer.limit } ∧
          ∀ count ∈ buffer.limit, (count : Int) < limitBound := by
      obtain ⟨natural, bounded, rfl⟩ := of_limit_ok_iff.mp made
      refine ⟨rfl, fun count same => ?_⟩
      cases same
      rwa [Int.toNat_of_nonneg natural]
    cases setting with
    | null =>
        cases made
        exact ⟨rfl, fun count none => by cases none⟩
    | boolean | integer => exact within made
    | _ => cases made
  · rintro ⟨empty, bounded⟩
    rw [empty]
    cases limit : buffer.limit with
    | none => exact ⟨.null, rfl⟩
    | some count =>
        exact ⟨.integer count,
          of_limit_ok_iff.mpr ⟨Int.natCast_nonneg count, bounded count limit, rfl⟩⟩

end TraceBuffer

/-- Where a stream of messages is written: on a page of its own, or to standard output. -/
inductive Outlet where
  | page
  | output

namespace Outlet

def watcher : Outlet → Watcher
  | .page => .stream
  | .output => .output

def text : Outlet → Transcript → String
  | .page, transcript => transcript.stream
  | .output, transcript => transcript.output

end Outlet

/-- What happens in a session that is watched: somebody calls the watcher, or a program is
run. -/
inductive Occasion where
  | call (call : WatcherCall)
  | run (source : String)
  deriving DecidableEq

def Watcher.held : Watcher → TraceBuffer
  | .buffer kept => kept
  | _ => {}

namespace Interpreter

def watchedBy (interpreter : Interpreter) (watcher : Watcher) : Interpreter :=
  { interpreter with watcher }

/-- All calls that the watcher of a session gets. Each run sends its messages one after
the other. -/
def calls (interpreter : Interpreter) : List Occasion → List WatcherCall
  | [] => []
  | .call call :: rest => call :: interpreter.calls rest
  | .run source :: rest =>
      let turn := interpreter.turn source
      (turn.messages.map TraceEntry.message).map .message ++ turn.after.calls rest

def buffered (interpreter : Interpreter) (buffer : TraceBuffer) : List Occasion → TraceBuffer
  | [] => buffer
  | .call call :: rest => interpreter.buffered (buffer.receive call) rest
  | .run source :: rest =>
      let after := ((interpreter.watchedBy (.buffer buffer)).turn source).after
      after.buffered after.watcher.held rest

def streamed (interpreter : Interpreter) (outlet : Outlet) : List Occasion → String
  | [] => ""
  | .call (.message text) :: rest => streamLine text ++ interpreter.streamed outlet rest
  | .call .clear :: rest => interpreter.streamed outlet rest
  | .run source :: rest =>
      let turn := (interpreter.watchedBy outlet.watcher).turn source
      outlet.text turn.transcript ++ turn.after.streamed outlet rest

section Watched

variable (interpreter : Interpreter) (watcher : Watcher)

theorem run_watched_by (source : String) :
    ((interpreter.watchedBy watcher).run source).2 =
      (interpreter.run source).2.watchedBy watcher := by
  cases parsed : parseSource source with
  | error error => rw [run_of_unread _ parsed, run_of_unread _ parsed]
  | ok program =>
      rw [run_of_parsed _ parsed, run_of_parsed _ parsed]
      unfold evaluate perform applier watchedBy
      dsimp only
      split <;> rfl

theorem turn_events_watched_by (source : String) :
    ((interpreter.watchedBy watcher).turn source).events = (interpreter.turn source).events :=
  congrArg (fun ran => ran.machine.events) (interpreter.run_watched_by watcher source)

theorem turn_after_watched_by (source : String) :
    ((interpreter.watchedBy watcher).turn source).after =
      (interpreter.turn source).after.watchedBy (watch (interpreter.turn source).events watcher) :=
  congrArg (fun ran => ran.deliver.2) (interpreter.run_watched_by watcher source)

theorem turn_display (source : String) :
    (interpreter.turn source).after.displayOnOutput = interpreter.displayOnOutput := by
  change (interpreter.run source).2.displayOnOutput = _
  rw [interpreter.run_keeps source]

theorem turn_transcript_watched_by (source : String) :
    ((interpreter.watchedBy watcher).turn source).transcript =
      (interpreter.turn source).events.foldl (write interpreter.displayOnOutput watcher) {} := by
  have written := congrArg (fun ran => ran.deliver.1) (interpreter.run_watched_by watcher source)
  have display := interpreter.turn_display source
  rw [← display]
  exact written

theorem calls_watched_by (occasions : List Occasion) :
    (interpreter.watchedBy watcher).calls occasions = interpreter.calls occasions := by
  induction occasions generalizing interpreter watcher with
  | nil => rfl
  | cons occasion rest ih =>
      cases occasion with
      | call call => exact congrArg (call :: ·) (ih interpreter watcher)
      | run source =>
          unfold calls Turn.messages
          dsimp only
          rw [turn_events_watched_by, turn_after_watched_by, ih]

theorem turn_calls_watched_by (source : String) (occasions : List Occasion) :
    ((interpreter.watchedBy watcher).turn source).after.calls occasions =
      (interpreter.turn source).after.calls occasions := by
  rw [turn_after_watched_by, calls_watched_by]

theorem clear_mem_calls {occasions : List Occasion} :
    .clear ∈ interpreter.calls occasions ↔ .call .clear ∈ occasions := by
  induction occasions generalizing interpreter with
  | nil => simp [calls]
  | cons occasion rest ih =>
      cases occasion with
      | call call => simp [calls, ih]
      | run source => simp [calls, ih]

end Watched

/-- Whatever happens in a session, its buffer holds the newest of the messages since the
latest clearing. -/
theorem buffered_holds (interpreter : Interpreter) {buffer : TraceBuffer} {limit : Option Nat}
    {before : List WatcherCall} (holds : buffer.Holds limit (sinceClear before))
    (occasions : List Occasion) :
    (interpreter.buffered buffer occasions).Holds limit
      (sinceClear (before ++ interpreter.calls occasions)) := by
  -- The calls before are carried along: they count until the next clearing.
  induction occasions generalizing interpreter buffer before with
  | nil =>
      unfold calls
      rw [List.append_nil]
      exact holds
  | cons occasion rest ih =>
      cases occasion with
      | call call =>
          unfold calls
          rw [List.append_cons]
          exact ih interpreter (holds.receive call)
      | run source =>
          have taken := holds.record_all (interpreter.turn source).messages
          unfold buffered calls
          dsimp only
          -- The rest of the session goes on from the interpreter that the buffer watches.
          rw [← List.append_assoc, ← turn_calls_watched_by _ (.buffer buffer)]
          apply ih
          rw [turn_after_watched_by]
          exact taken

end Interpreter

section Streams

variable {outlet : Outlet} {onOutput : Bool}

theorem text_write_display (apart : outlet = .output → onOutput = false) (transcript : Transcript)
    (text : String) :
    outlet.text (Interpreter.write onOutput outlet.watcher transcript (.display text)) =
      outlet.text transcript := by
  cases outlet with
  | page => cases onOutput <;> rfl
  | output =>
      rw [apart rfl]
      rfl

theorem text_write_trace (transcript : Transcript) (entry : TraceEntry) :
    outlet.text (Interpreter.write onOutput outlet.watcher transcript (.trace entry)) =
      outlet.text transcript ++ streamLine entry.message := by
  cases outlet <;> rfl

theorem text_fold (apart : outlet = .output → onOutput = false) (events : List Event)
    (transcript : Transcript) :
    outlet.text (events.foldl (Interpreter.write onOutput outlet.watcher) transcript) =
      outlet.text transcript ++ String.join
        ((events.filterMap Interpreter.traceEntry?).map fun entry => streamLine entry.message) := by
  induction events generalizing transcript with
  | nil => exact String.append_empty.symm
  | cons event events ih =>
      rw [List.foldl_cons, ih]
      cases event with
      | display text => rw [text_write_display apart, List.filterMap_cons_none rfl]
      | trace entry =>
          rw [text_write_trace, List.filterMap_cons, String.append_assoc, ← String.join_cons]
          rfl

theorem apart_iff {interpreter : Interpreter} :
    (interpreter.watchedBy outlet.watcher).Apart ↔
      (outlet = .output → interpreter.displayOnOutput = false) := by
  cases outlet with
  | page => exact iff_of_true trivial Outlet.noConfusion
  | output => exact ⟨fun apart _ => apart, fun apart => apart rfl⟩

theorem turn_text {interpreter : Interpreter}
    (apart : outlet = .output → interpreter.displayOnOutput = false) (source : String) :
    outlet.text ((interpreter.watchedBy outlet.watcher).turn source).transcript =
      String.join (((interpreter.turn source).messages.map TraceEntry.message).map streamLine) := by
  have blank : outlet.text {} = "" := by cases outlet <;> rfl
  rw [Interpreter.turn_transcript_watched_by, ← Array.foldl_toList, text_fold apart, blank,
    String.empty_append, List.map_map]
  rfl

/-- A stream writes every message of a session on a line. -/
theorem streamed_eq {interpreter : Interpreter}
    (apart : outlet = .output → interpreter.displayOnOutput = false) (occasions : List Occasion) :
    interpreter.streamed outlet occasions =
      String.join (((interpreter.calls occasions).filterMap WatcherCall.text?).map streamLine) := by
  induction occasions generalizing interpreter with
  | nil => rfl
  | cons occasion rest ih =>
      match occasion with
      | .call (.message text) =>
          unfold Interpreter.streamed Interpreter.calls
          rw [ih apart, List.filterMap_cons, ← String.join_cons]
          rfl
      | .call .clear =>
          unfold Interpreter.streamed Interpreter.calls
          rw [ih apart, List.filterMap_cons_none rfl]
      | .run source =>
          have next : outlet = .output → ((interpreter.watchedBy outlet.watcher).turn
              source).after.displayOnOutput = false := fun same =>
            (Interpreter.turn_display _ source).trans (apart same)
          unfold Interpreter.streamed Interpreter.calls
          dsimp only
          rw [turn_text apart, ih next, Interpreter.turn_calls_watched_by, List.filterMap_append,
            texts_of_messages, List.map_append, String.join_append]

end Streams

/-- The watchers of a trace agree. Every buffer that can be made begins empty. Whatever it
is then called with, and whatever is run meanwhile, it holds the newest of the messages
since the latest clearing, as many as its limit allows, and tells their steps. A stream
that watches a session writes the messages that a buffer without a limit holds then, each
on a line, as long as nobody clears the buffer; so a buffer with a limit holds the newest
of them. -/
theorem watchers_agree :
    (∀ buffer, (∃ setting, TraceBuffer.ofSetting setting = .ok buffer) ↔
      buffer = { limit := buffer.limit } ∧
        ∀ count ∈ buffer.limit, (count : Int) < TraceBuffer.limitBound) ∧
    (∀ limit calls,
      let buffer := TraceBuffer.receiveAll { limit } calls
      buffer.traces = newest limit (sinceClear calls) ∧
        List.Forall₂ Tells buffer.traces buffer.steps) ∧
    ∀ (interpreter : Interpreter) limit occasions,
      let buffer := interpreter.buffered { limit } occasions
      buffer.traces = newest limit (sinceClear (interpreter.calls occasions)) ∧
        List.Forall₂ Tells buffer.traces buffer.steps ∧
        (.call .clear ∉ occasions →
          let whole := interpreter.buffered {} occasions
          (∀ outlet : Outlet, (interpreter.watchedBy outlet.watcher).Apart →
            interpreter.streamed outlet occasions = String.join (whole.traces.map streamLine)) ∧
          buffer.traces = newest limit whole.traces) := by
  refine ⟨fun buffer => TraceBuffer.made_iff, fun limit calls => ?_,
    fun interpreter limit occasions => ?_⟩
  · have holds : (TraceBuffer.receiveAll { limit } calls).Holds limit (sinceClear calls) :=
      TraceBuffer.Holds.fresh.receive_all calls
    exact ⟨holds.traces_eq, TraceBuffer.steps_told _⟩
  · have holds (limit : Option Nat) : (interpreter.buffered { limit } occasions).Holds limit
        (sinceClear (interpreter.calls occasions)) :=
      interpreter.buffered_holds .fresh occasions
    refine ⟨(holds limit).traces_eq, TraceBuffer.steps_told _, fun unclear => ?_⟩
    have whole : (interpreter.buffered {} occasions).traces =
        sinceClear (interpreter.calls occasions) := (holds none).traces_eq
    have kept : WatcherCall.clear ∉ interpreter.calls occasions := fun cleared =>
      unclear (interpreter.clear_mem_calls.mp cleared)
    refine ⟨fun outlet apart => ?_, ?_⟩
    · rw [whole, since_clear_of_unclear kept]
      exact streamed_eq (apart_iff.mp apart) occasions
    · rw [whole]
      exact (holds limit).traces_eq

/-- A message from outside, a run that fails, and one after it. -/
theorem watchers_agree_through_failure :
    let interpreter := Interpreter.start { traceExecution := true } .output {}
    let occasions := [.call (.message " said "), .run "1", .run "x", .run "2"]
    .call .clear ∉ occasions ∧ (interpreter.watchedBy Outlet.output.watcher).Apart ∧
      interpreter.streamed .output occasions =
        " said \n[TRACE] 1 in <global>\n[TRACE] x in <global>\n" ++
          "[TRACE] loading binding x\n[TRACE] 2 in <global>\n" ∧
      (interpreter.buffered { limit := some 3 } occasions).traces =
        ["[TRACE] x in <global>", "[TRACE] loading binding x", "[TRACE] 2 in <global>"] := by
  intro interpreter occasions
  have unclear : .call .clear ∉ occasions := by decide
  have apart : (interpreter.watchedBy Outlet.output.watcher).Apart := rfl
  have whole : (interpreter.buffered {} occasions).traces =
      [" said ", "[TRACE] 1 in <global>", "[TRACE] x in <global>", "[TRACE] loading binding x",
        "[TRACE] 2 in <global>"] := by decide +kernel
  obtain ⟨-, -, agree⟩ := watchers_agree.2.2 interpreter (some 3) occasions
  obtain ⟨streams, limited⟩ := agree unclear
  refine ⟨unclear, apart, (streams .output apart).trans ?_, limited.trans ?_⟩
  · rw [whole]
    decide +kernel
  · rw [whole]
    rfl

end Lisplet
