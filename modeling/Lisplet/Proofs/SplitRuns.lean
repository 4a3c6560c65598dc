import Lisplet.Proofs.JoinedSource
import Lisplet.Proofs.LikeNatives
import Lisplet.Proofs.Runs

/-!
# Splitting a program over several runs

Evaluation never looks at source locations: moving all of them, in the program and in
the machine, moves those in the outcome and changes nothing else. A source that is run
in two parts therefore does what it does as a whole, but for the lines that its second
part remembers.
-/

namespace Lisplet

/-- Two evaluations of one program, the locations moved in the second. -/
def ScopeLikeness.moved (move : Location → Location) : ScopeLikeness where
  move := move
  near := fun _ => True
  scopes := fun first second => second = first.relocate move
  size_eq := by
    rintro first _ rfl
    exact first.size_relocate move
  location_eq := by
    rintro first _ rfl scope
    exact first.location_relocate move scope
  lookup_eq := by
    rintro first _ scope rfl - name
    exact first.lookup_relocate move scope name
  lookup_near := fun _ _ _ _ _ => trivial
  define := by
    rintro first _ scope value rfl - - name
    exact first.define_relocate move scope name value
  make := by
    rintro first _ parent added rfl - - location
    exact first.make_relocate move (some parent) location added
  made_near := fun _ => trivial

def relocateEnding (move : Location → Location) :
    EStateM.Result Failure Machine Value → EStateM.Result Failure Machine Value
  | .ok value machine => .ok (value.relocate move) (machine.relocate move)
  | .error failure machine => .error (failure.relocate move) (machine.relocate move)

section Moved

variable {tracing : Bool} {move : Location → Location}

theorem machines_moved (machine : Machine) :
    ((ScopeLikeness.moved move).faithful tracing).Machines machine (machine.relocate move) :=
  ⟨rfl, rfl, rfl, rfl, fun _ => trivial, rfl, rfl, rfl, rfl⟩

theorem moved_machine {first second : Machine}
    (alike : ((ScopeLikeness.moved move).faithful tracing).Machines first second) :
    second = first.relocate move := by
  have scopes : second.scopes = first.scopes.relocate move := alike.scopes
  have shown : second.events = first.events.map (Event.relocate move) := alike.shown
  rw [alike.eq, scopes, shown]
  rfl

theorem eval_sequence_relocate (tracing : Bool) (move : Location → Location) (limit : Nat)
    (scope : ScopeId) (program : List Expr) (machine : Machine) :
    evalSequence tracing (applyWithin tracing limit) scope .nil
        (Expr.relocateAll move program) (machine.relocate move) =
      relocateEnding move
        (evalSequence tracing (applyWithin tracing limit) scope .nil program machine) := by
  have near : ((ScopeLikeness.moved move).faithful tracing).near scope := trivial
  have ends := Likeness.program_alike limit near program _ _ (machines_moved machine)
  change ((ScopeLikeness.moved move).faithful tracing).Ends _
    (evalSequence tracing (applyWithin tracing limit) scope .nil program machine)
    (evalSequence tracing (applyWithin tracing limit) scope .nil
      (Expr.relocateAll move program) (machine.relocate move)) at ends
  generalize evalSequence tracing _ scope .nil program machine = outcome at ends ⊢
  generalize evalSequence tracing _ scope .nil _ (machine.relocate move) = echoed at ends ⊢
  cases ends with
  | done same machines =>
      rw [same.moved, moved_machine machines]
      rfl
  | failed machines =>
      rw [moved_machine machines]
      rfl
  | lost gone => exact gone.elim

end Moved

def RunError.relocate (move : Location → Location) : RunError → RunError
  | .failed failure => .failed (failure.relocate move)
  | error => error

def Interpreter.relocate (move : Location → Location) (interpreter : Interpreter) : Interpreter :=
  { interpreter with machine := interpreter.machine.relocate move }

def relocateRun (move : Location → Location) (run : Except RunError Value × Interpreter) :
    Except RunError Value × Interpreter :=
  (match run.1 with
    | .ok value => .ok (value.relocate move)
    | .error error => .error (error.relocate move),
   run.2.relocate move)

theorem Failure.counted_relocate (move : Location → Location) (options : Options)
    (failure : Failure) :
    (failure.relocate move).counted options = (failure.counted options).relocate move := by
  cases failure with
  | native cause scope =>
      change counted options (.native cause scope) = _
      unfold counted
      split_ifs <;> rfl
  | arityMismatch | unbound | host => rfl

theorem Interpreter.evaluate_relocate (move : Location → Location) (interpreter : Interpreter)
    (scope : ScopeId) (program : List Expr) :
    (interpreter.relocate move).evaluate scope (Expr.relocateAll move program) =
      relocateRun move (interpreter.evaluate scope program) := by
  have ends := eval_sequence_relocate interpreter.options.traceExecution move recursionLimit
    scope program interpreter.machine
  have options : (interpreter.relocate move).options = interpreter.options := rfl
  have machine : (interpreter.relocate move).machine = interpreter.machine.relocate move := rfl
  unfold evaluate applier perform
  rw [options, machine, ends]
  generalize evalSequence interpreter.options.traceExecution _ scope .nil program
    interpreter.machine = outcome
  cases outcome with
  | ok value machine => rfl
  | error failure machine =>
      dsimp only [relocateEnding]
      rw [Failure.counted_relocate]
      rfl

section Sequences

variable {tracing : Bool} {apply : Applier} {scope : ScopeId}

theorem eval_sequence_append (result : Value) (program more : List Expr) :
    evalSequence tracing apply scope result (program ++ more) =
      evalSequence tracing apply scope result program >>= fun value =>
        evalSequence tracing apply scope value more := by
  induction program generalizing result with
  | nil => rw [List.nil_append, evalSequence, pure_bind]
  | cons expression program ih =>
      rw [List.cons_append, evalSequence, evalSequence, bind_assoc]
      refine congrArg _ (funext fun value => ?_)
      exact ih value

theorem eval_sequence_fresh {program : List Expr} (nonempty : program ≠ []) (result : Value) :
    evalSequence tracing apply scope result program =
      evalSequence tracing apply scope .nil program := by
  cases program with
  | nil => exact absurd rfl nonempty
  | cons expression program => rfl

end Sequences

/-- A program in two parts goes on with the second once the first has come to a value. -/
theorem Interpreter.evaluate_append (interpreter : Interpreter) (scope : ScopeId)
    (program : List Expr) {more : List Expr} (nonempty : more ≠ []) :
    interpreter.evaluate scope (program ++ more) =
      match interpreter.evaluate scope program with
      | (.ok _, next) => next.evaluate scope more
      | (.error error, next) => (.error error, next) := by
  unfold evaluate applier perform
  rw [eval_sequence_append, EvalM.bind_run]
  generalize evalSequence interpreter.options.traceExecution _ scope .nil program
    interpreter.machine = outcome
  cases outcome with
  | ok value machine =>
      dsimp only
      rw [eval_sequence_fresh nonempty value]
  | error failure machine => rfl

def Location.unlined (location : Location) : Location :=
  { location with line := 0 }

theorem unlined_lowered (lines : Nat) (program : List Expr) :
    Expr.relocateAll Location.unlined (Expr.relocateAll (Location.lowered lines) program) =
      Expr.relocateAll Location.unlined program := by
  rw [Expr.relocate_all_relocate_all]
  rfl

/-- Runs that came to the same, up to the lines of locations. -/
def SameButLines (first second : Except RunError Value × Interpreter) : Prop :=
  relocateRun Location.unlined first = relocateRun Location.unlined second

/-- What can be seen of a run from outside. -/
structure Sight where
  /-- The text of its value, if it has come to one that has a text. -/
  value : Option String
  /-- The report of its failure, and the stack trace in it. -/
  report : Option String
  stackTrace : List String
  transcript : Transcript
  watcher : Watcher
  files : FileSystem
  /-- The files once the trace is closed. -/
  closedFiles : FileSystem

def RunError.stackTrace (scopes : Scopes) : RunError → List String
  | .failed failure => failure.stackTrace scopes
  | _ => []

def sight (run : Except RunError Value × Interpreter) : Sight where
  value := run.1.toOption.bind fun value => value.describe.toOption
  report :=
    match run.1 with
    | .ok _ => none
    | .error error => some (error.text run.2.options run.2.machine.scopes)
  stackTrace :=
    match run.1 with
    | .ok _ => []
    | .error error => error.stackTrace run.2.machine.scopes
  transcript := run.2.deliver.1
  watcher := run.2.deliver.2.watcher
  files := run.2.machine.files
  closedFiles := run.2.machine.closedFiles

section Sights

variable (move : Location → Location)

theorem failure_stack_trace_relocate (failure : Failure) (scopes : Scopes) :
    (failure.relocate move).stackTrace (scopes.relocate move) = failure.stackTrace scopes := by
  cases failure with
  | host => rfl
  | arityMismatch | unbound | native => exact scopes.stack_trace_relocate move _

theorem report_relocate (failure : Failure) (options : Options) (scopes : Scopes) :
    (failure.relocate move).report options (scopes.relocate move) =
      failure.report options scopes := by
  have traced := failure_stack_trace_relocate move failure scopes
  cases failure with
  | host => rfl
  | arityMismatch =>
      unfold Failure.report
      dsimp only [Failure.relocate] at traced ⊢
      rw [traced]
      rfl
  | unbound | native =>
      unfold Failure.report
      dsimp only [Failure.relocate] at traced ⊢
      rw [traced]

theorem write_relocate (onOutput : Bool) (watcher : Watcher) (transcript : Transcript)
    (event : Event) :
    Interpreter.write onOutput watcher transcript (event.relocate move) =
      Interpreter.write onOutput watcher transcript event := by
  cases event with
  | display => rfl
  | trace => cases watcher <;> rfl

theorem record_all_relocate (buffer : TraceBuffer) (entries : List TraceEntry) :
    buffer.recordAll (entries.map (TraceEntry.relocate move)) = buffer.recordAll entries := by
  have recent : buffer.recent (entries.map (TraceEntry.relocate move)) =
      (buffer.recent entries).map (TraceEntry.relocate move) := by
    unfold TraceBuffer.recent
    cases buffer.limit with
    | none => rfl
    | some limit =>
        dsimp only
        rw [List.length_map, List.map_drop]
  unfold TraceBuffer.recordAll
  rw [recent, List.foldl_map]
  rfl

theorem watch_relocate (events : Array Event) (watcher : Watcher) :
    Interpreter.watch (events.map (Event.relocate move)) watcher =
      Interpreter.watch events watcher := by
  cases watcher with
  | output | stream | file => rfl
  | buffer buffer =>
      have entries : (events.map (Event.relocate move)).toList.filterMap Interpreter.traceEntry? =
          (events.toList.filterMap Interpreter.traceEntry?).map (TraceEntry.relocate move) := by
        rw [Array.toList_map, List.filterMap_map, List.map_filterMap]
        refine List.filterMap_congr fun event _ => ?_
        cases event <;> rfl
      unfold Interpreter.watch
      dsimp only
      rw [entries, record_all_relocate]

theorem closed_files_relocate (machine : Machine) :
    (machine.relocate move).closedFiles = machine.closedFiles := by
  obtain ⟨scopes, files, traceFile, events, depth, sites, serial, notes⟩ := machine
  cases traceFile with
  | none => rfl
  | some file =>
      unfold Machine.closedFiles Machine.relocate
      dsimp only
      rw [TraceFile.catch_up_relocate]

theorem sight_relocate (run : Except RunError Value × Interpreter) :
    sight (relocateRun move run) = sight run := by
  obtain ⟨outcome, interpreter⟩ := run
  have transcript : (interpreter.relocate move).deliver.1 = interpreter.deliver.1 := by
    unfold Interpreter.deliver Interpreter.relocate Machine.relocate
    dsimp only
    rw [Array.foldl_map]
    simp only [write_relocate]
  have watcher : (interpreter.relocate move).deliver.2.watcher =
      interpreter.deliver.2.watcher := watch_relocate move _ _
  have closed : (interpreter.relocate move).machine.closedFiles =
      interpreter.machine.closedFiles := closed_files_relocate move _
  cases outcome with
  | ok value =>
      unfold sight relocateRun
      dsimp only [Except.toOption, Option.bind]
      rw [transcript, watcher, closed, Value.describe_relocate]
      rfl
  | error error =>
      have report : (error.relocate move).text interpreter.options
          (interpreter.machine.scopes.relocate move) =
            error.text interpreter.options interpreter.machine.scopes := by
        cases error with
        | scan | parse => rfl
        | failed failure => exact report_relocate move failure _ _
      have traced : (error.relocate move).stackTrace (interpreter.machine.scopes.relocate move) =
          error.stackTrace interpreter.machine.scopes := by
        cases error with
        | scan | parse => rfl
        | failed failure => exact failure_stack_trace_relocate move failure _
      unfold sight relocateRun
      dsimp only
      rw [transcript, watcher, closed]
      change Sight.mk _ (some ((error.relocate move).text interpreter.options
        (interpreter.machine.scopes.relocate move))) ((error.relocate move).stackTrace
        (interpreter.machine.scopes.relocate move)) _ _ _ _ = _
      rw [report, traced]
      rfl

end Sights

/-- For all sources that spell programs, the second of at least one form: running them
with a line feed between them comes to the same as running one after the other. Where
the first fails, the whole run is that of the first alone. Otherwise it is that of the
second after it, up to the lines of locations, and looks the same from outside: the
same value or report and stack trace, texts displayed, trace messages and files. -/
theorem splitting_changes_nothing (interpreter : Interpreter) (first second : String)
    {program next : List Expr} (parsed : parseSource first = .ok program)
    (parsedNext : parseSource second = .ok next) (nonempty : next ≠ []) :
    let joined := interpreter.run (first ++ "\n" ++ second)
    let begun := interpreter.run first
    let continued := begun.2.run second
    (∀ error, begun.1 = .error error → joined = begun) ∧
      ∀ value, begun.1 = .ok value →
        SameButLines joined continued ∧ sight joined = sight continued := by
  intro joined begun continued
  obtain ⟨lines, spelled⟩ := parse_joined (parse_of_source parsed) (parse_of_source parsedNext)
  have lowered : Expr.relocateAll (Location.lowered lines) next ≠ [] := by
    rw [Expr.relocate_all_eq_map, Ne, List.map_eq_nil_iff]
    exact nonempty
  have whole : joined =
      match begun with
      | (.ok _, after) =>
          after.evaluate globalScope (Expr.relocateAll (Location.lowered lines) next)
      | (.error error, after) => (.error error, after) := by
    have begins : begun = interpreter.evaluate globalScope program :=
      interpreter.run_of_parsed parsed
    rw [begins, ← interpreter.evaluate_append globalScope program lowered]
    exact interpreter.run_of_parsed (source_of_parse spelled)
  -- Whether the second program is reached depends on the outcome of the first alone.
  obtain ⟨outcome, after⟩ := begun
  cases outcome with
  | error error =>
      refine ⟨fun _ _ => whole, ?_⟩
      rintro value ⟨⟩
  | ok value =>
      refine ⟨?_, ?_⟩
      · rintro error ⟨⟩
      intro _ _
      have continues : continued = after.evaluate globalScope next :=
        after.run_of_parsed parsedNext
      have same : SameButLines joined continued := by
        -- Without their lines, the two programs are one and the same.
        unfold SameButLines
        rw [whole, continues, ← Interpreter.evaluate_relocate, ← Interpreter.evaluate_relocate,
          unlined_lowered]
      refine ⟨same, ?_⟩
      rw [← sight_relocate Location.unlined joined, same, sight_relocate]

/-- A comment does not run on into the source below it. -/
theorem splitting_changes_nothing_after_comment :
    let interpreter := Interpreter.start {} (.buffer {}) {}
    let joined := interpreter.run ("(define x 1) ; one" ++ "\n" ++ "x")
    let continued := (interpreter.run "(define x 1) ; one").2.run "x"
    SameButLines joined continued ∧ sight joined = sight continued := by
  intro interpreter
  have parsed : parseSource "(define x 1) ; one" = .ok
      [.define (some ⟨1, 1⟩) "x" (.literal (some ⟨1, 11⟩) (.atom (.number (.int 1))))] := by rfl
  have parsedNext : parseSource "x" = .ok [.reference (some ⟨1, 1⟩) "x"] := by rfl
  have split := splitting_changes_nothing interpreter _ _ parsed parsedNext (by simp)
  have fine : (interpreter.run "(define x 1) ; one").1.toOption.isSome := by decide +kernel
  cases ended : (interpreter.run "(define x 1) ; one").1 with
  | ok value => exact split.2 value ended
  | error error =>
      rw [ended] at fine
      cases fine

end Lisplet
