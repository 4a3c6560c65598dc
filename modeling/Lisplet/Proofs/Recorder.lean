import Lisplet.Interpreter.Basic
import Lisplet.Proofs.Dialogue
import Lisplet.Proofs.Outcome

/-!
# Evaluation with a record

An occurrence is a place of an expression in the programs of a session. The
recorded evaluator carries along the occurrence that it evaluates: it passes from an
expression to its parts, and from a procedure to where it was made. Nothing it does
depends on what it writes down, so forgetting the record gives back the evaluator.
-/

namespace Lisplet

namespace Expr

/-- The expressions directly inside an expression that can be evaluated. A quoted
form is none. -/
def parts : Expr → List Expr
  | .apply _ callee arguments => callee :: arguments
  | .branch _ test consequent alternate => [test, consequent, alternate]
  | .define _ _ value => [value]
  | .procedure _ _ _ body => body
  | .lambda _ _ body => body
  | _ => []

/-- The name of the procedure whose body the parts are, if they are one. -/
def bodyName? : Expr → Option String
  | .procedure _ name _ _ => some name
  | .lambda .. => some lambdaName
  | _ => none

end Expr

/-- Where an expression stands in the programs of a session. -/
inductive Occurrence where
  | form (program index : Nat)
  | inside (outer : Occurrence) (index : Nat)

namespace Occurrence

variable (programs : List (List Expr))

def expression? : Occurrence → Option Expr
  | .form program index => programs[program]?.bind (·[index]?)
  | .inside outer index => outer.expression?.bind (·.parts[index]?)

/-- The names of the procedures whose bodies enclose an occurrence, innermost first,
out to the whole program. -/
def nesting : Occurrence → List String
  | .form _ _ => [globalLocation]
  | .inside outer _ =>
      ((outer.expression? programs).bind Expr.bodyName?).toList ++ outer.nesting

end Occurrence

/-- One evaluation of an occurrence, and the stack trace it began with. -/
structure Visit where
  occurrence : Occurrence
  expression : Expr
  scope : ScopeId
  trace : List String

structure Recorder where
  machine : Machine
  /-- All evaluations begun so far. -/
  visits : List Visit := []
  /-- The occurrence that a procedure was made by. -/
  origin : Closure → Option Occurrence := fun _ => none
  /-- The innermost evaluation in progress when the program failed. -/
  culprit : Option Visit := none

abbrev RecordM := EStateM Failure Recorder

abbrev RecordApplier := Value → List Value → ScopeId → RecordM Value

namespace Recorder

/-- Blames the evaluation for a failure of the program, unless one further in is to
blame already. -/
def blame (visit : Visit) (failure : Failure) (recorder : Recorder) : Recorder :=
  match failure.scope?, recorder.culprit with
  | some _, none => { recorder with culprit := some visit }
  | _, _ => recorder

open Classical in
noncomputable def made (closure : Closure) (here : Occurrence) (recorder : Recorder) : Recorder :=
  { recorder with
    origin := fun other => if other = closure then some here else recorder.origin other }

end Recorder

namespace RecordM

variable {Result : Type}

def lift (action : EvalM Result) : RecordM Result := fun recorder =>
  match action recorder.machine with
  | .ok value machine => .ok value { recorder with machine }
  | .error failure machine => .error failure { recorder with machine }

/-- Runs an action as the evaluation of an occurrence. -/
def visiting (here : Occurrence) (expression : Expr) (scope : ScopeId) (action : RecordM Result) :
    RecordM Result := fun recorder =>
  let visit := ⟨here, expression, scope, recorder.machine.scopes.stackTrace scope⟩
  match action { recorder with visits := visit :: recorder.visits } with
  | .ok value after => .ok value after
  | .error failure after => .error failure (after.blame visit failure)

noncomputable def make (closure : Closure) (here : Occurrence) : RecordM Unit :=
  modify (Recorder.made closure here)

/-- The occurrence that a procedure was made by; there is one for every procedure. -/
def originOf (closure : Closure) : RecordM Occurrence := do
  let recorder ← get
  return (recorder.origin closure).getD (.form 0 0)

def bracket (enter leave : Machine → Machine) (action : RecordM Result) : RecordM Result :=
  fun recorder =>
    match action { recorder with machine := enter recorder.machine } with
    | .ok value after => .ok value { after with machine := leave after.machine }
    | .error failure after => .error failure { after with machine := leave after.machine }

def insideCall (action : RecordM Result) : RecordM Result :=
  bracket (fun machine => { machine with depth := machine.depth + 1 })
    (fun machine => { machine with depth := machine.depth - 1 }) action

def insideNative (site : ScopeId) (action : RecordM Result) : RecordM Result :=
  bracket (fun machine => { machine with sites := site :: machine.sites })
    (fun machine => { machine with sites := machine.sites.tail }) action

end RecordM

mutual

noncomputable def Expr.record (tracing : Bool) (apply : RecordApplier) (here : Occurrence)
    (scope : ScopeId) (expression : Expr) : RecordM Value :=
  RecordM.visiting here expression scope do
    RecordM.lift (EvalM.announce tracing fun machine =>
      .visit expression (machine.scopes.location scope))
    match expression with
    | .literal _ value => return Value.ofDatum value
    | .reference _ name => do
        RecordM.lift (EvalM.announce tracing fun _ => .load name)
        RecordM.lift (loadBinding scope name)
    | .apply _ callee arguments => do
        RecordM.lift (EvalM.announce tracing fun _ => .apply callee)
        let procedure ← callee.record tracing apply (here.inside 0) scope
        let values ← recordEach tracing apply here.inside scope 1 arguments
        apply procedure values scope
    | .branch _ test consequent alternate => do
        let verdict ← test.record tracing apply (here.inside 0) scope
        if verdict.isTruthy then do
          RecordM.lift (EvalM.announce tracing fun _ => .consequent)
          consequent.record tracing apply (here.inside 1) scope
        else do
          RecordM.lift (EvalM.announce tracing fun _ => .alternate)
          alternate.record tracing apply (here.inside 2) scope
    | .define _ name value => do
        RecordM.lift (EvalM.announce tracing fun _ => .define name)
        let result ← value.record tracing apply (here.inside 0) scope
        RecordM.lift (EvalM.announce tracing fun _ => .bound name result)
        RecordM.lift (EvalM.define scope name result)
        return result
    | .procedure _ name parameters body => do
        RecordM.lift (EvalM.announce tracing fun _ => .defineProcedure name parameters)
        RecordM.make ⟨scope, name, parameters, body⟩ here
        RecordM.lift (EvalM.define scope name (.closure ⟨scope, name, parameters, body⟩))
        return .closure ⟨scope, name, parameters, body⟩
    | .lambda _ parameters body => do
        RecordM.lift (EvalM.announce tracing fun machine =>
          .makeClosure (machine.scopes.location scope))
        RecordM.make ⟨scope, lambdaName, parameters, body⟩ here
        return .closure ⟨scope, lambdaName, parameters, body⟩
    | .quote _ form => do
        RecordM.lift (EvalM.announce tracing fun _ => .quote form)
        return quotedValue form
    | .plain value => RecordM.lift (EvalM.fault (.notExpression value.label))

/-- Expressions whose occurrences are given by their number. -/
noncomputable def recordEach (tracing : Bool) (apply : RecordApplier)
    (occurrences : Nat → Occurrence) (scope : ScopeId) : Nat → List Expr → RecordM (List Value)
  | _, [] => return []
  | index, expression :: rest => do
      let value ← expression.record tracing apply (occurrences index) scope
      let values ← recordEach tracing apply occurrences scope (index + 1) rest
      return value :: values

end

noncomputable def recordSequence (tracing : Bool) (apply : RecordApplier)
    (occurrences : Nat → Occurrence) (scope : ScopeId) : Nat → Value → List Expr → RecordM Value
  | _, result, [] => return result
  | index, _, expression :: rest => do
      let value ← expression.record tracing apply (occurrences index) scope
      recordSequence tracing apply occurrences scope (index + 1) value rest

noncomputable def recordClosure (tracing : Bool) (apply : RecordApplier) (closure : Closure)
    (arguments : List Value) (site : ScopeId) : RecordM Value := do
  RecordM.lift (EvalM.announce tracing fun _ => .call closure)
  if arguments.length ≠ closure.arity then
    throw (.arityMismatch closure arguments.length site)
  else do
    let here ← RecordM.originOf closure
    let scope ← RecordM.lift
      (EvalM.makeScope closure.scope closure.name (closure.parameters.zip arguments))
    RecordM.insideCall
      (recordSequence tracing apply here.inside scope 0 .nil closure.body)

def recordBack (apply : RecordApplier) (procedure : Value) (arguments : List Value) :
    RecordM Value := do
  let recorder ← get
  match recorder.machine.sites with
  | [] => RecordM.lift (EvalM.fault .noNativeRunning)
  | site :: _ => apply procedure arguments site

def Dialogue.record (call : Value → List Value → RecordM Value) : Dialogue → RecordM Reply
  | .answer action => RecordM.lift action
  | .ask procedure arguments next => do
      let value ← call procedure arguments
      (next value).record call

def recordNative (tracing : Bool) (apply : RecordApplier) (function : Native)
    (arguments : List Value) (site : ScopeId) : RecordM Value := do
  RecordM.lift (EvalM.announce tracing fun _ => .native function arguments)
  let reply ←
    RecordM.insideNative site ((function.dialogue arguments).record (recordBack apply))
      |>.adaptExcept (blameNative site)
  match reply with
  | .value value => return value
  | .foreign kind => throw (.native (.foreignReply function kind) site)

noncomputable def recordWith (tracing : Bool) (apply : RecordApplier) : RecordApplier :=
  fun callee arguments site =>
    match callee with
    | .closure closure => recordClosure tracing apply closure arguments site
    | .native function => recordNative tracing apply function arguments site
    | other => do
        let described ← RecordM.lift (EvalM.ofText other.describe)
        throw (.native (.notProcedure described) site)

noncomputable def recordWithin (tracing : Bool) : Nat → RecordApplier
  | 0 => fun _ _ _ => RecordM.lift (EvalM.fault .recursionTooDeep)
  | limit + 1 => recordWith tracing (recordWithin tracing limit)

/-- Runs one source text after the other, going on after failures. -/
def Interpreter.runAll (interpreter : Interpreter) :
    List String → List (Except RunError Value) × Interpreter
  | [] => ([], interpreter)
  | source :: rest =>
      let (outcome, next) := interpreter.run source
      let (outcomes, last) := next.runAll rest
      (outcome :: outcomes, last)

def programOf (source : String) : List Expr :=
  (parseSource source).toOption.getD []

/-- The outcome of a run together with the evaluation that is to blame for it. -/
noncomputable def recordRun (options : Options) (number : Nat) (source : String)
    (recorder : Recorder) : (Except RunError Value × Option Visit) × Recorder :=
  match parseSource source with
  | .error error => ((.error error, none), recorder)
  | .ok program =>
      match recordSequence options.traceExecution
          (recordWithin options.traceExecution recursionLimit) (.form number) globalScope 0 .nil
          program { recorder with culprit := none } with
      | .ok value after => ((.ok value, none), after)
      | .error failure after => ((.error (.failed (failure.counted options)), after.culprit), after)

noncomputable def recordRuns (options : Options) :
    Nat → List String → Recorder → List (Except RunError Value × Option Visit) × Recorder
  | _, [], recorder => ([], recorder)
  | number, source :: rest, recorder =>
      let (outcome, next) := recordRun options number source recorder
      let (outcomes, last) := recordRuns options (number + 1) rest next
      (outcome :: outcomes, last)

namespace RecordM

variable {Result : Type} {recorder : Recorder} {done : Result → Recorder → Prop}
  {failed : Failure → Recorder → Prop}

theorem ensures_lift (action : EvalM Result) :
    Ensures (lift action) recorder done failed ↔
      Ensures action recorder.machine (fun value machine => done value { recorder with machine })
        (fun failure machine => failed failure { recorder with machine }) := by
  unfold Ensures lift
  cases action recorder.machine <;> rfl

theorem ensures_visiting (here : Occurrence) (expression : Expr) (scope : ScopeId)
    (action : RecordM Result) :
    Ensures (visiting here expression scope action) recorder done failed ↔
      Ensures action
        { recorder with
          visits := ⟨here, expression, scope, recorder.machine.scopes.stackTrace scope⟩ ::
            recorder.visits }
        done
        (fun failure after => failed failure
          (after.blame ⟨here, expression, scope, recorder.machine.scopes.stackTrace scope⟩
            failure)) := by
  unfold Ensures visiting
  dsimp only
  generalize action _ = outcome
  cases outcome <;> rfl

theorem ensures_bracket (enter leave : Machine → Machine) (action : RecordM Result) :
    Ensures (bracket enter leave action) recorder done failed ↔
      Ensures action { recorder with machine := enter recorder.machine }
        (fun value after => done value { after with machine := leave after.machine })
        (fun failure after => failed failure { after with machine := leave after.machine }) := by
  unfold Ensures bracket
  dsimp only
  generalize action _ = outcome
  cases outcome <;> rfl

end RecordM

theorem Recorder.machine_blame (visit : Visit) (failure : Failure) (recorder : Recorder) :
    (recorder.blame visit failure).machine = recorder.machine := by
  unfold blame
  split <;> rfl

/-- Forgetting what was recorded, one action does what the other does. -/
def Erases {Result : Type} (recorded : RecordM Result) (action : EvalM Result) : Prop :=
  ∀ recorder, Ensures recorded recorder
    (fun value after => action recorder.machine = .ok value after.machine)
    (fun failure after => action recorder.machine = .error failure after.machine)

namespace Erases

variable {Result Other : Type} {recorded : RecordM Result} {action : EvalM Result}

theorem pure (value : Result) : Erases (Pure.pure value) (Pure.pure value) :=
  fun _ => rfl

theorem throw (failure : Failure) :
    Erases (MonadExcept.throw failure : RecordM Result) (MonadExcept.throw failure) :=
  fun _ => rfl

theorem lift (action : EvalM Result) : Erases (RecordM.lift action) action := by
  intro recorder
  rw [RecordM.ensures_lift]
  unfold Ensures
  cases action recorder.machine <;> rfl

theorem bind {recordedNext : Result → RecordM Other} {next : Result → EvalM Other}
    (first : Erases recorded action)
    (second : ∀ value, Erases (recordedNext value) (next value)) :
    Erases (recorded >>= recordedNext) (action >>= next) := by
  intro recorder
  rw [ensures_bind]
  -- The bind of the machine is spelled out, so that the first action can be replaced.
  change Ensures recorded recorder (fun value middle => Ensures (recordedNext value) middle
      (fun result (after : Recorder) =>
        EStateM.bind action next recorder.machine = .ok result after.machine)
      (fun failure (after : Recorder) =>
        EStateM.bind action next recorder.machine = .error failure after.machine))
    (fun failure (after : Recorder) =>
      EStateM.bind action next recorder.machine = .error failure after.machine)
  unfold EStateM.bind
  refine (first recorder).weaken ?_ ?_
  · intro value middle begun
    rw [begun]
    exact second value middle
  · intro failure middle begun
    rw [begun]

theorem visiting (here : Occurrence) (expression : Expr) (scope : ScopeId)
    (erases : Erases recorded action) :
    Erases (RecordM.visiting here expression scope recorded) action := by
  intro recorder
  rw [RecordM.ensures_visiting]
  refine (erases _).weaken (fun _ _ same => same) ?_
  intro failure after same
  rw [Recorder.machine_blame]
  exact same

theorem read {recordedNext : Recorder → RecordM Result} {next : Machine → EvalM Result}
    (each : ∀ recorder, Erases (recordedNext recorder) (next recorder.machine)) :
    Erases (get >>= recordedNext) (get >>= next) :=
  fun recorder => each recorder recorder

theorem make (closure : Closure) (here : Occurrence) {next : Unit → RecordM Result}
    (erases : Erases (next ()) action) :
    Erases (RecordM.make closure here >>= next) action :=
  fun recorder => erases (recorder.made closure here)

theorem origin_of (closure : Closure) {next : Occurrence → RecordM Result}
    (erases : ∀ here, Erases (next here) action) :
    Erases (RecordM.originOf closure >>= next) action :=
  fun recorder => erases ((recorder.origin closure).getD (.form 0 0)) recorder

theorem bracket (enter leave : Machine → Machine) (erases : Erases recorded action) :
    Erases (RecordM.bracket enter leave recorded) (EvalM.bracket enter leave action) := by
  intro recorder
  rw [RecordM.ensures_bracket]
  unfold EvalM.bracket
  refine (erases _).weaken ?_ ?_ <;> (intro _ after same; dsimp only at same ⊢; rw [same])

theorem adapt (change : Failure → Failure) (erases : Erases recorded action) :
    Erases (recorded.adaptExcept change) (action.adaptExcept change) := by
  intro recorder
  rw [ensures_adapt]
  unfold EStateM.adaptExcept
  refine (erases recorder).weaken ?_ ?_ <;> (intro _ after same; rw [same])

end Erases

def RecordApplier.Erases (recorded : RecordApplier) (apply : Applier) : Prop :=
  ∀ callee arguments site, Lisplet.Erases (recorded callee arguments site)
    (apply callee arguments site)

section Evaluation

variable (tracing : Bool) {recorded : RecordApplier} {apply : Applier}

mutual

theorem record_erases (applied : recorded.Erases apply) (here : Occurrence) (scope : ScopeId)
    (expression : Expr) :
    Erases (expression.record tracing recorded here scope)
      (expression.eval tracing apply scope) := by
  unfold Expr.record Expr.eval
  refine .visiting here expression scope (.bind (.lift _) fun _ => ?_)
  cases expression with
  | literal location value => exact .pure _
  | reference location name => exact .bind (.lift _) fun _ => .lift _
  | apply location callee arguments =>
      refine .bind (.lift _) fun _ => ?_
      refine .bind (record_erases applied (here.inside 0) scope callee) fun procedure => ?_
      refine .bind (record_each_erases applied here.inside scope 1 arguments) fun values => ?_
      exact applied procedure values scope
  | branch location test consequent alternate =>
      refine .bind (record_erases applied (here.inside 0) scope test) fun verdict => ?_
      split_ifs
      · exact .bind (.lift _) fun _ => record_erases applied (here.inside 1) scope consequent
      · exact .bind (.lift _) fun _ => record_erases applied (here.inside 2) scope alternate
  | define location name value =>
      refine .bind (.lift _) fun _ => ?_
      refine .bind (record_erases applied (here.inside 0) scope value) fun result => ?_
      exact .bind (.lift _) fun _ => .bind (.lift _) fun _ => .pure _
  | procedure location name parameters body =>
      refine .bind (.lift _) fun _ => ?_
      exact .make _ here (.bind (.lift _) fun _ => .pure _)
  | lambda location parameters body =>
      exact .bind (.lift _) fun _ => .make _ here (.pure _)
  | quote location form => exact .bind (.lift _) fun _ => .pure _
  | plain value => exact .lift _

theorem record_each_erases (applied : recorded.Erases apply) (occurrences : Nat → Occurrence)
    (scope : ScopeId) (index : Nat) (expressions : List Expr) :
    Erases (recordEach tracing recorded occurrences scope index expressions)
      (evalEach tracing apply scope expressions) := by
  cases expressions with
  | nil => exact .pure _
  | cons expression rest =>
      unfold recordEach evalEach
      refine .bind (record_erases applied (occurrences index) scope expression) fun value => ?_
      refine .bind (record_each_erases applied occurrences scope (index + 1) rest) fun values => ?_
      exact .pure _

end

theorem record_sequence_erases (applied : recorded.Erases apply) (occurrences : Nat → Occurrence)
    (scope : ScopeId) (index : Nat) (result : Value) (expressions : List Expr) :
    Erases (recordSequence tracing recorded occurrences scope index result expressions)
      (evalSequence tracing apply scope result expressions) := by
  induction expressions generalizing index result with
  | nil => exact .pure _
  | cons expression rest ih =>
      unfold recordSequence evalSequence
      refine .bind (record_erases tracing applied (occurrences index) scope expression) ?_
      exact fun value => ih (index + 1) value

theorem record_closure_erases (applied : recorded.Erases apply) (closure : Closure)
    (arguments : List Value) (site : ScopeId) :
    Erases (recordClosure tracing recorded closure arguments site)
      (callClosure tracing apply closure arguments site) := by
  unfold recordClosure callClosure
  refine .bind (.lift _) fun _ => ?_
  split_ifs
  · exact .throw _
  · refine .origin_of closure fun here => .bind (.lift _) fun scope => ?_
    exact .bracket _ _
      (record_sequence_erases tracing applied here.inside scope 0 .nil closure.body)

theorem record_back_erases (applied : recorded.Erases apply) (procedure : Value)
    (arguments : List Value) :
    Erases (recordBack recorded procedure arguments) (callBack apply procedure arguments) := by
  unfold recordBack callBack
  refine .read fun recorder => ?_
  cases recorder.machine.sites with
  | nil => exact .lift _
  | cons site outer => exact applied procedure arguments site

theorem Dialogue.record_erases {recordedCall : Value → List Value → RecordM Value}
    {call : Caller} (called : ∀ procedure arguments,
      Erases (recordedCall procedure arguments) (call procedure arguments))
    (dialogue : Dialogue) : Erases (dialogue.record recordedCall) (dialogue.run call) := by
  induction dialogue with
  | answer action => exact .lift action
  | ask procedure arguments next ih => exact .bind (called procedure arguments) ih

theorem record_native_erases (applied : recorded.Erases apply) (function : Native)
    (arguments : List Value) (site : ScopeId) :
    Erases (recordNative tracing recorded function arguments site)
      (callNative tracing apply function arguments site) := by
  unfold recordNative callNative
  refine .bind (.lift _) fun _ => ?_
  rw [Native.invoke_eq_run]
  have held := Dialogue.record_erases (record_back_erases applied) (function.dialogue arguments)
  refine .bind (.adapt _ (.bracket _ _ held)) fun reply => ?_
  cases reply with
  | value answer => exact .pure answer
  | «foreign» kind => exact .throw _

theorem record_within_erases (limit : Nat) :
    (recordWithin tracing limit).Erases (applyWithin tracing limit) := by
  induction limit with
  | zero => exact fun _ _ _ => Erases.lift (EvalM.fault .recursionTooDeep)
  | succ limit ih =>
      intro callee arguments site
      unfold recordWithin applyWithin recordWith applyWith
      cases callee with
      | closure closure => exact record_closure_erases tracing ih closure arguments site
      | native function => exact record_native_erases tracing ih function arguments site
      | _ => exact .bind (.lift _) fun _ => .throw _

end Evaluation

theorem record_run_erases {interpreter : Interpreter} {recorder : Recorder}
    (same : interpreter.machine = recorder.machine) (number : Nat) (source : String) :
    interpreter.run source =
      ((recordRun interpreter.options number source recorder).1.1,
        { interpreter with
          machine := (recordRun interpreter.options number source recorder).2.machine }) := by
  unfold Interpreter.run Interpreter.runIn recordRun
  cases parseSource source with
  | error error =>
      rw [← same]
  | ok program =>
      unfold Interpreter.evaluate Interpreter.perform Interpreter.applier
      have erased := record_sequence_erases interpreter.options.traceExecution
        (record_within_erases interpreter.options.traceExecution recursionLimit) (.form number)
        globalScope 0 .nil program { recorder with culprit := none }
      unfold Ensures at erased
      dsimp only at erased ⊢
      rw [same]
      split at erased
      next value after outcome => rw [outcome, erased]
      next failure after outcome => rw [outcome, erased]

/-- A recorded session has the outcomes of the session and leaves its machine. -/
theorem record_runs_erases {interpreter : Interpreter} {recorder : Recorder}
    (same : interpreter.machine = recorder.machine) (number : Nat) (sources : List String) :
    interpreter.runAll sources =
      ((recordRuns interpreter.options number sources recorder).1.map Prod.fst,
        { interpreter with
          machine := (recordRuns interpreter.options number sources recorder).2.machine }) := by
  induction sources generalizing interpreter recorder number with
  | nil => rw [Interpreter.runAll, recordRuns, ← same, List.map_nil]
  | cons source rest ih =>
      rw [Interpreter.runAll, recordRuns, record_run_erases same number source]
      dsimp only
      rw [@ih _ (recordRun interpreter.options number source recorder).2 rfl (number + 1)]
      rfl

end Lisplet
