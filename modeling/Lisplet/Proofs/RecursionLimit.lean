import Lisplet.Proofs.NativeFaults
import Lisplet.Proofs.PassThrough

/-!
# The limit on nested applications

An application uses the applier it is given only for the applications it makes. So two
appliers that agree on those cannot be told apart, and a limit that is never used up
could as well be larger. If it is used up, the application that found no room fails, and
its failure comes out at the top, as it is or as that of a native function.
-/

namespace Lisplet

def evaluateWithin (tracing : Bool) (limit : Nat) (scope : ScopeId) (program : List Expr) :
    EvalM Value :=
  evalSequence tracing (applyWithin tracing limit) scope .nil program

/-- Inside an application there is one for which the limit leaves no room. -/
def Application.Exhausts (tracing : Bool) (limit : Nat) (outer : Application) : Prop :=
  ∃ inner, outer.Nests tracing limit 0 inner

/-- Evaluating a program comes to an application for which the limit leaves no room. -/
def Exhausts (tracing : Bool) (limit : Nat) (scope : ScopeId) (program : List Expr)
    (machine : Machine) : Prop :=
  ∃ outer, (scriptSequence scope .nil program).Asks tracing (applyWithin tracing limit)
    machine outer ∧ outer.Exhausts tracing limit

namespace EvalM

variable {Result Other : Type} {action other : EvalM Result} {machine : Machine}

theorem bind_agree {next otherNext : Result → EvalM Other} (same : other machine = action machine)
    (rest : ∀ value after, action machine = .ok value after →
      otherNext value after = next value after) :
    (other >>= otherNext) machine = (action >>= next) machine := by
  cases ran : action machine with
  | ok value after =>
      rw [bind_ok ran, bind_ok (same.trans ran)]
      exact rest value after ran
  | error failure after => rw [bind_error ran, bind_error (same.trans ran)]

theorem bracket_agree {enter leave : Machine → Machine}
    (same : other (enter machine) = action (enter machine)) :
    bracket enter leave other machine = bracket enter leave action machine := by
  simp only [bracket, same]

end EvalM

section Agreement

variable {tracing : Bool} {apply other : Applier}

theorem Script.run_agrees {script : Script} {machine : Machine}
    (agree : ∀ inner, script.Asks tracing apply machine inner →
      inner.outcome other = inner.outcome apply) :
    script.run tracing other machine = script.run tracing apply machine := by
  induction script generalizing machine with
  | done value => rfl
  | fault cause => rfl
  | announce step next ih =>
      exact EvalM.bind_agree rfl fun _ after told =>
        ih fun inner asks => agree inner (.announced told asks)
  | load scope name next ih =>
      exact EvalM.bind_agree rfl fun value after found =>
        ih value fun inner asks => agree inner (.loaded found asks)
  | define scope name value next ih =>
      exact EvalM.bind_agree rfl fun _ after bound =>
        ih fun inner asks => agree inner (.defined bound asks)
  | apply callee arguments site next ih =>
      exact EvalM.bind_agree (agree _ .here) fun value after result =>
        ih value fun inner asks => agree inner (.applied result asks)

theorem Dialogue.run_agrees {dialogue : Dialogue} {machine : Machine}
    (agree : ∀ inner, dialogue.Asks apply machine inner →
      inner.outcome other = inner.outcome apply) :
    dialogue.run (callBack other) machine = dialogue.run (callBack apply) machine := by
  induction dialogue generalizing machine with
  | answer action => rfl
  | ask procedure arguments next ih =>
      have called : callBack other procedure arguments machine =
          callBack apply procedure arguments machine := by
        cases inside : machine.sites with
        | nil => rw [call_back_of_idle inside, call_back_of_idle inside]
        | cons site outer =>
            rw [call_back_of_inside inside, call_back_of_inside inside]
            exact agree _ (.here inside)
      exact EvalM.bind_agree called fun value after result =>
        ih value fun inner asks => agree inner (.called result asks)

theorem Application.outcome_agrees {outer : Application}
    (agree : ∀ inner, outer.Makes tracing apply inner →
      inner.outcome other = inner.outcome apply) :
    outer.outcome (applyWith tracing other) = outer.outcome (applyWith tracing apply) := by
  obtain ⟨callee, arguments, site, machine⟩ := outer
  cases callee with
  | closure closure =>
      change callClosure tracing other closure arguments site machine =
        callClosure tracing apply closure arguments site machine
      cases told : EvalM.announce tracing (fun _ => .call closure) machine with
      | error failure after =>
          rw [callClosure, callClosure, EvalM.bind_error told, EvalM.bind_error told]
      | ok value begun =>
          by_cases fits : arguments.length = closure.arity
          · rw [call_closure_of_fits told fits, call_closure_of_fits told fits]
            exact EvalM.bracket_agree (Script.run_agrees fun inner asks =>
              agree inner (.body told fits asks))
          · rw [callClosure, callClosure, EvalM.bind_ok told, EvalM.bind_ok told, if_pos fits,
              if_pos fits]
  | native function =>
      refine EvalM.bind_agree rfl fun _ begun told => ?_
      refine EvalM.bind_agree ?_ fun reply after answered => rfl
      have invoked : Prelude.invoke (callBack other) function arguments (begun.inNative site) =
          Prelude.invoke (callBack apply) function arguments (begun.inNative site) := by
        rw [Native.invoke_eq_run, Native.invoke_eq_run]
        exact Dialogue.run_agrees fun inner asks => agree inner (.callback told asks)
      have inside : EvalM.insideNative site (Prelude.invoke (callBack other) function arguments)
          begun = EvalM.insideNative site (Prelude.invoke (callBack apply) function arguments)
            begun := EvalM.bracket_agree invoked
      simp only [EStateM.adaptExcept, inside]
  | atom | list | form => rfl

end Agreement

section Limits

variable {tracing : Bool}

theorem Application.Exhausts.of_makes {limit : Nat} {outer inner : Application}
    (makes : outer.Makes tracing (applyWithin tracing limit) inner)
    (exhausts : inner.Exhausts tracing limit) : outer.Exhausts tracing (limit + 1) := by
  obtain ⟨last, nests⟩ := exhausts
  exact ⟨last, .inside makes nests⟩

/-- A limit that is not used up could be larger. -/
theorem Application.outcome_of_larger {limit more : Nat} (larger : limit ≤ more)
    {outer : Application} (enough : ¬ outer.Exhausts tracing limit) :
    outer.outcome (applyWithin tracing more) = outer.outcome (applyWithin tracing limit) := by
  induction limit generalizing more outer with
  | zero => exact absurd ⟨outer, .here⟩ enough
  | succ limit ih =>
      cases more with
      | zero => omega
      | succ more =>
          exact outcome_agrees fun inner makes =>
            ih (by omega) fun exhausts => enough (.of_makes makes exhausts)

theorem Application.passes_too_deep (application : Application) {failure : Failure}
    (deep : failure.TooDeep) : (application.passes failure).TooDeep := by
  unfold passes
  split
  · cases failure <;> exact deep
  · exact deep

theorem Application.Exhausts.fails {limit : Nat} {outer : Application}
    (exhausts : outer.Exhausts tracing limit) :
    ∃ failure after, failure.TooDeep ∧
      outer.outcome (applyWithin tracing limit) = .error failure after := by
  obtain ⟨inner, nests⟩ := exhausts
  generalize none : 0 = depth at nests
  induction nests with
  | @here limit application =>
      subst none
      exact ⟨.host .recursionTooDeep, application.machine, rfl, rfl⟩
  | @inside limit depth outer middle inner makes nests ih =>
      obtain ⟨failure, after, deep, failed⟩ := ih none
      obtain ⟨last, fails, -⟩ := makes.fails failed
      exact ⟨outer.passes failure, last, outer.passes_too_deep deep, fails⟩

theorem evaluate_of_larger {limit more : Nat} (larger : limit ≤ more) {scope : ScopeId}
    {program : List Expr} {machine : Machine}
    (enough : ¬ Exhausts tracing limit scope program machine) :
    evaluateWithin tracing more scope program machine =
      evaluateWithin tracing limit scope program machine := by
  unfold evaluateWithin
  rw [eval_sequence_eq_run, eval_sequence_eq_run]
  exact Script.run_agrees fun outer asks => Application.outcome_of_larger larger
    fun exhausts => enough ⟨outer, asks, exhausts⟩

end Limits

section Origin

variable {tracing : Bool} {apply : Applier} {machine after : Machine} {failure : Failure}

theorem Failure.Plain.shallow (plain : failure.Plain tracing) : ¬failure.TooDeep := by
  cases plain with
  | unbound name scope => exact id
  | untold failed => exact (EvalM.shallow_announce tracing _ _).of_error failed
  | misplaced label => nofun

theorem Dialogue.Shallow.asks {dialogue : Dialogue} (shallow : dialogue.Shallow)
    (deep : failure.TooDeep)
    (failed : dialogue.run (callBack apply) machine = .error failure after) :
    ∃ inner, dialogue.Asks apply machine inner ∧ inner.outcome apply = .error failure after := by
  induction dialogue generalizing machine with
  | answer action => exact absurd deep ((shallow machine).of_error failed)
  | ask procedure arguments next ih =>
      rcases EvalM.bind_error_cases failed with early | ⟨value, middle, result, late⟩
      · cases inside : machine.sites with
        | nil =>
            rw [call_back_of_idle inside] at early
            cases early
            cases deep
        | cons site outer =>
            rw [call_back_of_inside inside] at early
            exact ⟨_, .here inside, early⟩
      · obtain ⟨inner, asks, fails⟩ := ih value (shallow value) late
        exact ⟨inner, .called result asks, fails⟩

theorem Failure.TooDeep.of_blamed {site : ScopeId} (deep : (blameNative site failure).TooDeep) :
    failure.TooDeep := by
  cases failure <;> exact deep

/-- An application finds the recursion too deep only if one does that it makes. -/
theorem Application.makes_too_deep {outer : Application} (deep : failure.TooDeep)
    (failed : outer.outcome (applyWith tracing apply) = .error failure after) :
    ∃ inner raised left, outer.Makes tracing apply inner ∧ raised.TooDeep ∧
      inner.outcome apply = .error raised left := by
  obtain ⟨callee, arguments, site, machine⟩ := outer
  cases callee with
  | closure closure =>
      have whole : callClosure tracing apply closure arguments site machine =
          .error failure after := failed
      rw [callClosure] at whole
      rcases EvalM.bind_error_cases whole with early | ⟨_, begun, told, late⟩
      · exact absurd deep ((EvalM.shallow_announce tracing _ machine).of_error early)
      by_cases fits : arguments.length = closure.arity
      · have ran := (call_closure_of_fits told fits site).symm.trans failed
        obtain ⟨left, inside⟩ := EvalM.bracket_error_cases ran
        rcases (script_sequence_mild _ _ _).failure_cases inside with ⟨inner, asks, fails⟩ | plain
        · exact ⟨inner, failure, left, .body told fits asks, deep, fails⟩
        · exact absurd deep plain.shallow
      · rw [if_pos fits] at late
        cases late
        cases deep
  | native function =>
      have whole : callNative tracing apply function arguments site machine =
          .error failure after := failed
      rw [callNative] at whole
      rcases EvalM.bind_error_cases whole with early | ⟨_, begun, told, late⟩
      · exact absurd deep ((EvalM.shallow_announce tracing _ machine).of_error early)
      rcases EvalM.bind_error_cases late with inside | ⟨reply, answeredIn, answered, thrown⟩
      · obtain ⟨raised, bracketed, same⟩ := EvalM.adapt_error_cases inside
        obtain ⟨left, invoked⟩ := EvalM.bracket_error_cases bracketed
        rw [same] at deep
        rw [Native.invoke_eq_run] at invoked
        obtain ⟨inner, asks, fails⟩ :=
          (function.dialogue_shallow arguments).asks deep.of_blamed invoked
        exact ⟨inner, raised, left, .callback told asks, deep.of_blamed, fails⟩
      · cases reply with
        | value answer => cases thrown
        | «foreign» kind =>
            cases thrown
            cases deep
  | atom | list | form =>
      rcases EvalM.bind_error_cases failed with early | ⟨described, middle, told, thrown⟩
      · exact absurd deep ((EvalM.shallow_of_text _ machine).of_error early)
      · cases thrown
        cases deep

theorem Application.exhausts_of_too_deep {limit : Nat} {outer : Application}
    (deep : failure.TooDeep)
    (failed : outer.outcome (applyWithin tracing limit) = .error failure after) :
    outer.Exhausts tracing limit := by
  induction limit generalizing outer failure after with
  | zero => exact ⟨outer, .here⟩
  | succ limit ih =>
      obtain ⟨inner, raised, left, makes, deeper, fails⟩ := makes_too_deep deep failed
      exact .of_makes makes (ih deeper fails)

/-- The limit is used up exactly if the recursion is found too deep in the end. -/
theorem exhausts_iff {limit : Nat} {scope : ScopeId} {program : List Expr} :
    Exhausts tracing limit scope program machine ↔
      ∃ failure after, failure.TooDeep ∧
        evaluateWithin tracing limit scope program machine = .error failure after := by
  unfold evaluateWithin
  rw [eval_sequence_eq_run]
  constructor
  · rintro ⟨outer, asks, exhausts⟩
    obtain ⟨failure, after, deep, failed⟩ := exhausts.fails
    exact ⟨failure, after, deep, asks.fails failed⟩
  · rintro ⟨failure, after, deep, failed⟩
    rcases (script_sequence_mild _ _ _).failure_cases failed with ⟨outer, asks, fails⟩ | plain
    · exact ⟨outer, asks, Application.exhausts_of_too_deep deep fails⟩
    · exact absurd deep plain.shallow

end Origin

/-- A larger limit never changes an answer. If the limit is not used up, then with a
larger one the program ends with the same value or failure and leaves the same machine,
with all it has shown, written and bound, and the larger limit is not used up either. The
limit is used up exactly if the program fails because the recursion is too deep, for the
host itself or inside a native function. So an interpreter, with its own limit, evaluates
a program as any other limit has it, if neither of the two is used up. -/
theorem larger_limit_changes_no_answer (tracing : Bool) {limit more : Nat} (larger : limit ≤ more)
    (scope : ScopeId) (program : List Expr) (machine : Machine) (interpreter : Interpreter) :
    (¬ Exhausts tracing limit scope program machine →
      evaluateWithin tracing more scope program machine =
          evaluateWithin tracing limit scope program machine ∧
        ¬ Exhausts tracing more scope program machine) ∧
    (Exhausts tracing limit scope program machine ↔
      ∃ failure after, failure.TooDeep ∧
        evaluateWithin tracing limit scope program machine = .error failure after) ∧
    (∀ other,
      ¬ Exhausts interpreter.options.traceExecution other scope program interpreter.machine →
      ¬ Exhausts interpreter.options.traceExecution recursionLimit scope program
          interpreter.machine →
        interpreter.evaluate scope program =
          interpreter.perform
            (evaluateWithin interpreter.options.traceExecution other scope program)) := by
  refine ⟨fun enough => ?_, exhausts_iff, fun other enough own => ?_⟩
  · have same := evaluate_of_larger larger enough
    refine ⟨same, fun exhausts => enough ?_⟩
    rw [exhausts_iff] at exhausts ⊢
    rwa [same] at exhausts
  · have same : evaluateWithin interpreter.options.traceExecution recursionLimit scope program
        interpreter.machine =
          evaluateWithin interpreter.options.traceExecution other scope program
            interpreter.machine := by
      rcases Nat.le_total other recursionLimit with less | more
      · exact evaluate_of_larger less enough
      · exact (evaluate_of_larger more own).symm
    have evaluated : interpreter.evaluate scope program =
        interpreter.perform
          (evaluateWithin interpreter.options.traceExecution recursionLimit scope program) := rfl
    rw [evaluated]
    simp only [Interpreter.perform, same]

/-- A procedure is mapped over a list of one element. -/
def mappingProgram : List Expr :=
  [.apply none (.reference none "map")
    [.lambda none ["x"] [.reference none "x"], .literal none (.list [.atom .nil])]]

def mappingMachine : Machine :=
  { scopes := Scopes.make {} none globalLocation [("map", .native .map)] }

/-- The call of the procedure nests in that of the native function, so the limit has to be
two. With one the native function takes the fault on itself. -/
theorem larger_limit_changes_no_answer_callback :
    Exhausts false 1 globalScope mappingProgram mappingMachine ∧
      ¬ Exhausts false 2 globalScope mappingProgram mappingMachine ∧
      evaluateWithin false recursionLimit globalScope mappingProgram mappingMachine =
        evaluateWithin false 2 globalScope mappingProgram mappingMachine := by
  have tight := larger_limit_changes_no_answer false (Nat.le_refl 1) globalScope mappingProgram
    mappingMachine {}
  have wide := larger_limit_changes_no_answer false (by decide : 2 ≤ recursionLimit) globalScope
    mappingProgram mappingMachine {}
  have one : ∃ after, evaluateWithin false 1 globalScope mappingProgram mappingMachine =
      .error (.native .recursionTooDeep 0) after := ⟨_, by with_unfolding_all rfl⟩
  have two : ∃ after, evaluateWithin false 2 globalScope mappingProgram mappingMachine =
      .ok (.list [.nil]) after := ⟨_, by with_unfolding_all rfl⟩
  have enough : ¬ Exhausts false 2 globalScope mappingProgram mappingMachine := by
    intro exhausts
    obtain ⟨failure, left, deep, failed⟩ := wide.2.1.mp exhausts
    obtain ⟨after, ended⟩ := two
    rw [ended] at failed
    cases failed
  obtain ⟨after, failed⟩ := one
  exact ⟨tight.2.1.mpr ⟨.native .recursionTooDeep 0, after, rfl, failed⟩, enough, (wide.1 enough).1⟩

end Lisplet
