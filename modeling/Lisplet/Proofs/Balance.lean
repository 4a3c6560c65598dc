import Lisplet.Proofs.Applications
import Lisplet.Proofs.Frame
import Lisplet.Proofs.Runs

/-!
# Calls in progress are balanced

The machine counts procedure calls in progress and keeps the scopes that native
functions in progress were called in. Whatever an evaluation does, and however it ends,
both are afterwards what they were before. So a native function always asks for
applications on behalf of the scope it was called in itself, and between two requests
to an interpreter nothing is in progress.
-/

namespace Lisplet

structure Machine.SameCalls (before after : Machine) : Prop where
  depth : after.depth = before.depth
  sites : after.sites = before.sites

namespace Machine.SameCalls

variable {first second third : Machine}

theorem refl (machine : Machine) : machine.SameCalls machine :=
  ⟨rfl, rfl⟩

theorem trans (left : first.SameCalls second) (right : second.SameCalls third) :
    first.SameCalls third :=
  ⟨right.depth.trans left.depth, right.sites.trans left.sites⟩

end Machine.SameCalls

namespace EvalM

/-- An action leaves the calls in progress as it finds them, also when it fails. -/
def Balanced {Result : Type} (action : EvalM Result) : Prop :=
  ∀ machine, Ensures action machine
    (fun _ after => machine.SameCalls after) (fun _ after => machine.SameCalls after)

variable {Result Other : Type} {action : EvalM Result}

theorem Balanced.same_after (balanced : action.Balanced) (machine : Machine) :
    machine.SameCalls (action.after machine) := by
  unfold after
  cases outcome : action machine with
  | ok value left => exact (balanced machine).of_ok outcome
  | error failure left => exact (balanced machine).of_error outcome

theorem balanced_pure (value : Result) : (pure value : EvalM Result).Balanced :=
  fun machine => .refl machine

theorem balanced_throw (failure : Failure) : (throw failure : EvalM Result).Balanced :=
  fun machine => .refl machine

theorem balanced_bind {next : Result → EvalM Other} (first : action.Balanced)
    (second : ∀ value, (next value).Balanced) : (action >>= next).Balanced := by
  intro machine
  rw [ensures_bind]
  refine (first machine).weaken ?_ fun _ _ same => same
  intro value middle same
  exact (second value middle).weaken (fun _ _ more => same.trans more)
    (fun _ _ more => same.trans more)

theorem balanced_of_quiet {property : Result → Prop} (quiet : Quiet property action) :
    action.Balanced :=
  fun machine => (quiet machine).weaken (fun _ _ ends => ⟨ends.1.depth, ends.1.sites⟩)
    (fun _ _ ends => ⟨ends.1.depth, ends.1.sites⟩)

theorem balanced_of_text (text : Except Unwritable Result) : (ofText text).Balanced :=
  balanced_of_quiet (quiet_of_text text)

theorem balanced_announce (tracing : Bool) (step : Machine → TraceStep) :
    (announce tracing step).Balanced := by
  intro machine
  refine (ensures_announce tracing step machine).weaken ?_ ?_
  · rintro - after (rfl | ⟨text, rfl⟩) <;> exact ⟨rfl, rfl⟩
  · rintro failure after ⟨rfl, -⟩
    exact .refl _

theorem balanced_define (scope : ScopeId) (name : String) (value : Value) :
    (define scope name value).Balanced :=
  fun _ => ⟨rfl, rfl⟩

theorem balanced_make_scope (parent : ScopeId) (location : String)
    (added : List (String × Value)) : (makeScope parent location added).Balanced :=
  fun _ => ⟨rfl, rfl⟩

/-- What is entered for an action is undone after it, since the action leaves it alone. -/
theorem balanced_bracket {enter leave : Machine → Machine}
    (undone : ∀ machine after, (enter machine).SameCalls after → machine.SameCalls (leave after))
    (balanced : action.Balanced) : (bracket enter leave action).Balanced := by
  intro machine
  rw [ensures_bracket]
  exact (balanced (enter machine)).weaken (fun _ after same => undone machine after same)
    (fun _ after same => undone machine after same)

theorem balanced_inside_call (balanced : action.Balanced) : (insideCall action).Balanced := by
  refine balanced_bracket (fun machine after same => ⟨?_, same.sites⟩) balanced
  change after.depth - 1 = machine.depth
  rw [same.depth, Nat.add_sub_cancel]

theorem balanced_inside_native (site : ScopeId) (balanced : action.Balanced) :
    (insideNative site action).Balanced := by
  refine balanced_bracket (fun machine after same => ⟨same.depth, ?_⟩) balanced
  change after.sites.tail = machine.sites
  rw [same.sites, List.tail_cons]

theorem balanced_adapt (change : Failure → Failure) (balanced : action.Balanced) :
    Balanced (action.adaptExcept change) := by
  intro machine
  rw [ensures_adapt]
  exact balanced machine

end EvalM

def Applier.Balanced (apply : Applier) : Prop :=
  ∀ callee arguments site, (apply callee arguments site).Balanced

section Evaluation

variable (tracing : Bool) {apply : Applier}

theorem load_binding_balanced (scope : ScopeId) (name : String) :
    (loadBinding scope name).Balanced := by
  intro machine
  rw [loadBinding, ensures_bind, ensures_get]
  cases machine.scopes.lookup? scope name with
  | some value => exact EvalM.balanced_pure value machine
  | none => exact EvalM.balanced_throw (.unbound name scope) machine

theorem Script.run_balanced (balanced : apply.Balanced) (script : Script) :
    (script.run tracing apply).Balanced := by
  induction script with
  | done value => exact EvalM.balanced_pure value
  | fault cause => exact EvalM.balanced_throw (.host cause)
  | announce step next ih => exact EvalM.balanced_bind (EvalM.balanced_announce tracing step) fun _ => ih
  | load scope name next ih => exact EvalM.balanced_bind (load_binding_balanced scope name) ih
  | define scope name value next ih =>
      exact EvalM.balanced_bind (EvalM.balanced_define scope name value) fun _ => ih
  | apply callee arguments site next ih =>
      exact EvalM.balanced_bind (balanced callee arguments site) ih

theorem eval_balanced (balanced : apply.Balanced) (scope : ScopeId) (expression : Expr) :
    (expression.eval tracing apply scope).Balanced := by
  rw [eval_eq_run]
  exact Script.run_balanced tracing balanced _

theorem eval_sequence_balanced (balanced : apply.Balanced) (scope : ScopeId) (result : Value)
    (program : List Expr) : (evalSequence tracing apply scope result program).Balanced := by
  rw [eval_sequence_eq_run]
  exact Script.run_balanced tracing balanced _

theorem call_back_balanced (balanced : apply.Balanced) (procedure : Value)
    (arguments : List Value) : (callBack apply procedure arguments).Balanced := by
  intro machine
  rw [callBack, ensures_bind, ensures_get]
  cases machine.sites with
  | nil => exact EvalM.balanced_throw (.host .noNativeRunning) machine
  | cons site outer => exact balanced procedure arguments site machine

theorem Dialogue.Tame.run_balanced {dialogue : Dialogue} (tame : dialogue.Tame fun _ => True)
    (balanced : apply.Balanced) : (dialogue.run (callBack apply)).Balanced := by
  induction tame with
  | answer quiet => exact EvalM.balanced_of_quiet quiet
  | ask given passed rest ih =>
      exact EvalM.balanced_bind (call_back_balanced balanced _ _) fun value =>
        ih value value.within_true

theorem call_native_balanced (balanced : apply.Balanced) (function : Native)
    (arguments : List Value) (site : ScopeId) :
    (callNative tracing apply function arguments site).Balanced := by
  have invoked : (Prelude.invoke (callBack apply) function arguments).Balanced := by
    rw [Native.invoke_eq_run]
    exact (function.dialogue_tame_true arguments).run_balanced balanced
  refine EvalM.balanced_bind (EvalM.balanced_announce tracing _) fun _ => ?_
  refine EvalM.balanced_bind
    (EvalM.balanced_adapt _ (EvalM.balanced_inside_native site invoked)) fun reply => ?_
  cases reply with
  | value answer => exact EvalM.balanced_pure answer
  | «foreign» kind => exact EvalM.balanced_throw _

theorem call_closure_balanced (balanced : apply.Balanced) (closure : Closure)
    (arguments : List Value) (site : ScopeId) :
    (callClosure tracing apply closure arguments site).Balanced := by
  refine EvalM.balanced_bind (EvalM.balanced_announce tracing _) fun _ => ?_
  split_ifs
  · exact EvalM.balanced_throw _
  · exact EvalM.balanced_bind (EvalM.balanced_make_scope _ _ _) fun scope =>
      EvalM.balanced_inside_call (eval_sequence_balanced tracing balanced scope .nil closure.body)

theorem apply_with_balanced (balanced : apply.Balanced) : (applyWith tracing apply).Balanced := by
  intro callee arguments site
  cases callee with
  | closure closure => exact call_closure_balanced tracing balanced closure arguments site
  | native function => exact call_native_balanced tracing balanced function arguments site
  | atom | list | form =>
      exact EvalM.balanced_bind (EvalM.balanced_of_text _) fun _ => EvalM.balanced_throw _

theorem apply_within_balanced (limit : Nat) : (applyWithin tracing limit).Balanced := by
  induction limit with
  | zero => exact fun _ _ _ => EvalM.balanced_throw _
  | succ limit ih => exact apply_with_balanced tracing ih

end Evaluation

section Callbacks

variable {tracing : Bool} {apply : Applier}

/-- While its earlier requests are balanced, a dialogue asks for applications with the
calls in progress that it started with. -/
theorem Dialogue.Asks.same_calls (balanced : apply.Balanced) {dialogue : Dialogue}
    {machine : Machine} {inner : Application} (asks : dialogue.Asks apply machine inner) :
    machine.SameCalls inner.machine ∧ inner.machine.sites.head? = some inner.site := by
  induction asks with
  | here inside => exact ⟨.refl _, by rw [inside, List.head?_cons]⟩
  | @called procedure value arguments next machine after application result rest ih =>
      have same := (call_back_balanced balanced procedure arguments machine).of_ok result
      exact ⟨same.trans ih.1, ih.2⟩

theorem Application.Makes.callback_site (balanced : apply.Balanced) {outer inner : Application}
    {function : Native} (native : outer.callee = .native function)
    (makes : outer.Makes tracing apply inner) :
    inner.site = outer.site ∧ inner.machine.depth = outer.machine.depth ∧
      inner.machine.sites = outer.site :: outer.machine.sites := by
  cases makes with
  | body => cases native
  | @callback function arguments site machine begun inner told asks =>
      -- The announcement and all earlier requests left the calls in progress alone.
      obtain ⟨same, called⟩ := asks.same_calls balanced
      have begins := (EvalM.balanced_announce tracing _ machine).of_ok told
      have sites : inner.machine.sites = site :: machine.sites := by
        rw [same.sites, ← begins.sites]
        rfl
      rw [sites, List.head?_cons, Option.some.injEq] at called
      exact ⟨called.symm, same.depth.trans begins.depth, sites⟩

/-- An applier that takes one scope for the scope of every call. -/
def Applier.calledFrom (apply : Applier) (site : ScopeId) : Applier :=
  fun callee arguments _ => apply callee arguments site

theorem Dialogue.Tame.run_called_from {dialogue : Dialogue} (tame : dialogue.Tame fun _ => True)
    (balanced : apply.Balanced) {machine : Machine} {site : ScopeId} {outer : List ScopeId}
    (inside : machine.sites = site :: outer) :
    dialogue.run (callBack (apply.calledFrom site)) machine =
      dialogue.run (callBack apply) machine := by
  induction tame generalizing machine with
  | answer quiet => rfl
  | @ask procedure arguments next given passed rest ih =>
      simp only [Dialogue.run]
      -- This request is made from `site`, and it leaves `site` on top for the next one.
      have called : callBack (apply.calledFrom site) procedure arguments machine =
          callBack apply procedure arguments machine := by
        rw [call_back_of_inside inside, call_back_of_inside inside, Applier.calledFrom]
      cases outcome : callBack apply procedure arguments machine with
      | error failure after => rw [EvalM.bind_error outcome, EvalM.bind_error (called.trans outcome)]
      | ok value after =>
          have same := (call_back_balanced balanced procedure arguments machine).of_ok outcome
          rw [EvalM.bind_ok outcome, EvalM.bind_ok (called.trans outcome)]
          exact ih value value.within_true (same.sites.trans inside)

/-- It makes no difference to a native function if the applications it asks for are made
from the scope it was called in, whatever happens in those applications. -/
theorem call_native_called_from (balanced : apply.Balanced) (function : Native)
    (arguments : List Value) (site : ScopeId) :
    callNative tracing (apply.calledFrom site) function arguments site =
      callNative tracing apply function arguments site := by
  have invoked :
      EvalM.insideNative site
          (Prelude.invoke (callBack (apply.calledFrom site)) function arguments) =
        EvalM.insideNative site (Prelude.invoke (callBack apply) function arguments) := by
    funext machine
    unfold EvalM.insideNative EvalM.bracket
    have tame := function.dialogue_tame_true arguments
    rw [Native.invoke_eq_run, Native.invoke_eq_run, tame.run_called_from balanced rfl]
  rw [callNative, callNative, invoked]

end Callbacks

inductive Demand where
  | runIn (scope : ScopeId) (source : String)
  | runFile (path : String)
  | evaluateTree (expression : Expr)
  | apply (callee : Value) (arguments : List Value)
  | applyFromNative (callee : Value) (arguments : List Value)
  | define (name : String) (value : Value)
  | install (functions : List Native)
  | deliver
  | watch (watcher : Watcher)

namespace Interpreter

/-- The interpreter once it has met a demand, successfully or not. -/
def meet (interpreter : Interpreter) : Demand → Interpreter
  | .runIn scope source => (interpreter.runIn scope source).2
  | .runFile path => (interpreter.runFile path).2
  | .evaluateTree expression => (interpreter.evaluateTree expression).2
  | .apply callee arguments => (interpreter.apply callee arguments).2
  | .applyFromNative callee arguments => (interpreter.applyFromNative callee arguments).2
  | .define name value => interpreter.define name value
  | .install functions => interpreter.install functions
  | .deliver => interpreter.deliver.2
  | .watch watcher => { interpreter with watcher }

def meetAll (interpreter : Interpreter) (demands : List Demand) : Interpreter :=
  demands.foldl meet interpreter

variable (interpreter : Interpreter)

theorem perform_same_calls {Result : Type} {action : EvalM Result} (balanced : action.Balanced) :
    interpreter.machine.SameCalls (interpreter.perform action).2.machine := by
  rw [perform_machine]
  exact balanced.same_after interpreter.machine

theorem applier_balanced : interpreter.applier.Balanced :=
  apply_within_balanced _ _

theorem run_in_same_calls (scope : ScopeId) (source : String) :
    interpreter.machine.SameCalls (interpreter.runIn scope source).2.machine := by
  unfold runIn
  cases parseSource source with
  | error error => exact .refl _
  | ok program =>
      exact interpreter.perform_same_calls
        (eval_sequence_balanced _ interpreter.applier_balanced scope .nil program)

theorem run_file_same_calls (path : String) :
    interpreter.machine.SameCalls (interpreter.runFile path).2.machine := by
  unfold runFile
  cases interpreter.machine.files.readText path with
  | error fault => exact .refl _
  | ok source => exact interpreter.run_in_same_calls globalScope source

theorem meet_same_calls (demand : Demand) :
    interpreter.machine.SameCalls (interpreter.meet demand).machine := by
  have balanced := interpreter.applier_balanced
  cases demand with
  | runIn scope source => exact interpreter.run_in_same_calls scope source
  | runFile path => exact interpreter.run_file_same_calls path
  | evaluateTree expression =>
      exact interpreter.perform_same_calls (eval_balanced _ balanced globalScope expression)
  | apply callee arguments =>
      exact interpreter.perform_same_calls (balanced callee arguments globalScope)
  | applyFromNative callee arguments =>
      exact interpreter.perform_same_calls (call_back_balanced balanced callee arguments)
  | define | install | deliver | watch => exact ⟨rfl, rfl⟩

theorem meet_all_same_calls (demands : List Demand) :
    interpreter.machine.SameCalls (interpreter.meetAll demands).machine := by
  induction demands generalizing interpreter with
  | nil => exact .refl _
  | cons demand rest ih => exact (interpreter.meet_same_calls demand).trans (ih (interpreter.meet demand))

theorem apply_from_native_refused (idle : interpreter.machine.sites = []) (callee : Value)
    (arguments : List Value) :
    interpreter.applyFromNative callee arguments =
      (.error (.failed (.host .noNativeRunning)), interpreter) := by
  unfold applyFromNative perform
  rw [call_back_of_idle idle]
  rfl

end Interpreter

/-- The calls in progress are balanced on every path: evaluating an expression or a
sequence, applying a value, and applying one on behalf of a native function leave them as
they were, in any state and with any outcome. So all applications that a native function
asks for are made from the scope it was called in, with exactly its own call added to
those in progress. And between the demands of a session, whatever came of them, no call
is in progress: nothing can then be applied on behalf of a native function. -/
theorem calls_in_progress_restored :
    (∀ (tracing : Bool) (limit : Nat) (machine : Machine),
      (∀ scope expression, machine.SameCalls
        ((Expr.eval tracing (applyWithin tracing limit) scope expression).after machine)) ∧
      (∀ scope result program, machine.SameCalls
        ((evalSequence tracing (applyWithin tracing limit) scope result program).after machine)) ∧
      (∀ callee arguments site, machine.SameCalls
        ((applyWithin tracing limit callee arguments site).after machine)) ∧
      (∀ callee arguments, machine.SameCalls
        ((callBack (applyWithin tracing limit) callee arguments).after machine))) ∧
    (∀ (tracing : Bool) (limit : Nat),
      (∀ function arguments site,
        callNative tracing ((applyWithin tracing limit).calledFrom site) function arguments site =
          callNative tracing (applyWithin tracing limit) function arguments site) ∧
      (∀ (outer inner : Application) (function : Native), outer.callee = .native function →
        outer.Makes tracing (applyWithin tracing limit) inner →
          inner.site = outer.site ∧ inner.machine.depth = outer.machine.depth ∧
            inner.machine.sites = outer.site :: outer.machine.sites)) ∧
    (∀ options watcher files demands,
      ((Interpreter.start options watcher files).meetAll demands).machine.depth = 0 ∧
      ((Interpreter.start options watcher files).meetAll demands).machine.sites = [] ∧
      ∀ callee arguments,
        ((Interpreter.start options watcher files).meetAll demands).applyFromNative callee
            arguments =
          (.error (.failed (.host .noNativeRunning)),
            (Interpreter.start options watcher files).meetAll demands)) ∧
    (RunError.failed (.host .noNativeRunning)).label = "RuntimeError" := by
  refine ⟨fun tracing limit machine => ?_, fun tracing limit => ?_,
    fun options watcher files demands => ?_, rfl⟩
  · have balanced := apply_within_balanced tracing limit
    exact ⟨fun scope expression =>
        (eval_balanced tracing balanced scope expression).same_after machine,
      fun scope result program =>
        (eval_sequence_balanced tracing balanced scope result program).same_after machine,
      fun callee arguments site => (balanced callee arguments site).same_after machine,
      fun callee arguments => (call_back_balanced balanced callee arguments).same_after machine⟩
  · have balanced := apply_within_balanced tracing limit
    exact ⟨call_native_called_from balanced, fun outer inner function native makes =>
      makes.callback_site balanced native⟩
  · have same := (Interpreter.start options watcher files).meet_all_same_calls demands
    have idle : ((Interpreter.start options watcher files).meetAll demands).machine.sites = [] :=
      same.sites
    exact ⟨same.depth, idle, Interpreter.apply_from_native_refused _ idle⟩

/-- The second request of a native function, after a procedure was called for the
first. -/
theorem calls_in_progress_restored_second_request :
    ∃ outer inner : Application, outer.callee = .native .map ∧
      outer.Makes false (applyWithin false 1) inner ∧ inner.machine.scopes.size = 1 ∧
      inner.site = outer.site ∧ inner.machine.depth = outer.machine.depth ∧
        inner.machine.sites = outer.site :: outer.machine.sites := by
  let closure : Closure := ⟨0, "f", ["x"], []⟩
  let outer : Application := ⟨.native .map, [.closure closure, .list [.nil, .nil]], 7, {}⟩
  have makes : outer.Makes false (applyWithin false 1)
      ⟨.closure closure, [.nil], 7, ((outer.machine.inNative 7).inScope closure [.nil])⟩ :=
    .callback rfl (.called rfl (.here rfl))
  exact ⟨outer, _, rfl, makes, rfl,
    (calls_in_progress_restored.2.1 false 1).2 _ _ .map rfl makes⟩

end Lisplet
