import Lisplet.Proofs.PassThrough
import Lisplet.Proofs.TraceTexts
import Mathlib.Data.List.Chain

/-!
# Trace messages are nested

With tracing on, a procedure call is announced at the depth of its caller, and everything
that is announced while it is in progress is deeper. So the messages of an evaluation are
nested, whatever it does and however it ends: behind the message of a call come those of
its body, one deeper, and then the depth is what it was before.
-/

namespace Lisplet

def callMessage (depth : Nat) (closure : Closure) : TraceEntry :=
  ⟨depth, .call closure, "procedure " ++ closure.describe⟩

/-- The messages of an evaluation with so many calls in progress: messages at that depth,
and behind the message of a call those of its body, one deeper. -/
inductive CallLog : Nat → List TraceEntry → Prop where
  | nil {depth : Nat} : CallLog depth []
  | step {depth : Nat} {entry : TraceEntry} {log : List TraceEntry} (level : entry.depth = depth)
      (rest : CallLog depth log) : CallLog depth (entry :: log)
  | call {depth : Nat} {closure : Closure} {inner log : List TraceEntry}
      (body : CallLog (depth + 1) inner) (rest : CallLog depth log) :
      CallLog depth (callMessage depth closure :: (inner ++ log))

/-- A message may follow another: it is deeper only by one, and only behind the message
of a call. -/
def TraceEntry.Leads (before after : TraceEntry) : Prop :=
  before.depth < after.depth →
    after.depth = before.depth + 1 ∧ ∃ closure, before = callMessage before.depth closure

namespace CallLog

variable {depth : Nat} {log more : List TraceEntry}

theorem append (first : CallLog depth log) (second : CallLog depth more) :
    CallLog depth (log ++ more) := by
  induction first with
  | nil => exact second
  | step level _ ih => exact .step level (ih second)
  | call body _ _ ih =>
      rw [List.cons_append, List.append_assoc]
      exact .call body (ih second)

theorem head_depth (nested : CallLog depth log) : ∀ entry ∈ log.head?, entry.depth = depth := by
  cases nested with
  | nil => exact fun _ member => by cases member
  | step level =>
      rintro _ ⟨⟩
      exact level
  | call =>
      rintro _ ⟨⟩
      rfl

theorem le_depth (nested : CallLog depth log) : ∀ entry ∈ log, depth ≤ entry.depth := by
  induction nested with
  | nil => exact fun _ member => by cases member
  | step level _ ih => exact List.forall_mem_cons.mpr ⟨level.ge, ih⟩
  | call _ _ deeper ih =>
      refine List.forall_mem_cons.mpr ⟨Nat.le_refl _, fun entry member => ?_⟩
      rcases List.mem_append.mp member with inner | later
      · exact Nat.le_of_succ_le (deeper entry inner)
      · exact ih entry later

theorem chain (nested : CallLog depth log) : log.IsChain TraceEntry.Leads := by
  induction nested with
  | nil => exact .nil
  | step level rest ih =>
      refine List.isChain_cons.mpr ⟨fun next member deeper => ?_, ih⟩
      rw [rest.head_depth next member, level] at deeper
      exact absurd deeper (Nat.lt_irrefl _)
  | @call depth closure inner log body rest inside ih =>
      have after (next : TraceEntry) (member : next ∈ log.head?) (before : TraceEntry)
          (level : depth ≤ before.depth) : before.Leads next := by
        intro deeper
        rw [rest.head_depth next member] at deeper
        exact absurd deeper (Nat.not_lt.mpr level)
      refine List.isChain_cons.mpr ⟨fun next member => ?_, ?_⟩
      · cases inner with
        | nil => exact after next member _ (Nat.le_refl _)
        | cons first others =>
            cases member
            exact fun _ => ⟨body.head_depth _ rfl, closure, rfl⟩
      · refine List.isChain_append.mpr ⟨inside, ih, fun last ends next member => ?_⟩
        exact after next member last
          (Nat.le_of_succ_le (body.le_depth last (List.mem_of_getLast? ends)))

/-- Messages that begin deeper than those behind them are all the deeper ones that come
first. -/
theorem take_deeper (nested : CallLog (depth + 1) log)
    (level : ∀ entry ∈ more.head?, entry.depth ≤ depth) :
    (log ++ more).takeWhile (depth < ·.depth) = log := by
  have deeper (entry : TraceEntry) (member : entry ∈ log) : decide (depth < entry.depth) = true :=
    decide_eq_true (nested.le_depth entry member)
  rw [List.takeWhile_append_of_pos deeper]
  cases more with
  | nil => exact List.append_nil _
  | cons entry more =>
      rw [List.takeWhile_cons_of_neg (by simpa using level entry rfl), List.append_nil]

end CallLog

/-- An evaluation may lead from one machine to another: as many calls are in progress,
and the messages told in between are nested. -/
structure Machine.Continues (before after : Machine) : Prop where
  depth : after.depth = before.depth
  told : ∃ log, after.messages = before.messages ++ log ∧ CallLog before.depth log

namespace Machine.Continues

variable {first second third : Machine}

theorem of_silent (depth : second.depth = first.depth) (silent : second.messages = first.messages) :
    first.Continues second :=
  ⟨depth, [], silent.trans (List.append_nil _).symm, .nil⟩

theorem trans (before : first.Continues second) (after : second.Continues third) :
    first.Continues third := by
  obtain ⟨sameBefore, log, told, nested⟩ := before
  obtain ⟨sameAfter, more, toldMore, nestedMore⟩ := after
  rw [sameBefore] at nestedMore
  refine ⟨sameAfter.trans sameBefore, log ++ more, ?_, nested.append nestedMore⟩
  rw [toldMore, told, List.append_assoc]

end Machine.Continues

namespace EvalM

/-- The messages that the action tells are nested, however it ends. -/
def Nested {Result : Type} (action : EvalM Result) : Prop :=
  ∀ machine : Machine, Ensures action machine
    (fun _ after => machine.Continues after) (fun _ after => machine.Continues after)

variable {Result Other : Type} {action : EvalM Result}

theorem Nested.after (nested : action.Nested) (machine : Machine) :
    machine.Continues (action.after machine) :=
  ensures_iff_after.mp (nested machine)

theorem nested_of_silent (balanced : action.Balanced) (silent : action.Silent) :
    action.Nested := by
  intro machine
  have same := balanced machine
  have told := silent machine
  unfold Ensures at same told ⊢
  cases outcome : action machine <;> rw [outcome] at same told <;>
    exact .of_silent same.depth told

theorem nested_pure (value : Result) : (pure value : EvalM Result).Nested :=
  fun _ => .of_silent rfl rfl

theorem nested_throw (failure : Failure) : (throw failure : EvalM Result).Nested :=
  fun _ => .of_silent rfl rfl

theorem nested_bind {next : Result → EvalM Other} (first : action.Nested)
    (second : ∀ value, (next value).Nested) : (action >>= next).Nested := by
  intro machine
  rw [ensures_bind]
  refine (first machine).weaken ?_ fun _ _ continues => continues
  intro value middle continues
  exact (second value middle).weaken (fun _ _ more => continues.trans more)
    (fun _ _ more => continues.trans more)

theorem nested_announce (tracing : Bool) (step : Machine → TraceStep) :
    (announce tracing step).Nested := by
  intro machine
  refine (ensures_announce tracing step machine).weaken ?_ ?_
  · rintro - after (rfl | ⟨text, rfl⟩)
    · exact .of_silent rfl rfl
    · exact ⟨rfl, _, machine.messages_push _, .step rfl .nil⟩
  · rintro failure after ⟨rfl, -⟩
    exact .of_silent rfl rfl

theorem nested_load (scope : ScopeId) (name : String) : (loadBinding scope name).Nested :=
  nested_of_silent (load_binding_balanced scope name) (silent_load scope name)

theorem nested_define (scope : ScopeId) (name : String) (value : Value) :
    (define scope name value).Nested :=
  nested_of_silent (balanced_define scope name value) fun _ => rfl

theorem nested_inside_native (site : ScopeId) (nested : action.Nested) :
    (insideNative site action).Nested := by
  intro machine
  rw [insideNative, ensures_bracket]
  exact (nested _).weaken (fun _ _ inside => ⟨inside.depth, inside.told⟩)
    (fun _ _ inside => ⟨inside.depth, inside.told⟩)

theorem nested_adapt (change : Failure → Failure) (nested : action.Nested) :
    EvalM.Nested (action.adaptExcept change) := by
  intro machine
  rw [ensures_adapt]
  exact nested machine

section After

variable {machine middle : Machine}

theorem after_of_eq {other : EvalM Result} (same : action machine = other middle) :
    action.after machine = other.after middle := by
  unfold after
  rw [same]

theorem after_of_ok {value : Result} (ran : action machine = .ok value middle) :
    action.after machine = middle := by
  unfold after
  rw [ran]

theorem after_of_error {failure : Failure} (failed : action machine = .error failure middle) :
    action.after machine = middle := by
  unfold after
  rw [failed]

theorem after_bind_ok {value : Result} (ran : action machine = .ok value middle)
    (next : Result → EvalM Other) : (action >>= next).after machine = (next value).after middle :=
  after_of_eq (bind_ok ran next)

theorem after_bracket (enter leave : Machine → Machine) :
    (bracket enter leave action).after machine = leave (action.after (enter machine)) := by
  unfold after bracket
  cases action (enter machine) <;> rfl

theorem after_adapt (change : Failure → Failure) :
    EvalM.after (action.adaptExcept change) machine = action.after machine := by
  unfold after EStateM.adaptExcept
  cases action machine <;> rfl

end After

end EvalM

def Applier.Nested (apply : Applier) : Prop :=
  ∀ callee arguments site, (apply callee arguments site).Nested

section Evaluation

variable {apply : Applier}

theorem Script.run_nested (applied : apply.Nested) (script : Script) :
    (script.run true apply).Nested := by
  induction script with
  | done value => exact EvalM.nested_pure value
  | fault cause => exact EvalM.nested_throw (.host cause)
  | announce step next ih => exact EvalM.nested_bind (EvalM.nested_announce true step) fun _ => ih
  | load scope name next ih => exact EvalM.nested_bind (EvalM.nested_load scope name) ih
  | define scope name value next ih =>
      exact EvalM.nested_bind (EvalM.nested_define scope name value) fun _ => ih
  | apply callee arguments site next ih =>
      exact EvalM.nested_bind (applied callee arguments site) ih

theorem call_back_nested (applied : apply.Nested) (procedure : Value) (arguments : List Value) :
    (callBack apply procedure arguments).Nested := by
  intro machine
  rw [callBack, ensures_bind, ensures_get]
  cases machine.sites with
  | nil => exact EvalM.nested_throw (.host .noNativeRunning) machine
  | cons site outer => exact applied procedure arguments site machine

theorem Dialogue.Silent.run_nested {dialogue : Dialogue} (silent : dialogue.Silent)
    (tame : dialogue.Tame fun _ => True) (applied : apply.Nested) :
    (dialogue.run (callBack apply)).Nested := by
  induction silent with
  | answer silent =>
      cases tame with
      | answer quiet => exact EvalM.nested_of_silent (EvalM.balanced_of_quiet quiet) silent
  | ask _ ih =>
      cases tame with
      | ask _ _ rest =>
          exact EvalM.nested_bind (call_back_nested applied _ _) fun value =>
            ih value (rest value value.within_true)

theorem call_native_nested (applied : apply.Nested) (function : Native) (arguments : List Value)
    (site : ScopeId) : (callNative true apply function arguments site).Nested := by
  have invoked : (Prelude.invoke (callBack apply) function arguments).Nested := by
    rw [Native.invoke_eq_run]
    exact (function.dialogue_silent arguments).run_nested (function.dialogue_tame_true arguments)
      applied
  refine EvalM.nested_bind (EvalM.nested_announce true _) fun _ => ?_
  refine EvalM.nested_bind (EvalM.nested_adapt _ (EvalM.nested_inside_native site invoked))
    fun reply => ?_
  cases reply with
  | value answer => exact EvalM.nested_pure answer
  | «foreign» kind => exact EvalM.nested_throw _

theorem call_closure_messages {closure : Closure} {arguments : List Value} {machine begun : Machine}
    (told : EvalM.announce true (fun _ => .call closure) machine = .ok () begun)
    (fits : arguments.length = closure.arity) (site : ScopeId) :
    ((callClosure true apply closure arguments site).after machine).messages =
      (((scriptSequence begun.scopes.size .nil closure.body).run true apply).after
        (begun.inScope closure arguments).inCall).messages := by
  rw [EvalM.after_of_eq (call_closure_of_fits told fits site), EvalM.insideCall,
    EvalM.after_bracket]
  rfl

theorem call_native_messages {function : Native} {arguments : List Value} {machine begun : Machine}
    (told : EvalM.announce true (fun _ => .native function arguments) machine = .ok () begun)
    (site : ScopeId) :
    ((callNative true apply function arguments site).after machine).messages =
      (((function.dialogue arguments).run (callBack apply)).after
        (begun.inNative site)).messages := by
  let held := (EvalM.insideNative site
    (Prelude.invoke (callBack apply) function arguments)).adaptExcept (blameNative site)
  have ends : (callNative true apply function arguments site).after machine =
      EvalM.after held begun := by
    rw [callNative, EvalM.after_bind_ok told]
    cases outcome : held begun with
    | ok reply middle =>
        rw [EvalM.after_bind_ok outcome, EvalM.after_of_ok outcome]
        cases reply <;> rfl
    | error failure middle =>
        rw [EvalM.after_of_error (EvalM.bind_error outcome _), EvalM.after_of_error outcome]
  rw [ends, EvalM.after_adapt, EvalM.insideNative, EvalM.after_bracket, Native.invoke_eq_run]
  rfl

/-- The machine once a call of a procedure is announced. -/
def Machine.calling (machine : Machine) (closure : Closure) : Machine :=
  { machine with events := machine.events.push (.trace (callMessage machine.depth closure)) }

theorem Machine.messages_calling (machine : Machine) (closure : Closure) :
    (machine.calling closure).messages =
      machine.messages ++ [callMessage machine.depth closure] :=
  machine.messages_push _

theorem announce_call (closure : Closure) (machine : Machine) :
    EvalM.announce true (fun _ => .call closure) machine = .ok () (machine.calling closure) :=
  rfl

theorem call_closure_of_unfit {closure : Closure} {arguments : List Value}
    (unfit : arguments.length ≠ closure.arity) (site : ScopeId) (machine : Machine) :
    (callClosure true apply closure arguments site).after machine = machine.calling closure := by
  rw [callClosure, EvalM.after_bind_ok (announce_call closure machine), if_pos unfit]
  rfl

/-- A call tells its own message first, at the depth of its caller, and then only what its
body tells, one deeper. A call with the wrong number of arguments tells nothing more. -/
theorem call_closure_tells (applied : apply.Nested) (closure : Closure) (arguments : List Value)
    (site : ScopeId) (machine : Machine) :
    ∃ during,
      ((callClosure true apply closure arguments site).after machine).messages =
        machine.messages ++ callMessage machine.depth closure :: during ∧
      CallLog (machine.depth + 1) during ∧
      (arguments.length ≠ closure.arity → during = []) := by
  by_cases fits : arguments.length = closure.arity
  · obtain ⟨-, during, more, nested⟩ := (Script.run_nested applied
      (scriptSequence (machine.calling closure).scopes.size .nil closure.body)).after
        ((machine.calling closure).inScope closure arguments).inCall
    refine ⟨during, ?_, nested, fun unfit => absurd fits unfit⟩
    have start : ((machine.calling closure).inScope closure arguments).inCall.messages =
        (machine.calling closure).messages := rfl
    rw [call_closure_messages (announce_call closure machine) fits, more, start,
      machine.messages_calling, List.append_assoc]
    rfl
  · refine ⟨[], ?_, .nil, fun _ => rfl⟩
    rw [call_closure_of_unfit fits, machine.messages_calling]

theorem apply_with_nested (balanced : apply.Balanced) (applied : apply.Nested) :
    (applyWith true apply).Nested := by
  intro callee arguments site
  cases callee with
  | closure closure =>
      intro machine
      rw [EvalM.ensures_iff_after]
      obtain ⟨during, told, nested, -⟩ := call_closure_tells applied closure arguments site machine
      have same := (call_closure_balanced true balanced closure arguments site).same_after machine
      refine ⟨same.depth, _, told, ?_⟩
      rw [← List.append_nil during]
      exact .call nested .nil
  | native function => exact call_native_nested applied function arguments site
  | atom | list | form =>
      exact EvalM.nested_bind
        (EvalM.nested_of_silent (EvalM.balanced_of_text _) (EvalM.silent_of_text _))
        fun _ => EvalM.nested_throw _

theorem apply_within_nested (limit : Nat) : (applyWithin true limit).Nested := by
  induction limit with
  | zero => exact fun _ _ _ => EvalM.nested_throw _
  | succ limit ih => exact apply_with_nested (apply_within_balanced true limit) ih

end Evaluation

end Lisplet
