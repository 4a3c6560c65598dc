import Lisplet.Machine.Basic
import Mathlib.Tactic.Common

/-!
# Reasoning about outcomes

An action ends with a value or with an error, and leaves a state either way.
`Ensures` says what holds of both endings. It goes through sequencing and through
the primitives of the machine by the equivalences below, so that proofs about
evaluation never look inside the monad.
-/

namespace Lisplet

section General

variable {Error State Value Result : Type}

/-- Run from a state, an action ends with a value for which `done` holds or with
an error for which `failed` holds, each together with the state it leaves. -/
def Ensures (action : EStateM Error State Value) (state : State)
    (done : Value → State → Prop) (failed : Error → State → Prop) : Prop :=
  match action state with
  | .ok value after => done value after
  | .error error after => failed error after

variable {action : EStateM Error State Value} {state : State}
  {done done' : Value → State → Prop} {failed failed' : Error → State → Prop}

theorem Ensures.weaken (ensures : Ensures action state done failed)
    (good : ∀ value after, done value after → done' value after)
    (bad : ∀ error after, failed error after → failed' error after) :
    Ensures action state done' failed' := by
  unfold Ensures at ensures ⊢
  cases outcome : action state with
  | ok value after =>
      rw [outcome] at ensures
      exact good value after ensures
  | error error after =>
      rw [outcome] at ensures
      exact bad error after ensures

theorem Ensures.of_ok (ensures : Ensures action state done failed) {value : Value} {after : State}
    (ran : action state = .ok value after) : done value after := by
  unfold Ensures at ensures
  rw [ran] at ensures
  exact ensures

theorem Ensures.of_error (ensures : Ensures action state done failed) {error : Error}
    {after : State} (ran : action state = .error error after) : failed error after := by
  unfold Ensures at ensures
  rw [ran] at ensures
  exact ensures

theorem ensures_pure (value : Value) :
    Ensures (pure value : EStateM Error State Value) state done failed ↔ done value state :=
  Iff.rfl

theorem ensures_bind {next : Value → EStateM Error State Result} {done : Result → State → Prop} :
    Ensures (action >>= next) state done failed ↔
      Ensures action state (fun value after => Ensures (next value) after done failed) failed := by
  unfold Ensures
  change (match EStateM.bind action next state with
    | .ok value after => done value after
    | .error error after => failed error after) ↔ _
  unfold EStateM.bind
  cases action state <;> rfl

theorem ensures_map {change : Value → Result} {done : Result → State → Prop} :
    Ensures (change <$> action) state done failed ↔
      Ensures action state (fun value => done (change value)) failed := by
  unfold Ensures
  change (match EStateM.map change action state with
    | .ok value after => done value after
    | .error error after => failed error after) ↔ _
  unfold EStateM.map
  cases action state <;> rfl

theorem ensures_get {done : State → State → Prop} :
    Ensures (get : EStateM Error State State) state done failed ↔ done state state :=
  Iff.rfl

theorem ensures_set {done : PUnit → State → Prop} (next : State) :
    Ensures (set next : EStateM Error State PUnit) state done failed ↔ done ⟨⟩ next :=
  Iff.rfl

theorem ensures_modify {done : PUnit → State → Prop} (change : State → State) :
    Ensures (modify change : EStateM Error State PUnit) state done failed ↔
      done ⟨⟩ (change state) :=
  Iff.rfl

theorem ensures_modify_get (change : State → Value × State) :
    Ensures (modifyGet change : EStateM Error State Value) state done failed ↔
      done (change state).1 (change state).2 :=
  Iff.rfl

theorem ensures_adapt {Other : Type} {change : Error → Other} {failed : Other → State → Prop} :
    Ensures (action.adaptExcept change) state done failed ↔
      Ensures action state done (fun error => failed (change error)) := by
  unfold Ensures EStateM.adaptExcept
  cases action state <;> rfl

end General

namespace EvalM

variable {Value : Type} {machine : Machine} {done : Value → Machine → Prop}
  {failed : Failure → Machine → Prop}

theorem ensures_of_except (result : Except Fault Value) :
    Ensures (ofExcept result) machine done failed ↔
      match result with
      | .ok value => done value machine
      | .error cause => failed (.host cause) machine := by
  cases result <;> rfl

theorem ensures_of_text (result : Except Unwritable Value) :
    Ensures (ofText result) machine done failed ↔
      match result with
      | .ok value => done value machine
      | .error reason => failed (.host (.unwritable reason)) machine := by
  cases result <;> rfl

theorem ensures_bracket (enter leave : Machine → Machine) (action : EvalM Value) :
    Ensures (bracket enter leave action) machine done failed ↔
      Ensures action (enter machine) (fun value after => done value (leave after))
        (fun failure after => failed failure (leave after)) := by
  unfold Ensures bracket
  cases action (enter machine) <;> rfl

end EvalM

/-- The evaluation that a step announces: the expression, and the location it is
evaluated in. -/
def TraceStep.visit? : TraceStep → Option (Expr × String)
  | .visit expression location => some (expression, location)
  | _ => none

def Event.visit? : Event → Option (Expr × String)
  | .trace entry => entry.step.visit?
  | .display _ => none

def Machine.announced (machine : Machine) : List (Expr × String) :=
  machine.events.toList.filterMap Event.visit?

theorem Machine.announced_push (machine : Machine) (event : Event) :
    { machine with events := machine.events.push event }.announced =
      machine.announced ++ event.visit?.toList := by
  unfold announced
  rw [Array.toList_push, List.filterMap_append]
  cases seen : event.visit? <;> simp [seen]

/-- Scopes, calls in progress and announced evaluations are the same. -/
structure Machine.SameControl (before after : Machine) : Prop where
  scopes : after.scopes = before.scopes
  sites : after.sites = before.sites
  depth : after.depth = before.depth
  announced : after.announced = before.announced

theorem Machine.SameControl.refl (machine : Machine) : machine.SameControl machine :=
  ⟨rfl, rfl, rfl, rfl⟩

theorem Machine.SameControl.push (machine : Machine) {event : Event}
    (silent : event.visit? = none) :
    machine.SameControl { machine with events := machine.events.push event } := by
  refine ⟨rfl, rfl, rfl, ?_⟩
  rw [announced_push, silent, Option.toList_none, List.append_nil]

theorem Machine.SameControl.settled (machine : Machine) : machine.SameControl machine.settled := by
  unfold Machine.settled
  split <;> exact ⟨rfl, rfl, rfl, rfl⟩

/-- An action that leaves control alone and ends with a value that has a property or
with a fault of the host. -/
def Quiet {Result : Type} (property : Result → Prop) (action : EvalM Result) : Prop :=
  ∀ machine, Ensures action machine
    (fun value after => machine.SameControl after ∧ property value)
    (fun failure after => machine.SameControl after ∧ ∃ cause, failure = .host cause)

section Quiet

variable {Result : Type} {property : Result → Prop}

theorem quiet_fault (cause : Fault) : Quiet property (EvalM.fault cause) :=
  fun machine => ⟨.refl machine, cause, rfl⟩

theorem quiet_of_text (result : Except Unwritable Result) :
    Quiet (fun _ => True) (EvalM.ofText result) := by
  intro machine
  cases result with
  | ok value => exact ⟨.refl machine, trivial⟩
  | error reason => exact ⟨.refl machine, _, rfl⟩

theorem ensures_announce (tracing : Bool) (step : Machine → TraceStep) (machine : Machine) :
    Ensures (EvalM.announce tracing step) machine
      (fun _ after => after = machine ∨ ∃ text, after =
        { machine with
          events := machine.events.push (.trace ⟨machine.depth, step machine, text⟩) })
      (fun failure after => after = machine ∧ ∃ cause, failure = .host cause) := by
  unfold EvalM.announce
  split_ifs
  · rw [ensures_bind, ensures_get, ensures_bind, EvalM.ensures_of_text]
    cases (step machine).render with
    | ok text => exact .inr ⟨text, rfl⟩
    | error reason => exact ⟨rfl, _, rfl⟩
  · exact .inl rfl

end Quiet

end Lisplet
