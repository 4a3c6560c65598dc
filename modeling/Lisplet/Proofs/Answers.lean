import Lisplet.Proofs.Applications

/-!
# How applications of native functions end

A native function runs with its call noted among those in progress, and the note is gone
when it has ended. Most native functions only look at their arguments. What such a function
answers is a matter of the function and the arguments: neither the machine nor the scope of
the call nor the applier has a part in it, and the machine stays as it is.
-/

namespace Lisplet

namespace EvalM

variable {Result Other : Type} {action : EvalM Result} {machine after : Machine}
  (change : Result → Other)

theorem map_ok {value : Result} (ran : action machine = .ok value after) :
    (change <$> action) machine = .ok (change value) after := by
  change EStateM.map change action machine = _
  unfold EStateM.map
  rw [ran]

theorem map_error {failure : Failure} (failed : action machine = .error failure after) :
    (change <$> action) machine = .error failure after := by
  change EStateM.map change action machine = _
  unfold EStateM.map
  rw [failed]

end EvalM

section Ending

variable {apply : Applier} {function : Native} {arguments : List Value} {site : ScopeId}
  {machine after : Machine}

def Machine.outOfNative (machine : Machine) : Machine :=
  { machine with sites := machine.sites.tail }

theorem call_native_of_ok {value : Value}
    (invoked : Prelude.invoke (callBack apply) function arguments (machine.inNative site) =
      .ok (.value value) after) :
    callNative false apply function arguments site machine = .ok value after.outOfNative := by
  have replied : (EvalM.insideNative site (Prelude.invoke (callBack apply) function
      arguments)).adaptExcept (blameNative site) machine =
        .ok (.value value) after.outOfNative := by
    change Prelude.invoke (callBack apply) function arguments
      { machine with sites := site :: machine.sites } = _ at invoked
    unfold EStateM.adaptExcept EvalM.insideNative EvalM.bracket
    rw [invoked]
    rfl
  exact EvalM.bind_ok replied _

theorem call_native_of_error {cause : Fault}
    (invoked : Prelude.invoke (callBack apply) function arguments (machine.inNative site) =
      .error (.host cause) after) :
    callNative false apply function arguments site machine =
      .error (.native cause site) after.outOfNative := by
  have left : EvalM.insideNative site (Prelude.invoke (callBack apply) function arguments)
      machine = .error (.host cause) after.outOfNative := EvalM.bracket_error invoked
  have failed : (EvalM.insideNative site (Prelude.invoke (callBack apply) function
      arguments)).adaptExcept (blameNative site) machine =
        .error (.native cause site) after.outOfNative := EvalM.adapt_error left
  exact EvalM.bind_error failed _

theorem call_native_announced {tracing : Bool}
    (told : EvalM.announce tracing (fun _ => .native function arguments) machine = .ok () after) :
    callNative tracing apply function arguments site machine =
      callNative false apply function arguments site after := by
  rw [callNative, EvalM.bind_ok told]
  rfl

end Ending

/-- An application that returns the answer and does nothing else, once it has announced
itself if it is traced. -/
def Native.Answers (function : Native) (arguments : List Value) (answer : Value) : Prop :=
  ∀ tracing apply site, applyWith tracing apply (.native function) arguments site = (do
    EvalM.announce tracing fun _ => .native function arguments
    return answer)

namespace Native

variable {function : Native} {arguments : List Value} {answer other : Value}

theorem answers_of_invoke
    (replied : ∀ call, Prelude.invoke call function arguments = Prelude.pureReply (.ok answer)) :
    function.Answers arguments answer := by
  intro tracing apply site
  change callNative tracing apply function arguments site = _
  rw [callNative, replied]
  rfl

theorem Answers.unique (first : function.Answers arguments answer)
    (second : function.Answers arguments other) : answer = other := by
  have both : (pure answer : EvalM Value) = pure other :=
    (first false (applyWithin false 0) 0).symm.trans (second false (applyWithin false 0) 0)
  have outcomes := congrFun both {}
  cases outcomes
  rfl

end Native

end Lisplet
