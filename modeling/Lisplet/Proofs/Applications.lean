import Lisplet.Proofs.Natives
import Lisplet.Proofs.Script

/-!
# Applications inside applications

An application makes others: the body of a procedure asks for them, and so do native
functions that are given procedures. What an application makes of the failure of one
that it makes is said here once, in both directions: it fails too and does nothing more,
and it fails only if one of those does or for a reason of its own.
-/

namespace Lisplet

/-- What is applied to what, from which scope, and the machine it is applied in. -/
structure Application where
  callee : Value
  arguments : List Value
  site : ScopeId
  machine : Machine

def Application.outcome (apply : Applier) (application : Application) :
    EStateM.Result Failure Machine Value :=
  apply application.callee application.arguments application.site application.machine

/-- The steps of a script come to an application. -/
inductive Script.Asks (tracing : Bool) (apply : Applier) :
    Script → Machine → Application → Prop where
  | here {callee : Value} {arguments : List Value} {site : ScopeId} {next : Value → Script}
      {machine : Machine} :
      Asks tracing apply (.apply callee arguments site next) machine
        ⟨callee, arguments, site, machine⟩
  | applied {callee value : Value} {arguments : List Value} {site : ScopeId}
      {next : Value → Script} {machine after : Machine} {application : Application}
      (result : apply callee arguments site machine = .ok value after)
      (rest : Asks tracing apply (next value) after application) :
      Asks tracing apply (.apply callee arguments site next) machine application
  | announced {step : Machine → TraceStep} {next : Script} {machine after : Machine}
      {application : Application} (told : EvalM.announce tracing step machine = .ok () after)
      (rest : Asks tracing apply next after application) :
      Asks tracing apply (.announce step next) machine application
  | loaded {scope : ScopeId} {name : String} {value : Value} {next : Value → Script}
      {machine after : Machine} {application : Application}
      (found : loadBinding scope name machine = .ok value after)
      (rest : Asks tracing apply (next value) after application) :
      Asks tracing apply (.load scope name next) machine application
  | defined {scope : ScopeId} {name : String} {value : Value} {next : Script}
      {machine after : Machine} {application : Application}
      (bound : EvalM.define scope name value machine = .ok () after)
      (rest : Asks tracing apply next after application) :
      Asks tracing apply (.define scope name value next) machine application

/-- A dialogue comes to an application; it is made for the innermost native function in
progress. -/
inductive Dialogue.Asks (apply : Applier) : Dialogue → Machine → Application → Prop where
  | here {procedure : Value} {arguments : List Value} {next : Value → Dialogue}
      {machine : Machine} {site : ScopeId} {outer : List ScopeId}
      (inside : machine.sites = site :: outer) :
      Asks apply (.ask procedure arguments next) machine ⟨procedure, arguments, site, machine⟩
  | called {procedure value : Value} {arguments : List Value} {next : Value → Dialogue}
      {machine after : Machine} {application : Application}
      (result : callBack apply procedure arguments machine = .ok value after)
      (rest : Asks apply (next value) after application) :
      Asks apply (.ask procedure arguments next) machine application

namespace Machine

def inScope (machine : Machine) (closure : Closure) (arguments : List Value) : Machine :=
  { machine with
    scopes := machine.scopes.make (some closure.scope) closure.name
      (closure.parameters.zip arguments) }

def inCall (machine : Machine) : Machine :=
  { machine with depth := machine.depth + 1 }

def inNative (machine : Machine) (site : ScopeId) : Machine :=
  { machine with sites := site :: machine.sites }

/-- The machine with the calls in progress of another. -/
def withCallsOf (machine other : Machine) : Machine :=
  { machine with depth := other.depth, sites := other.sites }

end Machine

/-- Making an application, the evaluator makes another one. -/
inductive Application.Makes (tracing : Bool) (apply : Applier) :
    Application → Application → Prop where
  /-- In the body of a procedure, which gets as many arguments as it has parameters. -/
  | body {closure : Closure} {arguments : List Value} {site : ScopeId} {machine begun : Machine}
      {inner : Application}
      (told : EvalM.announce tracing (fun _ => .call closure) machine = .ok () begun)
      (fits : arguments.length = closure.arity)
      (asks : (scriptSequence begun.scopes.size .nil closure.body).Asks tracing apply
        (begun.inScope closure arguments).inCall inner) :
      Makes tracing apply ⟨.closure closure, arguments, site, machine⟩ inner
  /-- On behalf of a native function. -/
  | callback {function : Native} {arguments : List Value} {site : ScopeId}
      {machine begun : Machine} {inner : Application}
      (told : EvalM.announce tracing (fun _ => .native function arguments) machine = .ok () begun)
      (asks : (function.dialogue arguments).Asks apply (begun.inNative site) inner) :
      Makes tracing apply ⟨.native function, arguments, site, machine⟩ inner

/-- What becomes of a failure that comes out of an application from further in. -/
def Application.passes (application : Application) (failure : Failure) : Failure :=
  match application.callee with
  | .native _ => blameNative application.site failure
  | _ => failure

namespace EvalM

variable {Result Other : Type} {action : EvalM Result} {machine after : Machine}
  {failure : Failure}

theorem bind_ok {value : Result} (ran : action machine = .ok value after)
    (next : Result → EvalM Other) : (action >>= next) machine = next value after := by
  change EStateM.bind action next machine = _
  unfold EStateM.bind
  rw [ran]

theorem bind_error (failed : action machine = .error failure after)
    (next : Result → EvalM Other) : (action >>= next) machine = .error failure after := by
  change EStateM.bind action next machine = _
  unfold EStateM.bind
  rw [failed]

theorem bind_error_cases {next : Result → EvalM Other}
    (failed : (action >>= next) machine = .error failure after) :
    action machine = .error failure after ∨
      ∃ value middle, action machine = .ok value middle ∧
        next value middle = .error failure after := by
  cases ran : action machine with
  | ok value middle =>
      rw [bind_ok ran] at failed
      exact .inr ⟨value, middle, rfl, failed⟩
  | error early left =>
      rw [bind_error ran] at failed
      cases failed
      exact .inl rfl

theorem bracket_error {enter leave : Machine → Machine}
    (failed : action (enter machine) = .error failure after) :
    bracket enter leave action machine = .error failure (leave after) := by
  unfold bracket
  rw [failed]

theorem bracket_error_cases {enter leave : Machine → Machine}
    (failed : bracket enter leave action machine = .error failure after) :
    ∃ left, action (enter machine) = .error failure left := by
  unfold bracket at failed
  split at failed
  next => cases failed
  next early left ran =>
    cases failed
    exact ⟨left, ran⟩

theorem adapt_error {change : Failure → Failure}
    (failed : action machine = .error failure after) :
    action.adaptExcept change machine = .error (change failure) after := by
  unfold EStateM.adaptExcept
  rw [failed]

theorem adapt_error_cases {change : Failure → Failure}
    (failed : action.adaptExcept change machine = .error failure after) :
    ∃ raised, action machine = .error raised after ∧ failure = change raised := by
  unfold EStateM.adaptExcept at failed
  split at failed
  next raised left ran =>
    cases failed
    exact ⟨raised, ran, rfl⟩
  next => cases failed

end EvalM

section Steps

variable {tracing : Bool} {apply : Applier} {machine after : Machine} {failure : Failure}

theorem call_back_of_inside {site : ScopeId} {outer : List ScopeId}
    (inside : machine.sites = site :: outer) (procedure : Value) (arguments : List Value) :
    callBack apply procedure arguments machine = apply procedure arguments site machine := by
  have read : (get : EvalM Machine) machine = .ok machine machine := rfl
  rw [callBack, EvalM.bind_ok read, inside]

theorem call_back_of_idle (idle : machine.sites = []) (procedure : Value)
    (arguments : List Value) :
    callBack apply procedure arguments machine = .error (.host .noNativeRunning) machine := by
  have read : (get : EvalM Machine) machine = .ok machine machine := rfl
  rw [callBack, EvalM.bind_ok read, idle]
  rfl

theorem Script.Asks.fails {script : Script} {inner : Application}
    (asks : script.Asks tracing apply machine inner)
    (failed : inner.outcome apply = .error failure after) :
    script.run tracing apply machine = .error failure after := by
  induction asks with
  | here => exact EvalM.bind_error failed _
  | applied result rest ih => exact (EvalM.bind_ok result _).trans (ih failed)
  | announced told rest ih => exact (EvalM.bind_ok told _).trans (ih failed)
  | loaded found rest ih => exact (EvalM.bind_ok found _).trans (ih failed)
  | defined bound rest ih => exact (EvalM.bind_ok bound _).trans (ih failed)

theorem Dialogue.Asks.fails {dialogue : Dialogue} {inner : Application}
    (asks : dialogue.Asks apply machine inner)
    (failed : inner.outcome apply = .error failure after) :
    dialogue.run (callBack apply) machine = .error failure after := by
  induction asks with
  | here inside =>
      refine EvalM.bind_error ?_ _
      rw [call_back_of_inside inside]
      exact failed
  | called result rest ih => exact (EvalM.bind_ok result _).trans (ih failed)

theorem announce_error {step : Machine → TraceStep}
    (failed : EvalM.announce tracing step machine = .error failure after) :
    ∃ cause, failure = .host cause :=
  ((ensures_announce tracing step machine).of_error failed).2

theorem of_text_error {Result : Type} {text : Except Unwritable Result}
    (failed : EvalM.ofText text machine = .error failure after) : ∃ cause, failure = .host cause := by
  cases text with
  | ok value => cases failed
  | error reason =>
      cases failed
      exact ⟨_, rfl⟩

theorem of_text_ok {Result : Type} {text : Except Unwritable Result} {value : Result}
    (ran : EvalM.ofText text machine = .ok value after) : text = .ok value := by
  cases text with
  | ok written =>
      cases ran
      rfl
  | error reason => cases ran

theorem load_error {scope : ScopeId} {name : String}
    (failed : loadBinding scope name machine = .error failure after) :
    failure = .unbound name scope := by
  have read : (get : EvalM Machine) machine = .ok machine machine := rfl
  rw [loadBinding, EvalM.bind_ok read] at failed
  cases looked : machine.scopes.lookup? scope name with
  | some value =>
      rw [looked] at failed
      cases failed
  | none =>
      rw [looked] at failed
      cases failed
      rfl

/-- What evaluation fails with between applications: a name is not bound, an announcement
has no text, or something is no expression. -/
inductive Failure.Plain (tracing : Bool) : Failure → Prop where
  | unbound (name : String) (scope : ScopeId) : Plain tracing (.unbound name scope)
  | untold {step : Machine → TraceStep} {machine after : Machine} {failure : Failure}
      (failed : EvalM.announce tracing step machine = .error failure after) :
      Plain tracing failure
  | misplaced (label : String) : Plain tracing (.host (.notExpression label))

theorem Failure.Plain.not_native {cause : Fault} {scope : ScopeId} :
    ¬(Failure.native cause scope).Plain tracing := by
  intro plain
  cases plain with
  | untold failed =>
      obtain ⟨_, same⟩ := announce_error failed
      cases same

/-- A script fails with an application it comes to, or by itself. -/
theorem Script.Mild.failure_cases {script : Script} (mild : script.Mild)
    (failed : script.run tracing apply machine = .error failure after) :
    (∃ inner, script.Asks tracing apply machine inner ∧
      inner.outcome apply = .error failure after) ∨ failure.Plain tracing := by
  induction script generalizing machine with
  | done value => cases failed
  | fault cause =>
      obtain ⟨label, rfl⟩ := mild
      cases failed
      exact .inr (.misplaced label)
  | announce step next ih =>
      rcases EvalM.bind_error_cases failed with early | ⟨⟨⟩, middle, told, late⟩
      · exact .inr (.untold early)
      · rcases ih mild late with ⟨inner, asks, fails⟩ | plain
        · exact .inl ⟨inner, .announced told asks, fails⟩
        · exact .inr plain
  | load scope name next ih =>
      rcases EvalM.bind_error_cases failed with early | ⟨value, middle, found, late⟩
      · rw [load_error early]
        exact .inr (.unbound name scope)
      · rcases ih value (mild value) late with ⟨inner, asks, fails⟩ | plain
        · exact .inl ⟨inner, .loaded found asks, fails⟩
        · exact .inr plain
  | define scope name value next ih =>
      rcases EvalM.bind_error_cases failed with early | ⟨⟨⟩, middle, bound, late⟩
      · cases early
      · rcases ih mild late with ⟨inner, asks, fails⟩ | plain
        · exact .inl ⟨inner, .defined bound asks, fails⟩
        · exact .inr plain
  | apply callee arguments site next ih =>
      rcases EvalM.bind_error_cases failed with early | ⟨value, middle, result, late⟩
      · exact .inl ⟨_, .here, early⟩
      · rcases ih value (mild value) late with ⟨inner, asks, fails⟩ | plain
        · exact .inl ⟨inner, .applied result asks, fails⟩
        · exact .inr plain

theorem Value.within_true (value : Value) : value.Within fun _ => True :=
  fun _ _ => trivial

theorem Native.dialogue_tame_true (function : Native) (arguments : List Value) :
    (function.dialogue arguments).Tame fun _ => True :=
  function.dialogue_tame fun argument _ => argument.within_true

/-- A native function fails with an application it asks for, or with a fault of the
host. -/
theorem Dialogue.Tame.failure_cases {dialogue : Dialogue} (tame : dialogue.Tame fun _ => True)
    (failed : dialogue.run (callBack apply) machine = .error failure after) :
    (∃ inner, dialogue.Asks apply machine inner ∧ inner.outcome apply = .error failure after) ∨
      ∃ cause, failure = .host cause := by
  induction tame generalizing machine with
  | answer quiet => exact .inr ((quiet machine).of_error failed).2
  | @ask procedure arguments next given passed rest ih =>
      rcases EvalM.bind_error_cases failed with early | ⟨value, middle, result, late⟩
      · -- Without a native function in progress the request is refused by a fault.
        cases inside : machine.sites with
        | nil =>
            rw [call_back_of_idle inside] at early
            cases early
            exact .inr ⟨_, rfl⟩
        | cons site outer =>
            rw [call_back_of_inside inside] at early
            exact .inl ⟨_, .here inside, early⟩
      · rcases ih value value.within_true late with ⟨inner, asks, fails⟩ | cause
        · exact .inl ⟨inner, .called result asks, fails⟩
        · exact .inr cause

/-- A procedure that gets as many arguments as it has parameters takes the steps of its
body in a new scope. -/
theorem call_closure_of_fits {closure : Closure} {arguments : List Value} {begun : Machine}
    (told : EvalM.announce tracing (fun _ => .call closure) machine = .ok () begun)
    (fits : arguments.length = closure.arity) (site : ScopeId) :
    callClosure tracing apply closure arguments site machine =
      EvalM.insideCall
        ((scriptSequence begun.scopes.size .nil closure.body).run tracing apply)
        (begun.inScope closure arguments) := by
  have made : EvalM.makeScope closure.scope closure.name (closure.parameters.zip arguments) begun =
      .ok begun.scopes.size (begun.inScope closure arguments) := rfl
  rw [callClosure, EvalM.bind_ok told, if_neg (not_not_intro fits), EvalM.bind_ok made,
    eval_sequence_eq_run]

/-- An application fails with one that it makes, and does nothing more. A native function
takes faults of the host on itself. -/
theorem Application.Makes.fails {outer inner : Application}
    (makes : outer.Makes tracing apply inner)
    (failed : inner.outcome apply = .error failure after) :
    ∃ last, outer.outcome (applyWith tracing apply) = .error (outer.passes failure) last ∧
      last = after.withCallsOf last := by
  cases makes with
  | body told fits asks =>
      refine ⟨{ after with depth := after.depth - 1 }, ?_, rfl⟩
      change callClosure _ _ _ _ _ _ = _
      rw [call_closure_of_fits told fits]
      exact EvalM.bracket_error (asks.fails failed)
  | @callback function arguments site machine begun inner told asks =>
      refine ⟨{ after with sites := after.sites.tail }, ?_, rfl⟩
      change callNative _ _ _ _ _ _ = _
      have invoked : Prelude.invoke (callBack apply) function arguments (begun.inNative site) =
          .error failure after := by
        rw [Native.invoke_eq_run]
        exact asks.fails failed
      rw [callNative, EvalM.bind_ok told]
      exact EvalM.bind_error (EvalM.adapt_error (EvalM.bracket_error invoked)) _

/-- A fault of the host becomes the failure of the application itself: it was raised
inside the native function that is applied, or the answer of that function is no value,
or what is applied is no procedure. -/
inductive Application.Faults (tracing : Bool) (apply : Applier) : Application → Fault → Prop where
  | inside {function : Native} {arguments : List Value} {site : ScopeId}
      {machine begun after : Machine} {cause : Fault}
      (told : EvalM.announce tracing (fun _ => .native function arguments) machine = .ok () begun)
      (raised : Prelude.invoke (callBack apply) function arguments (begun.inNative site) =
        .error (.host cause) after) :
      Faults tracing apply ⟨.native function, arguments, site, machine⟩ cause
  | reply {function : Native} {arguments : List Value} {site : ScopeId}
      {machine begun after : Machine} {kind : String}
      (told : EvalM.announce tracing (fun _ => .native function arguments) machine = .ok () begun)
      (answered : Prelude.invoke (callBack apply) function arguments (begun.inNative site) =
        .ok (.foreign kind) after) :
      Faults tracing apply ⟨.native function, arguments, site, machine⟩
        (.foreignReply function kind)
  | refused {callee : Value} {arguments : List Value} {site : ScopeId} {machine : Machine}
      {described : String} (noClosure : ∀ closure, callee ≠ .closure closure)
      (noNative : ∀ function, callee ≠ .native function)
      (told : callee.describe = .ok described) :
      Faults tracing apply ⟨callee, arguments, site, machine⟩ (.notProcedure described)

theorem Application.Faults.fails {application : Application} {cause : Fault}
    (faults : application.Faults tracing apply cause) :
    ∃ last, application.outcome (applyWith tracing apply) =
      .error (.native cause application.site) last := by
  cases faults with
  | @inside function arguments site machine begun after cause told raised =>
      refine ⟨{ after with sites := after.sites.tail }, ?_⟩
      change callNative _ _ _ _ _ _ = .error (blameNative site (.host cause)) _
      rw [callNative, EvalM.bind_ok told]
      exact EvalM.bind_error (EvalM.adapt_error (EvalM.bracket_error raised)) _
  | @reply function arguments site machine begun after kind told answered =>
      refine ⟨{ after with sites := after.sites.tail }, ?_⟩
      change callNative _ _ _ _ _ _ = _
      have bracketed : (EvalM.insideNative site (Prelude.invoke (callBack apply) function
          arguments)).adaptExcept (blameNative site) begun =
            .ok (.foreign kind) { after with sites := after.sites.tail } := by
        unfold EStateM.adaptExcept EvalM.insideNative EvalM.bracket
        unfold Machine.inNative at answered
        rw [answered]
      rw [callNative, EvalM.bind_ok told, EvalM.bind_ok bracketed]
      rfl
  | @refused callee arguments site machine described noClosure noNative told =>
      refine ⟨machine, ?_⟩
      have stated : EvalM.ofText callee.describe machine = .ok described machine := by
        rw [told]
        rfl
      cases callee with
      | closure closure => exact absurd rfl (noClosure closure)
      | native function => exact absurd rfl (noNative function)
      | atom | list | form =>
          change (EvalM.ofText _ >>= _) machine = _
          rw [EvalM.bind_ok stated]
          rfl

theorem closure_native_failure {closure : Closure} {arguments : List Value} {site scope : ScopeId}
    {cause : Fault}
    (failed : callClosure tracing apply closure arguments site machine =
      .error (.native cause scope) after) :
    ∃ inner left, Application.Makes tracing apply ⟨.closure closure, arguments, site, machine⟩ inner ∧
      inner.outcome apply = .error (.native cause scope) left := by
  have whole := failed
  rw [callClosure] at failed
  rcases EvalM.bind_error_cases failed with early | ⟨⟨⟩, begun, told, late⟩
  · obtain ⟨_, same⟩ := announce_error early
    cases same
  by_cases fits : arguments.length = closure.arity
  · rw [call_closure_of_fits told fits] at whole
    obtain ⟨left, ran⟩ := EvalM.bracket_error_cases whole
    rcases (script_sequence_mild _ _ _).failure_cases ran with ⟨inner, asks, fails⟩ | plain
    · exact ⟨inner, left, .body told fits asks, fails⟩
    · exact absurd plain Failure.Plain.not_native
  · rw [if_pos fits] at late
    cases late

/-- A native function fails with a native failure if an application it asks for does, or
if the fault is its own. -/
theorem native_native_failure {function : Native} {arguments : List Value} {site scope : ScopeId}
    {cause : Fault}
    (failed : callNative tracing apply function arguments site machine =
      .error (.native cause scope) after) :
    (Application.Faults tracing apply ⟨.native function, arguments, site, machine⟩ cause ∧
        scope = site) ∨
      ∃ inner left,
        Application.Makes tracing apply ⟨.native function, arguments, site, machine⟩ inner ∧
          inner.outcome apply = .error (.native cause scope) left := by
  rw [callNative] at failed
  rcases EvalM.bind_error_cases failed with early | ⟨⟨⟩, begun, told, late⟩
  · obtain ⟨_, same⟩ := announce_error early
    cases same
  -- It failed inside the function, or the function ended and its answer is no value.
  rcases EvalM.bind_error_cases late with inside | ⟨reply, answeredIn, answered, thrown⟩
  · obtain ⟨raised, bracketed, same⟩ := EvalM.adapt_error_cases inside
    obtain ⟨left, invoked⟩ := EvalM.bracket_error_cases bracketed
    cases raised with
    | host fault =>
        cases same
        exact .inl ⟨.inside told invoked, rfl⟩
    | native fault there =>
        -- By itself the function raises faults of the host only, so a callback raised this.
        cases same
        rw [Native.invoke_eq_run] at invoked
        have tame := function.dialogue_tame_true arguments
        rcases tame.failure_cases invoked with ⟨inner, asks, fails⟩ | ⟨_, none⟩
        · exact .inr ⟨inner, left, .callback told asks, fails⟩
        · cases none
    | arityMismatch => cases same
    | unbound => cases same
  · cases reply with
    | value answer => cases thrown
    | «foreign» kind =>
        cases thrown
        unfold EStateM.adaptExcept EvalM.insideNative EvalM.bracket at answered
        split at answered
        next => cases answered
        next _ _ ran =>
          split at ran
          next value left invoked =>
            cases ran
            cases answered
            exact .inl ⟨.reply told invoked, rfl⟩
          next => cases ran

/-- An application fails with a native failure if it is its own, and then at its own
site, or if one that it makes fails with it. There is no other way. -/
theorem Application.native_failure_iff {outer : Application} {cause : Fault} {scope : ScopeId} :
    (∃ last, outer.outcome (applyWith tracing apply) = .error (.native cause scope) last) ↔
      (outer.Faults tracing apply cause ∧ scope = outer.site) ∨
        ∃ inner left, outer.Makes tracing apply inner ∧
          inner.outcome apply = .error (.native cause scope) left := by
  constructor
  · rintro ⟨last, failed⟩
    obtain ⟨callee, arguments, site, machine⟩ := outer
    cases callee with
    | closure closure => exact .inr (closure_native_failure failed)
    | native function => exact native_native_failure failed
    | atom | list | form =>
        rcases EvalM.bind_error_cases failed with early | ⟨described, middle, told, thrown⟩
        · obtain ⟨_, same⟩ := of_text_error early
          cases same
        · cases thrown
          exact .inl ⟨.refused nofun nofun (of_text_ok told), rfl⟩
  · rintro (⟨faults, rfl⟩ | ⟨inner, left, makes, failed⟩)
    · exact faults.fails
    · obtain ⟨last, fails, -⟩ := makes.fails failed
      refine ⟨last, fails.trans ?_⟩
      unfold passes
      split <;> rfl

end Steps

end Lisplet
