import Lisplet.Proofs.PassThrough

/-!
# What is done and what is asked for

An enactment is an action of the evaluator together with the applications that it asks
for on the way. Enactments follow one another like actions do, and the second of two is
asked for nothing if the first one fails. So an equation between enactments says that
results, failures and effects are the same and that the same applications are made, in
the same order and each from the same state.
-/

namespace Lisplet

/-- An action, with the applications that it asks for from each state. -/
@[ext] structure Enactment (Result : Type) where
  run : EvalM Result
  callbacks : Machine → List Application

namespace Enactment

/-- What follows an action is asked for only if that has come to an end. -/
def callbacksThen {First Result : Type} (next : First → Enactment Result) :
    EStateM.Result Failure Machine First → List Application
  | .ok value after => (next value).callbacks after
  | .error _ _ => []

instance : Monad Enactment where
  pure value := { run := pure value, callbacks := fun _ => [] }
  bind first next :=
    { run := first.run >>= fun value => (next value).run
      callbacks := fun machine =>
        first.callbacks machine ++ callbacksThen next (first.run machine) }

section Laws

variable {First Second Result : Type} {first : Enactment First} {next : First → Enactment Result}
  {machine after : Machine} {failure : Failure}

theorem run_bind (first : Enactment First) (next : First → Enactment Result) :
    (first >>= next).run = first.run >>= fun value => (next value).run :=
  rfl

theorem callbacks_bind (first : Enactment First) (next : First → Enactment Result)
    (machine : Machine) :
    (first >>= next).callbacks machine =
      first.callbacks machine ++ callbacksThen next (first.run machine) :=
  rfl

theorem callbacks_bind_ok {value : First} (ran : first.run machine = .ok value after) :
    (first >>= next).callbacks machine =
      first.callbacks machine ++ (next value).callbacks after := by
  rw [callbacks_bind, ran, callbacksThen]

theorem callbacks_bind_error (failed : first.run machine = .error failure after) :
    (first >>= next).callbacks machine = first.callbacks machine := by
  rw [callbacks_bind, failed, callbacksThen, List.append_nil]

theorem run_bind_eq_ok_iff {result : Result} :
    (first >>= next).run machine = .ok result after ↔
      ∃ value middle, first.run machine = .ok value middle ∧
        (next value).run middle = .ok result after := by
  rw [run_bind]
  cases ran : first.run machine with
  | ok value middle =>
      rw [EvalM.bind_ok ran]
      constructor
      · intro ended
        exact ⟨value, middle, rfl, ended⟩
      · rintro ⟨_, _, same, ended⟩
        cases same
        exact ended
  | error failure middle =>
      rw [EvalM.bind_error ran]
      simp

theorem run_bind_pure_eq_ok_iff {made : First → Result} {result : Result} :
    (first >>= fun value => pure (made value)).run machine = .ok result after ↔
      ∃ value, first.run machine = .ok value after ∧ made value = result := by
  rw [run_bind_eq_ok_iff]
  constructor
  · rintro ⟨value, middle, ran, same⟩
    cases same
    exact ⟨value, ran, rfl⟩
  · rintro ⟨value, ran, rfl⟩
    exact ⟨value, after, ran, rfl⟩

theorem run_bind_pure_eq_error_iff {made : First → Result} :
    (first >>= fun value => pure (made value)).run machine = .error failure after ↔
      first.run machine = .error failure after := by
  rw [run_bind]
  cases ran : first.run machine with
  | ok value middle =>
      rw [EvalM.bind_ok ran]
      constructor <;> exact nofun
  | error raised middle =>
      rw [EvalM.bind_error ran]
      simp

theorem callbacks_bind_pure (first : Enactment First) (made : First → Result)
    (machine : Machine) :
    (first >>= fun value => pure (made value)).callbacks machine = first.callbacks machine := by
  rw [callbacks_bind]
  cases first.run machine <;> exact List.append_nil _

end Laws

instance : LawfulMonad Enactment :=
  LawfulMonad.mk' Enactment
    (by
      intro Result action
      exact Enactment.ext (bind_pure action.run) (funext (callbacks_bind_pure action id)))
    (fun _ _ => rfl)
    (by
      intro First Second Result action first next
      refine Enactment.ext (bind_assoc action.run _ _) (funext fun machine => ?_)
      cases ran : action.run machine with
      | ok value after =>
          have both : (action >>= first).run machine = (first value).run after :=
            EvalM.bind_ok ran _
          rw [callbacks_bind, both, callbacks_bind_ok ran, callbacks_bind_ok ran, callbacks_bind,
            List.append_assoc]
      | error failure after =>
          have both : (action >>= first).run machine = .error failure after :=
            EvalM.bind_error ran _
          rw [callbacks_bind_error both, callbacks_bind_error ran, callbacks_bind_error ran])

def quiet {Result : Type} (action : EvalM Result) : Enactment Result where
  run := action
  callbacks _ := []

/-- A single application, on behalf of the innermost native function in progress. -/
def call (apply : Applier) (procedure : Value) (arguments : List Value) : Enactment Value where
  run := callBack apply procedure arguments
  callbacks machine :=
    match machine.sites with
    | [] => []
    | site :: _ => [⟨procedure, arguments, site, machine⟩]

def ofDialogue (apply : Applier) (dialogue : Dialogue) : Enactment Reply where
  run := dialogue.run (callBack apply)
  callbacks := dialogue.requests apply

section Dialogues

variable {apply : Applier} {machine : Machine} {procedure : Value} {arguments : List Value}

theorem callbacks_call_idle (idle : machine.sites = []) :
    (call apply procedure arguments).callbacks machine = [] := by
  simp only [call, idle]

theorem callbacks_call {site : ScopeId} {outer : List ScopeId}
    (inside : machine.sites = site :: outer) :
    (call apply procedure arguments).callbacks machine =
      [⟨procedure, arguments, site, machine⟩] := by
  simp only [call, inside]

theorem of_dialogue_ask (next : Value → Dialogue) :
    ofDialogue apply (.ask procedure arguments next) =
      call apply procedure arguments >>= fun value => ofDialogue apply (next value) := by
  refine Enactment.ext rfl (funext fun machine => ?_)
  cases inside : machine.sites with
  | nil =>
      rw [callbacks_bind_error (call_back_of_idle inside procedure arguments),
        callbacks_call_idle inside]
      exact Dialogue.requests_idle inside
  | cons site outer =>
      have called : callBack apply procedure arguments machine =
          apply procedure arguments site machine :=
        call_back_of_inside inside procedure arguments
      cases outcome : apply procedure arguments site machine with
      | ok value after =>
          rw [callbacks_bind_ok (called.trans outcome), callbacks_call inside]
          exact Dialogue.requests_ok inside outcome
      | error failure after =>
          rw [callbacks_bind_error (called.trans outcome), callbacks_call inside]
          exact Dialogue.requests_error inside outcome

theorem of_dialogue_attempt {Result : Type} (result : Except Fault Result)
    (next : Result → Dialogue) :
    ofDialogue apply (.attempt result next) =
      quiet (EvalM.ofExcept result) >>= fun value => ofDialogue apply (next value) := by
  cases result <;> rfl

end Dialogues

/-- An enactment on behalf of a native function that was called in a scope. -/
def within {Result : Type} (site : ScopeId) (enactment : Enactment Result) : Enactment Result where
  run := (EvalM.insideNative site enactment.run).adaptExcept (blameNative site)
  callbacks machine := enactment.callbacks (machine.inNative site)

section Within

variable {First Result : Type} {site : ScopeId} {machine after : Machine}

theorem within_pure (value : Result) : within site (pure value) = pure value :=
  rfl

theorem run_within_ok {enactment : Enactment Result} {value : Result}
    (ran : enactment.run (machine.inNative site) = .ok value after) :
    (within site enactment).run machine = .ok value { after with sites := after.sites.tail } := by
  change EStateM.adaptExcept _ (EvalM.insideNative site enactment.run) machine = _
  unfold EStateM.adaptExcept EvalM.insideNative EvalM.bracket
  unfold Machine.inNative at ran
  rw [ran]

theorem run_within_error {enactment : Enactment Result} {failure : Failure}
    (failed : enactment.run (machine.inNative site) = .error failure after) :
    (within site enactment).run machine =
      .error (blameNative site failure) { after with sites := after.sites.tail } :=
  EvalM.adapt_error (EvalM.bracket_error failed)

theorem run_within_eq_ok_iff {enactment : Enactment Result} {value : Result} :
    (within site enactment).run machine = .ok value after ↔
      ∃ left, enactment.run (machine.inNative site) = .ok value left ∧
        { left with sites := left.sites.tail } = after := by
  cases ran : enactment.run (machine.inNative site) with
  | ok result left =>
      rw [run_within_ok ran]
      simp
  | error failure left =>
      rw [run_within_error ran]
      simp

theorem run_within_eq_error_iff {enactment : Enactment Result} {failure : Failure} :
    (within site enactment).run machine = .error failure after ↔
      ∃ raised left, enactment.run (machine.inNative site) = .error raised left ∧
        blameNative site raised = failure ∧ { left with sites := left.sites.tail } = after := by
  cases ran : enactment.run (machine.inNative site) with
  | ok result left =>
      rw [run_within_ok ran]
      simp
  | error raised left =>
      rw [run_within_error ran]
      simp

/-- All that happens inside a native function depends on the machine that it is entered
with. -/
theorem run_within_congr {left right : Enactment Result} {other : Machine}
    (same : left.run (machine.inNative site) = right.run (other.inNative site)) :
    (within site left).run machine = (within site right).run other := by
  cases ran : right.run (other.inNative site) with
  | ok value after => rw [run_within_ok ran, run_within_ok (same.trans ran)]
  | error failure after => rw [run_within_error ran, run_within_error (same.trans ran)]

theorem entered_again (same : (machine.inNative site).SameCalls after) :
    Machine.inNative { after with sites := after.sites.tail } site = after := by
  have sites : after.sites = site :: machine.sites := same.sites
  cases after
  simp_all [Machine.inNative]

/-- A native function may end and be called again between two parts of what it does, if
the first one leaves the calls in progress as it finds them. -/
theorem within_bind {first : Enactment First} (balanced : first.run.Balanced)
    (next : First → Enactment Result) :
    within site (first >>= next) = within site first >>= fun value => within site (next value) := by
  refine Enactment.ext (funext fun machine => ?_) (funext fun machine => ?_)
  · cases ran : first.run (machine.inNative site) with
    | ok value after =>
        have again := entered_again ((balanced _).of_ok ran)
        rw [run_bind, EvalM.bind_ok (run_within_ok ran)]
        refine run_within_congr ?_
        rw [again]
        exact EvalM.bind_ok ran _
    | error failure after =>
        rw [run_bind, EvalM.bind_error (run_within_error ran)]
        exact run_within_error (EvalM.bind_error ran _)
  · cases ran : first.run (machine.inNative site) with
    | ok value after =>
        have again := entered_again ((balanced _).of_ok ran)
        rw [callbacks_bind_ok (run_within_ok ran)]
        change (first >>= next).callbacks _ = first.callbacks _ ++ (next value).callbacks _
        rw [callbacks_bind_ok ran, again]
    | error failure after =>
        rw [callbacks_bind_error (run_within_error ran)]
        exact callbacks_bind_error ran

end Within

end Enactment

/-- The application of a native function in a scope, behind its announcement. -/
def Native.enact (tracing : Bool) (limit : Nat) (site : ScopeId) (function : Native)
    (arguments : List Value) : Enactment Value where
  run := callNative false (applyWithin tracing limit) function arguments site
  callbacks machine :=
    (⟨.native function, arguments, site, machine⟩ : Application).callbacks false
      (applyWithin tracing limit)

def Enactment.answered (function : Native) (site : ScopeId) : Reply → Enactment Value
  | .value value => pure value
  | .foreign kind => .quiet (throw (.native (.foreignReply function kind) site))

namespace Native

variable {tracing : Bool} {limit : Nat} {site : ScopeId} {function : Native}
  {arguments : List Value}

theorem enact_eq_within :
    function.enact tracing limit site arguments =
      Enactment.within site
          (.ofDialogue (applyWithin tracing limit) (function.dialogue arguments)) >>=
        Enactment.answered function site := by
  refine Enactment.ext ?_ (funext fun machine => ?_)
  · have announced : EvalM.announce false (fun _ => .native function arguments) = pure () := rfl
    change callNative false (applyWithin tracing limit) function arguments site = _
    rw [callNative, announced, pure_bind, invoke_eq_run]
    exact bind_congr fun reply => by cases reply <;> rfl
  · rw [Enactment.callbacks_bind]
    have silent : ∀ outcome,
        Enactment.callbacksThen (Enactment.answered function site) outcome = [] := by
      rintro (⟨reply, after⟩ | ⟨failure, after⟩)
      · cases reply <;> rfl
      · rfl
    rw [silent, List.append_nil]
    rfl

theorem enact_of_dialogue {Result : Type} {enactment : Enactment Result} (made : Result → Value)
    (held : Enactment.ofDialogue (applyWithin tracing limit) (function.dialogue arguments) =
      enactment >>= fun result => pure (.value (made result)))
    (balanced : enactment.run.Balanced) :
    function.enact tracing limit site arguments =
      Enactment.within site enactment >>= fun result => pure (made result) := by
  rw [enact_eq_within, held, Enactment.within_bind balanced, bind_assoc]
  rfl

end Native

end Lisplet
