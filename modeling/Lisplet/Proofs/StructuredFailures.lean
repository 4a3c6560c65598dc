import Lisplet.Proofs.Natives
import Lisplet.Proofs.Recorder
import Lisplet.Proofs.RoundTrip
import Lisplet.Proofs.Runs
import Lisplet.Proofs.Scopes

/-!
# Which failures a program can end with

A failure of a program has one of three structured kinds: a wrong number of arguments,
an unbound name, or the failure of a native function. Faults of the host become the
last of these, for they are raised inside native functions and caught at the call.
Two are not. To refuse a value that is no procedure, the value has to be described, and
that can fail before the refusal is made. The other one is running out of recursion.
Everything else is excluded because evaluation only meets expressions from sources.
-/

namespace Lisplet

/-- One of the three kinds that name a scope and carry a stack trace. -/
def Failure.Structured : Failure → Prop
  | .host _ => False
  | _ => True

/-- A fault of the host that gets past the native functions: something cannot be
described, or there is no room for another application. -/
inductive Failure.Stray : Failure → Prop where
  | undescribed (reason : Unwritable) : Stray (.host (.unwritable reason))
  | exhausted : Stray (.host .recursionTooDeep)

def Failure.Expected (failure : Failure) : Prop :=
  failure.Structured ∨ failure.Stray

theorem blame_native_structured (site : ScopeId) (failure : Failure) :
    (blameNative site failure).Structured := by
  cases failure <;> trivial

/-- The body of the procedure was read from a source. -/
def Closure.Sourced (closure : Closure) : Prop :=
  ∀ node ∈ Expr.nodesOf closure.body, node.Writable fun _ => True

/-- All procedures that can be found in the scopes come from sources. -/
def Machine.Sourced (machine : Machine) : Prop :=
  ∀ scope found, machine.scopes.get? scope = some found →
    ∀ pair ∈ found.bindings, pair.2.Within Closure.Sourced

theorem Machine.Sourced.of_scopes {machine other : Machine} (sourced : machine.Sourced)
    (same : other.scopes = machine.scopes) : other.Sourced := by
  unfold Machine.Sourced
  rw [same]
  exact sourced

namespace EvalM

/-- Where procedures come from sources, the action leaves it at that, and ends with a
value that has a property or with a failure of some kind. -/
def Settles {Result : Type} (property : Result → Prop) (ends : Failure → Prop)
    (action : EvalM Result) : Prop :=
  ∀ machine : Machine, machine.Sourced → Ensures action machine
    (fun value after => after.Sourced ∧ property value)
    (fun failure after => after.Sourced ∧ ends failure)

variable {Result Other : Type} {property : Result → Prop} {final : Other → Prop}
  {ends wider : Failure → Prop} {action : EvalM Result}

theorem settles_pure {value : Result} (holds : property value) :
    (pure value : EvalM Result).Settles property ends :=
  fun _ sourced => ⟨sourced, holds⟩

theorem settles_throw {failure : Failure} (fits : ends failure) :
    (throw failure : EvalM Result).Settles property ends :=
  fun _ sourced => ⟨sourced, fits⟩

theorem Settles.bind {next : Result → EvalM Other} (first : action.Settles property ends)
    (rest : ∀ value, property value → (next value).Settles final ends) :
    (action >>= next).Settles final ends := by
  intro machine sourced
  rw [ensures_bind]
  refine (first machine sourced).weaken ?_ fun _ _ failed => failed
  intro value middle kept
  exact rest value kept.2 middle kept.1

theorem Settles.weaken (settles : action.Settles property ends)
    (fits : ∀ failure, ends failure → wider failure) : action.Settles property wider :=
  fun machine sourced => (settles machine sourced).weaken (fun _ _ done => done)
    fun failure _ failed => ⟨failed.1, fits failure failed.2⟩

theorem Settles.unannounced {step : Machine → TraceStep} {next : Unit → EvalM Other}
    (rest : (next ()).Settles final ends) : (announce false step >>= next).Settles final ends := by
  have silent : announce false step = pure () := rfl
  rw [silent, pure_bind]
  exact rest

theorem Settles.bracket {enter leave : Machine → Machine}
    (entered : ∀ machine, (enter machine).scopes = machine.scopes)
    (left : ∀ machine, (leave machine).scopes = machine.scopes)
    (settles : action.Settles property ends) :
    (EvalM.bracket enter leave action).Settles property ends := by
  intro machine sourced
  rw [ensures_bracket]
  refine (settles (enter machine) (sourced.of_scopes (entered machine))).weaken ?_ ?_
  · exact fun value after done => ⟨done.1.of_scopes (left after), done.2⟩
  · exact fun failure after failed => ⟨failed.1.of_scopes (left after), failed.2⟩

theorem settles_of_quiet (quiet : Quiet property action) :
    action.Settles property fun _ => True := by
  intro machine sourced
  refine (quiet machine).weaken ?_ ?_
  · exact fun value after done => ⟨sourced.of_scopes done.1.scopes, done.2⟩
  · exact fun failure after failed => ⟨sourced.of_scopes failed.1.scopes, trivial⟩

theorem settles_load (scope : ScopeId) (name : String) :
    (loadBinding scope name).Settles (Value.Within Closure.Sourced) Failure.Expected := by
  intro machine sourced
  rw [loadBinding, ensures_bind, ensures_get]
  cases looked : machine.scopes.lookup? scope name with
  | none => exact ⟨sourced, .inl trivial⟩
  | some value =>
      obtain ⟨holder, found, present, bound⟩ := Scopes.bound_of_lookup looked
      exact ⟨sourced, sourced holder found present _ bound⟩

theorem settles_define (scope : ScopeId) (name : String) {value : Value}
    (within : value.Within Closure.Sourced) :
    (define scope name value).Settles (fun _ => True) ends := by
  intro machine sourced
  rw [define, ensures_modify]
  refine ⟨?_, trivial⟩
  intro other found present pair member
  obtain ⟨before, here, -, binds⟩ := Scopes.get_define_cases present
  rcases binds pair member with rfl | earlier
  · exact within
  · exact sourced other before here pair earlier

theorem settles_make_scope (parent : ScopeId) (location : String) {added : List (String × Value)}
    (within : ∀ pair ∈ added, pair.2.Within Closure.Sourced) :
    (makeScope parent location added).Settles (fun _ => True) ends := by
  intro machine sourced
  rw [makeScope, ensures_modify_get]
  refine ⟨?_, trivial⟩
  intro scope found present pair member
  rcases Scopes.get_make_cases present with earlier | ⟨rfl, rfl⟩
  · exact sourced scope found earlier pair member
  · rcases Bindings.mem_put_all member with given | none
    · exact within pair given
    · cases none

end EvalM

/-- An applier that raises expected failures only, as long as all procedures come from
sources. -/
def Applier.Settles (apply : Applier) : Prop :=
  ∀ callee arguments site, callee.Within Closure.Sourced →
    (∀ argument ∈ arguments, argument.Within Closure.Sourced) →
      (apply callee arguments site).Settles (Value.Within Closure.Sourced) Failure.Expected

section Evaluation

variable {apply : Applier}

mutual

theorem eval_settles (applied : apply.Settles) (scope : ScopeId) (expression : Expr)
    (wellFormed : expression.WellFormed fun _ => True) :
    (expression.eval false apply scope).Settles (Value.Within Closure.Sourced)
      Failure.Expected := by
  unfold Expr.eval
  refine .unannounced ?_
  cases expression with
  | literal location value => exact EvalM.settles_pure (Value.within_of_datum _ value)
  | reference location name => exact .unannounced (EvalM.settles_load scope name)
  | apply location callee arguments =>
      have inside (node : Expr) (member : node ∈ callee.nodes ++ Expr.nodesOf arguments) :=
        wellFormed node (List.mem_cons_of_mem _ member)
      refine .unannounced ?_
      refine (eval_settles applied scope callee fun node member =>
        inside node (List.mem_append_left _ member)).bind fun procedure called => ?_
      refine (eval_each_settles applied scope arguments fun node member =>
        inside node (List.mem_append_right _ member)).bind fun values given => ?_
      exact applied procedure values scope called given
  | branch location test consequent alternate =>
      have inside (node : Expr)
          (member : node ∈ test.nodes ++ consequent.nodes ++ alternate.nodes) :=
        wellFormed node (List.mem_cons_of_mem _ member)
      refine (eval_settles applied scope test fun node member => inside node
        (List.mem_append_left _ (List.mem_append_left _ member))).bind fun verdict _ => ?_
      split_ifs
      · exact .unannounced (eval_settles applied scope consequent fun node member =>
          inside node (List.mem_append_left _ (List.mem_append_right _ member)))
      · exact .unannounced (eval_settles applied scope alternate fun node member =>
          inside node (List.mem_append_right _ member))
  | define location name value =>
      refine .unannounced ?_
      refine (eval_settles applied scope value fun node member =>
        wellFormed node (List.mem_cons_of_mem _ member)).bind fun result within => ?_
      refine .unannounced ?_
      exact (EvalM.settles_define scope name within).bind fun _ _ => EvalM.settles_pure within
  | procedure location name parameters body =>
      have within : (Value.closure ⟨scope, name, parameters, body⟩).Within Closure.Sourced :=
        Value.within_closure.mpr fun node member =>
          wellFormed node (List.mem_cons_of_mem _ member)
      refine .unannounced ?_
      exact (EvalM.settles_define scope name within).bind fun _ _ => EvalM.settles_pure within
  | lambda location parameters body =>
      refine .unannounced (EvalM.settles_pure (Value.within_closure.mpr ?_))
      exact fun node member => wellFormed node (List.mem_cons_of_mem _ member)
  | quote location form =>
      exact .unannounced (EvalM.settles_pure (quoted_value_within _ form))
  | plain value => exact (wellFormed _ (Expr.mem_nodes _)).elim

theorem eval_each_settles (applied : apply.Settles) (scope : ScopeId) (expressions : List Expr)
    (wellFormed : ∀ node ∈ Expr.nodesOf expressions, node.Writable fun _ => True) :
    (evalEach false apply scope expressions).Settles
      (fun values => ∀ value ∈ values, value.Within Closure.Sourced) Failure.Expected := by
  cases expressions with
  | nil => exact EvalM.settles_pure fun _ member => by cases member
  | cons expression rest =>
      unfold evalEach
      refine (eval_settles applied scope expression fun node member =>
        wellFormed node (List.mem_append_left _ member)).bind fun value within => ?_
      refine (eval_each_settles applied scope rest fun node member =>
        wellFormed node (List.mem_append_right _ member)).bind fun values others => ?_
      exact EvalM.settles_pure (List.forall_mem_cons.mpr ⟨within, others⟩)

end

theorem eval_sequence_settles (applied : apply.Settles) (scope : ScopeId) {result : Value}
    (within : result.Within Closure.Sourced) (expressions : List Expr)
    (wellFormed : ∀ node ∈ Expr.nodesOf expressions, node.Writable fun _ => True) :
    (evalSequence false apply scope result expressions).Settles (Value.Within Closure.Sourced)
      Failure.Expected := by
  induction expressions generalizing result with
  | nil => exact EvalM.settles_pure within
  | cons expression rest ih =>
      unfold evalSequence
      refine (eval_settles applied scope expression fun node member =>
        wellFormed node (List.mem_append_left _ member)).bind fun value next => ?_
      exact ih next fun node member => wellFormed node (List.mem_append_right _ member)

theorem call_closure_settles (applied : apply.Settles) {closure : Closure}
    (sourced : closure.Sourced) {arguments : List Value}
    (within : ∀ argument ∈ arguments, argument.Within Closure.Sourced) (site : ScopeId) :
    (callClosure false apply closure arguments site).Settles (Value.Within Closure.Sourced)
      Failure.Expected := by
  unfold callClosure
  refine .unannounced ?_
  split_ifs
  · exact EvalM.settles_throw (.inl trivial)
  · refine (EvalM.settles_make_scope closure.scope closure.name ?_).bind fun scope _ => ?_
    · exact fun pair member => within _ (List.of_mem_zip member).2
    · exact .bracket (fun _ => rfl) (fun _ => rfl)
        (eval_sequence_settles applied scope (Value.within_atom _ _) closure.body sourced)

theorem Dialogue.Tame.run_settles {call : Caller} {dialogue : Dialogue}
    (tame : dialogue.Tame Closure.Sourced)
    (called : ∀ procedure arguments, procedure.Within Closure.Sourced →
      (∀ argument ∈ arguments, argument.Within Closure.Sourced) →
        (call procedure arguments).Settles (Value.Within Closure.Sourced) fun _ => True) :
    (dialogue.run call).Settles (Reply.Within Closure.Sourced) fun _ => True := by
  induction tame with
  | answer quiet => exact EvalM.settles_of_quiet quiet
  | ask given passed rest ih => exact (called _ _ given passed).bind ih

theorem call_back_settles (applied : apply.Settles) (procedure : Value) (arguments : List Value)
    (given : procedure.Within Closure.Sourced)
    (passed : ∀ argument ∈ arguments, argument.Within Closure.Sourced) :
    (callBack apply procedure arguments).Settles (Value.Within Closure.Sourced)
      fun _ => True := by
  intro machine sourced
  rw [callBack, ensures_bind, ensures_get]
  cases machine.sites with
  | nil => exact ⟨sourced, trivial⟩
  | cons site outer =>
      exact ((applied procedure arguments site given passed).weaken fun _ _ => trivial) machine
        sourced

/-- Whatever goes wrong inside a native function is that function's failure, or was
already structured. -/
theorem call_native_settles (applied : apply.Settles) (function : Native) {arguments : List Value}
    (within : ∀ argument ∈ arguments, argument.Within Closure.Sourced) (site : ScopeId) :
    (callNative false apply function arguments site).Settles (Value.Within Closure.Sourced)
      Failure.Expected := by
  unfold callNative
  refine .unannounced ?_
  have held := (function.dialogue_tame within).run_settles (call_back_settles applied)
  rw [← Native.invoke_eq_run] at held
  have blamed : EvalM.Settles (Reply.Within Closure.Sourced) Failure.Expected
      ((EvalM.insideNative site (Prelude.invoke (callBack apply) function
        arguments)).adaptExcept (blameNative site)) := by
    intro machine sourced
    rw [ensures_adapt]
    have inside : (EvalM.insideNative site (Prelude.invoke (callBack apply) function
        arguments)).Settles (Reply.Within Closure.Sourced) fun _ => True :=
      .bracket (fun _ => rfl) (fun _ => rfl) held
    refine (inside machine sourced).weaken (fun _ _ done => done) ?_
    exact fun failure after failed => ⟨failed.1, .inl (blame_native_structured site failure)⟩
  refine blamed.bind fun reply replied => ?_
  cases reply with
  | value answer => exact EvalM.settles_pure replied
  | «foreign» kind => exact EvalM.settles_throw (.inl trivial)

/-- The one place where a fault of the host gets past the native functions: describing a
value that is to be refused. -/
theorem refused_settles (callee : Value) (site : ScopeId) :
    EvalM.Settles (Value.Within Closure.Sourced) Failure.Expected (do
      let described ← EvalM.ofText callee.describe
      throw (.native (.notProcedure described) site)) := by
  cases told : callee.describe with
  | ok described => exact EvalM.settles_throw (.inl trivial)
  | error reason => exact EvalM.settles_throw (.inr (.undescribed reason))

theorem apply_with_settles (applied : apply.Settles) : (applyWith false apply).Settles := by
  intro callee arguments site sourced within
  unfold applyWith
  cases callee with
  | closure closure =>
      exact call_closure_settles applied (Value.within_closure.mp sourced) within site
  | native function => exact call_native_settles applied function within site
  | atom value => exact refused_settles (.atom value) site
  | list items => exact refused_settles (.list items) site
  | form expression => exact refused_settles (.form expression) site

theorem apply_within_settles (limit : Nat) : (applyWithin false limit).Settles := by
  induction limit with
  | zero => exact fun _ _ _ _ _ => EvalM.settles_throw (.inr .exhausted)
  | succ limit ih => exact apply_with_settles ih

end Evaluation

/-- The failures that a run can report. More host frames than can be counted turn the
failure of a native function into one of the host. -/
def Failure.Reportable (options : Options) (failure : Failure) : Prop :=
  failure.Structured ∨ failure.Stray ∨
    failure = .host .tooManyFrames ∧ frameCountLimit < options.maxNativeFrames

theorem Failure.Expected.counted {failure : Failure} (expected : failure.Expected)
    (options : Options) : (failure.counted options).Reportable options := by
  cases failure with
  | arityMismatch | unbound => exact .inl trivial
  | native cause scope =>
      unfold Failure.counted
      dsimp only
      split_ifs with many
      · exact .inr (.inr ⟨rfl, many⟩)
      · exact .inl trivial
  | host fault =>
      rcases expected with structured | stray
      · exact structured.elim
      · exact .inr (.inl stray)

theorem parse_source_sourced {source : String} {program : List Expr}
    (parsed : parseSource source = .ok program) :
    ∀ node ∈ Expr.nodesOf program, node.Writable fun _ => True := by
  obtain ⟨tokens, scanned, accepted⟩ := tokens_of_parse (parse_of_source parsed)
  obtain ⟨phrases, proper, rfl, rfl⟩ := derives_of_parse_tokens accepted
  exact trees_well_formed phrases proper (tokenize_readable scanned)

/-- A run without tracing keeps to procedures from sources, and if its source can be
read it fails in the ways that can be reported only. -/
theorem run_settles {interpreter : Interpreter}
    (untraced : interpreter.options.traceExecution = false)
    (sourced : interpreter.machine.Sourced) (source : String) :
    (interpreter.run source).2.options = interpreter.options ∧
      (interpreter.run source).2.machine.Sourced ∧
      ∀ program, parseSource source = .ok program →
        ∀ error, (interpreter.run source).1 = .error error →
          ∃ failure, error = .failed failure ∧ failure.Reportable interpreter.options := by
  cases parsed : parseSource source with
  | error error =>
      rw [interpreter.run_of_unread parsed]
      refine ⟨rfl, sourced, ?_⟩
      rintro program ⟨⟩
  | ok program =>
      have nothing : Value.nil.Within Closure.Sourced := Value.within_atom _ _
      have settles := eval_sequence_settles (apply_within_settles recursionLimit) globalScope
        nothing program (parse_source_sourced parsed) interpreter.machine sourced
      unfold Ensures at settles
      rw [interpreter.run_of_parsed parsed]
      unfold Interpreter.evaluate Interpreter.applier Interpreter.perform
      rw [untraced]
      generalize evalSequence false _ _ _ _ _ = outcome at settles ⊢
      cases outcome with
      | ok value after =>
          refine ⟨rfl, settles.1, ?_⟩
          rintro _ _ error ⟨⟩
      | error failure after =>
          refine ⟨rfl, settles.1, ?_⟩
          rintro _ _ error ⟨⟩
          exact ⟨_, rfl, settles.2.counted interpreter.options⟩

theorem run_all_sourced {interpreter : Interpreter}
    (untraced : interpreter.options.traceExecution = false)
    (sourced : interpreter.machine.Sourced) (sources : List String) :
    (interpreter.runAll sources).2.options = interpreter.options ∧
      (interpreter.runAll sources).2.machine.Sourced := by
  induction sources generalizing interpreter with
  | nil => exact ⟨rfl, sourced⟩
  | cons source rest ih =>
      obtain ⟨options, next, -⟩ := run_settles untraced sourced source
      obtain ⟨same, last⟩ := @ih (interpreter.run source).2 (by rw [options]; exact untraced) next
      exact ⟨same.trans options, last⟩

theorem start_sourced (functions : List Native) (files : FileSystem) :
    (Machine.start functions files).Sourced := by
  intro scope found present pair member
  rcases Scopes.get_make_cases present with none | ⟨rfl, rfl⟩
  · cases none
  · rcases Bindings.mem_put_all member with native | none
    · obtain ⟨function, -, rfl⟩ := List.mem_map.mp native
      exact fun _ inside => by cases inside
    · cases none

end Lisplet
