import Lisplet.Eval.Basic
import Lisplet.Proofs.Natives
import Lisplet.Proofs.Scopes

/-!
# Definitions are local

An evaluation binds names in the scope it happens in, and only those that the
expression defines there. An application binds nothing in any scope that existed
before: what its body defines goes to the scope made for the call. Both hold
however the evaluation ends.
-/

namespace Lisplet

mutual

/-- The names that an expression defines in the scope it is evaluated in. Bodies
of procedures define theirs elsewhere, and quoted forms define nothing. -/
def Expr.definedNames : Expr → List String
  | .apply _ callee arguments => callee.definedNames ++ definedNamesOf arguments
  | .branch _ test consequent alternate =>
      test.definedNames ++ (consequent.definedNames ++ alternate.definedNames)
  | .define _ name value => name :: value.definedNames
  | .procedure _ name _ _ => [name]
  | _ => []

def definedNamesOf : List Expr → List String
  | [] => []
  | expression :: rest => expression.definedNames ++ definedNamesOf rest

end

namespace EvalM

def after {Result : Type} (action : EvalM Result) (machine : Machine) : Machine :=
  match action machine with
  | .ok _ left => left
  | .error _ left => left

/-- Scopes that exist when the action starts get only permitted names. -/
def Grows {Result : Type} (permitted : ScopeId → String → Prop) (action : EvalM Result) : Prop :=
  ∀ machine, Ensures action machine
    (fun _ after => machine.scopes.Grows permitted after.scopes)
    (fun _ after => machine.scopes.Grows permitted after.scopes)

variable {Result Other : Type} {permitted allowed : ScopeId → String → Prop}
  {action : EvalM Result}

theorem Grows.scopes_after (grows : action.Grows permitted) (machine : Machine) :
    machine.scopes.Grows permitted (action.after machine).scopes := by
  have ends := grows machine
  unfold Ensures at ends
  unfold after
  cases outcome : action machine <;> rw [outcome] at ends <;> exact ends

theorem Grows.mono (grows : action.Grows permitted)
    (weaker : ∀ scope name, permitted scope name → allowed scope name) : action.Grows allowed :=
  fun machine => (grows machine).weaken (fun _ _ grown => grown.mono weaker)
    (fun _ _ grown => grown.mono weaker)

theorem grows_pure (value : Result) : (pure value : EvalM Result).Grows permitted :=
  fun machine => .refl permitted machine.scopes

theorem grows_throw (failure : Failure) : (throw failure : EvalM Result).Grows permitted :=
  fun machine => .refl permitted machine.scopes

theorem grows_bind {next : Result → EvalM Other} (first : action.Grows permitted)
    (second : ∀ value, (next value).Grows permitted) : (action >>= next).Grows permitted := by
  intro machine
  rw [ensures_bind]
  refine (first machine).weaken ?_ fun _ _ grown => grown
  intro value middle grown
  exact (second value middle).weaken (fun _ _ more => grown.trans more)
    (fun _ _ more => grown.trans more)

theorem grows_of_quiet {property : Result → Prop} (quiet : Quiet property action) :
    action.Grows permitted := by
  intro machine
  have same (after : Machine) (control : machine.SameControl after) :
      machine.scopes.Grows permitted after.scopes := by
    rw [control.scopes]
    exact .refl _ _
  exact (quiet machine).weaken (fun _ after ends => same after ends.1)
    (fun _ after ends => same after ends.1)

theorem grows_announced {tracing : Bool} {step : Machine → TraceStep} {next : Unit → EvalM Other}
    (rest : (next ()).Grows permitted) : (announce tracing step >>= next).Grows permitted := by
  refine grows_bind (fun machine => ?_) fun _ => rest
  refine (ensures_announce tracing step machine).weaken ?_ ?_
  · rintro - after (rfl | ⟨text, rfl⟩) <;> exact .refl _ _
  · rintro failure after ⟨rfl, -⟩
    exact .refl _ _

theorem grows_define {scope : ScopeId} {name : String} (fits : permitted scope name)
    (value : Value) : (define scope name value).Grows permitted :=
  fun machine => Scopes.Grows.define machine.scopes scope name value fits

theorem grows_bracket {enter leave : Machine → Machine}
    (entered : ∀ machine, (enter machine).scopes = machine.scopes)
    (left : ∀ machine, (leave machine).scopes = machine.scopes) (grows : action.Grows permitted) :
    (bracket enter leave action).Grows permitted := by
  intro machine
  rw [ensures_bracket]
  have inner := grows (enter machine)
  rw [entered] at inner
  exact inner.weaken (fun _ middle grown => (left middle).symm ▸ grown)
    (fun _ middle grown => (left middle).symm ▸ grown)

theorem grows_inside_call (grows : action.Grows permitted) :
    (insideCall action).Grows permitted :=
  grows_bracket (fun _ => rfl) (fun _ => rfl) grows

theorem grows_inside_native (site : ScopeId) (grows : action.Grows permitted) :
    (insideNative site action).Grows permitted :=
  grows_bracket (fun _ => rfl) (fun _ => rfl) grows

theorem grows_adapt (change : Failure → Failure) (grows : action.Grows permitted) :
    Grows permitted (action.adaptExcept change) := by
  intro machine
  rw [ensures_adapt]
  exact grows machine

end EvalM

/-- An applier that binds nothing in the scopes it finds. -/
def Applier.Untouching (apply : Applier) : Prop :=
  ∀ callee arguments site, (apply callee arguments site).Grows Scopes.Untouched

/-- The names that may be bound, all in one scope. -/
def Binds (scope : ScopeId) (names : List String) : ScopeId → String → Prop :=
  fun other name => other = scope ∧ name ∈ names

theorem EvalM.Grows.widen {Result : Type} {action : EvalM Result} {scope : ScopeId}
    {names more : List String} (grows : action.Grows (Binds scope names)) (fewer : names ⊆ more) :
    action.Grows (Binds scope more) :=
  grows.mono fun _ _ binds => ⟨binds.1, fewer binds.2⟩

section Evaluation

variable (tracing : Bool) {apply : Applier}

theorem grows_load_binding {permitted : ScopeId → String → Prop} (scope : ScopeId)
    (name : String) : (loadBinding scope name).Grows permitted := by
  intro machine
  rw [loadBinding, ensures_bind, ensures_get]
  cases machine.scopes.lookup? scope name with
  | some value => exact EvalM.grows_pure value machine
  | none => exact EvalM.grows_throw _ machine

mutual

theorem eval_grows (untouching : apply.Untouching) (scope : ScopeId) (expression : Expr) :
    (expression.eval tracing apply scope).Grows (Binds scope expression.definedNames) := by
  unfold Expr.eval
  refine EvalM.grows_announced ?_
  cases expression with
  | literal location value => exact EvalM.grows_pure _
  | reference location name => exact EvalM.grows_announced (grows_load_binding scope name)
  | apply location callee arguments =>
      refine EvalM.grows_announced ?_
      have called := eval_grows untouching scope callee
      have given := eval_each_grows untouching scope arguments
      refine EvalM.grows_bind (called.widen (List.subset_append_left _ _)) fun procedure => ?_
      refine EvalM.grows_bind (given.widen (List.subset_append_right _ _)) fun values => ?_
      exact (untouching procedure values scope).mono fun _ _ => False.elim
  | branch location test consequent alternate =>
      have branches : consequent.definedNames ++ alternate.definedNames ⊆
          (Expr.branch location test consequent alternate).definedNames :=
        List.subset_append_right _ _
      have tested := eval_grows untouching scope test
      refine EvalM.grows_bind (tested.widen (List.subset_append_left _ _)) fun verdict => ?_
      split_ifs
      · have chosen := eval_grows untouching scope consequent
        exact EvalM.grows_announced
          (chosen.widen (List.Subset.trans (List.subset_append_left _ _) branches))
      · have chosen := eval_grows untouching scope alternate
        exact EvalM.grows_announced
          (chosen.widen (List.Subset.trans (List.subset_append_right _ _) branches))
  | define location name value =>
      refine EvalM.grows_announced ?_
      have computed := eval_grows untouching scope value
      refine EvalM.grows_bind (computed.widen (List.subset_cons_self _ _)) fun result => ?_
      refine EvalM.grows_announced ?_
      refine EvalM.grows_bind (EvalM.grows_define ?_ result) fun _ => EvalM.grows_pure _
      exact ⟨rfl, List.mem_cons_self⟩
  | procedure location name parameters body =>
      refine EvalM.grows_announced ?_
      refine EvalM.grows_bind (EvalM.grows_define ?_ _) fun _ => EvalM.grows_pure _
      exact ⟨rfl, List.mem_cons_self⟩
  | lambda location parameters body => exact EvalM.grows_announced (EvalM.grows_pure _)
  | quote location form => exact EvalM.grows_announced (EvalM.grows_pure _)
  | plain value => exact EvalM.grows_throw _

theorem eval_each_grows (untouching : apply.Untouching) (scope : ScopeId)
    (expressions : List Expr) :
    (evalEach tracing apply scope expressions).Grows
      (Binds scope (definedNamesOf expressions)) := by
  cases expressions with
  | nil => exact EvalM.grows_pure _
  | cons expression rest =>
      unfold evalEach
      have first := eval_grows untouching scope expression
      have others := eval_each_grows untouching scope rest
      refine EvalM.grows_bind (first.widen (List.subset_append_left _ _)) fun value => ?_
      refine EvalM.grows_bind (others.widen (List.subset_append_right _ _)) fun values => ?_
      exact EvalM.grows_pure _

end

theorem eval_sequence_grows (untouching : apply.Untouching) (scope : ScopeId) (result : Value)
    (expressions : List Expr) :
    (evalSequence tracing apply scope result expressions).Grows
      (Binds scope (definedNamesOf expressions)) := by
  induction expressions generalizing result with
  | nil => exact EvalM.grows_pure _
  | cons expression rest ih =>
      unfold evalSequence
      have first := eval_grows tracing untouching scope expression
      refine EvalM.grows_bind (first.widen (List.subset_append_left _ _)) fun value => ?_
      exact (ih value).widen (List.subset_append_right _ _)

theorem call_closure_grows (untouching : apply.Untouching) (closure : Closure)
    (arguments : List Value) (site : ScopeId) :
    (callClosure tracing apply closure arguments site).Grows Scopes.Untouched := by
  unfold callClosure
  refine EvalM.grows_announced ?_
  split_ifs
  · exact EvalM.grows_throw _
  · intro machine
    rw [EvalM.makeScope, ensures_bind, ensures_modify_get]
    -- The body binds names in the new scope alone, whose number nobody has yet.
    have body := EvalM.grows_inside_call
      (eval_sequence_grows tracing untouching machine.scopes.size .nil closure.body)
    exact (body _).weaken (fun _ _ grown => Scopes.Grows.make _ _ _ _ grown)
      (fun _ _ grown => Scopes.Grows.make _ _ _ _ grown)

theorem call_back_grows (untouching : apply.Untouching) (procedure : Value)
    (arguments : List Value) : (callBack apply procedure arguments).Grows Scopes.Untouched := by
  intro machine
  rw [callBack, ensures_bind, ensures_get]
  cases machine.sites with
  | nil => exact EvalM.grows_throw _ machine
  | cons site outer => exact untouching procedure arguments site machine

theorem Dialogue.Tame.run_grows {call : Caller} {holds : Closure → Prop} {dialogue : Dialogue}
    (tame : dialogue.Tame holds)
    (untouching : ∀ procedure arguments, (call procedure arguments).Grows Scopes.Untouched)
    (quiet : ∀ value : Value, value.Within holds) :
    (dialogue.run call).Grows Scopes.Untouched := by
  induction tame with
  | answer quietly => exact EvalM.grows_of_quiet quietly
  | ask given passed rest ih =>
      exact EvalM.grows_bind (untouching _ _) fun value => ih value (quiet value)

theorem call_native_grows (untouching : apply.Untouching) (function : Native)
    (arguments : List Value) (site : ScopeId) :
    (callNative tracing apply function arguments site).Grows Scopes.Untouched := by
  unfold callNative
  refine EvalM.grows_announced ?_
  -- Which procedures are passed around does not matter here.
  have anything : ∀ value : Value, value.Within fun _ => True := fun _ _ _ => trivial
  have tame : (function.dialogue arguments).Tame fun _ => True :=
    function.dialogue_tame fun argument _ => anything argument
  have invoked := tame.run_grows (call_back_grows untouching) anything
  rw [← Native.invoke_eq_run] at invoked
  refine EvalM.grows_bind (EvalM.grows_adapt _ (EvalM.grows_inside_native site invoked)) ?_
  intro reply
  cases reply with
  | value answer => exact EvalM.grows_pure answer
  | «foreign» kind => exact EvalM.grows_throw _

theorem apply_with_untouching (untouching : apply.Untouching) :
    (applyWith tracing apply).Untouching := by
  intro callee arguments site
  unfold applyWith
  split
  next closure => exact call_closure_grows tracing untouching closure arguments site
  next function => exact call_native_grows tracing untouching function arguments site
  next =>
    refine EvalM.grows_bind (EvalM.grows_of_quiet (quiet_of_text _)) fun _ => ?_
    exact EvalM.grows_throw _

theorem apply_within_untouching (tracing : Bool) (limit : Nat) :
    (applyWithin tracing limit).Untouching := by
  induction limit with
  | zero => exact fun _ _ _ => EvalM.grows_throw _
  | succ limit ih => exact apply_with_untouching tracing ih

end Evaluation

/-- Evaluating an expression leaves every scope that existed as it was, but for the
scope of the evaluation. That one keeps its place, its names, and the values of all
names that the expression does not define in it. Applications leave every scope that
existed as it was, and so do the applications that native functions ask for. -/
theorem definitions_are_local (tracing : Bool) (limit : Nat) (machine : Machine) :
    (∀ (expression : Expr) (scope other : ScopeId) (found : Scope),
      machine.scopes.get? other = some found →
        ∃ kept,
          ((expression.eval tracing (applyWithin tracing limit) scope).after machine).scopes.get?
              other = some kept ∧
            kept.parent = found.parent ∧ kept.location = found.location ∧
            (other ≠ scope → kept = found) ∧
            (∀ name ∈ found.bindings.names, name ∈ kept.bindings.names) ∧
            ∀ name ∉ expression.definedNames,
              kept.bindings.get? name = found.bindings.get? name) ∧
    (∀ (callee : Value) (arguments : List Value) (site other : ScopeId) (found : Scope),
      machine.scopes.get? other = some found →
        ((applyWithin tracing limit callee arguments site).after machine).scopes.get? other =
          some found) ∧
    (∀ (procedure : Value) (arguments : List Value) (other : ScopeId) (found : Scope),
      machine.scopes.get? other = some found →
        ((callBack (applyWithin tracing limit) procedure arguments).after machine).scopes.get?
          other = some found) := by
  have untouching := apply_within_untouching tracing limit
  refine ⟨?_, ?_, ?_⟩
  · intro expression scope other found present
    have grown := (eval_grows tracing untouching scope expression).scopes_after machine
    obtain ⟨added, fits, there⟩ := grown.kept other found present
    refine ⟨_, there, rfl, rfl, ?_, ?_, ?_⟩
    · intro apart
      have same := grown.get_same present fun _ binds => apart binds.1
      exact Option.some.inj (there.symm.trans same)
    · exact fun name member => Bindings.mem_names_put_all _ _ member
    · intro name undefined
      refine Bindings.get_put_all_of_unbound _ _ fun pair member same => undefined ?_
      exact same ▸ (fits pair member).2
  · intro callee arguments site other found present
    exact ((untouching callee arguments site).scopes_after machine).get_same present
      fun _ => not_false
  · intro procedure arguments other found present
    exact ((call_back_grows untouching procedure arguments).scopes_after machine).get_same present
      fun _ => not_false

end Lisplet
