import Lisplet.Proofs.Applications
import Lisplet.Proofs.Recorder
import Lisplet.Proofs.Runs

/-!
# Scopes form a tree

Every scope but the global one lies in a scope that was made before it, so following
parents always ends, and it ends at the global scope. Procedures live in bindings, in
lists inside bindings and in results; each of them was made in a scope that exists. Both
facts depend on each other, since calling a procedure makes a scope inside the one it was
made in. They hold after any runs, also after runs that failed halfway.
-/

namespace Lisplet

/-- The scope that a procedure was made in is one of the first `size` scopes. -/
def Closure.Backed (size : Nat) (closure : Closure) : Prop :=
  closure.scope < size

theorem Value.Within.backed_later {value : Value} {size later : Nat}
    (backed : value.Within (Closure.Backed size)) (grown : size ≤ later) :
    value.Within (Closure.Backed later) :=
  backed.mono fun _ made => Nat.lt_of_lt_of_le made grown

namespace Scopes

/-- The scopes are a tree with the global scope at its root, and the procedures that are
bound in them were made in scopes of the tree. -/
structure Rooted (scopes : Scopes) : Prop where
  root : ∃ found, scopes.get? globalScope = some found ∧ found.parent = none ∧
    found.location = globalLocation
  parents : ∀ scope found, scopes.get? scope = some found → scope ≠ globalScope →
    ∃ parent, found.parent = some parent ∧ parent < scope
  backed : ∀ scope found, scopes.get? scope = some found →
    ∀ pair ∈ found.bindings, pair.2.Within (Closure.Backed scopes.size)

variable {scopes : Scopes}

theorem Rooted.global_lt (rooted : scopes.Rooted) : globalScope < scopes.size := by
  obtain ⟨found, here, -⟩ := rooted.root
  exact get_lt here

theorem Rooted.lookup (rooted : scopes.Rooted) {scope : ScopeId} {name : String} {value : Value}
    (looked : scopes.lookup? scope name = some value) :
    value.Within (Closure.Backed scopes.size) := by
  obtain ⟨holder, found, here, bound⟩ := bound_of_lookup looked
  exact rooted.backed holder found here _ bound

theorem Rooted.define (rooted : scopes.Rooted) (scope : ScopeId) (name : String) {value : Value}
    (given : value.Within (Closure.Backed scopes.size)) :
    (scopes.define scope name value).Rooted where
  root := by
    obtain ⟨found, here, alone, named⟩ := rooted.root
    rw [get_define, here]
    split_ifs
    · exact ⟨_, rfl, alone, named⟩
    · exact ⟨found, rfl, alone, named⟩
  parents := by
    intro other found present inner
    obtain ⟨before, here, parent, -⟩ := get_define_cases present
    rw [parent]
    exact rooted.parents other before here inner
  backed := by
    intro other found present pair member
    rw [size_define]
    obtain ⟨before, here, -, bound⟩ := get_define_cases present
    rcases bound pair member with rfl | old
    · exact given
    · exact rooted.backed other before here pair old

theorem Rooted.make (rooted : scopes.Rooted) {parent : ScopeId} (present : parent < scopes.size)
    (location : String) {added : List (String × Value)}
    (given : ∀ pair ∈ added, pair.2.Within (Closure.Backed scopes.size)) :
    (scopes.make (some parent) location added).Rooted where
  root := by
    obtain ⟨found, here, alone, named⟩ := rooted.root
    exact ⟨found, get_make_old here, alone, named⟩
  parents := by
    intro scope found here inner
    rcases get_make_cases here with old | ⟨rfl, rfl⟩
    · exact rooted.parents scope found old inner
    · exact ⟨parent, rfl, present⟩
  backed := by
    intro scope found here pair member
    have grown : scopes.size ≤ (scopes.make (some parent) location added).size := by
      rw [size_make]
      exact Nat.le_succ _
    rcases get_make_cases here with old | ⟨rfl, rfl⟩
    · exact (rooted.backed scope found old pair member).backed_later grown
    · rcases Bindings.mem_put_all member with new | none
      · exact (given pair new).backed_later grown
      · cases none

/-- The scopes from one outwards, each the parent of the one before it. -/
inductive Ancestry (scopes : Scopes) : ScopeId → List ScopeId → Prop where
  | outermost {scope : ScopeId} {found : Scope} (here : scopes.get? scope = some found)
      (alone : found.parent = none) : Ancestry scopes scope [scope]
  | inside {scope parent : ScopeId} {found : Scope} {path : List ScopeId}
      (here : scopes.get? scope = some found) (lies : found.parent = some parent)
      (rest : Ancestry scopes parent path) : Ancestry scopes scope (scope :: path)

def bound? (scopes : Scopes) (name : String) (scope : ScopeId) : Option Value :=
  (scopes.get? scope).bind fun found => found.bindings.get? name

/-- A scope leads to the global one in finitely many steps, and looking up a name and
tracing the stack walk exactly this way. -/
structure Leads (scopes : Scopes) (scope : ScopeId) (path : List ScopeId) : Prop where
  ancestry : scopes.Ancestry scope path
  descends : path.Pairwise (· > ·)
  ends : path.getLast? = some globalScope
  traced : scopes.stackTrace scope = path.map scopes.location
  looked : ∀ name, scopes.lookup? scope name = path.findSome? (scopes.bound? name)

theorem bound_of_present {scope : ScopeId} {found : Scope}
    (here : scopes.get? scope = some found) (name : String) :
    scopes.bound? name scope = found.bindings.get? name := by
  rw [bound?, here, Option.bind_some]

theorem location_of_present {scope : ScopeId} {found : Scope}
    (here : scopes.get? scope = some found) : scopes.location scope = found.location := by
  rw [location, here, Option.map_some, Option.getD_some]

theorem leads_outermost {found : Scope} (here : scopes.get? globalScope = some found)
    (alone : found.parent = none) : scopes.Leads globalScope [globalScope] where
  ancestry := .outermost here alone
  descends := List.pairwise_singleton _ _
  ends := rfl
  traced := by
    rw [stackTrace, here, List.map_singleton, location_of_present here]
    simp only [alone]
  looked := by
    intro name
    rw [lookup?, here, List.findSome?_singleton, bound_of_present here]
    simp only [alone]
    cases found.bindings.get? name <;> rfl

/-- One step further in. The parent is earlier, so the walk does not stop at it. -/
theorem Leads.inside {scope parent : ScopeId} {found : Scope} {path : List ScopeId}
    (leads : scopes.Leads parent path) (outwards : ∀ outer ∈ path, outer ≤ parent)
    (here : scopes.get? scope = some found) (lies : found.parent = some parent)
    (earlier : parent < scope) : scopes.Leads scope (scope :: path) where
  ancestry := .inside here lies leads.ancestry
  descends := List.pairwise_cons.mpr
    ⟨fun outer member => Nat.lt_of_le_of_lt (outwards outer member) earlier, leads.descends⟩
  ends := by rw [List.getLast?_cons, leads.ends, Option.getD_some]
  traced := by
    rw [stackTrace, here, List.map_cons, location_of_present here, ← leads.traced]
    simp only [lies, if_pos earlier]
  looked := by
    intro name
    rw [lookup?, here, List.findSome?_cons, bound_of_present here, ← leads.looked name]
    simp only [lies, if_pos earlier]
    cases found.bindings.get? name <;> rfl

theorem Rooted.leads (rooted : scopes.Rooted) {scope : ScopeId} (present : scope < scopes.size) :
    ∃ path, scopes.Leads scope path ∧ ∀ outer ∈ path, outer ≤ scope := by
  induction scope using Nat.strongRecOn with
  | ind scope ih =>
      by_cases outermost : scope = globalScope
      · obtain ⟨found, here, alone, -⟩ := rooted.root
        rw [outermost]
        exact ⟨[globalScope], leads_outermost here alone,
          fun outer member => Nat.le_of_eq (List.mem_singleton.mp member)⟩
      · obtain ⟨found, here⟩ := get_of_lt present
        obtain ⟨parent, lies, earlier⟩ := rooted.parents scope found here outermost
        obtain ⟨path, leads, outwards⟩ := ih parent earlier (Nat.lt_trans earlier present)
        refine ⟨scope :: path, leads.inside outwards here lies earlier, ?_⟩
        intro outer member
        rcases List.mem_cons.mp member with rfl | further
        · exact Nat.le_refl _
        · exact Nat.le_of_lt (Nat.lt_of_le_of_lt (outwards outer further) earlier)

end Scopes

/-- More scopes may have been made, and they form a tree. -/
structure Machine.Branches (before after : Machine) : Prop where
  grown : before.scopes.size ≤ after.scopes.size
  rooted : after.scopes.Rooted

theorem Machine.Branches.trans {first second third : Machine} (left : first.Branches second)
    (right : second.Branches third) : first.Branches third :=
  ⟨Nat.le_trans left.grown right.grown, right.rooted⟩

/-- The procedures in a value were made in scopes that exist. -/
def Machine.Backs (machine : Machine) (value : Value) : Prop :=
  value.Within (Closure.Backed machine.scopes.size)

theorem Machine.Branches.backs {before after : Machine} {value : Value}
    (branches : before.Branches after) (backs : before.Backs value) : after.Backs value :=
  backs.backed_later branches.grown

namespace EvalM

/-- An action leaves a tree of scopes, and a result for which `good` holds if it has
one. -/
def Branches {Result : Type} (action : EvalM Result) (machine : Machine)
    (good : Result → Machine → Prop) : Prop :=
  Ensures action machine
    (fun value after => machine.Branches after ∧ good value after)
    (fun _ after => machine.Branches after)

variable {Result Other : Type} {action : EvalM Result} {machine : Machine}
  {good better : Result → Machine → Prop}

theorem branches_pure (rooted : machine.scopes.Rooted) {value : Result}
    (holds : good value machine) : (pure value : EvalM Result).Branches machine good :=
  ⟨⟨Nat.le_refl _, rooted⟩, holds⟩

theorem branches_throw (rooted : machine.scopes.Rooted) (failure : Failure) :
    (throw failure : EvalM Result).Branches machine good :=
  ⟨Nat.le_refl _, rooted⟩

theorem Branches.weaken (branches : action.Branches machine good)
    (implies : ∀ value after, machine.Branches after → good value after → better value after) :
    action.Branches machine better :=
  Ensures.weaken branches (fun value after ends => ⟨ends.1, implies value after ends.1 ends.2⟩)
    fun _ _ ends => ends

theorem Branches.bind {next : Result → EvalM Other} {done : Other → Machine → Prop}
    (first : action.Branches machine good)
    (second : ∀ value middle, machine.Branches middle → good value middle →
      (next value).Branches middle done) : (action >>= next).Branches machine done := by
  unfold Branches
  rw [ensures_bind]
  refine Ensures.weaken first ?_ fun _ _ ends => ends
  intro value middle ends
  exact Ensures.weaken (second value middle ends.1 ends.2)
    (fun _ _ more => ⟨ends.1.trans more.1, more.2⟩) fun _ _ more => ends.1.trans more

theorem branches_of_quiet {property : Result → Prop} (rooted : machine.scopes.Rooted)
    (quiet : Quiet property action) : action.Branches machine fun value _ => property value := by
  have same (after : Machine) (control : machine.SameControl after) : machine.Branches after := by
    refine ⟨Nat.le_of_eq (congrArg Scopes.size control.scopes.symm), ?_⟩
    rw [control.scopes]
    exact rooted
  exact (quiet machine).weaken (fun _ after ends => ⟨same after ends.1, ends.2⟩)
    fun _ after ends => same after ends.1

theorem branches_announce (rooted : machine.scopes.Rooted) (tracing : Bool)
    (step : Machine → TraceStep) :
    (announce tracing step).Branches machine
      fun _ after => after.scopes.size = machine.scopes.size := by
  refine (ensures_announce tracing step machine).weaken ?_ ?_
  · rintro - after (rfl | ⟨text, rfl⟩) <;> exact ⟨⟨Nat.le_refl _, rooted⟩, rfl⟩
  · rintro failure after ⟨rfl, -⟩
    exact ⟨Nat.le_refl _, rooted⟩

theorem branches_define (rooted : machine.scopes.Rooted) (scope : ScopeId) (name : String)
    {value : Value} (backs : machine.Backs value) :
    (define scope name value).Branches machine
      fun _ after => after.scopes.size = machine.scopes.size :=
  have same := Scopes.size_define machine.scopes scope name value
  ⟨⟨Nat.le_of_eq same.symm, rooted.define scope name backs⟩, same⟩

theorem branches_load (rooted : machine.scopes.Rooted) (scope : ScopeId) (name : String) :
    (loadBinding scope name).Branches machine
      fun value after => after.scopes.size = machine.scopes.size ∧ after.Backs value := by
  unfold Branches
  rw [loadBinding, ensures_bind, ensures_get]
  cases looked : machine.scopes.lookup? scope name with
  | some value => exact branches_pure rooted ⟨rfl, rooted.lookup looked⟩
  | none => exact branches_throw rooted (.unbound name scope)

theorem branches_make_scope (rooted : machine.scopes.Rooted) {parent : ScopeId}
    (present : parent < machine.scopes.size) (location : String) {added : List (String × Value)}
    (given : ∀ pair ∈ added, machine.Backs pair.2) :
    (makeScope parent location added).Branches machine
      fun scope after => scope < after.scopes.size := by
  have more : machine.scopes.size < (machine.scopes.make (some parent) location added).size := by
    rw [Scopes.size_make]
    exact Nat.lt_succ_self _
  exact ⟨⟨Nat.le_of_lt more, rooted.make present location given⟩, more⟩

theorem Branches.bracket {enter leave : Machine → Machine}
    (entered : (enter machine).scopes = machine.scopes)
    (left : ∀ machine, (leave machine).scopes = machine.scopes)
    (same : ∀ value after, good value after → good value (leave after))
    (branches : action.Branches (enter machine) good) :
    (EvalM.bracket enter leave action).Branches machine good := by
  have outside (after : Machine) (inner : (enter machine).Branches after) :
      machine.Branches (leave after) := by
    refine ⟨?_, ?_⟩
    · rw [left, ← entered]
      exact inner.grown
    · rw [left]
      exact inner.rooted
  unfold Branches
  rw [ensures_bracket]
  exact Ensures.weaken branches
    (fun value after ends => ⟨outside after ends.1, same value after ends.2⟩)
    fun _ after ends => outside after ends

theorem Branches.adapt (change : Failure → Failure) (branches : action.Branches machine good) :
    Branches (action.adaptExcept change) machine good := by
  unfold Branches
  rw [ensures_adapt]
  exact branches

end EvalM

def Applier.Branching (apply : Applier) : Prop :=
  ∀ machine callee arguments site, machine.scopes.Rooted → machine.Backs callee →
    (∀ argument ∈ arguments, machine.Backs argument) →
      (apply callee arguments site).Branches machine fun value after => after.Backs value

/-- With so many scopes made, the steps of a script mention only procedures that were
made in them. An application may make more scopes. -/
def Script.Backed : Script → Nat → Prop
  | .done value, size => value.Within (Closure.Backed size)
  | .fault _, _ => True
  | .announce _ next, size => next.Backed size
  | .load _ _ next, size => ∀ value, value.Within (Closure.Backed size) → (next value).Backed size
  | .define _ _ value next, size => value.Within (Closure.Backed size) ∧ next.Backed size
  | .apply callee arguments _ next, size =>
      callee.Within (Closure.Backed size) ∧
      (∀ argument ∈ arguments, argument.Within (Closure.Backed size)) ∧
      ∀ later value, size ≤ later → value.Within (Closure.Backed later) → (next value).Backed later

mutual

theorem Expr.script_backed {scope : ScopeId} {size : Nat} (present : scope < size)
    (expression : Expr) {next : Value → Script}
    (rest : ∀ later value, size ≤ later → value.Within (Closure.Backed later) →
      (next value).Backed later) :
    (expression.script scope next).Backed size := by
  -- Sizes only grow on the way to `next`, so what was backed before still is.
  unfold Expr.script Script.Backed
  cases expression with
  | literal location value => exact rest size _ (Nat.le_refl _) (Value.within_of_datum _ value)
  | reference location name => exact fun value backed => rest size value (Nat.le_refl _) backed
  | apply location callee arguments =>
      refine Expr.script_backed present callee fun later procedure grown backed => ?_
      refine script_each_backed (Nat.lt_of_lt_of_le present grown) arguments
        fun last values more all => ?_
      refine ⟨backed.backed_later more, all, fun final value further within => ?_⟩
      exact rest final value (Nat.le_trans (Nat.le_trans grown more) further) within
  | branch location test consequent alternate =>
      refine Expr.script_backed present test fun later verdict grown _ => ?_
      have there := Nat.lt_of_lt_of_le present grown
      have onwards (last : Nat) (value : Value) (more : later ≤ last) :=
        rest last value (Nat.le_trans grown more)
      split_ifs
      · exact Expr.script_backed there consequent onwards
      · exact Expr.script_backed there alternate onwards
  | define location name value =>
      refine Expr.script_backed present value fun later result grown backed => ?_
      exact ⟨backed, rest later result grown backed⟩
  | procedure location name parameters body =>
      have made : (Value.closure ⟨scope, name, parameters, body⟩).Within (Closure.Backed size) :=
        Value.within_closure.mpr present
      exact ⟨made, rest size _ (Nat.le_refl _) made⟩
  | lambda location parameters body =>
      exact rest size _ (Nat.le_refl _) (Value.within_closure.mpr present)
  | quote location form => exact rest size _ (Nat.le_refl _) (quoted_value_within _ form)
  | plain value => trivial

theorem script_each_backed {scope : ScopeId} {size : Nat} (present : scope < size)
    (expressions : List Expr) {next : List Value → Script}
    (rest : ∀ later values, size ≤ later →
      (∀ value ∈ values, Value.Within (Closure.Backed later) value) →
        (next values).Backed later) :
    (scriptEach scope expressions next).Backed size := by
  cases expressions with
  | nil => exact rest size [] (Nat.le_refl _) fun _ none => absurd none List.not_mem_nil
  | cons expression others =>
      rw [scriptEach]
      refine Expr.script_backed present expression fun later value grown backed => ?_
      refine script_each_backed (Nat.lt_of_lt_of_le present grown) others
        fun last values more all => ?_
      exact rest last _ (Nat.le_trans grown more)
        (List.forall_mem_cons.mpr ⟨backed.backed_later more, all⟩)

end

theorem script_sequence_backed {scope : ScopeId} {size : Nat} (present : scope < size)
    {result : Value} (backed : result.Within (Closure.Backed size)) (expressions : List Expr) :
    (scriptSequence scope result expressions).Backed size := by
  induction expressions generalizing result size with
  | nil => exact backed
  | cons expression rest ih =>
      refine Expr.script_backed present expression fun later value grown backed => ?_
      exact ih (Nat.lt_of_lt_of_le present grown) backed

section Evaluation

variable (tracing : Bool) {apply : Applier} {machine : Machine}

theorem Script.Backed.run_branches (branching : apply.Branching) {script : Script}
    (rooted : machine.scopes.Rooted) (backed : script.Backed machine.scopes.size) :
    (script.run tracing apply).Branches machine fun value after => after.Backs value := by
  induction script generalizing machine with
  | done value => exact EvalM.branches_pure rooted backed
  | fault cause => exact EvalM.branches_throw rooted (.host cause)
  | announce step next ih =>
      refine (EvalM.branches_announce rooted tracing step).bind ?_
      intro _ middle branches same
      exact ih branches.rooted (same ▸ backed)
  | load scope name next ih =>
      refine (EvalM.branches_load rooted scope name).bind ?_
      rintro value middle branches ⟨same, backs⟩
      refine ih value branches.rooted ?_
      unfold Machine.Backs at backs
      rw [same] at backs ⊢
      exact backed value backs
  | define scope name value next ih =>
      refine (EvalM.branches_define rooted scope name backed.1).bind ?_
      intro _ middle branches same
      exact ih branches.rooted (same ▸ backed.2)
  | apply callee arguments site next ih =>
      refine (branching machine callee arguments site rooted backed.1 backed.2.1).bind ?_
      intro value middle branches backs
      exact ih value branches.rooted (backed.2.2 _ value branches.grown backs)

theorem eval_sequence_branches (branching : apply.Branching) (rooted : machine.scopes.Rooted)
    {scope : ScopeId} (present : scope < machine.scopes.size) (program : List Expr) :
    (evalSequence tracing apply scope .nil program).Branches machine
      fun value after => after.Backs value := by
  rw [eval_sequence_eq_run]
  have backed := script_sequence_backed present (Value.within_atom _ .nil) program
  exact backed.run_branches tracing branching rooted

theorem call_closure_branches (branching : apply.Branching) (rooted : machine.scopes.Rooted)
    {closure : Closure} {arguments : List Value} (site : ScopeId)
    (made : closure.Backed machine.scopes.size)
    (given : ∀ argument ∈ arguments, machine.Backs argument) :
    (callClosure tracing apply closure arguments site).Branches machine
      fun value after => after.Backs value := by
  refine (EvalM.branches_announce rooted tracing _).bind fun _ begun branches same => ?_
  split_ifs
  · exact EvalM.branches_throw branches.rooted _
  · have present : closure.scope < begun.scopes.size := Nat.lt_of_lt_of_le made branches.grown
    have bound : ∀ pair ∈ closure.parameters.zip arguments, begun.Backs pair.2 := by
      intro pair member
      exact branches.backs (given pair.2 (List.of_mem_zip member).2)
    refine (EvalM.branches_make_scope branches.rooted present closure.name bound).bind ?_
    intro scope middle further there
    -- The body runs in the scope that was just made, so it may make procedures in it.
    have called : middle.inCall.scopes.Rooted := further.rooted
    refine .bracket rfl (fun _ => rfl) (fun _ _ backs => backs) ?_
    exact eval_sequence_branches tracing branching called there closure.body

theorem call_back_branches (branching : apply.Branching) (rooted : machine.scopes.Rooted)
    {procedure : Value} {arguments : List Value} (given : machine.Backs procedure)
    (passed : ∀ argument ∈ arguments, machine.Backs argument) :
    (callBack apply procedure arguments).Branches machine fun value after => after.Backs value := by
  unfold EvalM.Branches
  rw [callBack, ensures_bind, ensures_get]
  cases machine.sites with
  | nil => exact EvalM.branches_throw rooted _
  | cons site outer => exact branching machine procedure arguments site rooted given passed

/-- A dialogue passes on what it was given. The condition is for all larger sets of
procedures, since what is asked for may make new ones. -/
theorem Dialogue.run_branches (branching : apply.Branching) {dialogue : Dialogue}
    (rooted : machine.scopes.Rooted)
    (tame : ∀ size, machine.scopes.size ≤ size → dialogue.Tame (Closure.Backed size)) :
    (dialogue.run (callBack apply)).Branches machine
      fun reply after => reply.Within (Closure.Backed after.scopes.size) := by
  induction dialogue generalizing machine with
  | answer action =>
      cases tame _ (Nat.le_refl _) with
      | answer quiet =>
          refine (EvalM.branches_of_quiet rooted quiet).weaken ?_
          intro reply after branches within
          cases reply with
          | value answer => exact branches.backs within
          | «foreign» kind => trivial
  | ask procedure arguments next ih =>
      cases tame _ (Nat.le_refl _) with
      | ask given passed _ =>
          refine (call_back_branches branching rooted given passed).bind ?_
          intro value middle branches backs
          refine ih value branches.rooted fun size more => ?_
          cases tame size (Nat.le_trans branches.grown more) with
          | ask _ _ rest => exact rest value (backs.backed_later more)

theorem call_native_branches (branching : apply.Branching) (rooted : machine.scopes.Rooted)
    (function : Native) {arguments : List Value} (site : ScopeId)
    (given : ∀ argument ∈ arguments, machine.Backs argument) :
    (callNative tracing apply function arguments site).Branches machine
      fun value after => after.Backs value := by
  refine (EvalM.branches_announce rooted tracing _).bind fun _ begun branches _ => ?_
  have invoked : (EvalM.insideNative site
      (Prelude.invoke (callBack apply) function arguments)).Branches begun
        fun reply after => reply.Within (Closure.Backed after.scopes.size) := by
    rw [Native.invoke_eq_run]
    refine .bracket rfl (fun _ => rfl) (fun _ _ within => within) ?_
    refine Dialogue.run_branches branching branches.rooted fun size more => ?_
    refine function.dialogue_tame fun argument member => ?_
    exact (branches.backs (given argument member)).backed_later more
  refine (invoked.adapt (blameNative site)).bind fun reply middle further within => ?_
  cases reply with
  | value answer => exact EvalM.branches_pure further.rooted within
  | «foreign» kind => exact EvalM.branches_throw further.rooted _

theorem apply_with_branching (branching : apply.Branching) :
    (applyWith tracing apply).Branching := by
  intro machine callee arguments site rooted given passed
  cases callee with
  | closure closure =>
      exact call_closure_branches tracing branching rooted site (Value.within_closure.mp given) passed
  | native function => exact call_native_branches tracing branching rooted function site passed
  | atom | list | form =>
      refine (EvalM.branches_of_quiet rooted (quiet_of_text _)).bind ?_
      intro _ middle branches _
      exact EvalM.branches_throw branches.rooted _

theorem apply_within_branching (limit : Nat) : (applyWithin tracing limit).Branching := by
  induction limit with
  | zero => exact fun _ _ _ _ rooted _ _ => EvalM.branches_throw rooted _
  | succ limit ih => exact apply_with_branching tracing ih

end Evaluation

namespace Interpreter

variable {interpreter : Interpreter}

theorem run_branches (rooted : interpreter.machine.scopes.Rooted) (source : String) :
    interpreter.machine.Branches (interpreter.run source).2.machine ∧
      ∀ value, (interpreter.run source).1 = .ok value →
        (interpreter.run source).2.machine.Backs value := by
  cases parsed : parseSource source with
  | error error =>
      rw [run_of_unread interpreter parsed]
      exact ⟨⟨Nat.le_refl _, rooted⟩, fun _ none => by cases none⟩
  | ok program =>
      have branches := eval_sequence_branches interpreter.options.traceExecution
        (apply_within_branching interpreter.options.traceExecution recursionLimit) rooted
        rooted.global_lt program
      rw [run_of_parsed interpreter parsed]
      unfold evaluate perform applier
      split
      next result after ran =>
        obtain ⟨grown, backs⟩ := branches.of_ok ran
        refine ⟨grown, fun value same => ?_⟩
        cases same
        exact backs
      next failure after ran => exact ⟨branches.of_error ran, fun _ none => by cases none⟩

theorem run_all_branches (rooted : interpreter.machine.scopes.Rooted) (sources : List String) :
    interpreter.machine.Branches (interpreter.runAll sources).2.machine ∧
      ∀ value, .ok value ∈ (interpreter.runAll sources).1 →
        (interpreter.runAll sources).2.machine.Backs value := by
  induction sources generalizing interpreter with
  | nil => exact ⟨⟨Nat.le_refl _, rooted⟩, fun _ none => absurd none List.not_mem_nil⟩
  | cons source rest ih =>
      obtain ⟨first, result⟩ := run_branches rooted source
      obtain ⟨others, results⟩ := ih first.rooted
      refine ⟨first.trans others, fun value member => ?_⟩
      rcases List.mem_cons.mp member with here | later
      · exact others.backs (result value here.symm)
      · exact results value later

theorem run_all_grows (interpreter : Interpreter) (sources : List String) :
    interpreter.machine.scopes.Grows (fun _ _ => True)
      (interpreter.runAll sources).2.machine.scopes := by
  induction sources generalizing interpreter with
  | nil => exact .refl _ _
  | cons source rest ih =>
      refine Scopes.Grows.trans ?_ (ih (interpreter.run source).2)
      cases parsed : parseSource source with
      | error error =>
          rw [run_of_unread interpreter parsed]
          exact .refl _ _
      | ok program =>
          have grows := eval_sequence_grows interpreter.options.traceExecution
            (apply_within_untouching interpreter.options.traceExecution recursionLimit)
            globalScope .nil program
          rw [run_of_parsed interpreter parsed, evaluate, perform_machine]
          exact (grows.scopes_after interpreter.machine).mono fun _ _ _ => trivial

end Interpreter

theorem start_rooted (functions : List Native) (files : FileSystem) :
    (Machine.start functions files).scopes.Rooted where
  root := ⟨_, Scopes.get_make_new {} none globalLocation _, rfl, rfl⟩
  parents := by
    intro scope found present inner
    rcases Scopes.get_make_cases present with none | ⟨first, -⟩
    · cases none
    · exact absurd first inner
  backed := by
    intro scope found present pair member
    rcases Scopes.get_make_cases present with none | ⟨-, rfl⟩
    · cases none
    · rcases Bindings.mem_put_all member with native | none
      · obtain ⟨function, -, rfl⟩ := List.mem_map.mp native
        exact fun _ inside => absurd inside List.not_mem_nil
      · cases none

/-- After any runs, successful or failed, the scopes form a tree with the global scope at
its root. Scopes are numbered as they are made, so a parent was made before what lies in
it: parents lead to the global scope in finitely many steps, and looking up a name and
tracing the stack walk this way. Every procedure that is bound, that lies in a list that is
bound, or that a run ended with was made in a scope that exists. And a scope keeps its
parent and its location through all later runs. -/
theorem scopes_form_a_tree (options : Options) (watcher : Watcher) (files : FileSystem)
    (earlier : List String) :
    let outcomes := ((Interpreter.start options watcher files).runAll earlier).1
    let interpreter := ((Interpreter.start options watcher files).runAll earlier).2
    let scopes := interpreter.machine.scopes
    (∃ found, scopes.get? globalScope = some found ∧ found.parent = none ∧
      found.location = "<global>") ∧
    (∀ scope found, scopes.get? scope = some found → scope ≠ globalScope →
      ∃ parent, found.parent = some parent ∧ parent < scope) ∧
    (∀ scope, scope < scopes.size → ∃ path, scopes.Leads scope path) ∧
    (∀ scope found, scopes.get? scope = some found → ∀ pair ∈ found.bindings,
      ∀ closure ∈ pair.2.closures, ∃ home, scopes.get? closure.scope = some home) ∧
    (∀ value, .ok value ∈ outcomes →
      ∀ closure ∈ value.closures, ∃ home, scopes.get? closure.scope = some home) ∧
    (∀ later scope found, scopes.get? scope = some found →
      ∃ kept, (interpreter.runAll later).2.machine.scopes.get? scope = some kept ∧
        kept.parent = found.parent ∧ kept.location = found.location) := by
  have start : (Interpreter.start options watcher files).machine.scopes.Rooted :=
    start_rooted Native.standard files
  obtain ⟨branches, results⟩ := Interpreter.run_all_branches start earlier
  have rooted := branches.rooted
  refine ⟨rooted.root, rooted.parents, ?_, ?_, ?_, ?_⟩
  · intro scope present
    obtain ⟨path, leads, -⟩ := rooted.leads present
    exact ⟨path, leads⟩
  · intro scope found here pair member closure inside
    exact Scopes.get_of_lt (rooted.backed scope found here pair member closure inside)
  · intro value member closure inside
    exact Scopes.get_of_lt (results value member closure inside)
  · intro later scope found here
    obtain ⟨added, -, there⟩ := (Interpreter.run_all_grows _ later).kept scope found here
    exact ⟨_, there, rfl, rfl⟩

/-- A run that makes three scopes, each inside the one before, and then fails. -/
def nestingRun : String :=
  "(define add [x] (lambda [y] (lambda [z] (first x)))) (((add 1) 2) 3)"

theorem scopes_form_a_tree_nested :
    3 < ((Interpreter.start {} .output {}).runAll [nestingRun]).2.machine.scopes.size ∧
      ∃ path, ((Interpreter.start {} .output {}).runAll [nestingRun]).2.machine.scopes.Leads 3
        path := by
  have present : 3 < ((Interpreter.start {} .output {}).runAll [nestingRun]).2.machine.scopes.size := by
    decide +kernel
  exact ⟨present, (scopes_form_a_tree {} .output {} [nestingRun]).2.2.1 3 present⟩

end Lisplet
