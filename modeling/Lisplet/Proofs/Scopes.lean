import Lisplet.Machine.Scope
import Mathlib.Tactic.Common

/-!
# How scopes change

Scopes only ever grow: new ones are made, and names are bound in old ones.
`Scopes.Grows` says in which scopes and for which names. Whatever grows keeps the
parents and the locations, and so the stack traces.
-/

namespace Lisplet

namespace Bindings

theorem get_put (bindings : Bindings) (name other : String) (value : Value) :
    (bindings.put name value).get? other =
      if other = name then some value else bindings.get? other := by
  induction bindings with
  | nil =>
      unfold put get?
      rw [List.lookup_cons, List.lookup_nil]
      by_cases same : other = name
      · simp [same]
      · simp [same, beq_false_of_ne same]
  | cons binding rest ih =>
      obtain ⟨bound, old⟩ := binding
      unfold put
      unfold get? at ih ⊢
      by_cases here : bound = name
      · subst here
        rw [if_pos rfl, List.lookup_cons, List.lookup_cons]
        by_cases same : other = bound
        · simp [same]
        · simp [same, beq_false_of_ne same]
      · rw [if_neg here, List.lookup_cons, List.lookup_cons, ih]
        by_cases same : other = bound
        · subst same
          simp [here]
        · simp [beq_false_of_ne same]

theorem mem_names_put (bindings : Bindings) (name : String) (value : Value) {bound : String}
    (member : bound ∈ bindings.names) : bound ∈ (bindings.put name value).names := by
  induction bindings with
  | nil => cases member
  | cons binding rest ih =>
      unfold put
      unfold names at ih member ⊢
      split_ifs with here
      · simpa [here] using member
      · simp only [List.map_cons, List.mem_cons] at member ⊢
        exact member.imp_right ih

theorem put_all_append (bindings : Bindings) (added more : List (String × Value)) :
    (bindings.putAll added).putAll more = bindings.putAll (added ++ more) := by
  simp [putAll]

theorem get_put_all_of_unbound (bindings : Bindings) (added : List (String × Value))
    {name : String} (unbound : ∀ pair ∈ added, pair.1 ≠ name) :
    (bindings.putAll added).get? name = bindings.get? name := by
  induction added generalizing bindings with
  | nil => rfl
  | cons pair added ih =>
      have apart : name ≠ pair.1 := (unbound pair (by simp)).symm
      have rest := ih (bindings.put pair.1 pair.2) (by
        intro other member
        exact unbound other (by simp [member]))
      rw [get_put, if_neg apart] at rest
      exact rest

theorem mem_names_put_all (bindings : Bindings) (added : List (String × Value)) {bound : String}
    (member : bound ∈ bindings.names) : bound ∈ (bindings.putAll added).names := by
  induction added generalizing bindings with
  | nil => exact member
  | cons pair added ih => exact ih (bindings.put pair.1 pair.2) (mem_names_put _ _ _ member)

theorem mem_put {bindings : Bindings} {name : String} {value : Value} {pair : String × Value}
    (member : pair ∈ bindings.put name value) : pair = (name, value) ∨ pair ∈ bindings := by
  induction bindings with
  | nil => exact .inl (List.mem_singleton.mp member)
  | cons binding rest ih =>
      unfold put at member
      split_ifs at member
      · exact (List.mem_cons.mp member).imp_right (List.mem_cons_of_mem _)
      · rcases List.mem_cons.mp member with same | later
        · exact .inr (same ▸ List.mem_cons_self)
        · exact (ih later).imp_right (List.mem_cons_of_mem _)

theorem mem_put_all {bindings : Bindings} {added : List (String × Value)} {pair : String × Value}
    (member : pair ∈ bindings.putAll added) : pair ∈ added ∨ pair ∈ bindings := by
  induction added generalizing bindings with
  | nil => exact .inr member
  | cons binding added ih =>
      rcases @ih (bindings.put binding.1 binding.2) member with later | earlier
      · exact .inl (List.mem_cons_of_mem _ later)
      · rcases mem_put earlier with rfl | old
        · exact .inl List.mem_cons_self
        · exact .inr old

theorem mem_of_get {bindings : Bindings} {name : String} {value : Value}
    (bound : bindings.get? name = some value) : (name, value) ∈ bindings := by
  induction bindings with
  | nil => cases bound
  | cons binding rest ih =>
      unfold get? at bound ih
      rw [List.lookup_cons] at bound
      split at bound
      next same =>
        cases bound
        exact (eq_of_beq same) ▸ List.mem_cons_self
      next => exact List.mem_cons_of_mem _ (ih bound)

end Bindings

namespace Scopes

theorem get_lt {scopes : Scopes} {scope : ScopeId} {found : Scope}
    (present : scopes.get? scope = some found) : scope < scopes.size := by
  unfold get? at present
  exact (Array.getElem?_eq_some_iff.mp present).1

theorem get_of_lt {scopes : Scopes} {scope : ScopeId} (present : scope < scopes.size) :
    ∃ found, scopes.get? scope = some found :=
  ⟨scopes.table[scope], Array.getElem?_eq_getElem present⟩

theorem ext_get {left right : Scopes} (same : ∀ scope, left.get? scope = right.get? scope) :
    left = right := by
  obtain ⟨leftTable⟩ := left
  obtain ⟨rightTable⟩ := right
  exact congrArg Scopes.mk (Array.ext_getElem? same)

theorem size_make (scopes : Scopes) (parent : Option ScopeId) (location : String)
    (added : List (String × Value)) :
    (scopes.make parent location added).size = scopes.size + 1 := by
  simp [make, size]

theorem get_make_old {scopes : Scopes} {parent : Option ScopeId} {location : String}
    {added : List (String × Value)} {scope : ScopeId} {found : Scope}
    (present : scopes.get? scope = some found) :
    (scopes.make parent location added).get? scope = some found := by
  have bound := get_lt present
  unfold get? make at *
  rw [Array.getElem?_push_lt bound, ← Array.getElem?_eq_getElem bound]
  exact present

theorem get_make_new (scopes : Scopes) (parent : Option ScopeId) (location : String)
    (added : List (String × Value)) :
    (scopes.make parent location added).get? scopes.size =
      some ⟨parent, location, Bindings.putAll [] added⟩ := by
  simp [get?, make, size]

theorem get_make_cases {scopes : Scopes} {parent : Option ScopeId} {location : String}
    {added : List (String × Value)} {scope : ScopeId} {found : Scope}
    (present : (scopes.make parent location added).get? scope = some found) :
    scopes.get? scope = some found ∨
      scope = scopes.size ∧ found = ⟨parent, location, Bindings.putAll [] added⟩ := by
  have bound := get_lt present
  rw [size_make] at bound
  rcases Nat.lt_succ_iff_lt_or_eq.mp bound with earlier | rfl
  · obtain ⟨before, here⟩ := get_of_lt earlier
    rw [get_make_old here] at present
    exact .inl (here.trans present)
  · rw [get_make_new] at present
    exact .inr ⟨rfl, (Option.some.inj present).symm⟩

theorem size_define (scopes : Scopes) (scope : ScopeId) (name : String) (value : Value) :
    (scopes.define scope name value).size = scopes.size := by
  simp [define, size]

theorem get_define (scopes : Scopes) (scope other : ScopeId) (name : String) (value : Value) :
    (scopes.define scope name value).get? other =
      if other = scope then
        (scopes.get? other).map fun found =>
          { found with bindings := found.bindings.put name value }
      else scopes.get? other := by
  unfold get? define
  dsimp only
  rw [Array.getElem?_modify]
  by_cases same : scope = other
  · simp [same]
  · simp [same, Ne.symm same]

/-- After a name was bound, any scope lies where it lay and binds what it bound before,
and perhaps that name. -/
theorem get_define_cases {scopes : Scopes} {scope other : ScopeId} {name : String} {value : Value}
    {found : Scope} (present : (scopes.define scope name value).get? other = some found) :
    ∃ before, scopes.get? other = some before ∧ found.parent = before.parent ∧
      ∀ pair ∈ found.bindings, pair = (name, value) ∨ pair ∈ before.bindings := by
  rw [get_define] at present
  split_ifs at present
  · obtain ⟨before, here, rfl⟩ := Option.map_eq_some_iff.mp present
    exact ⟨before, here, rfl, fun _ => Bindings.mem_put⟩
  · exact ⟨found, present, rfl, fun _ => .inr⟩

theorem bound_of_lookup {scopes : Scopes} {scope : ScopeId} {name : String} {value : Value}
    (looked : scopes.lookup? scope name = some value) :
    ∃ holder found, scopes.get? holder = some found ∧ (name, value) ∈ found.bindings := by
  induction scope using Nat.strongRecOn with
  | ind scope ih =>
      rw [lookup?] at looked
      split at looked
      next => cases looked
      next found present =>
        split at looked
        next bound =>
          cases looked
          exact ⟨scope, found, present, Bindings.mem_of_get bound⟩
        next =>
          split at looked
          next => cases looked
          next parent _ =>
            split_ifs at looked with earlier
            exact ih parent earlier looked

theorem stack_trace_head {scopes : Scopes} {scope : ScopeId} (present : scope < scopes.size) :
    (scopes.stackTrace scope).head? = some (scopes.location scope) := by
  obtain ⟨found, here⟩ := get_of_lt present
  rw [stackTrace, location, here]
  dsimp only
  cases found.parent with
  | none => rfl
  | some parent =>
      dsimp only
      split_ifs <;> rfl

/-- The later scopes come from the earlier ones by making scopes and by binding
names, in scopes that existed before only such as are permitted there. -/
structure Grows (permitted : ScopeId → String → Prop) (before after : Scopes) : Prop where
  size : before.size ≤ after.size
  kept : ∀ scope found, before.get? scope = some found →
    ∃ added : List (String × Value), (∀ pair ∈ added, permitted scope pair.1) ∧
      after.get? scope = some { found with bindings := found.bindings.putAll added }

/-- No name may be bound in a scope that existed before. -/
def Untouched : ScopeId → String → Prop :=
  fun _ _ => False

namespace Grows

variable {permitted allowed : ScopeId → String → Prop} {before middle after : Scopes}

theorem refl (permitted : ScopeId → String → Prop) (scopes : Scopes) :
    scopes.Grows permitted scopes :=
  ⟨Nat.le_refl _, fun _ _ present => ⟨[], by simp, present⟩⟩

theorem trans (first : before.Grows permitted middle) (second : middle.Grows permitted after) :
    before.Grows permitted after := by
  refine ⟨Nat.le_trans first.size second.size, ?_⟩
  intro scope found present
  obtain ⟨added, fits, there⟩ := first.kept scope found present
  obtain ⟨more, moreFits, last⟩ := second.kept scope _ there
  refine ⟨added ++ more, ?_, ?_⟩
  · intro pair member
    rcases List.mem_append.mp member with early | late
    · exact fits pair early
    · exact moreFits pair late
  · rw [last, ← Bindings.put_all_append]

theorem mono (grows : before.Grows permitted after)
    (weaker : ∀ scope name, permitted scope name → allowed scope name) :
    before.Grows allowed after := by
  refine ⟨grows.size, ?_⟩
  intro scope found present
  obtain ⟨added, fits, there⟩ := grows.kept scope found present
  exact ⟨added, fun pair member => weaker _ _ (fits pair member), there⟩

theorem define (scopes : Scopes) (scope : ScopeId) (name : String) (value : Value)
    (fits : permitted scope name) : scopes.Grows permitted (scopes.define scope name value) := by
  refine ⟨Nat.le_of_eq (size_define ..).symm, ?_⟩
  intro other found present
  rw [get_define, present]
  by_cases same : other = scope
  · subst same
    exact ⟨[(name, value)], by simpa using fits, by simp [Bindings.putAll]⟩
  · exact ⟨[], by simp, by simp [same, Bindings.putAll]⟩

theorem make (scopes : Scopes) (parent : Option ScopeId) (location : String)
    (added : List (String × Value))
    (grows : (scopes.make parent location added).Grows
      (fun scope name => scope = scopes.size ∧ permitted scope name) after) :
    scopes.Grows Untouched after := by
  refine ⟨?_, ?_⟩
  · have larger := grows.size
    rw [size_make] at larger
    omega
  · intro scope found present
    obtain ⟨bound, fits, there⟩ := grows.kept scope found (get_make_old present)
    cases bound with
    | nil => exact ⟨[], by simp, there⟩
    | cons pair bound =>
        exact absurd (fits pair (by simp)).1 (Nat.ne_of_lt (get_lt present))

theorem get_same (grows : before.Grows permitted after) {scope : ScopeId} {found : Scope}
    (present : before.get? scope = some found) (forbidden : ∀ name, ¬permitted scope name) :
    after.get? scope = some found := by
  obtain ⟨added, fits, there⟩ := grows.kept scope found present
  cases added with
  | nil => exact there
  | cons pair added => exact absurd (fits pair (by simp)) (forbidden _)

theorem stack_trace (grows : before.Grows permitted after) {scope : ScopeId}
    (present : scope < before.size) : after.stackTrace scope = before.stackTrace scope := by
  induction scope using Nat.strongRecOn with
  | ind scope ih =>
      obtain ⟨found, here⟩ := get_of_lt present
      obtain ⟨added, -, there⟩ := grows.kept scope found here
      rw [stackTrace, stackTrace, here, there]
      dsimp only
      cases found.parent with
      | none => rfl
      | some parent =>
          dsimp only
          split_ifs with earlier
          · rw [ih parent earlier (Nat.lt_trans earlier present)]
          · rfl

end Grows

end Scopes

end Lisplet
