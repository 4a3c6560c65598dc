import Lisplet.Proofs.Scopes
import Mathlib.Data.List.Basic

/-!
# The history of scopes

What a scope binds can be told from what was done to it: scopes are made, inside others
or not, and names are bound in them, one at a time or several at once. A name stands for
what was bound last, in the nearest scope around that was ever given the name.
-/

namespace Lisplet

/-- What can be done where `count` scopes exist. -/
inductive Operation (count : Nat) where
  /-- Makes an outermost scope that binds the names of a table. -/
  | root (table : List (String × Value))
  /-- Makes an empty scope, inside another if there is a parent. -/
  | make (parent : Option (Fin count)) (location : String)
  | define (scope : Fin count) (name : String) (value : Value)
  | add (scope : Fin count) (added : List (String × Value))

namespace Operation

variable {count : Nat}

def total : Operation count → Nat
  | .root _ => count + 1
  | .make .. => count + 1
  | .define .. => count
  | .add .. => count

def perform (scopes : Scopes) : Operation count → Scopes
  | .root table => scopes.make none globalLocation table
  | .make parent location => scopes.make (parent.map Fin.val) location []
  | .define scope name value => scopes.define scope name value
  | .add scope added => scopes.defineAll scope added

/-- The bindings that a scope is given, in their order. A new scope has the next
number. -/
def given (scope : ScopeId) : Operation count → List (String × Value)
  | .root table => if scope = count then table else []
  | .make .. => []
  | .define target name value => if scope = target then [(name, value)] else []
  | .add target added => if scope = target then added else []

end Operation

/-- A finite sequence of operations, each on scopes that exist by then. -/
inductive History : Nat → Type where
  | start : History 0
  | next {count : Nat} (earlier : History count) (operation : Operation count) :
      History operation.total

namespace History

def scopes {count : Nat} : History count → Scopes
  | .start => {}
  | .next earlier operation => operation.perform earlier.scopes

/-- All bindings that a scope was ever given, the oldest first. -/
def given {count : Nat} (scope : ScopeId) : History count → List (String × Value)
  | .start => []
  | .next earlier operation => earlier.given scope ++ operation.given scope

def namesGiven {count : Nat} (history : History count) (scope : ScopeId) : List String :=
  (history.given scope).map Prod.fst

/-- The value that a name was bound to last in a scope. -/
def latest? {count : Nat} (history : History count) (name : String) (scope : ScopeId) :
    Option Value :=
  (history.given scope).reverse.lookup name

/-- The scopes from one out to its outermost. -/
def chain {count : Nat} (scope : ScopeId) : History count → List ScopeId
  | .start => []
  | @next count earlier operation =>
      match operation with
      | .root _ => if scope = count then [count] else earlier.chain scope
      | .make none _ => if scope = count then [count] else earlier.chain scope
      | .make (some parent) _ =>
          if scope = count then count :: earlier.chain parent else earlier.chain scope
      | .define .. => earlier.chain scope
      | .add .. => earlier.chain scope

end History

theorem lookup_reverse_eq_none {pairs : List (String × Value)} {name : String} :
    pairs.reverse.lookup name = none ↔ name ∉ pairs.map Prod.fst := by
  rw [List.lookup_eq_none_iff, List.mem_map]
  constructor
  · rintro apart ⟨pair, member, rfl⟩
    simpa using apart pair (List.mem_reverse.mpr member)
  · intro absent pair member
    rw [bne_iff_ne]
    rintro rfl
    exact absent ⟨pair, List.mem_reverse.mp member, rfl⟩

namespace Bindings

theorem get_put_all (bindings : Bindings) (added : List (String × Value)) (name : String) :
    (bindings.putAll added).get? name = (added.reverse ++ bindings).lookup name := by
  induction added generalizing bindings with
  | nil => rfl
  | cons pair added ih =>
      have first : (bindings.put pair.1 pair.2).get? name = (pair :: bindings).lookup name := by
        rw [get_put, List.lookup_cons]
        by_cases same : name = pair.1
        · simp [same]
        · simp [same, beq_false_of_ne same, get?]
      unfold get? at first
      have rest := ih (bindings.put pair.1 pair.2)
      rw [List.lookup_append, first, ← List.lookup_append] at rest
      rw [List.reverse_cons, List.append_assoc]
      exact rest

theorem names_put (bindings : Bindings) (name : String) (value : Value) :
    (bindings.put name value).names =
      if name ∈ bindings.names then bindings.names else bindings.names ++ [name] := by
  induction bindings with
  | nil => rfl
  | cons binding rest ih =>
      unfold put
      unfold names at ih ⊢
      by_cases here : binding.1 = name
      · simp [here]
      · simp only [if_neg here, List.map_cons, ih, List.mem_cons, Ne.symm here, false_or]
        split_ifs <;> rfl

/-- Names in the order in which they come up first, each once. -/
structure FirstOrder (names given : List String) : Prop where
  once : names.Nodup
  same : ∀ name, name ∈ names ↔ name ∈ given
  ordered : names.Pairwise fun earlier later => given.idxOf earlier < given.idxOf later

/-- A name that comes up again keeps its place; a new one goes to the end. -/
theorem FirstOrder.more {names given : List String} (order : FirstOrder names given)
    (name : String) :
    FirstOrder (if name ∈ names then names else names ++ [name]) (given ++ [name]) := by
  have kept : names.Pairwise fun earlier later =>
      (given ++ [name]).idxOf earlier < (given ++ [name]).idxOf later := by
    refine order.ordered.imp_of_mem fun first second before => ?_
    rw [List.idxOf_append_of_mem ((order.same _).mp first),
      List.idxOf_append_of_mem ((order.same _).mp second)]
    exact before
  split_ifs with known
  · refine ⟨order.once, fun other => ?_, kept⟩
    rw [List.mem_append, List.mem_singleton, order.same]
    refine ⟨.inl, fun either => either.elim id ?_⟩
    rintro rfl
    exact (order.same other).mp known
  · have fresh : name ∉ given := fun member => known ((order.same name).mpr member)
    refine ⟨?_, fun other => ?_, ?_⟩
    · refine List.nodup_append.mpr ⟨order.once, by simp, ?_⟩
      intro first member second single
      rw [List.mem_singleton.mp single]
      rintro rfl
      exact known member
    · simp only [List.mem_append, order.same]
    · refine List.pairwise_append.mpr ⟨kept, List.pairwise_singleton _ _, ?_⟩
      intro first member second single
      have old : first ∈ given := (order.same first).mp member
      rw [List.mem_singleton.mp single, List.idxOf_append_of_mem old,
        List.idxOf_append_of_notMem fresh]
      have place := List.idxOf_lt_length_of_mem old
      omega

theorem names_put_all {bindings : Bindings} {given : List String}
    (order : FirstOrder bindings.names given) (added : List (String × Value)) :
    FirstOrder (bindings.putAll added).names (given ++ added.map Prod.fst) := by
  induction added generalizing bindings given with
  | nil => simpa [putAll] using order
  | cons pair added ih =>
      have one := order.more pair.1
      rw [← names_put bindings pair.1 pair.2] at one
      simpa [putAll] using ih one

end Bindings

namespace Scopes

theorem size_define_all (scopes : Scopes) (scope : ScopeId) (added : List (String × Value)) :
    (scopes.defineAll scope added).size = scopes.size := by
  simp [defineAll, size]

theorem get_define_all (scopes : Scopes) (scope other : ScopeId)
    (added : List (String × Value)) :
    (scopes.defineAll scope added).get? other =
      if other = scope then
        (scopes.get? other).map fun found =>
          { found with bindings := found.bindings.putAll added }
      else scopes.get? other := by
  unfold get? defineAll
  dsimp only
  rw [Array.getElem?_modify]
  by_cases same : scope = other
  · simp [same]
  · simp [same, Ne.symm same]

end Scopes

namespace History

variable {count : Nat}

/-- The chain of a scope begins with the scope and goes on with that of its parent, which
was made before it. -/
structure Outward (history : History count) (scope : ScopeId) (parent : Option ScopeId) : Prop where
  chain : history.chain scope = scope :: parent.elim [] history.chain
  earlier : ∀ outer, parent = some outer → outer < scope

/-- The scopes are those that the history tells of: each binds what it was given, in
that order. -/
structure Reflected (history : History count) : Prop where
  size : history.scopes.size = count
  absent : ∀ scope, count ≤ scope → history.given scope = [] ∧ history.chain scope = []
  present : ∀ scope, scope < count → ∃ parent location, history.Outward scope parent ∧
    history.scopes.get? scope = some ⟨parent, location, Bindings.putAll [] (history.given scope)⟩

variable {earlier : History count}

theorem Reflected.of_make (reflected : earlier.Reflected) {later : History (count + 1)}
    {parent : Option ScopeId} {location : String} {table : List (String × Value)}
    (scopes : later.scopes = earlier.scopes.make parent location table)
    (given : ∀ scope, later.given scope =
      earlier.given scope ++ if scope = count then table else [])
    (chain : ∀ scope, later.chain scope =
      if scope = count then count :: parent.elim [] earlier.chain else earlier.chain scope)
    (inside : ∀ outer, parent = some outer → outer < count) : later.Reflected := by
  -- A parent exists already, so its chain is the one it had.
  have outward {outer : Option ScopeId} (exists_ : ∀ scope, outer = some scope → scope < count) :
      outer.elim [] later.chain = outer.elim [] earlier.chain := by
    cases outer with
    | none => rfl
    | some scope => exact (chain scope).trans (if_neg (Nat.ne_of_lt (exists_ scope rfl)))
  refine ⟨?_, fun scope beyond => ?_, fun scope here => ?_⟩
  · rw [scopes, Scopes.size_make, reflected.size]
  · have apart : scope ≠ count := by omega
    obtain ⟨none, alone⟩ := reflected.absent scope (by omega)
    rw [given, chain, if_neg apart, if_neg apart, none, alone]
    exact ⟨rfl, rfl⟩
  · rcases Nat.lt_succ_iff_lt_or_eq.mp here with old | rfl
    · have apart : scope ≠ count := Nat.ne_of_lt old
      obtain ⟨around, place, placed, present⟩ := reflected.present scope old
      have before (outer : ScopeId) (same : around = some outer) : outer < count :=
        Nat.lt_trans (placed.earlier outer same) old
      refine ⟨around, place, ⟨?_, placed.earlier⟩, ?_⟩
      · rw [chain, if_neg apart, placed.chain, outward before]
      · rw [scopes, given, if_neg apart, List.append_nil]
        exact Scopes.get_make_old present
    · have fresh := (reflected.absent scope (Nat.le_refl _)).1
      refine ⟨parent, location, ⟨?_, inside⟩, ?_⟩
      · rw [chain, if_pos rfl, outward inside]
      · have made := Scopes.get_make_new earlier.scopes parent location table
        rw [reflected.size] at made
        rw [scopes, given, if_pos rfl, fresh, made, List.nil_append]

theorem Reflected.of_add (reflected : earlier.Reflected) {later : History count}
    {target : Fin count} {added : List (String × Value)}
    (scopes : later.scopes = earlier.scopes.defineAll target added)
    (given : ∀ scope, later.given scope =
      earlier.given scope ++ if scope = target then added else [])
    (chain : ∀ scope, later.chain scope = earlier.chain scope) : later.Reflected := by
  have sameChain : (fun scope => later.chain scope) = fun scope => earlier.chain scope :=
    funext chain
  refine ⟨?_, fun scope beyond => ?_, fun scope here => ?_⟩
  · rw [scopes, Scopes.size_define_all, reflected.size]
  · have apart : scope ≠ target := by
      have bound := target.isLt
      omega
    obtain ⟨none, alone⟩ := reflected.absent scope beyond
    rw [given, chain, if_neg apart, none, alone]
    exact ⟨rfl, rfl⟩
  · obtain ⟨around, place, placed, present⟩ := reflected.present scope here
    refine ⟨around, place, ⟨?_, placed.earlier⟩, ?_⟩
    · rw [sameChain, chain, placed.chain]
    · rw [scopes, given, Scopes.get_define_all, present]
      split_ifs with same
      · rw [← Bindings.put_all_append]
        rfl
      · rw [List.append_nil]

theorem reflected (history : History count) : history.Reflected := by
  induction history with
  | start => exact ⟨rfl, fun _ _ => ⟨rfl, rfl⟩, fun _ none => absurd none (Nat.not_lt_zero _)⟩
  | @next count earlier operation ih =>
      cases operation with
      | root table =>
          exact ih.of_make rfl (fun _ => rfl) (fun _ => rfl) nofun
      | make parent location =>
          have nothing (scope : ScopeId) : (next earlier (.make parent location)).given scope =
              earlier.given scope ++ if scope = count then [] else [] :=
            congrArg (earlier.given scope ++ ·) (ite_self []).symm
          cases parent with
          | none => exact ih.of_make rfl nothing (fun _ => rfl) nofun
          | some parent =>
              refine ih.of_make rfl nothing (fun _ => rfl) ?_
              rintro outer ⟨⟩
              exact parent.isLt
      | define scope name value => exact ih.of_add rfl (fun _ => rfl) fun _ => rfl
      | add scope added => exact ih.of_add rfl (fun _ => rfl) fun _ => rfl

variable (history : History count)

/-- Looking up a name goes along the chain, to the first scope that was given it. -/
theorem lookup_eq (scope : ScopeId) (name : String) :
    history.scopes.lookup? scope name =
      (history.chain scope).findSome? fun holder => history.latest? name holder := by
  induction scope using Nat.strongRecOn with
  | ind scope ih =>
      by_cases exists_ : scope < count
      · obtain ⟨parent, location, outward, present⟩ := history.reflected.present scope exists_
        have bound : (Bindings.putAll [] (history.given scope)).get? name =
            history.latest? name scope := by
          rw [Bindings.get_put_all, List.append_nil]
          rfl
        rw [Scopes.lookup?, present, outward.chain, List.findSome?_cons]
        dsimp only
        rw [bound]
        cases history.latest? name scope with
        | some value => rfl
        | none =>
            cases inside : parent with
            | none => rfl
            | some outer =>
                have before := outward.earlier outer inside
                dsimp only
                rw [if_pos before]
                exact ih outer before
      · have absent : history.scopes.get? scope = none := by
          refine Option.eq_none_iff_forall_not_mem.mpr fun found present => exists_ ?_
          rw [← history.reflected.size]
          exact Scopes.get_lt present
        rw [Scopes.lookup?, absent, (history.reflected.absent scope (by omega)).2]
        rfl

theorem latest_eq_none {name : String} {scope : ScopeId} :
    history.latest? name scope = none ↔ name ∉ history.namesGiven scope :=
  lookup_reverse_eq_none

/-- Operations bind names in scopes; none of them moves a scope that exists. -/
theorem chain_next (operation : Operation count) {scope : ScopeId} (exists_ : scope < count) :
    (history.next operation).chain scope = history.chain scope := by
  have apart : scope ≠ count := Nat.ne_of_lt exists_
  cases operation with
  | make parent location => cases parent <;> exact if_neg apart
  | root => exact if_neg apart
  | define | add => rfl

theorem latest_next (operation : Operation count) (scope : ScopeId) {name : String}
    (untouched : name ∉ (operation.given scope).map Prod.fst) :
    (history.next operation).latest? name scope = history.latest? name scope := by
  unfold latest?
  rw [given, List.reverse_append, List.lookup_append, lookup_reverse_eq_none.mpr untouched]
  rfl

end History

/-- Where a search along a list finds something else, the first item that makes a
difference has nothing before it. -/
theorem findSome_ne {Item Found : Type} {items : List Item} {first second : Item → Option Found}
    (differs : items.findSome? second ≠ items.findSome? first) :
    ∃ nearer item further, items = nearer ++ item :: further ∧ second item ≠ first item ∧
      ∀ other ∈ nearer, first other = none := by
  induction items with
  | nil => exact absurd rfl differs
  | cons item items ih =>
      by_cases same : second item = first item
      · rw [List.findSome?_cons, List.findSome?_cons, same] at differs
        cases found : first item with
        | some value =>
            rw [found] at differs
            exact absurd rfl differs
        | none =>
            rw [found] at differs
            obtain ⟨nearer, other, further, rfl, apart, before⟩ := ih differs
            exact ⟨item :: nearer, other, further, rfl, apart,
              List.forall_mem_cons.mpr ⟨found, before⟩⟩
      · exact ⟨[], item, items, rfl, same, fun _ none => by cases none⟩

/-- Scopes follow their history, whatever was done with them and in whatever order.
A name stands for what was bound to it last in the nearest scope of the chain that was
ever given it, and for nothing if none was; whether it stands for something does not depend
on the values. What is done to a scope changes a lookup from a scope only if it is on the
chain from there and no nearer scope was given the name. And every scope lists the names it
was given once each, in the order in which they came up first. -/
theorem scopes_follow_their_history {count : Nat} (history : History count) :
    (∀ scope name,
      (∀ value, history.scopes.lookup? scope name = some value ↔
        ∃ nearer holder further, history.chain scope = nearer ++ holder :: further ∧
          history.latest? name holder = some value ∧
          ∀ other ∈ nearer, name ∉ history.namesGiven other) ∧
      (history.scopes.lookup? scope name = none ↔
        ∀ holder ∈ history.chain scope, name ∉ history.namesGiven holder) ∧
      (history.scopes.hasBinding scope name = true ↔
        ∃ holder ∈ history.chain scope, name ∈ history.namesGiven holder)) ∧
    (∀ (operation : Operation count) (scope : Fin count) (name : String),
      (history.next operation).scopes.lookup? scope name ≠ history.scopes.lookup? scope name →
        ∃ nearer target further, history.chain scope = nearer ++ target :: further ∧
          name ∈ (operation.given target).map Prod.fst ∧
          ∀ other ∈ nearer, name ∉ history.namesGiven other) ∧
    (∀ scope : Fin count, ∃ found, history.scopes.get? scope = some found ∧
      Bindings.FirstOrder found.bindings.names (history.namesGiven scope)) := by
  refine ⟨fun scope name => ?_, fun operation scope name changed => ?_, fun scope => ?_⟩
  · have unbound : history.scopes.lookup? scope name = none ↔
        ∀ holder ∈ history.chain scope, name ∉ history.namesGiven holder := by
      rw [history.lookup_eq, List.findSome?_eq_none_iff]
      simp only [history.latest_eq_none]
    refine ⟨fun value => ?_, unbound, ?_⟩
    · rw [history.lookup_eq, List.findSome?_eq_some_iff]
      simp only [history.latest_eq_none]
    · rw [Scopes.hasBinding, Option.isSome_iff_ne_none, Ne, unbound]
      simp only [not_forall, not_not, exists_prop]
  · rw [History.lookup_eq, History.lookup_eq, history.chain_next operation scope.isLt] at changed
    obtain ⟨nearer, target, further, split, differs, before⟩ := findSome_ne changed
    refine ⟨nearer, target, further, split, ?_, fun other member => ?_⟩
    · by_contra untouched
      exact differs (history.latest_next operation target untouched)
    · exact history.latest_eq_none.mp (before other member)
  · obtain ⟨parent, location, -, present⟩ := history.reflected.present scope scope.isLt
    refine ⟨_, present, ?_⟩
    have empty : Bindings.FirstOrder (Bindings.names []) [] :=
      ⟨List.nodup_nil, fun _ => Iff.rfl, List.Pairwise.nil⟩
    exact Bindings.names_put_all empty (history.given scope)

end Lisplet
