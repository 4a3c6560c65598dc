import Lisplet.Proofs.Gathering

/-!
# Folds over lists that have effects

The native functions that take a procedure go through their lists from left to right and
call it once at each place. Whatever the procedure does, a list may be cut in two: the
function on the whole list does what it does on the first part and then on the second.
-/

namespace Lisplet

namespace Enactment

def returned? (apply : Applier) (application : Application) : Option Value :=
  match application.outcome apply with
  | .ok value _ => some value
  | .error _ _ => none

/-- A procedure is called on one row after the other. The result has what each call
returns, and if there is none then the last call has failed. -/
structure CallsRows (apply : Applier) (procedure : Value) (rows : List (List Value))
    (enactment : Enactment (List Value)) (machine : Machine) : Prop where
  placed : ∀ (index : Nat) (inner : Application),
    (enactment.callbacks machine)[index]? = some inner →
      inner.callee = procedure ∧ rows[index]? = some inner.arguments
  complete : ∀ results after, enactment.run machine = .ok results after →
    (enactment.callbacks machine).length = rows.length ∧
      (enactment.callbacks machine).map (returned? apply) = results.map some
  broken : ∀ failure after, enactment.run machine = .error failure after →
    ∃ inner, (enactment.callbacks machine).getLast? = some inner ∧
      inner.outcome apply = .error failure after

section Rows

variable {apply : Applier} {procedure value : Value} {row : List Value}
  {rows : List (List Value)} {site : ScopeId} {outer : List ScopeId} {machine after : Machine}

theorem gather_called_cons :
    gather (calledOn apply procedure) (row :: rows) =
      call apply procedure row >>= fun result =>
        gather (calledOn apply procedure) rows >>= fun results => pure (result :: results) := by
  simp only [gather, calledOn, bind_assoc, pure_bind, List.singleton_append]

theorem CallsRows.cons (inside : machine.sites = site :: outer)
    (ran : apply procedure row site machine = .ok value after)
    (rest : CallsRows apply procedure rows (gather (calledOn apply procedure) rows) after) :
    CallsRows apply procedure (row :: rows) (gather (calledOn apply procedure) (row :: rows))
      machine := by
  have called : (call apply procedure row).run machine = .ok value after :=
    (call_back_of_inside inside procedure row).trans ran
  have callbacks : (gather (calledOn apply procedure) (row :: rows)).callbacks machine =
      ⟨procedure, row, site, machine⟩ ::
        (gather (calledOn apply procedure) rows).callbacks after := by
    rw [gather_called_cons, callbacks_bind_ok called, callbacks_bind_pure, callbacks_call inside]
    rfl
  have run : (gather (calledOn apply procedure) (row :: rows)).run machine =
      (gather (calledOn apply procedure) rows >>= fun results =>
        pure (value :: results)).run after := by
    rw [gather_called_cons, run_bind, EvalM.bind_ok called]
  constructor
  · intro index inner found
    rw [callbacks] at found
    cases index with
    | zero =>
        cases found
        exact ⟨rfl, rfl⟩
    | succ index => exact rest.placed index inner found
  · intro results left ended
    rw [run, run_bind_pure_eq_ok_iff] at ended
    obtain ⟨others, further, rfl⟩ := ended
    obtain ⟨length, returned⟩ := rest.complete others left further
    rw [callbacks]
    simp [length, returned, returned?, Application.outcome, ran]
  · intro failure left ended
    rw [run, run_bind_pure_eq_error_iff] at ended
    obtain ⟨inner, last, failed⟩ := rest.broken failure left ended
    refine ⟨inner, ?_, failed⟩
    rw [callbacks, List.getLast?_cons, last, Option.getD_some]

theorem CallsRows.stop {failure : Failure} (inside : machine.sites = site :: outer)
    (failed : apply procedure row site machine = .error failure after) :
    CallsRows apply procedure (row :: rows) (gather (calledOn apply procedure) (row :: rows))
      machine := by
  have called : (call apply procedure row).run machine = .error failure after :=
    (call_back_of_inside inside procedure row).trans failed
  have callbacks : (gather (calledOn apply procedure) (row :: rows)).callbacks machine =
      [⟨procedure, row, site, machine⟩] := by
    rw [gather_called_cons, callbacks_bind_error called, callbacks_call inside]
  have run : (gather (calledOn apply procedure) (row :: rows)).run machine =
      .error failure after := by
    rw [gather_called_cons, run_bind, EvalM.bind_error called]
  constructor
  · intro index inner found
    rw [callbacks] at found
    cases index with
    | zero =>
        cases found
        exact ⟨rfl, rfl⟩
    | succ index => cases found
  · intro results left ended
    rw [run] at ended
    cases ended
  · intro raised left ended
    rw [run] at ended
    cases ended
    exact ⟨⟨procedure, row, site, machine⟩, by rw [callbacks]; rfl, failed⟩

theorem calls_rows (balanced : apply.Balanced) (procedure : Value) (rows : List (List Value))
    (inside : machine.sites = site :: outer) :
    CallsRows apply procedure rows (gather (calledOn apply procedure) rows) machine := by
  induction rows generalizing machine with
  | nil =>
      constructor
      · intro index inner found
        cases found
      · intro results after ended
        cases ended
        exact ⟨rfl, rfl⟩
      · intro failure after ended
        cases ended
  | cons row rows ih =>
      cases ran : apply procedure row site machine with
      | ok value after =>
          have same := (balanced procedure row site machine).of_ok ran
          exact .cons inside ran (ih (same.sites.trans inside))
      | error failure after => exact .stop inside ran

end Rows

end Enactment

namespace Prelude

theorem rows_single (items : List Value) : rows items [] = items.map fun item => [item] := by
  induction items with
  | nil => rfl
  | cons item items ih => simp only [rows, uncons, ih, List.map_cons]

/-- The elements at one place of several lists, if all lists have it. -/
def atPlace (lists : List (List Value)) (index : Nat) : Option (List Value) :=
  lists.mapM fun list => list[index]?

theorem at_place_cons (list : List Value) (lists : List (List Value)) (index : Nat) :
    atPlace (list :: lists) index =
      list[index]?.bind fun item => (atPlace lists index).map (item :: ·) := by
  unfold atPlace
  rw [List.mapM_cons]
  cases list[index]? with
  | none => rfl
  | some item => cases lists.mapM fun list => list[index]? <;> rfl

theorem at_place_of_uncons {lists tails : List (List Value)} {heads : List Value}
    (found : uncons lists = some (heads, tails)) :
    atPlace lists 0 = some heads ∧ ∀ index, atPlace lists (index + 1) = atPlace tails index := by
  induction lists generalizing heads tails with
  | nil =>
      cases found
      exact ⟨rfl, fun _ => rfl⟩
  | cons list lists ih =>
      cases list with
      | nil => cases found
      | cons item items =>
          rw [uncons, Option.map_eq_some_iff] at found
          obtain ⟨⟨otherHeads, otherTails⟩, further, same⟩ := found
          cases same
          obtain ⟨here, later⟩ := ih further
          constructor
          · simp [at_place_cons, here]
          · intro index
            simp [at_place_cons, later index]

theorem at_place_of_ended {lists : List (List Value)} (ended : uncons lists = none)
    (index : Nat) : atPlace lists index = none := by
  induction lists with
  | nil => cases ended
  | cons list lists ih =>
      cases list with
      | nil => simp [at_place_cons]
      | cons item items =>
          rw [uncons, Option.map_eq_none_iff] at ended
          simp [at_place_cons, ih ended]

theorem rows_get (first : List Value) (others : List (List Value)) (index : Nat) :
    (rows first others)[index]? = atPlace (first :: others) index := by
  induction first generalizing others index with
  | nil => simp [rows, at_place_cons]
  | cons item items ih =>
      rw [at_place_cons, rows]
      cases found : uncons others with
      | none => simp [at_place_of_ended found]
      | some pair =>
          obtain ⟨heads, tails⟩ := pair
          obtain ⟨here, further⟩ := at_place_of_uncons found
          cases index with
          | zero => simp [here]
          | succ index => simp [ih, further, at_place_cons]

theorem at_place_isSome {lists : List (List Value)} {index : Nat} :
    (atPlace lists index).isSome ↔ ∀ list ∈ lists, index < list.length := by
  induction lists with
  | nil => simp [atPlace]
  | cons list lists ih =>
      rw [at_place_cons, List.forall_mem_cons, ← ih]
      by_cases inside : index < list.length
      · simp [inside]
      · simp [inside]

theorem rows_length (first : List Value) (others : List (List Value)) :
    (∀ list ∈ first :: others, (rows first others).length ≤ list.length) ∧
      ∃ list ∈ first :: others, (rows first others).length = list.length := by
  have row_iff (index : Nat) :
      index < (rows first others).length ↔ ∀ list ∈ first :: others, index < list.length := by
    rw [← at_place_isSome, ← rows_get]
    simp
  have bounded : ∀ list ∈ first :: others, (rows first others).length ≤ list.length := by
    intro list member
    by_contra longer
    exact Nat.lt_irrefl _ ((row_iff list.length).mp (Nat.lt_of_not_le longer) list member)
  refine ⟨bounded, ?_⟩
  by_contra never
  have further : ∀ list ∈ first :: others, (rows first others).length < list.length := by
    intro list member
    exact Nat.lt_of_le_of_ne (bounded list member) fun same => never ⟨list, member, same⟩
  exact Nat.lt_irrefl _ ((row_iff _).mpr further)

end Prelude

namespace Native

open Enactment

variable {tracing : Bool} {limit : Nat} {site : ScopeId} {procedure value : Value}
  {items : List Value}

/-- The functions that put a list together from what each element gives. -/
def gathering : List Native := [.map, .filter, .flatmap]

theorem of_dialogue_gathering (apply : Applier) {function : Native}
    (member : function ∈ gathering) (elements : value.elements? = some items) :
    ofDialogue apply (function.dialogue [procedure, value]) =
      gather (portion apply procedure function) items >>= fun results =>
        pure (.value (.list results)) := by
  simp only [gathering, List.mem_cons, List.not_mem_nil, or_false] at member
  rcases member with rfl | rfl | rfl
  · have listed : Prelude.sequences .map [value] = .ok [items] := by
      rw [Prelude.sequences, (Value.sequence_eq_ok_iff _).mpr elements]
      rfl
    have placed := of_dialogue_mapping apply procedure listed
    rw [Prelude.rows_single, gather_map] at placed
    exact placed
  · exact of_dialogue_filtering apply procedure elements
  · exact of_dialogue_flatmapping apply procedure elements

theorem enact_gathering {function : Native} (member : function ∈ gathering)
    (elements : value.elements? = some items) :
    function.enact tracing limit site [procedure, value] =
      within site (gather (portion (applyWithin tracing limit) procedure function) items) >>=
        fun results => pure (.list results) :=
  enact_of_dialogue .list (of_dialogue_gathering _ member elements)
    (gather_balanced (portion_balanced procedure (apply_within_balanced tracing limit) function)
      items)

/-- Over a list in two parts, the function does what it does over the first part and then
over the second. -/
theorem enact_gathering_append {function : Native} (member : function ∈ gathering)
    {left right whole : Value} {first second : List Value}
    (firstPart : left.elements? = some first) (secondPart : right.elements? = some second)
    (both : whole.elements? = some (first ++ second)) :
    function.enact tracing limit site [procedure, whole] = do
      let early ← function.enact tracing limit site [procedure, left]
      let late ← function.enact tracing limit site [procedure, right]
      return .list (early.elements ++ late.elements) := by
  have balanced (items : List Value) := gather_balanced
    (portion_balanced procedure (apply_within_balanced tracing limit) function) items
  rw [enact_gathering member both, gather_append, within_bind (balanced first),
    enact_gathering member firstPart, enact_gathering member secondPart]
  simp only [within_bind (balanced second), within_pure, bind_assoc, pure_bind]
  rfl

theorem enact_filter_single (item : Value) :
    filter.enact tracing limit site [procedure, .list [item]] = do
      let verdict ← within site (call (applyWithin tracing limit) procedure [item])
      return .list (if verdict.isTruthy then [item] else []) := by
  have called := call_back_balanced (apply_within_balanced tracing limit) procedure [item]
  rw [enact_gathering (by decide) (rfl : (Value.list [item]).elements? = some [item]),
    gather_single]
  change within site (keptOf _ procedure item) >>= _ = _
  rw [keptOf, within_bind called]
  simp only [within_pure, bind_assoc, pure_bind]

theorem enact_reduce (start : Value) (elements : value.elements? = some items) :
    reduce.enact tracing limit site [procedure, start, value] =
      within site (join (applyWithin tracing limit) procedure start items) := by
  rw [enact_of_dialogue id (of_dialogue_reducing _ procedure start elements)
    (join_balanced procedure (apply_within_balanced tracing limit) start items)]
  exact bind_pure _

theorem enact_reduce_single (start item : Value) :
    reduce.enact tracing limit site [procedure, start, .list [item]] =
      within site (call (applyWithin tracing limit) procedure [start, item]) := by
  rw [enact_reduce start (rfl : (Value.list [item]).elements? = some [item]), join,
    List.foldlM_cons]
  exact congrArg (within site) (bind_pure _)

theorem enact_reduce_append (start : Value) {left right whole : Value} {first second : List Value}
    (firstPart : left.elements? = some first) (secondPart : right.elements? = some second)
    (both : whole.elements? = some (first ++ second)) :
    reduce.enact tracing limit site [procedure, start, whole] = (do
      let total ← reduce.enact tracing limit site [procedure, start, left]
      reduce.enact tracing limit site [procedure, total, right]) := by
  have cut : join (applyWithin tracing limit) procedure start (first ++ second) =
      join (applyWithin tracing limit) procedure start first >>= fun total =>
        join (applyWithin tracing limit) procedure total second :=
    List.foldlM_append
  rw [enact_reduce start both, cut,
    within_bind (join_balanced procedure (apply_within_balanced tracing limit) start first),
    enact_reduce start firstPart]
  simp only [enact_reduce _ secondPart]

theorem enact_reduce_first {first tail whole : Value} (rest : tail.elements? = some items)
    (all : whole.elements? = some (first :: items)) :
    reduce.enact tracing limit site [procedure, whole] =
      reduce.enact tracing limit site [procedure, first, tail] := by
  rw [enact_of_dialogue id (of_dialogue_reducing_first _ procedure all)
    (join_balanced procedure (apply_within_balanced tracing limit) first items),
    enact_reduce first rest]
  exact bind_pure _

theorem enact_map {values first : List Value} {others : List (List Value)}
    (listed : values.mapM Value.elements? = some (first :: others)) :
    map.enact tracing limit site (procedure :: values) =
      within site (gather (calledOn (applyWithin tracing limit) procedure)
        (Prelude.rows first others)) >>= fun results => pure (.list results) :=
  enact_of_dialogue .list
    (of_dialogue_mapping _ procedure (Value.sequences_of_elements .map listed))
    (gather_balanced (called_on_balanced procedure (apply_within_balanced tracing limit)) _)

/-- A mapping over lists calls its procedure at one place after the other. If it returns,
there was a call at every place that the shortest list has, and the result has what each
call returned. If it fails, then by the last call. -/
structure MapsPlaces (apply : Applier) (site : ScopeId) (procedure : Value)
    (lists : List (List Value)) (mapping : Enactment Value) (machine : Machine) : Prop where
  placed : ∀ (index : Nat) (inner : Application),
    (mapping.callbacks machine)[index]? = some inner →
      inner.callee = procedure ∧ Prelude.atPlace lists index = some inner.arguments
  complete : ∀ value after, mapping.run machine = .ok value after →
    (∀ list ∈ lists, (mapping.callbacks machine).length ≤ list.length) ∧
    (∃ list ∈ lists, (mapping.callbacks machine).length = list.length) ∧
    ∃ results, value = .list results ∧
      (mapping.callbacks machine).map (returned? apply) = results.map some
  broken : ∀ failure after, mapping.run machine = .error failure after →
    ∃ inner raised left, (mapping.callbacks machine).getLast? = some inner ∧
      inner.outcome apply = .error raised left ∧ failure = blameNative site raised

theorem maps_places {values : List Value} {lists : List (List Value)} (nonempty : values ≠ [])
    (listed : values.mapM Value.elements? = some lists) (machine : Machine) :
    MapsPlaces (applyWithin tracing limit) site procedure lists
      (map.enact tracing limit site (procedure :: values)) machine := by
  cases lists with
  | nil =>
      cases values with
      | nil => exact absurd rfl nonempty
      | cons value rest => simp [List.mapM_cons, Option.bind_eq_some_iff] at listed
  | cons first others =>
      have calls := calls_rows (apply_within_balanced tracing limit) procedure
        (Prelude.rows first others) (rfl : (machine.inNative site).sites = site :: machine.sites)
      have made : (map.enact tracing limit site (procedure :: values)).callbacks machine =
          (gather (calledOn (applyWithin tracing limit) procedure)
            (Prelude.rows first others)).callbacks (machine.inNative site) := by
        rw [enact_map listed]
        exact callbacks_bind_pure _ _ machine
      constructor
      · intro index inner found
        rw [made] at found
        obtain ⟨callee, row⟩ := calls.placed index inner found
        exact ⟨callee, (Prelude.rows_get first others index).symm.trans row⟩
      · intro value after ended
        rw [enact_map listed, run_bind_pure_eq_ok_iff] at ended
        obtain ⟨results, ran, rfl⟩ := ended
        obtain ⟨left, ran, -⟩ := run_within_eq_ok_iff.mp ran
        obtain ⟨length, returned⟩ := calls.complete results left ran
        obtain ⟨bounded, reached⟩ := Prelude.rows_length first others
        rw [made, length]
        exact ⟨bounded, reached, results, rfl, returned⟩
      · intro failure after ended
        rw [enact_map listed, run_bind_pure_eq_error_iff] at ended
        obtain ⟨raised, left, ran, rfl, -⟩ := run_within_eq_error_iff.mp ended
        obtain ⟨inner, last, failed⟩ := calls.broken raised left ran
        rw [made]
        exact ⟨inner, raised, left, last, failed, rfl⟩

section Outcomes

variable {machine after : Machine} {result : Value}

theorem run_gathering_eq_ok_iff {function : Native} (member : function ∈ gathering)
    (elements : value.elements? = some items) :
    (function.enact tracing limit site [procedure, value]).run machine = .ok result after ↔
      ∃ results left,
        (gather (portion (applyWithin tracing limit) procedure function) items).run
            (machine.inNative site) = .ok results left ∧
          { left with sites := left.sites.tail } = after ∧ .list results = result := by
  rw [enact_gathering member elements, run_bind_pure_eq_ok_iff]
  constructor
  · rintro ⟨results, ended, made⟩
    obtain ⟨left, ran, same⟩ := run_within_eq_ok_iff.mp ended
    exact ⟨results, left, ran, same, made⟩
  · rintro ⟨results, left, ran, same, made⟩
    exact ⟨results, run_within_eq_ok_iff.mpr ⟨left, ran, same⟩, made⟩

theorem callbacks_gathering {function : Native} (member : function ∈ gathering)
    (elements : value.elements? = some items) (machine : Machine) :
    (function.enact tracing limit site [procedure, value]).callbacks machine =
      (gather (portion (applyWithin tracing limit) procedure function) items).callbacks
        (machine.inNative site) := by
  rw [enact_gathering member elements]
  exact callbacks_bind_pure _ _ machine

/-- What comes out flattened is what a mapping returns, put one behind the other. -/
theorem run_flatmap_eq_ok_iff (elements : value.elements? = some items) :
    (flatmap.enact tracing limit site [procedure, value]).run machine = .ok result after ↔
      ∃ results lists,
        (map.enact tracing limit site [procedure, value]).run machine =
            .ok (.list results) after ∧
          results.mapM Value.elements? = some lists ∧ .list lists.flatten = result := by
  rw [run_gathering_eq_ok_iff (by decide) elements]
  simp only [run_gathering_eq_ok_iff (show map ∈ gathering by decide) elements]
  constructor
  · rintro ⟨flat, left, ended, rfl, rfl⟩
    obtain ⟨results, lists, ran, listed, rfl⟩ := run_gather_flat_eq_ok_iff.mp ended
    exact ⟨results, lists, ⟨results, left, ran, rfl, rfl⟩, listed, rfl⟩
  · rintro ⟨results, lists, ⟨same, left, ran, rfl, equal⟩, listed, rfl⟩
    cases equal
    exact ⟨_, left, run_gather_flat_eq_ok_iff.mpr ⟨results, lists, ran, listed, rfl⟩, rfl, rfl⟩

theorem callbacks_flatmap (elements : value.elements? = some items)
    (ended : (flatmap.enact tracing limit site [procedure, value]).run machine =
      .ok result after) :
    (map.enact tracing limit site [procedure, value]).callbacks machine =
      (flatmap.enact tracing limit site [procedure, value]).callbacks machine := by
  obtain ⟨flat, left, ran, -⟩ := (run_gathering_eq_ok_iff (by decide) elements).mp ended
  rw [callbacks_gathering (by decide) elements, callbacks_gathering (by decide) elements]
  exact callbacks_gather_flat ran

/-- A callback that fails is the last one, and the native function fails with it. -/
theorem fails_with_callback {function : Native} {arguments : List Value} {inner : Application}
    {failure : Failure}
    (member : inner ∈ (function.enact tracing limit site arguments).callbacks machine)
    (failed : inner.outcome (applyWithin tracing limit) = .error failure after) :
    ((function.enact tracing limit site arguments).callbacks machine).getLast? = some inner ∧
      ∃ last, (function.enact tracing limit site arguments).run machine =
        .error (blameNative site failure) last ∧ last = after.withCallsOf last := by
  let outer : Application := ⟨.native function, arguments, site, machine⟩
  have made : inner ∈ outer.callbacks false (applyWithin tracing limit) := member
  have makes : outer.Makes false (applyWithin tracing limit) inner :=
    (Application.makes_iff_mem_callbacks rfl).mpr made
  exact ⟨Application.callbacks_end_at_failure made failed, makes.fails failed⟩

end Outcomes

end Native

/-- The native functions that take a procedure fold over lists from left to right, with
all effects of the procedure. Equal enactments make the same callbacks from the same
states, and they end with the same result or failure in the same state.

A mapping, a filtering or a flattening of a list in two parts is that of the first part
and then that of the second; a reduction goes on from the total of the first part, and
without a start it starts from the first element. One element is filtered or joined by one
call. A mapping over several lists calls the procedure once at each place that the shortest
list has. A flattening returns exactly if a mapping returns lists only; it has put these
together, with the same callbacks and the same machine left. A callback that fails is the
last one, and the function fails with it. An application is such an enactment, once it has
announced itself to the trace. -/
theorem list_functions_fold_effects (tracing : Bool) (limit : Nat) (site : ScopeId)
    (procedure : Value) :
    (∀ function ∈ Native.gathering, ∀ left right whole first second,
      Value.elements? left = some first → Value.elements? right = some second →
      Value.elements? whole = some (first ++ second) →
      function.enact tracing limit site [procedure, whole] = do
        let early ← function.enact tracing limit site [procedure, left]
        let late ← function.enact tracing limit site [procedure, right]
        return .list (early.elements ++ late.elements)) ∧
    (∀ start left right whole first second,
      Value.elements? left = some first → Value.elements? right = some second →
      Value.elements? whole = some (first ++ second) →
      Native.reduce.enact tracing limit site [procedure, start, whole] = do
        let total ← Native.reduce.enact tracing limit site [procedure, start, left]
        Native.reduce.enact tracing limit site [procedure, total, right]) ∧
    (∀ item, Native.filter.enact tracing limit site [procedure, .list [item]] = do
      let verdict ← Enactment.within site (.call (applyWithin tracing limit) procedure [item])
      return .list (if verdict.isTruthy then [item] else [])) ∧
    (∀ start item, Native.reduce.enact tracing limit site [procedure, start, .list [item]] =
      Enactment.within site (.call (applyWithin tracing limit) procedure [start, item])) ∧
    (∀ first rest whole items, Value.elements? rest = some items →
      Value.elements? whole = some (first :: items) →
      Native.reduce.enact tracing limit site [procedure, whole] =
        Native.reduce.enact tracing limit site [procedure, first, rest]) ∧
    (∀ values lists machine, values ≠ [] → values.mapM Value.elements? = some lists →
      Native.MapsPlaces (applyWithin tracing limit) site procedure lists
        (Native.map.enact tracing limit site (procedure :: values)) machine) ∧
    (∀ value items machine result after, Value.elements? value = some items →
      ((Native.flatmap.enact tracing limit site [procedure, value]).run machine =
          .ok result after ↔
        ∃ results lists,
          (Native.map.enact tracing limit site [procedure, value]).run machine =
              .ok (.list results) after ∧
            results.mapM Value.elements? = some lists ∧ .list lists.flatten = result) ∧
      ((Native.flatmap.enact tracing limit site [procedure, value]).run machine =
          .ok result after →
        (Native.map.enact tracing limit site [procedure, value]).callbacks machine =
          (Native.flatmap.enact tracing limit site [procedure, value]).callbacks machine)) ∧
    (∀ (function : Native) arguments machine inner failure after,
      inner ∈ (function.enact tracing limit site arguments).callbacks machine →
      inner.outcome (applyWithin tracing limit) = .error failure after →
      ((function.enact tracing limit site arguments).callbacks machine).getLast? = some inner ∧
        ∃ last, (function.enact tracing limit site arguments).run machine =
          .error (blameNative site failure) last ∧ last = after.withCallsOf last) ∧
    ∀ (function : Native) arguments,
      applyWithin tracing (limit + 1) (.native function) arguments site =
        EvalM.announce tracing (fun _ => .native function arguments) >>= fun _ =>
          (function.enact tracing limit site arguments).run := by
  refine ⟨?_, ?_, Native.enact_filter_single, Native.enact_reduce_single, ?_, ?_, ?_, ?_,
    fun _ _ => rfl⟩
  · intro function member left right whole first second firstPart secondPart both
    exact Native.enact_gathering_append member firstPart secondPart both
  · intro start left right whole first second firstPart secondPart both
    exact Native.enact_reduce_append start firstPart secondPart both
  · intro first rest whole items others all
    exact Native.enact_reduce_first others all
  · intro values lists machine nonempty listed
    exact Native.maps_places nonempty listed machine
  · intro value items machine result after elements
    exact ⟨Native.run_flatmap_eq_ok_iff elements, Native.callbacks_flatmap elements⟩
  · intro function arguments machine inner failure after member failed
    exact Native.fails_with_callback member failed

/-- Showing three texts is showing two and then the third, in a mapping as in a reduction.
A sum that is asked of nothing fails, and the number behind is not reached. The list `(2)` is
what a flattening puts together from what is left of `(1 2)` and `(3)` without the first
element. -/
theorem list_functions_fold_effects_cut :
    let shown : Value := .list [.string "a", .string "b", .string "c"]
    let early : Value := .list [.string "a", .string "b"]
    let late : Value := .list [.string "c"]
    let mixed : Value := .list [.number (.int 1), .nil, .number (.int 2)]
    let lists : Value :=
      .list [.list [.number (.int 1), .number (.int 2)], .list [.number (.int 3)]]
    (Native.map.enact false 1 globalScope [.native .display, shown] = do
      let before ← Native.map.enact false 1 globalScope [.native .display, early]
      let behind ← Native.map.enact false 1 globalScope [.native .display, late]
      return .list (before.elements ++ behind.elements)) ∧
    (∃ after, (Native.map.enact false 1 globalScope [.native .display, shown]).run {} =
        .ok (.list [.nil, .nil, .nil]) after ∧
      after.events = #[.display "a\n", .display "b\n", .display "c\n"]) ∧
    (Native.reduce.enact false 1 globalScope [.native .display, .string "s", shown] = do
      let total ← Native.reduce.enact false 1 globalScope [.native .display, .string "s", early]
      Native.reduce.enact false 1 globalScope [.native .display, total, late]) ∧
    (∃ inner failure last,
      ((Native.map.enact false 1 globalScope [.native .add, mixed]).callbacks {}).getLast? =
        some inner ∧ inner.arguments = [.nil] ∧
      (Native.map.enact false 1 globalScope [.native .add, mixed]).run {} =
        .error failure last) ∧
    ∃ after,
      (Native.map.enact false 1 globalScope [.native .rest, lists]).run {} =
        .ok (.list [.list [.number (.int 2)], .list []]) after ∧
      (Native.flatmap.enact false 1 globalScope [.native .rest, lists]).run {} =
        .ok (.list [.number (.int 2)]) after := by
  intro shown early late mixed lists
  have shows := list_functions_fold_effects false 1 globalScope (.native .display)
  have sums := list_functions_fold_effects false 1 globalScope (.native .add)
  have rests := list_functions_fold_effects false 1 globalScope (.native .rest)
  refine ⟨?_, ⟨_, by with_unfolding_all rfl, rfl⟩, ?_, ?_, ?_⟩
  · exact shows.1 .map (by decide) early late shown _ _ rfl rfl rfl
  · exact shows.2.1 (.string "s") early late shown _ _ rfl rfl rfl
  · have made : (Native.map.enact false 1 globalScope [.native .add, mixed]).callbacks {} =
        [⟨.native .add, [.number (.int 1)], globalScope, { sites := [globalScope] }⟩,
          ⟨.native .add, [.nil], globalScope, { sites := [globalScope], serial := 1 }⟩] := by
      with_unfolding_all rfl
    obtain ⟨failure, after, failed⟩ : ∃ failure after, Application.outcome (applyWithin false 1)
        ⟨.native .add, [.nil], globalScope, { sites := [globalScope], serial := 1 }⟩ =
          .error failure after := ⟨_, _, by with_unfolding_all rfl⟩
    obtain ⟨ends, last, fails, -⟩ := sums.2.2.2.2.2.2.2.1 .map [.native .add, mixed] {} _ failure
      after (made ▸ List.mem_cons_of_mem _ (List.mem_singleton_self _)) failed
    exact ⟨_, _, last, ends, rfl, fails⟩
  · have mapped : (Native.map.enact false 1 globalScope [.native .rest, lists]).run {} =
        .ok (.list [.list [.number (.int 2)], .list []]) {} := by
      with_unfolding_all rfl
    have flattened := (rests.2.2.2.2.2.2.1 lists _ {} (.list [.number (.int 2)]) {} rfl).1
    exact ⟨_, mapped, flattened.mpr ⟨_, [[.number (.int 2)], []], mapped, rfl, rfl⟩⟩

end Lisplet
