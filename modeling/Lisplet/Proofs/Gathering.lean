import Lisplet.Proofs.Enactment

/-!
# Gathering from lists

The native functions that take a procedure call it once at each element of a list, or at
each row of several lists. All but the reduction put a list together from what each call
gives, so one scheme describes them, and they differ only in what they make of a call.
-/

namespace Lisplet

namespace Value

/-- The elements of a list; nil stands for the empty one. -/
def elements? : Value → Option (List Value)
  | .nil => some []
  | .list items => some items
  | _ => none

def elements (value : Value) : List Value :=
  value.elements?.getD []

theorem sequence_eq_ok_iff (function : Native) {value : Value} {items : List Value} :
    Prelude.sequence function value = .ok items ↔ value.elements? = some items := by
  have refused : ∀ fault, Prelude.complain value fault ≠ .ok items := by
    intro fault
    unfold Prelude.complain
    split <;> exact nofun
  unfold Prelude.sequence elements?
  split
  · simp [pure, Except.pure]
  · simp [pure, Except.pure]
  · simp [refused]

theorem sequences_of_elements (function : Native) {values : List Value}
    {lists : List (List Value)} (elements : values.mapM elements? = some lists) :
    Prelude.sequences function values = .ok lists := by
  induction values generalizing lists with
  | nil =>
      cases elements
      rfl
  | cons value rest ih =>
      rw [List.mapM_cons] at elements
      cases head : value.elements? with
      | none => simp [head] at elements
      | some items =>
          cases tail : rest.mapM elements? with
          | none => simp [head, tail] at elements
          | some others =>
              simp only [head, tail, Option.bind_eq_bind, Option.bind_some] at elements
              cases elements
              rw [Prelude.sequences, (sequence_eq_ok_iff function).mpr head, ih tail]
              rfl

end Value

namespace Enactment

section Gathering

variable {Element : Type}

/-- Goes through a list and puts together what each element gives. -/
def gather (portion : Element → Enactment (List Value)) : List Element → Enactment (List Value)
  | [] => pure []
  | element :: rest => do
      let first ← portion element
      let others ← gather portion rest
      return first ++ others

theorem gather_append (portion : Element → Enactment (List Value)) (left right : List Element) :
    gather portion (left ++ right) = do
      let first ← gather portion left
      let second ← gather portion right
      return first ++ second := by
  induction left with
  | nil => simp [gather]
  | cons element left ih =>
      simp only [List.cons_append, gather, ih, bind_assoc, pure_bind, List.append_assoc]

theorem gather_single (portion : Element → Enactment (List Value)) (element : Element) :
    gather portion [element] = portion element := by
  simp [gather]

theorem gather_map {Other : Type} (portion : Element → Enactment (List Value))
    (change : Other → Element) (others : List Other) :
    gather portion (others.map change) = gather (fun other => portion (change other)) others := by
  induction others with
  | nil => rfl
  | cons other others ih => simp only [List.map_cons, gather, ih]

theorem gather_balanced {portion : Element → Enactment (List Value)}
    (balanced : ∀ element, (portion element).run.Balanced) (elements : List Element) :
    (gather portion elements).run.Balanced := by
  induction elements with
  | nil => exact EvalM.balanced_pure []
  | cons element rest ih =>
      exact EvalM.balanced_bind (balanced element) fun first =>
        EvalM.balanced_bind ih fun others => EvalM.balanced_pure (first ++ others)

theorem run_gather_cons_eq_ok_iff {portion : Element → Enactment (List Value)} {element : Element}
    {rest : List Element} {all : List Value} {machine after : Machine} :
    (gather portion (element :: rest)).run machine = .ok all after ↔
      ∃ first middle others, (portion element).run machine = .ok first middle ∧
        (gather portion rest).run middle = .ok others after ∧ first ++ others = all := by
  rw [gather, run_bind_eq_ok_iff]
  constructor
  · rintro ⟨first, middle, one, ended⟩
    obtain ⟨others, more, joined⟩ := run_bind_pure_eq_ok_iff.mp ended
    exact ⟨first, middle, others, one, more, joined⟩
  · rintro ⟨first, middle, others, one, more, joined⟩
    exact ⟨first, middle, one, run_bind_pure_eq_ok_iff.mpr ⟨others, more, joined⟩⟩

theorem callbacks_gather_cons {portion : Element → Enactment (List Value)} {element : Element}
    {rest : List Element} {first : List Value} {machine after : Machine}
    (one : (portion element).run machine = .ok first after) :
    (gather portion (element :: rest)).callbacks machine =
      (portion element).callbacks machine ++ (gather portion rest).callbacks after := by
  rw [gather, callbacks_bind_ok one, callbacks_bind_pure]

end Gathering

section Portions

variable (apply : Applier) (procedure : Value)

def calledOn (row : List Value) : Enactment (List Value) := do
  let result ← call apply procedure row
  return [result]

def keptOf (item : Value) : Enactment (List Value) := do
  let verdict ← call apply procedure [item]
  return if verdict.isTruthy then [item] else []

def flatOf (item : Value) : Enactment (List Value) := do
  let result ← call apply procedure [item]
  quiet (EvalM.ofExcept (Prelude.sequence .flatmap result))

/-- What one element of a list gives to the result of a function. -/
def portion : Native → Value → Enactment (List Value)
  | .map, item => calledOn apply procedure [item]
  | .filter, item => keptOf apply procedure item
  | _, item => flatOf apply procedure item

variable {apply}

theorem called_on_balanced (balanced : apply.Balanced) (row : List Value) :
    (calledOn apply procedure row).run.Balanced :=
  EvalM.balanced_bind (call_back_balanced balanced procedure row) fun _ => EvalM.balanced_pure _

theorem portion_balanced (balanced : apply.Balanced) (function : Native) (item : Value) :
    (portion apply procedure function item).run.Balanced := by
  have called := call_back_balanced balanced procedure [item]
  unfold portion
  split
  · exact called_on_balanced procedure balanced [item]
  · exact EvalM.balanced_bind called fun _ => EvalM.balanced_pure _
  · refine EvalM.balanced_bind called fun result => ?_
    change (EvalM.ofExcept _).Balanced
    cases Prelude.sequence .flatmap result with
    | ok items => exact EvalM.balanced_pure items
    | error cause => exact EvalM.balanced_throw (.host cause)

theorem callbacks_portion (function : Native) (item : Value) (machine : Machine) :
    (portion apply procedure function item).callbacks machine =
      (call apply procedure [item]).callbacks machine := by
  unfold portion
  split
  · exact callbacks_bind_pure _ _ machine
  · exact callbacks_bind_pure _ _ machine
  · rw [flatOf, callbacks_bind]
    cases (call apply procedure [item]).run machine <;> exact List.append_nil _

variable (apply)

theorem of_dialogue_each_row (rows : List (List Value)) (next : List Value → Dialogue) :
    ofDialogue apply (.eachRow procedure rows next) =
      gather (calledOn apply procedure) rows >>= fun results =>
        ofDialogue apply (next results) := by
  induction rows generalizing next with
  | nil => rfl
  | cons row rows ih =>
      rw [Dialogue.eachRow, of_dialogue_ask]
      simp only [ih, gather, calledOn, bind_assoc, pure_bind, List.singleton_append]

theorem of_dialogue_each_kept (items : List Value) (next : List Value → Dialogue) :
    ofDialogue apply (.eachKept procedure items next) =
      gather (keptOf apply procedure) items >>= fun results =>
        ofDialogue apply (next results) := by
  induction items generalizing next with
  | nil => rfl
  | cons item items ih =>
      have joined (verdict : Value) (kept : List Value) :
          (if verdict.isTruthy then [item] else []) ++ kept =
            if verdict.isTruthy then item :: kept else kept := by
        split <;> rfl
      rw [Dialogue.eachKept, of_dialogue_ask]
      simp only [ih, gather, keptOf, bind_assoc, pure_bind, joined]

theorem of_dialogue_each_flat (items : List Value) (next : List Value → Dialogue) :
    ofDialogue apply (.eachFlat procedure items next) =
      gather (flatOf apply procedure) items >>= fun results =>
        ofDialogue apply (next results) := by
  induction items generalizing next with
  | nil => rfl
  | cons item items ih =>
      rw [Dialogue.eachFlat, of_dialogue_ask]
      simp only [of_dialogue_attempt, ih, gather, flatOf, bind_assoc, pure_bind]

theorem of_dialogue_each_joined (total : Value) (items : List Value) :
    ofDialogue apply (.eachJoined procedure total items) =
      items.foldlM (fun total item => call apply procedure [total, item]) total >>= fun result =>
        pure (.value result) := by
  induction items generalizing total with
  | nil => rfl
  | cons item items ih =>
      rw [Dialogue.eachJoined, of_dialogue_ask]
      simp only [ih, List.foldlM_cons, bind_assoc]

variable {value : Value} {items : List Value}

theorem of_dialogue_mapping {values first : List Value} {others : List (List Value)}
    (listed : Prelude.sequences .map values = .ok (first :: others)) :
    ofDialogue apply (.mapping (procedure :: values)) =
      gather (calledOn apply procedure) (Prelude.rows first others) >>= fun results =>
        pure (.value (.list results)) := by
  cases values with
  | nil => cases listed
  | cons value rest =>
      rw [Dialogue.mapping, listed]
      exact of_dialogue_each_row apply procedure _ _

theorem of_dialogue_filtering (elements : value.elements? = some items) :
    ofDialogue apply (.filtering [procedure, value]) =
      gather (keptOf apply procedure) items >>= fun results =>
        pure (.value (.list results)) := by
  rw [Dialogue.filtering, (Value.sequence_eq_ok_iff _).mpr elements]
  exact of_dialogue_each_kept apply procedure items _

theorem of_dialogue_flatmapping (elements : value.elements? = some items) :
    ofDialogue apply (.flatmapping [procedure, value]) =
      gather (flatOf apply procedure) items >>= fun results =>
        pure (.value (.list results)) := by
  rw [Dialogue.flatmapping, (Value.sequence_eq_ok_iff _).mpr elements]
  exact of_dialogue_each_flat apply procedure items _

def join (total : Value) (items : List Value) : Enactment Value :=
  items.foldlM (fun total item => call apply procedure [total, item]) total

theorem of_dialogue_reducing (start : Value) (elements : value.elements? = some items) :
    ofDialogue apply (.reducing [procedure, start, value]) =
      join apply procedure start items >>= fun result => pure (.value result) := by
  rw [Dialogue.reducing, (Value.sequence_eq_ok_iff _).mpr elements]
  exact of_dialogue_each_joined apply procedure start items

theorem of_dialogue_reducing_first {first : Value}
    (elements : value.elements? = some (first :: items)) :
    ofDialogue apply (.reducing [procedure, value]) =
      join apply procedure first items >>= fun result => pure (.value result) := by
  rw [Dialogue.reducing, (Value.sequence_eq_ok_iff _).mpr elements]
  exact of_dialogue_each_joined apply procedure first items

variable {apply}

theorem join_balanced (balanced : apply.Balanced) (total : Value) (items : List Value) :
    (join apply procedure total items).run.Balanced := by
  induction items generalizing total with
  | nil => exact EvalM.balanced_pure total
  | cons item items ih =>
      exact EvalM.balanced_bind (call_back_balanced balanced procedure [total, item]) ih

end Portions

section Flattening

variable {apply : Applier} {procedure : Value}

theorem run_flat_eq_ok_iff {item : Value} {listed : List Value} {machine after : Machine} :
    (portion apply procedure .flatmap item).run machine = .ok listed after ↔
      ∃ value, (call apply procedure [item]).run machine = .ok value after ∧
        value.elements? = some listed := by
  change (flatOf apply procedure item).run machine = .ok listed after ↔ _
  rw [flatOf, run_bind_eq_ok_iff]
  constructor
  · rintro ⟨value, middle, called, taken⟩
    cases elements : Prelude.sequence .flatmap value with
    | ok items =>
        rw [elements] at taken
        cases taken
        exact ⟨value, called, (Value.sequence_eq_ok_iff _).mp elements⟩
    | error cause =>
        rw [elements] at taken
        cases taken
  · rintro ⟨value, called, elements⟩
    refine ⟨value, after, called, ?_⟩
    rw [(Value.sequence_eq_ok_iff _).mpr elements]
    rfl

theorem run_called_eq_ok_iff {item : Value} {listed : List Value} {machine after : Machine} :
    (portion apply procedure .map item).run machine = .ok listed after ↔
      ∃ value, (call apply procedure [item]).run machine = .ok value after ∧ [value] = listed :=
  run_bind_pure_eq_ok_iff

theorem run_gather_flat_eq_ok_iff {items flat : List Value} {machine after : Machine} :
    (gather (portion apply procedure .flatmap) items).run machine = .ok flat after ↔
      ∃ results lists,
        (gather (portion apply procedure .map) items).run machine = .ok results after ∧
          results.mapM Value.elements? = some lists ∧ lists.flatten = flat := by
  induction items generalizing machine flat with
  | nil =>
      constructor
      · intro ended
        cases ended
        exact ⟨[], [], rfl, rfl, rfl⟩
      · rintro ⟨results, lists, ended, listed, rfl⟩
        cases ended
        cases listed
        rfl
  | cons item items ih =>
      rw [run_gather_cons_eq_ok_iff]
      constructor
      · rintro ⟨first, middle, others, one, more, rfl⟩
        obtain ⟨value, called, elements⟩ := run_flat_eq_ok_iff.mp one
        obtain ⟨results, lists, ran, listed, rfl⟩ := ih.mp more
        refine ⟨value :: results, first :: lists, ?_, by simp [elements, listed], rfl⟩
        exact run_gather_cons_eq_ok_iff.mpr
          ⟨[value], middle, results, run_called_eq_ok_iff.mpr ⟨value, called, rfl⟩, ran, rfl⟩
      · rintro ⟨_, lists, ran, listed, rfl⟩
        obtain ⟨_, middle, results, one, more, rfl⟩ := run_gather_cons_eq_ok_iff.mp ran
        obtain ⟨value, called, rfl⟩ := run_called_eq_ok_iff.mp one
        simp only [List.singleton_append, List.mapM_cons, Option.bind_eq_bind,
          Option.bind_eq_some_iff] at listed
        obtain ⟨first, elements, others, further, same⟩ := listed
        cases same
        exact ⟨first, middle, others.flatten, run_flat_eq_ok_iff.mpr ⟨value, called, elements⟩,
          ih.mpr ⟨results, others, more, further, rfl⟩, rfl⟩

theorem callbacks_gather_flat {items flat : List Value} {machine after : Machine}
    (ended : (gather (portion apply procedure .flatmap) items).run machine = .ok flat after) :
    (gather (portion apply procedure .map) items).callbacks machine =
      (gather (portion apply procedure .flatmap) items).callbacks machine := by
  induction items generalizing machine flat with
  | nil => rfl
  | cons item items ih =>
      obtain ⟨first, middle, others, one, more, rfl⟩ := run_gather_cons_eq_ok_iff.mp ended
      obtain ⟨value, called, elements⟩ := run_flat_eq_ok_iff.mp one
      have mapped := run_called_eq_ok_iff.mpr ⟨value, called, rfl⟩
      rw [callbacks_gather_cons one, callbacks_gather_cons mapped, ih more, callbacks_portion,
        callbacks_portion]

end Flattening

end Enactment

end Lisplet
