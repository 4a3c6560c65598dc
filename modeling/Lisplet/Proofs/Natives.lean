import Lisplet.Eval.Basic
import Lisplet.Proofs.Dialogue
import Lisplet.Proofs.Outcome

/-!
# What native functions can do

By themselves native functions touch neither scopes nor the calls in progress,
fail only with faults of the host, and make no procedures: every procedure in an
answer or in a request came with the arguments or with an earlier result.
-/

namespace Lisplet

namespace Value

mutual

def closures : Value → List Closure
  | .list items => closuresOf items
  | .closure procedure => [procedure]
  | _ => []

def closuresOf : List Value → List Closure
  | [] => []
  | value :: rest => value.closures ++ closuresOf rest

end

theorem mem_closures_of {closure : Closure} {values : List Value} :
    closure ∈ closuresOf values ↔ ∃ value ∈ values, closure ∈ value.closures := by
  induction values with
  | nil => simp [closuresOf]
  | cons value rest ih => simp [closuresOf, ih]

/-- All procedures in a value satisfy a condition. -/
def Within (holds : Closure → Prop) (value : Value) : Prop :=
  ∀ closure ∈ value.closures, holds closure

theorem within_atom (holds : Closure → Prop) (atom : Atom) : (Value.atom atom).Within holds := by
  intro closure member
  simp [closures] at member

theorem within_closure {holds : Closure → Prop} {closure : Closure} :
    (Value.closure closure).Within holds ↔ holds closure := by
  simp [Within, closures]

theorem within_list {holds : Closure → Prop} {items : List Value} :
    (Value.list items).Within holds ↔ ∀ item ∈ items, item.Within holds := by
  simp only [Within, closures, mem_closures_of]
  constructor
  · intro all item member closure inside
    exact all closure ⟨item, member, inside⟩
  · rintro all closure ⟨item, member, inside⟩
    exact all item member closure inside

theorem Within.mono {holds weaker : Closure → Prop} {value : Value} (within : value.Within holds)
    (implies : ∀ closure, holds closure → weaker closure) : value.Within weaker :=
  fun closure member => implies closure (within closure member)

end Value

mutual

theorem Value.within_of_datum (holds : Closure → Prop) (datum : Datum) :
    (Value.ofDatum datum).Within holds := by
  cases datum with
  | atom value => exact Value.within_atom holds value
  | list items => exact Value.within_list.mpr (within_of_data holds items)

theorem Value.within_of_data (holds : Closure → Prop) (items : List Datum) :
    ∀ value ∈ Value.ofData items, value.Within holds := by
  cases items with
  | nil => exact fun _ member => by cases member
  | cons item rest =>
      exact List.forall_mem_cons.mpr ⟨within_of_datum holds item, within_of_data holds rest⟩

end

theorem quoted_value_within (holds : Closure → Prop) (form : Expr) :
    (quotedValue form).Within holds := by
  unfold quotedValue
  split
  next => exact Value.within_of_datum holds _
  next => exact Value.within_of_datum holds _
  next => exact fun _ member => by cases member

/-- A result, if there is one, satisfies a condition. -/
def Returns {Error Result : Type} (holds : Result → Prop) : Except Error Result → Prop
  | .ok value => holds value
  | .error _ => True

theorem returns_bind {Error First Result : Type} {holds : Result → Prop}
    {first : Except Error First} {next : First → Except Error Result} :
    Returns holds (first >>= next) ↔ Returns (fun value => Returns holds (next value)) first := by
  cases first <;> rfl

theorem returns_map {Error First Result : Type} {holds : Result → Prop}
    {first : Except Error First} {change : First → Result} :
    Returns holds (change <$> first) ↔ Returns (fun value => holds (change value)) first := by
  cases first <;> rfl

theorem returns_of_forall {Error Result : Type} {holds : Result → Prop}
    {result : Except Error Result} (all : ∀ value, holds value) : Returns holds result := by
  cases result with
  | ok value => exact all value
  | error error => trivial

theorem returns_bind_any {Error First Result : Type} {holds : Result → Prop}
    {first : Except Error First} {next : First → Except Error Result}
    (all : ∀ value, Returns holds (next value)) : Returns holds (first >>= next) :=
  returns_bind.mpr (returns_of_forall all)

theorem returns_map_any {Error First Result : Type} {holds : Result → Prop}
    {first : Except Error First} {change : First → Result} (all : ∀ value, holds (change value)) :
    Returns holds (change <$> first) :=
  returns_map.mpr (returns_of_forall all)

theorem Returns.weaken {Error Result : Type} {holds weaker : Result → Prop}
    {result : Except Error Result} (returns : Returns holds result)
    (implies : ∀ value, holds value → weaker value) : Returns weaker result := by
  cases result with
  | ok value => exact implies value returns
  | error error => trivial

namespace Prelude

variable {holds : Closure → Prop}

theorem complain_returns {Result : Type} (property : Result → Prop) (value : Value)
    (fault : String → Fault) : Returns property (complain value fault) := by
  unfold complain
  cases value.describe <;> trivial

theorem sequence_returns (function : Native) {value : Value} (within : value.Within holds) :
    Returns (fun items => ∀ item ∈ items, item.Within holds) (sequence function value) := by
  unfold sequence
  split
  next => exact fun item member => by cases member
  next items => exact Value.within_list.mp within
  next => exact complain_returns _ _ _

theorem sequences_returns (function : Native) {values : List Value}
    (within : ∀ value ∈ values, value.Within holds) :
    Returns (fun lists => ∀ list ∈ lists, ∀ item ∈ list, item.Within holds)
      (sequences function values) := by
  induction values with
  | nil => exact fun list member => by cases member
  | cons value rest ih =>
      simp only [sequences, returns_bind]
      refine (sequence_returns function (within value (by simp))).weaken ?_
      intro items itemsWithin
      refine (ih fun other member => within other (by simp [member])).weaken ?_
      intro others othersWithin list member
      rcases List.mem_cons.mp member with rfl | member
      · exact itemsWithin
      · exact othersWithin list member

theorem ordered_returns (function : Native) (accepts : Ordering → Bool) (arguments : List Value) :
    Returns (Value.Within holds) (ordered function accepts arguments) := by
  unfold ordered
  exact returns_bind_any fun _ => returns_bind_any fun _ => Value.within_atom _ _

theorem sum_returns (serial : Nat) (arguments : List Value) :
    Returns (Value.Within holds) (sum serial arguments) := by
  unfold sum
  exact returns_bind_any fun _ => returns_bind_any fun _ => Value.within_atom _ _

theorem product_returns (serial : Nat) (arguments : List Value) :
    Returns (Value.Within holds) (product serial arguments) := by
  unfold product
  exact returns_bind_any fun _ => returns_bind_any fun _ => Value.within_atom _ _

theorem difference_returns (serial : Nat) (arguments : List Value) :
    Returns (Value.Within holds) (difference serial arguments) := by
  unfold difference
  refine returns_bind_any fun _ => returns_bind_any fun operands => ?_
  split
  next => exact Value.within_atom _ _
  next => exact Value.within_atom _ _
  next => exact returns_map_any fun _ => Value.within_atom _ _

theorem quotient_returns (serial : Nat) (arguments : List Value) :
    Returns (Value.Within holds) (quotient serial arguments) := by
  unfold quotient
  refine returns_bind_any fun _ => returns_bind_any fun operands => ?_
  split
  next => exact Value.within_atom _ _
  next => exact returns_map_any fun _ => Value.within_atom _ _
  next => exact returns_map_any fun _ => Value.within_atom _ _

theorem number_test_returns (arguments : List Value) :
    Returns (Value.Within holds) (numberTest arguments) := by
  unfold numberTest
  split
  next => exact Value.within_atom _ _
  next => exact Value.within_atom _ _
  next => trivial

theorem negation_returns (arguments : List Value) :
    Returns (Value.Within holds) (negation arguments) := by
  unfold negation
  split
  next => exact Value.within_atom _ _
  next => trivial

theorem first_false_within {arguments : List Value}
    (within : ∀ argument ∈ arguments, argument.Within holds) :
    (firstFalse arguments).Within holds := by
  fun_induction firstFalse arguments with
  | case1 => exact Value.within_atom _ _
  | case2 value => exact within value (by simp)
  | case3 value rest _ _ ih => exact ih fun other member => within other (by simp [member])
  | case4 value rest _ _ => exact within value (by simp)

theorem first_true_within {arguments : List Value}
    (within : ∀ argument ∈ arguments, argument.Within holds) :
    (firstTrue arguments).Within holds := by
  fun_induction firstTrue arguments with
  | case1 => exact Value.within_atom _ _
  | case2 value => exact within value (by simp)
  | case3 value rest _ _ => exact within value (by simp)
  | case4 value rest _ _ ih => exact ih fun other member => within other (by simp [member])

theorem string_joined_returns (arguments : List Value) :
    Returns (Value.Within holds) (stringJoined arguments) := by
  unfold stringJoined
  split
  next =>
    exact returns_bind_any fun _ => returns_map_any fun _ => Value.within_atom _ _
  next =>
    refine returns_bind_any fun separator => returns_bind_any fun _ => ?_
    cases separator with
    | none => trivial
    | some text => exact returns_map_any fun _ => Value.within_atom _ _
  next => trivial

theorem string_split_at_returns (arguments : List Value) :
    Returns (Value.Within holds) (stringSplitAt arguments) := by
  unfold stringSplitAt
  split
  next =>
    refine returns_bind_any fun subject => returns_bind_any fun pattern => ?_
    split
    next => trivial
    next compiled _ =>
      cases subject with
      | none => trivial
      | some text =>
          change (Value.list _).Within holds
          rw [Value.within_list]
          intro item member
          obtain ⟨found, -, rfl⟩ := List.mem_map.mp member
          cases found <;> exact Value.within_atom _ _
  next => trivial

theorem map_text_returns (function : Native) (use : TextUse) (change : String → String)
    (arguments : List Value) :
    Returns (Value.Within holds) (mapText function use change arguments) := by
  unfold mapText
  split
  next => exact returns_bind_any fun _ => Value.within_atom _ _
  next => trivial

theorem test_text_returns (function : Native) (use otherUse : TextUse)
    (related : List Char → List Char → Bool) (arguments : List Value) :
    Returns (Value.Within holds) (testText function use otherUse related arguments) := by
  unfold testText
  split
  next =>
    exact returns_bind_any fun _ => returns_bind_any fun _ => Value.within_atom _ _
  next => trivial

theorem first_element_returns {arguments : List Value}
    (within : ∀ argument ∈ arguments, argument.Within holds) :
    Returns (Value.Within holds) (firstElement arguments) := by
  unfold firstElement
  split
  next value =>
    rw [returns_bind]
    refine (sequence_returns .first (within value (by simp))).weaken ?_
    intro items itemsWithin
    cases items with
    | nil => exact Value.within_atom _ _
    | cons item items => exact itemsWithin item (by simp)
  next => trivial

theorem other_elements_returns {arguments : List Value}
    (within : ∀ argument ∈ arguments, argument.Within holds) :
    Returns (Value.Within holds) (otherElements arguments) := by
  unfold otherElements
  split
  next value =>
    rw [returns_bind]
    refine (sequence_returns .rest (within value (by simp))).weaken ?_
    intro items itemsWithin
    exact Value.within_list.mpr fun item member => itemsWithin item (List.mem_of_mem_tail member)
  next => trivial

theorem element_at_returns {arguments : List Value}
    (within : ∀ argument ∈ arguments, argument.Within holds) :
    Returns (Value.Within holds) (elementAt arguments) := by
  unfold elementAt
  split
  next value indexValue =>
    rw [returns_bind]
    refine (sequence_returns .nth (within value (by simp))).weaken ?_
    intro items itemsWithin
    refine returns_bind_any fun index => ?_
    dsimp only
    split
    next item found =>
      split_ifs at found
      exact itemsWithin item (List.mem_of_getElem? found)
    next =>
      generalize (Number.integerText? index).isSome = writable
      cases writable <;> trivial
  next => trivial

theorem taken_returns {arguments : List Value}
    (within : ∀ argument ∈ arguments, argument.Within holds) :
    Returns (Value.Within holds) (taken arguments) := by
  unfold taken
  split
  next countValue value =>
    refine returns_bind_any fun count => returns_bind.mpr ?_
    refine (sequence_returns .take (within value (by simp))).weaken ?_
    intro items itemsWithin
    exact Value.within_list.mpr fun item member => itemsWithin item (List.mem_of_mem_take member)
  next => trivial

theorem dropped_returns {arguments : List Value}
    (within : ∀ argument ∈ arguments, argument.Within holds) :
    Returns (Value.Within holds) (dropped arguments) := by
  unfold dropped
  split
  next countValue value =>
    refine returns_bind_any fun count => returns_bind.mpr ?_
    refine (sequence_returns .drop (within value (by simp))).weaken ?_
    intro items itemsWithin
    exact Value.within_list.mpr fun item member => itemsWithin item (List.mem_of_mem_drop member)
  next => trivial

theorem counted_returns (arguments : List Value) :
    Returns (Value.Within holds) (counted arguments) := by
  unfold counted
  split
  next => exact Value.within_atom _ _
  next => trivial
  next => exact returns_bind_any fun _ => Value.within_atom _ _
  next => trivial

end Prelude

def Reply.Within (holds : Closure → Prop) : Reply → Prop
  | .value answer => answer.Within holds
  | .foreign _ => True

namespace Prelude

variable {holds : Closure → Prop}

theorem quiet_pure_reply {result : Except Fault Value}
    (returns : Returns (Value.Within holds) result) :
    Quiet (Reply.Within holds) (pureReply result) := by
  intro machine
  rw [pureReply, ensures_map, EvalM.ensures_of_except]
  cases result with
  | ok value => exact ⟨.refl machine, returns⟩
  | error cause => exact ⟨.refl machine, cause, rfl⟩

theorem quiet_numeric_reply {compute : Nat → Except Fault Value}
    (returns : ∀ serial, Returns (Value.Within holds) (compute serial)) :
    Quiet (Reply.Within holds) (numericReply compute) := by
  intro machine
  rw [numericReply, EvalM.freshSerial, ensures_bind, ensures_modify_get]
  refine (quiet_pure_reply (returns machine.serial) _).weaken ?_ ?_
  · rintro reply after ⟨⟨scopes, sites, depth, announced⟩, within⟩
    exact ⟨⟨scopes, sites, depth, announced⟩, within⟩
  · rintro failure after ⟨⟨scopes, sites, depth, announced⟩, cause⟩
    exact ⟨⟨scopes, sites, depth, announced⟩, cause⟩

theorem quiet_return {value : Value} (within : value.Within holds) :
    Quiet (Reply.Within holds) (return .value value) :=
  fun machine => ⟨.refl machine, within⟩

theorem quiet_displayed (arguments : List Value) :
    Quiet (Reply.Within holds) (.value <$> displayed arguments) := by
  intro machine
  rw [ensures_map, displayed, ensures_bind, EvalM.ensures_of_except]
  cases joined " " arguments with
  | ok line => exact ⟨.push machine rfl, Value.within_atom _ _⟩
  | error cause => exact ⟨.refl machine, cause, rfl⟩

theorem quiet_file_read (arguments : List Value) :
    Quiet (Reply.Within holds) (.value <$> fileRead arguments) := by
  intro machine
  rw [ensures_map]
  unfold fileRead
  split
  next pathValue =>
    rw [ensures_bind, EvalM.ensures_of_except]
    cases textFor .readFile .path pathValue with
    | error cause => exact ⟨.refl machine, cause, rfl⟩
    | ok path =>
        dsimp only
        rw [EvalM.settle, ensures_bind, ensures_modify_get]
        dsimp only
        rw [ensures_bind, EvalM.ensures_of_except]
        cases machine.settled.files.readText path with
        | error cause => exact ⟨.settled machine, cause, rfl⟩
        | ok content => exact ⟨.settled machine, Value.within_atom _ _⟩
  next =>
    rw [EvalM.ensures_of_except]
    exact ⟨.refl machine, _, rfl⟩

theorem quiet_file_written (arguments : List Value) :
    Quiet (Reply.Within holds) (.value <$> fileWritten arguments) := by
  intro machine
  rw [ensures_map]
  unfold fileWritten
  split
  next pathValue value =>
    rw [ensures_bind, EvalM.ensures_of_except]
    cases textFor .writeFile .path pathValue with
    | error cause => exact ⟨.refl machine, cause, rfl⟩
    | ok path =>
        dsimp only
        rw [EvalM.settle, ensures_bind, ensures_modify_get]
        dsimp only
        rw [ensures_bind, EvalM.ensures_of_except]
        have settled := Machine.SameControl.settled machine
        -- Opening creates the file, also if there is nothing to write in the end.
        cases machine.settled.files.openForWriting path with
        | error cause => exact ⟨settled, cause, rfl⟩
        | ok opened =>
            have control (files : FileSystem) :
                machine.SameControl { machine.settled with files } :=
              ⟨settled.scopes, settled.sites, settled.depth, settled.announced⟩
            dsimp only
            rw [ensures_bind, ensures_set, ensures_bind, EvalM.ensures_of_text]
            cases value.displayText with
            | error reason => exact ⟨control _, _, rfl⟩
            | ok content =>
                cases content with
                | none => exact ⟨control _, _, rfl⟩
                | some text => exact ⟨control _, Value.within_atom _ _⟩
  next =>
    rw [EvalM.ensures_of_except]
    exact ⟨.refl machine, _, rfl⟩

theorem quiet_probed (probe : Probe) {arguments : List Value}
    (within : ∀ argument ∈ arguments, argument.Within holds) :
    Quiet (Reply.Within holds) (probed probe arguments) := by
  intro machine
  unfold probed
  split
  next => exact quiet_fault _ machine
  next word _ =>
    cases foreignKind? word with
    | some kind => exact ⟨.refl machine, trivial⟩
    | none => exact quiet_fault _ machine
  next => exact ⟨.refl machine, trivial⟩
  next => exact quiet_fault _ machine
  next => exact quiet_fault _ machine
  next value _ =>
    rw [ensures_bind, EvalM.ensures_of_text]
    cases value.describe with
    | error reason => exact ⟨.refl machine, _, rfl⟩
    | ok described => exact ⟨⟨rfl, rfl, rfl, rfl⟩, within value (by simp)⟩
  next value _ =>
    rw [ensures_bind, EvalM.ensures_of_text]
    cases value.describe with
    | error reason => exact ⟨.refl machine, _, rfl⟩
    | ok described => exact ⟨.refl machine, _, rfl⟩

end Prelude

namespace Dialogue

variable {holds : Closure → Prop}

/-- A dialogue in which nothing but given procedures is passed on, and whose
answers are quiet. -/
inductive Tame (holds : Closure → Prop) : Dialogue → Prop where
  | answer {action : EvalM Reply} (quiet : Quiet (Reply.Within holds) action) :
      Tame holds (.answer action)
  | ask {procedure : Value} {arguments : List Value} {next : Value → Dialogue}
      (given : procedure.Within holds)
      (passed : ∀ argument ∈ arguments, argument.Within holds)
      (rest : ∀ value, value.Within holds → Tame holds (next value)) :
      Tame holds (.ask procedure arguments next)

theorem tame_reply {value : Value} (within : value.Within holds) : (reply value).Tame holds :=
  .answer (Prelude.quiet_return within)

theorem tame_attempt {Result : Type} {property : Result → Prop} {result : Except Fault Result}
    {next : Result → Dialogue} (returns : Returns property result)
    (rest : ∀ value, property value → (next value).Tame holds) :
    (attempt result next).Tame holds := by
  cases result with
  | ok value => exact rest value returns
  | error cause => exact .answer (quiet_fault cause)

theorem tame_each_row {procedure : Value} (given : procedure.Within holds)
    {rows : List (List Value)} (within : ∀ row ∈ rows, ∀ item ∈ row, item.Within holds)
    {next : List Value → Dialogue}
    (rest : ∀ results, (∀ result ∈ results, result.Within holds) → (next results).Tame holds) :
    (eachRow procedure rows next).Tame holds := by
  induction rows generalizing next with
  | nil => exact rest [] (by simp)
  | cons row rows ih =>
      refine .ask given (within row (by simp)) ?_
      intro result resultWithin
      apply ih fun other member => within other (by simp [member])
      intro results resultsWithin
      exact rest (result :: results) (List.forall_mem_cons.mpr ⟨resultWithin, resultsWithin⟩)

theorem tame_each_kept {procedure : Value} (given : procedure.Within holds) {items : List Value}
    (within : ∀ item ∈ items, item.Within holds) {next : List Value → Dialogue}
    (rest : ∀ kept, (∀ item ∈ kept, item.Within holds) → (next kept).Tame holds) :
    (eachKept procedure items next).Tame holds := by
  induction items generalizing next with
  | nil => exact rest [] (by simp)
  | cons item items ih =>
      have itemWithin := within item (by simp)
      refine .ask given (by simpa using itemWithin) ?_
      intro verdict _
      apply ih fun other member => within other (by simp [member])
      intro kept keptWithin
      apply rest
      split_ifs
      · exact List.forall_mem_cons.mpr ⟨itemWithin, keptWithin⟩
      · exact keptWithin

theorem tame_each_joined {procedure total : Value} (given : procedure.Within holds)
    (totalWithin : total.Within holds) {items : List Value}
    (within : ∀ item ∈ items, item.Within holds) :
    (eachJoined procedure total items).Tame holds := by
  induction items generalizing total with
  | nil => exact tame_reply totalWithin
  | cons item items ih =>
      have itemWithin := within item (by simp)
      refine .ask given (by simpa using ⟨totalWithin, itemWithin⟩) ?_
      intro next nextWithin
      exact ih nextWithin fun other member => within other (by simp [member])

theorem tame_each_flat {procedure : Value} (given : procedure.Within holds) {items : List Value}
    (within : ∀ item ∈ items, item.Within holds) {next : List Value → Dialogue}
    (rest : ∀ results, (∀ result ∈ results, result.Within holds) → (next results).Tame holds) :
    (eachFlat procedure items next).Tame holds := by
  induction items generalizing next with
  | nil => exact rest [] (by simp)
  | cons item items ih =>
      have itemWithin := within item (by simp)
      refine .ask given (by simpa using itemWithin) ?_
      intro result resultWithin
      apply tame_attempt (Prelude.sequence_returns .flatmap resultWithin)
      intro found foundWithin
      apply ih fun other member => within other (by simp [member])
      intro others othersWithin
      apply rest
      intro value member
      rcases List.mem_append.mp member with early | late
      · exact foundWithin value early
      · exact othersWithin value late

theorem uncons_within {lists tails : List (List Value)} {heads : List Value}
    (within : ∀ list ∈ lists, ∀ item ∈ list, item.Within holds)
    (taken : Prelude.uncons lists = some (heads, tails)) :
    (∀ item ∈ heads, item.Within holds) ∧ ∀ list ∈ tails, ∀ item ∈ list, item.Within holds := by
  fun_induction Prelude.uncons lists generalizing heads tails with
  | case1 =>
      cases taken
      simp
  | case2 => cases taken
  | case3 item items rest ih =>
      obtain ⟨⟨others, ends⟩, found, same⟩ := Option.map_eq_some_iff.mp taken
      cases same
      obtain ⟨headsWithin, tailsWithin⟩ :=
        ih (fun list member => within list (by simp [member])) found
      have ownWithin := within (item :: items) (by simp)
      exact ⟨List.forall_mem_cons.mpr ⟨ownWithin item (by simp), headsWithin⟩,
        List.forall_mem_cons.mpr
          ⟨fun other member => ownWithin other (by simp [member]), tailsWithin⟩⟩

theorem rows_within {items : List Value} {lists : List (List Value)}
    (itemsWithin : ∀ item ∈ items, item.Within holds)
    (within : ∀ list ∈ lists, ∀ item ∈ list, item.Within holds) :
    ∀ row ∈ Prelude.rows items lists, ∀ item ∈ row, item.Within holds := by
  fun_induction Prelude.rows items lists with
  | case1 => simp
  | case2 => simp
  | case3 item items others heads tails taken ih =>
      obtain ⟨headsWithin, tailsWithin⟩ := uncons_within within taken
      refine List.forall_mem_cons.mpr ⟨?_, ih (fun other member =>
        itemsWithin other (by simp [member])) tailsWithin⟩
      exact List.forall_mem_cons.mpr ⟨itemsWithin item (by simp), headsWithin⟩

theorem tame_mapping {arguments : List Value}
    (within : ∀ argument ∈ arguments, argument.Within holds) :
    (mapping arguments).Tame holds := by
  unfold mapping
  split
  next procedure value values =>
    have given := within procedure (by simp)
    apply tame_attempt (Prelude.sequences_returns .map
      fun list member => within list (List.mem_cons_of_mem _ member))
    intro lists listsWithin
    cases lists with
    | nil => exact tame_reply (Value.within_list.mpr (by simp))
    | cons head others =>
        obtain ⟨headWithin, othersWithin⟩ := List.forall_mem_cons.mp listsWithin
        exact tame_each_row given (rows_within headWithin othersWithin)
          fun results resultsWithin => tame_reply (Value.within_list.mpr resultsWithin)
  next => exact .answer (quiet_fault _)

theorem tame_filtering {arguments : List Value}
    (within : ∀ argument ∈ arguments, argument.Within holds) :
    (filtering arguments).Tame holds := by
  unfold filtering
  split
  next procedure value =>
    have given := within procedure (by simp)
    apply tame_attempt (Prelude.sequence_returns .filter (within value (by simp)))
    intro items itemsWithin
    exact tame_each_kept given itemsWithin
      fun kept keptWithin => tame_reply (Value.within_list.mpr keptWithin)
  next => exact .answer (quiet_fault _)

theorem tame_reducing {arguments : List Value}
    (within : ∀ argument ∈ arguments, argument.Within holds) :
    (reducing arguments).Tame holds := by
  unfold reducing
  split
  next procedure value =>
    have given := within procedure (by simp)
    apply tame_attempt (Prelude.sequence_returns .reduce (within value (by simp)))
    intro items itemsWithin
    cases items with
    | nil => exact .ask given (by simp) fun value valueWithin => tame_reply valueWithin
    | cons head others =>
        obtain ⟨headWithin, othersWithin⟩ := List.forall_mem_cons.mp itemsWithin
        exact tame_each_joined given headWithin othersWithin
  next procedure start value =>
    have given := within procedure (by simp)
    apply tame_attempt (Prelude.sequence_returns .reduce (within value (by simp)))
    intro items itemsWithin
    exact tame_each_joined given (within start (by simp)) itemsWithin
  next => exact .answer (quiet_fault _)

theorem tame_flatmapping {arguments : List Value}
    (within : ∀ argument ∈ arguments, argument.Within holds) :
    (flatmapping arguments).Tame holds := by
  unfold flatmapping
  split
  next procedure value =>
    have given := within procedure (by simp)
    apply tame_attempt (Prelude.sequence_returns .flatmap (within value (by simp)))
    intro items itemsWithin
    exact tame_each_flat given itemsWithin
      fun results resultsWithin => tame_reply (Value.within_list.mpr resultsWithin)
  next => exact .answer (quiet_fault _)

end Dialogue

/-- Every native function is tame. -/
theorem Native.dialogue_tame {holds : Closure → Prop} (function : Native) {arguments : List Value}
    (within : ∀ argument ∈ arguments, argument.Within holds) :
    (function.dialogue arguments).Tame holds := by
  cases function with
  | map => exact Dialogue.tame_mapping within
  | filter => exact Dialogue.tame_filtering within
  | reduce => exact Dialogue.tame_reducing within
  | flatmap => exact Dialogue.tame_flatmapping within
  | display => exact .answer (Prelude.quiet_displayed arguments)
  | readFile => exact .answer (Prelude.quiet_file_read arguments)
  | writeFile => exact .answer (Prelude.quiet_file_written arguments)
  | equal =>
      exact .answer (Prelude.quiet_pure_reply
        (returns_map_any fun _ => Value.within_atom _ _))
  | notEqual =>
      exact .answer (Prelude.quiet_pure_reply
        (returns_map_any fun _ => Value.within_atom _ _))
  | greater => exact .answer (Prelude.quiet_pure_reply (Prelude.ordered_returns _ _ _))
  | greaterEqual => exact .answer (Prelude.quiet_pure_reply (Prelude.ordered_returns _ _ _))
  | less => exact .answer (Prelude.quiet_pure_reply (Prelude.ordered_returns _ _ _))
  | lessEqual => exact .answer (Prelude.quiet_pure_reply (Prelude.ordered_returns _ _ _))
  | add => exact .answer (Prelude.quiet_numeric_reply fun _ => Prelude.sum_returns _ _)
  | subtract =>
      exact .answer (Prelude.quiet_numeric_reply fun _ => Prelude.difference_returns _ _)
  | multiply => exact .answer (Prelude.quiet_numeric_reply fun _ => Prelude.product_returns _ _)
  | divide => exact .answer (Prelude.quiet_numeric_reply fun _ => Prelude.quotient_returns _ _)
  | isNumber => exact .answer (Prelude.quiet_pure_reply (Prelude.number_test_returns _))
  | negate => exact .answer (Prelude.quiet_pure_reply (Prelude.negation_returns _))
  | conjunction => exact .answer (Prelude.quiet_return (Prelude.first_false_within within))
  | disjunction => exact .answer (Prelude.quiet_return (Prelude.first_true_within within))
  | stringJoin => exact .answer (Prelude.quiet_pure_reply (Prelude.string_joined_returns _))
  | stringSplit => exact .answer (Prelude.quiet_pure_reply (Prelude.string_split_at_returns _))
  | stringUpcase => exact .answer (Prelude.quiet_pure_reply (Prelude.map_text_returns _ _ _ _))
  | stringDowncase => exact .answer (Prelude.quiet_pure_reply (Prelude.map_text_returns _ _ _ _))
  | stringReverse => exact .answer (Prelude.quiet_pure_reply (Prelude.map_text_returns _ _ _ _))
  | stringTrim => exact .answer (Prelude.quiet_pure_reply (Prelude.map_text_returns _ _ _ _))
  | startsWith =>
      exact .answer (Prelude.quiet_pure_reply (Prelude.test_text_returns _ _ _ _ _))
  | endsWith => exact .answer (Prelude.quiet_pure_reply (Prelude.test_text_returns _ _ _ _ _))
  | list => exact .answer (Prelude.quiet_return (Value.within_list.mpr within))
  | first => exact .answer (Prelude.quiet_pure_reply (Prelude.first_element_returns within))
  | rest => exact .answer (Prelude.quiet_pure_reply (Prelude.other_elements_returns within))
  | nth => exact .answer (Prelude.quiet_pure_reply (Prelude.element_at_returns within))
  | take => exact .answer (Prelude.quiet_pure_reply (Prelude.taken_returns within))
  | drop => exact .answer (Prelude.quiet_pure_reply (Prelude.dropped_returns within))
  | count => exact .answer (Prelude.quiet_pure_reply (Prelude.counted_returns _))
  | probe instrument => exact .answer (Prelude.quiet_probed instrument within)

end Lisplet
