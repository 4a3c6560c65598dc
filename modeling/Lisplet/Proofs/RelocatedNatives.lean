import Lisplet.Native.Invoke
import Lisplet.Proofs.Relocation

/-!
# Native functions do not look at locations

Native functions take arguments apart, describe them and compare them. None of this
shows where a form stood in its source, so moving the locations in the arguments
moves those in the result and does nothing else. Functions that apply procedures are
the matter of their dialogues.
-/

namespace Lisplet.Prelude

variable (move : Location → Location)

@[simp]
theorem complain_relocate {Result : Type} (value : Value) (fault : String → Fault) :
    (complain (value.relocate move) fault : Except Fault Result) = complain value fault := by
  simp only [complain, Value.describe_relocate]

@[simp]
theorem need_at_least_relocate (function : Native) (least : Nat) (arguments : List Value) :
    needAtLeast function least (arguments.map (Value.relocate move)) =
      needAtLeast function least arguments := by
  simp only [needAtLeast, List.length_map]

theorem numbers_relocate (function : Native) (arguments : List Value) :
    numbers function (arguments.map (Value.relocate move)) = numbers function arguments := by
  fun_induction numbers function arguments with
  | case1 => rfl
  | case2 value rest ih => simp only [List.map_cons, Value.relocate_atom, numbers, ih]
  | case3 value rest noNumber =>
      rw [List.map_cons, numbers]
      · simp only [complain_relocate, Value.kind_relocate]
      · intro number same
        cases value <;> simp_all [Value.relocate]

theorem text_relocate (function : Native) (value : Value) :
    text function (value.relocate move) = text function value := by
  cases value with
  | atom => rfl
  | list items => exact complain_relocate move (.list items) _
  | closure procedure => rfl
  | native => rfl
  | form expression => exact complain_relocate move (.form expression) _

theorem text_for_relocate (function : Native) (use : TextUse) (value : Value) :
    textFor function use (value.relocate move) = textFor function use value := by
  simp only [textFor, text_relocate]

theorem integer_relocate (function : Native) (value : Value) :
    integer function (value.relocate move) = integer function value := by
  cases value with
  | atom => rfl
  | list items => exact complain_relocate move (.list items) _
  | closure procedure => rfl
  | native => rfl
  | form expression => exact complain_relocate move (.form expression) _

theorem map_complain {First Result : Type} (change : First → Result) (value : Value)
    (fault : String → Fault) : change <$> complain value fault = complain value fault := by
  unfold complain
  cases value.describe <;> rfl

theorem sequence_relocate (function : Native) (value : Value) :
    sequence function (value.relocate move) =
      List.map (Value.relocate move) <$> sequence function value := by
  cases value with
  | atom value =>
      cases value with
      | nil => rfl
      | _ => simp only [Value.relocate_atom, sequence, map_complain]
  | list items => exact congrArg (sequence function) (Value.relocate_list move items)
  | closure procedure => rfl
  | native => rfl
  | form expression =>
      exact (complain_relocate move (.form expression) _).trans (map_complain ..).symm

theorem sequences_relocate (function : Native) (values : List Value) :
    sequences function (values.map (Value.relocate move)) =
      List.map (List.map (Value.relocate move)) <$> sequences function values := by
  induction values with
  | nil => rfl
  | cons value rest ih =>
      simp only [List.map_cons, sequences, sequence_relocate, ih]
      cases sequence function value with
      | error cause => rfl
      | ok items => cases sequences function rest <;> rfl

theorem joined_relocate (separator : String) (values : List Value) :
    joined separator (values.map (Value.relocate move)) = joined separator values := by
  simp only [joined, Value.display_texts_relocate]

theorem all_same_relocate (function : Native) (arguments : List Value) :
    allSame function (arguments.map (Value.relocate move)) = allSame function arguments := by
  have chain : sameChain (arguments.map (Value.relocate move)) = sameChain arguments := by
    fun_induction sameChain arguments with
    | case1 first second rest ih =>
        rw [List.map_cons] at ih
        simp only [List.map_cons, sameChain, Value.same_relocate, ih]
    | case2 values short =>
        match values with
        | [] => rfl
        | [_] => rfl
        | first :: second :: rest => exact absurd rfl (short first second rest)
  simp only [allSame, need_at_least_relocate, chain]

/-- A function on values that moves the locations along. -/
def Follows (move : Location → Location) (compute : List Value → Except Fault Value) : Prop :=
  ∀ arguments, compute (arguments.map (Value.relocate move)) =
    Value.relocate move <$> compute arguments

theorem follows_ordered (function : Native) (accepts : Ordering → Bool) :
    Follows move (ordered function accepts) := by
  intro arguments
  simp only [ordered, need_at_least_relocate, numbers_relocate, map_bind, map_pure,
    Value.relocate_atom]

theorem follows_sum (serial : Nat) : Follows move (sum serial) := by
  intro arguments
  simp only [sum, numbers_relocate, map_bind, map_pure, Value.relocate_atom]

theorem follows_product (serial : Nat) : Follows move (product serial) := by
  intro arguments
  simp only [product, numbers_relocate, map_bind, map_pure, Value.relocate_atom]

theorem relocate_made {Result : Type} (make : Result → Atom) (result : Except Fault Result) :
    Value.relocate move <$> ((fun made => Value.atom (make made)) <$> result) =
      (fun made => Value.atom (make made)) <$> result := by
  cases result <;> rfl

theorem follows_difference (serial : Nat) : Follows move (difference serial) := by
  intro arguments
  simp only [difference, need_at_least_relocate, numbers_relocate, map_bind]
  congr 1
  funext _
  congr 1
  funext operands
  split
  next => rfl
  next => rfl
  next => exact (relocate_made move .number _).symm

theorem follows_quotient (serial : Nat) : Follows move (quotient serial) := by
  intro arguments
  simp only [quotient, need_at_least_relocate, numbers_relocate, map_bind]
  congr 1
  funext _
  congr 1
  funext operands
  split
  next => rfl
  next => exact (relocate_made move .number _).symm
  next => exact (relocate_made move .number _).symm

theorem follows_number_test : Follows move numberTest := by
  intro arguments
  match arguments with
  | [] => rfl
  | [value] =>
      cases value with
      | atom value => cases value <;> rfl
      | _ => rfl
  | first :: second :: rest => simp [numberTest, refuseExact]

theorem follows_negation : Follows move negation := by
  intro arguments
  match arguments with
  | [] => rfl
  | [value] =>
      simp only [List.map_cons, List.map_nil, negation, Value.truthy_relocate, map_pure,
        Value.relocate_atom]
  | first :: second :: rest => simp [negation, refuseExact]

theorem first_false_relocate (arguments : List Value) :
    firstFalse (arguments.map (Value.relocate move)) = (firstFalse arguments).relocate move := by
  induction arguments with
  | nil => rfl
  | cons value rest ih =>
      cases rest with
      | nil => rfl
      | cons next rest =>
          simp only [List.map_cons, firstFalse, Value.truthy_relocate] at ih ⊢
          split_ifs
          · exact ih
          · rfl

theorem first_true_relocate (arguments : List Value) :
    firstTrue (arguments.map (Value.relocate move)) = (firstTrue arguments).relocate move := by
  induction arguments with
  | nil => rfl
  | cons value rest ih =>
      cases rest with
      | nil => rfl
      | cons next rest =>
          simp only [List.map_cons, firstTrue, Value.truthy_relocate] at ih ⊢
          split_ifs
          · rfl
          · exact ih

theorem follows_string_joined : Follows move stringJoined := by
  intro arguments
  match arguments with
  | [] => rfl
  | [value] => 
      simp only [List.map_cons, List.map_nil, stringJoined, sequence_relocate, map_bind,
        bind_map_left, joined_relocate]
      congr 1
      funext items
      exact (relocate_made move .string _).symm
  | [separator, value] => 
      simp only [List.map_cons, List.map_nil, stringJoined, text_relocate, sequence_relocate,
        map_bind, bind_map_left, joined_relocate]
      congr 1
      funext between
      congr 1
      funext items
      cases between with
      | none => rfl
      | some text => exact (relocate_made move .string _).symm
  | first :: second :: third :: rest => simp [stringJoined, refuseCount]

theorem follows_string_split_at : Follows move stringSplitAt := by
  intro arguments
  match arguments with
  | [] => rfl
  | [_] => rfl
  | [subject, pattern] =>
      simp only [List.map_cons, List.map_nil, stringSplitAt, text_relocate, text_for_relocate,
        map_bind]
      congr 1
      funext whole
      congr 1
      funext text
      cases readPattern text with
      | error flaw => rfl
      | ok compiled =>
          cases whole with
          | none => rfl
          | some content =>
              simp only [map_pure, Value.relocate_list, List.map_map]
              congr 3
              funext found
              cases found <;> rfl
  | first :: second :: third :: rest => simp [stringSplitAt, refuseCount]

theorem follows_map_text (function : Native) (use : TextUse) (change : String → String) :
    Follows move (mapText function use change) := by
  intro arguments
  match arguments with
  | [] => rfl
  | [value] =>
      simp only [List.map_cons, List.map_nil, mapText, text_for_relocate, map_bind, map_pure,
        Value.relocate_atom]
  | first :: second :: rest => simp [mapText, refuseCount]

theorem follows_test_text (function : Native) (use otherUse : TextUse)
    (holds : List Char → List Char → Bool) :
    Follows move (testText function use otherUse holds) := by
  intro arguments
  match arguments with
  | [] => rfl
  | [_] => rfl
  | [value, other] =>
      simp only [List.map_cons, List.map_nil, testText, text_for_relocate, map_bind, map_pure,
        Value.relocate_atom]
  | first :: second :: third :: rest => simp [testText, refuseCount]

theorem follows_first_element : Follows move firstElement := by
  intro arguments
  match arguments with
  | [] => rfl
  | [value] =>
      simp only [List.map_cons, List.map_nil, firstElement, sequence_relocate, map_bind,
        bind_map_left, map_pure]
      congr 1
      funext items
      cases items <;> rfl
  | first :: second :: rest => simp [firstElement, refuseCount]

theorem follows_other_elements : Follows move otherElements := by
  intro arguments
  match arguments with
  | [] => rfl
  | [value] =>
      simp only [List.map_cons, List.map_nil, otherElements, sequence_relocate, map_bind,
        bind_map_left, map_pure, Value.relocate_list, List.map_tail]
  | first :: second :: rest => simp [otherElements, refuseCount]

theorem follows_element_at : Follows move elementAt := by
  intro arguments
  match arguments with
  | [] => rfl
  | [_] => rfl
  | [value, index] =>
      simp only [List.map_cons, List.map_nil, elementAt, sequence_relocate, integer_relocate,
        map_bind, bind_map_left]
      congr 1
      funext items
      congr 1
      funext index
      have found : (if 0 ≤ index then (items.map (Value.relocate move))[index.toNat]? else none) =
          (if 0 ≤ index then items[index.toNat]? else none).map (Value.relocate move) := by
        split_ifs
        · exact List.getElem?_map
        · rfl
      rw [found, List.length_map]
      cases if 0 ≤ index then items[index.toNat]? else none with
      | some item => rfl
      | none =>
          dsimp only [Option.map_none]
          split_ifs <;> rfl
  | first :: second :: third :: rest => simp [elementAt, refuseCount]

theorem follows_taken : Follows move taken := by
  intro arguments
  match arguments with
  | [] => rfl
  | [_] => rfl
  | [count, value] =>
      simp only [List.map_cons, List.map_nil, taken, sequence_relocate, integer_relocate, map_bind,
        bind_map_left, map_pure, Value.relocate_list, List.map_take]
  | first :: second :: third :: rest => simp [taken, refuseCount]

theorem follows_dropped : Follows move dropped := by
  intro arguments
  match arguments with
  | [] => rfl
  | [_] => rfl
  | [count, value] =>
      simp only [List.map_cons, List.map_nil, dropped, sequence_relocate, integer_relocate,
        map_bind, bind_map_left, map_pure, Value.relocate_list, List.map_drop]
  | first :: second :: third :: rest => simp [dropped, refuseCount]

theorem follows_counted : Follows move counted := by
  intro arguments
  match arguments with
  | [] => rfl
  | [value] =>
      have listed (other : Value) :
          (sequence .count (other.relocate move) >>= fun items =>
              (return .number (.int items.length) : Except Fault Value)) =
            Value.relocate move <$> (sequence .count other >>= fun items =>
              (return .number (.int items.length))) := by
        simp only [sequence_relocate, map_bind, bind_map_left, map_pure, List.length_map,
          Value.relocate_atom]
      cases value with
      | atom value =>
          cases value with
          | string text => rfl
          | unmatched => rfl
          | _ => exact listed (.atom _)
      | list items => exact listed (.list items)
      | closure procedure => exact listed (.closure procedure)
      | native function => exact listed (.native function)
      | form expression => exact listed (.form expression)
  | first :: second :: rest => simp [counted, refuseCount]

end Lisplet.Prelude
