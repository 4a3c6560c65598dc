import Lisplet.Native.Arguments

/-!
# Lists

The native functions on lists. Those that take a procedure call it through the
caller they are given, on the elements from left to right.
-/

namespace Lisplet.Prelude

def firstElement : List Value → Except Fault Value
  | [value] => do
      let items ← sequence .first value
      return items.headD .nil
  | arguments => refuseCount .first [1] arguments

def otherElements : List Value → Except Fault Value
  | [value] => do
      let items ← sequence .rest value
      return .list items.tail
  | arguments => refuseCount .rest [1] arguments

/-- The element at an index; an index out of range is reported, if it can be
written. -/
def elementAt : List Value → Except Fault Value
  | [value, indexValue] => do
      let items ← sequence .nth value
      let index ← integer .nth indexValue
      let found := if 0 ≤ index then items[index.toNat]? else none
      match found with
      | some item => return item
      | none =>
          if (Number.integerText? index).isSome then
            throw (.outOfRange index items.length)
          else throw (.unwritable .tooManyDigits)
  | arguments => refuseCount .nth [2] arguments

def taken : List Value → Except Fault Value
  | [countValue, value] => do
      let count ← integer .take countValue
      let items ← sequence .take value
      return .list (items.take count.toNat)
  | arguments => refuseCount .take [2] arguments

def dropped : List Value → Except Fault Value
  | [countValue, value] => do
      let count ← integer .drop countValue
      let items ← sequence .drop value
      return .list (items.drop count.toNat)
  | arguments => refuseCount .drop [2] arguments

def counted : List Value → Except Fault Value
  | [.string text] => return .number (.int text.length)
  | [.unmatched] => throw (.noText .length)
  | [value] => do
      let items ← sequence .count value
      return .number (.int items.length)
  | arguments => refuseCount .count [1] arguments

/-- The first element of each list with what follows it, unless one is empty. -/
def uncons : List (List Value) → Option (List Value × List (List Value))
  | [] => some ([], [])
  | [] :: _ => none
  | (item :: items) :: rest =>
      (uncons rest).map fun (heads, tails) => (item :: heads, items :: tails)

def rows : List Value → List (List Value) → List (List Value)
  | [], _ => []
  | item :: items, others =>
      match uncons others with
      | none => []
      | some (heads, tails) => (item :: heads) :: rows items tails

def callRows (call : Caller) (procedure : Value) :
    List (List Value) → EvalM (List Value)
  | [] => return []
  | row :: rest => do
      let result ← call procedure row
      let results ← callRows call procedure rest
      return result :: results

/-- With several lists the procedure takes one element of each. -/
def mapped (call : Caller) : List Value → EvalM Value
  | procedure :: value :: values => do
      let lists ← EvalM.ofExcept (sequences .map (value :: values))
      match lists with
      | [] => return .list []
      | first :: others => .list <$> callRows call procedure (rows first others)
  | arguments => EvalM.fault (.missingLists arguments.length)

def keepElements (call : Caller) (procedure : Value) :
    List Value → EvalM (List Value)
  | [] => return []
  | item :: rest => do
      let verdict ← call procedure [item]
      let kept ← keepElements call procedure rest
      return if verdict.isTruthy then item :: kept else kept

def filtered (call : Caller) : List Value → EvalM Value
  | [procedure, value] => do
      let items ← EvalM.ofExcept (sequence .filter value)
      .list <$> keepElements call procedure items
  | arguments => EvalM.ofExcept (refuseCount .filter [2] arguments)

def foldElements (call : Caller) (procedure : Value) :
    Value → List Value → EvalM Value
  | total, [] => return total
  | total, item :: rest => do
      let next ← call procedure [total, item]
      foldElements call procedure next rest

/-- Without a start the first element is one; an empty list then calls the
procedure on nothing. -/
def reduced (call : Caller) : List Value → EvalM Value
  | [procedure, value] => do
      let items ← EvalM.ofExcept (sequence .reduce value)
      match items with
      | [] => call procedure []
      | first :: rest => foldElements call procedure first rest
  | [procedure, start, value] => do
      let items ← EvalM.ofExcept (sequence .reduce value)
      foldElements call procedure start items
  | arguments => EvalM.ofExcept (refuseCount .reduce [2, 3] arguments)

def flattenResults (call : Caller) (procedure : Value) :
    List Value → EvalM (List Value)
  | [] => return []
  | item :: rest => do
      let result ← call procedure [item]
      let items ← EvalM.ofExcept (sequence .flatmap result)
      let others ← flattenResults call procedure rest
      return items ++ others

def flatMapped (call : Caller) : List Value → EvalM Value
  | [procedure, value] => do
      let items ← EvalM.ofExcept (sequence .flatmap value)
      .list <$> flattenResults call procedure items
  | arguments => EvalM.ofExcept (refuseCount .flatmap [2] arguments)

end Lisplet.Prelude
