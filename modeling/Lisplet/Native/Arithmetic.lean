import Lisplet.Native.Arguments

/-!
# Numbers, comparisons and truth

The native functions that look at their arguments alone. A computation that may
end in no number takes the serial that tells its result from all others.
-/

namespace Lisplet.Prelude

def chained {α : Type} (related : α → α → Bool) : List α → Bool
  | first :: second :: rest => related first second && chained related (second :: rest)
  | _ => true

/-- Every two neighbours are the same, as far as they can be compared. -/
def sameChain : List Value → Option Bool
  | first :: second :: rest =>
      thenSame (first.sameWithin nestingLimit second) (sameChain (second :: rest))
  | _ => some true

def allSame (function : Native) (arguments : List Value) : Except Fault Bool := do
  needAtLeast function 1 arguments
  match sameChain arguments with
  | some verdict => return verdict
  | none => throw .comparisonTooDeep

/-- Comparisons hold between every two neighbours; none holds where a number is
missing. -/
def ordered (function : Native) (accepts : Ordering → Bool)
    (arguments : List Value) : Except Fault Value := do
  needAtLeast function 1 arguments
  let operands ← numbers function arguments
  return .boolean
    (chained (fun left right => (left.compare? right).any accepts) operands)

def arithmetic {α : Type} : Except ArithmeticFault α → Except Fault α
  | .ok value => .ok value
  | .error fault => .error (.arithmetic fault)

def foldNumbers (operation : Number → Number → Except ArithmeticFault Number) :
    Number → List Number → Except Fault Number
  | total, [] => return total
  | total, operand :: rest => do
      let next ← arithmetic (operation total operand)
      foldNumbers operation next rest

def sum (serial : Nat) (arguments : List Value) : Except Fault Value := do
  let operands ← numbers .add arguments
  let total ← foldNumbers (Number.add serial) (.int 0) operands
  return .number total

def product (serial : Nat) (arguments : List Value) : Except Fault Value := do
  let operands ← numbers .multiply arguments
  let total ← foldNumbers (Number.mul serial) (.int 1) operands
  return .number total

/-- One operand is negated; further ones are taken from the first. -/
def difference (serial : Nat) (arguments : List Value) : Except Fault Value := do
  needAtLeast .subtract 1 arguments
  let operands ← numbers .subtract arguments
  match operands with
  | [] => return .number (.int 0)
  | [operand] => return .number (operand.neg serial)
  | first :: rest => .number <$> foldNumbers (Number.sub serial) first rest

/-- One operand is inverted; otherwise the first is divided by the others. -/
def quotient (serial : Nat) (arguments : List Value) : Except Fault Value := do
  needAtLeast .divide 1 arguments
  let operands ← numbers .divide arguments
  match operands with
  | [] => return .number (.int 1)
  | [operand] => .number <$> foldNumbers (Number.div serial) (.int 1) [operand]
  | first :: rest => .number <$> foldNumbers (Number.div serial) first rest

def numberTest : List Value → Except Fault Value
  | [.number _] => return .boolean true
  | [_] => return .boolean false
  | arguments => refuseExact .isNumber 1 arguments

def negation : List Value → Except Fault Value
  | [value] => return .boolean !value.isTruthy
  | arguments => refuseExact .negate 1 arguments

def firstFalse : List Value → Value
  | [] => .boolean true
  | [value] => value
  | value :: rest => if value.isTruthy then firstFalse rest else value

def firstTrue : List Value → Value
  | [] => .boolean false
  | [value] => value
  | value :: rest => if value.isTruthy then value else firstTrue rest

end Lisplet.Prelude
