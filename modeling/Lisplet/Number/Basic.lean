import Lisplet.Number.Decimal

/-!
# Numbers of the language

Integers are exact and unbounded; floats are doubles. A result that is no number
is an object of its own: it carries the serial of the computation that made it,
and equals nothing but itself.
-/

namespace Lisplet

inductive Number where
  | int (value : Int)
  | float (value : Double)
  | nan (serial : Nat)
  deriving DecidableEq

inductive ArithmeticFault where
  | integerTooLarge
  | quotientTooLarge
  | integerDivisionByZero
  | floatDivisionByZero
  deriving DecidableEq

namespace Number

/-- Integers of more digits than this are neither read nor written. -/
def digitLimit : Nat := 4300

def integerText? (value : Int) : Option String :=
  if value.natAbs < Nat.pow 10 digitLimit then some (toString value) else none

def text? : Number → Option String
  | .int value => integerText? value
  | .float value => some value.text
  | .nan _ => some "nan"

/-- The result of a computation on doubles; `serial` names it if it is no
number. -/
def ofDouble (serial : Nat) (value : Double) : Number :=
  if value.isNan then .nan serial else .float value

/-- An integer beyond the range of doubles has no double. -/
def toDouble : Number → Except ArithmeticFault Double
  | .int value =>
      let rounded := Double.ofInt value
      if rounded.isInfinite then .error .integerTooLarge else .ok rounded
  | .float value => .ok value
  | .nan _ => .ok .nan

def onDoubles (serial : Nat) (operation : Double → Double → Double)
    (left right : Number) : Except ArithmeticFault Number := do
  let leftDouble ← left.toDouble
  let rightDouble ← right.toDouble
  return ofDouble serial (operation leftDouble rightDouble)

def add (serial : Nat) : Number → Number → Except ArithmeticFault Number
  | .int left, .int right => .ok (.int (left + right))
  | left, right => onDoubles serial Double.add left right

def sub (serial : Nat) : Number → Number → Except ArithmeticFault Number
  | .int left, .int right => .ok (.int (left - right))
  | left, right => onDoubles serial Double.sub left right

def mul (serial : Nat) : Number → Number → Except ArithmeticFault Number
  | .int left, .int right => .ok (.int (left * right))
  | left, right => onDoubles serial Double.mul left right

def neg (serial : Nat) : Number → Number
  | .int value => .int (-value)
  | .float value => .float value.neg
  | .nan _ => .nan serial

/-- An exact quotient of integers stays an integer; any other is the double
nearest to the exact ratio. -/
def divideIntegers (left right : Int) : Except ArithmeticFault Number :=
  if right = 0 then .error .integerDivisionByZero
  else if left % right = 0 then .ok (.int (left / right))
  else
    let quotient :=
      Double.ofRatio (decide (left < 0) != decide (right < 0))
        left.natAbs right.natAbs
    if quotient.isInfinite then .error .quotientTooLarge
    else .ok (.float quotient)

def div (serial : Nat) : Number → Number → Except ArithmeticFault Number
  | .int left, .int right => divideIntegers left right
  | left, right => do
      let leftDouble ← left.toDouble
      let rightDouble ← right.toDouble
      if rightDouble.isZero then .error .floatDivisionByZero
      else return ofDouble serial (leftDouble.div rightDouble)

/-- Exact comparison: an integer is not rounded before it meets a double. -/
def compare? : Number → Number → Option Ordering
  | .int left, .int right => some (compare left right)
  | .int left, .float right => Double.compareInt? left right
  | .float left, .int right => (Double.compareInt? right left).map Ordering.swap
  | .float left, .float right => Double.compare? left right
  | .nan _, _ => none
  | _, .nan _ => none

/-- Equal as numbers, or the very same result that is no number. -/
def same : Number → Number → Bool
  | .nan left, .nan right => left == right
  | left, right => left.compare? right == some .eq

end Number

end Lisplet
