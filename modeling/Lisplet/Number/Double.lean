/-!
# Binary64 numbers

A double is its sixty-four bits. Every operation decodes the bits into a sign, a
mantissa and a binary exponent, works on whole numbers, and rounds once, to the
nearest double and to the even one on a tie. Nothing here rests on machine
arithmetic, so the results can be computed in a proof.
-/

namespace Lisplet

structure Double where
  bits : UInt64
  deriving DecidableEq

namespace Double

/-- What the bits stand for: `mantissa * 2 ^ exponent` with a sign, an infinity,
or no number at all. -/
inductive Reading where
  | finite (negative : Bool) (mantissa : Nat) (exponent : Int)
  | infinite (negative : Bool)
  | notANumber

/-- The exponent of the smallest positive double. -/
def lowestExponent : Int := -1074

def signWeight : Nat := Nat.pow 2 63

def infiniteMagnitude : Nat := 2047 * Nat.pow 2 52

def read (value : Double) : Reading :=
  let word := value.bits.toNat
  let negative := decide (signWeight ≤ word)
  let magnitude := word % signWeight
  let field : Nat := magnitude / Nat.pow 2 52
  let fraction := magnitude % Nat.pow 2 52
  if field = 2047 then
    if fraction = 0 then .infinite negative else .notANumber
  else if field = 0 then .finite negative fraction lowestExponent
  else .finite negative (fraction + Nat.pow 2 52) ((field : Int) - 1075)

def ofMagnitude (negative : Bool) (magnitude : Nat) : Double :=
  ⟨(magnitude + if negative then signWeight else 0).toUInt64⟩

def infinity (negative : Bool) : Double :=
  ofMagnitude negative infiniteMagnitude

def zero (negative : Bool) : Double :=
  ofMagnitude negative 0

def nan : Double :=
  ofMagnitude false (infiniteMagnitude + Nat.pow 2 51)

def isNan (value : Double) : Bool :=
  match value.read with
  | .notANumber => true
  | _ => false

def isInfinite (value : Double) : Bool :=
  match value.read with
  | .infinite _ => true
  | _ => false

def isZero (value : Double) : Bool :=
  match value.read with
  | .finite _ mantissa _ => mantissa == 0
  | _ => false

/-- The whole number nearest to `numerator / denominator`, the even one of two. -/
def roundQuotient (numerator denominator : Nat) : Nat :=
  let quotient := numerator / denominator
  let remainder := numerator % denominator
  if 2 * remainder < denominator then quotient
  else if denominator < 2 * remainder then quotient + 1
  else quotient + quotient % 2

/-- The exponent `e` with `2 ^ e ≤ numerator / denominator < 2 ^ (e + 1)`. -/
def binaryExponent (numerator denominator : Nat) : Int :=
  let estimate : Int := (numerator.log2 : Int) - denominator.log2
  let reached :=
    if 0 ≤ estimate then decide (denominator * Nat.pow 2 estimate.toNat ≤ numerator)
    else decide (denominator ≤ numerator * Nat.pow 2 (-estimate).toNat)
  if reached then estimate else estimate - 1

/-- The double nearest to a ratio. The mantissa counts units of the last place,
and adding it to the exponent field carries into that field when it rounds up to
a power of two; a ratio too large for any double becomes infinite. -/
def ofRatio (negative : Bool) (numerator denominator : Nat) : Double :=
  if numerator = 0 then zero negative
  else
    let unit := max (binaryExponent numerator denominator - 52) lowestExponent
    let mantissa :=
      if 0 ≤ unit then roundQuotient numerator (denominator * Nat.pow 2 unit.toNat)
      else roundQuotient (numerator * Nat.pow 2 (-unit).toNat) denominator
    let magnitude := (unit - lowestExponent).toNat * Nat.pow 2 52 + mantissa
    ofMagnitude negative (min magnitude infiniteMagnitude)

def ofScaled (negative : Bool) (mantissa : Nat) (exponent : Int) : Double :=
  if 0 ≤ exponent then ofRatio negative (mantissa * Nat.pow 2 exponent.toNat) 1
  else ofRatio negative mantissa (Nat.pow 2 (-exponent).toNat)

def ofInt (value : Int) : Double :=
  ofRatio (decide (value < 0)) value.natAbs 1

def neg (value : Double) : Double :=
  let word := value.bits.toNat
  if signWeight ≤ word then ⟨(word - signWeight).toUInt64⟩
  else ⟨(word + signWeight).toUInt64⟩

def signed (negative : Bool) (mantissa : Nat) : Int :=
  if negative then -(mantissa : Int) else mantissa

/-- A sum of zeros is negative only if both are; any other exact zero is
positive. -/
def add (left right : Double) : Double :=
  match left.read, right.read with
  | .notANumber, _ => nan
  | _, .notANumber => nan
  | .infinite n₁, .infinite n₂ => if n₁ = n₂ then infinity n₁ else nan
  | .infinite n₁, .finite .. => infinity n₁
  | .finite .., .infinite n₂ => infinity n₂
  | .finite n₁ m₁ e₁, .finite n₂ m₂ e₂ =>
      let exponent := min e₁ e₂
      let total :=
        signed n₁ (m₁ * Nat.pow 2 (e₁ - exponent).toNat) +
          signed n₂ (m₂ * Nat.pow 2 (e₂ - exponent).toNat)
      if total = 0 then zero (m₁ = 0 && m₂ = 0 && n₁ && n₂)
      else ofScaled (decide (total < 0)) total.natAbs exponent

def sub (left right : Double) : Double :=
  left.add right.neg

def mul (left right : Double) : Double :=
  match left.read, right.read with
  | .notANumber, _ => nan
  | _, .notANumber => nan
  | .infinite n₁, .infinite n₂ => infinity (n₁ != n₂)
  | .infinite n₁, .finite n₂ m₂ _ => if m₂ = 0 then nan else infinity (n₁ != n₂)
  | .finite n₁ m₁ _, .infinite n₂ => if m₁ = 0 then nan else infinity (n₁ != n₂)
  | .finite n₁ m₁ e₁, .finite n₂ m₂ e₂ => ofScaled (n₁ != n₂) (m₁ * m₂) (e₁ + e₂)

def div (left right : Double) : Double :=
  match left.read, right.read with
  | .notANumber, _ => nan
  | _, .notANumber => nan
  | .infinite _, .infinite _ => nan
  | .infinite n₁, .finite n₂ .. => infinity (n₁ != n₂)
  | .finite n₁ .., .infinite n₂ => zero (n₁ != n₂)
  | .finite n₁ m₁ e₁, .finite n₂ m₂ e₂ =>
      if m₂ = 0 then nan
      else
        let shift := e₁ - e₂
        if 0 ≤ shift then ofRatio (n₁ != n₂) (m₁ * Nat.pow 2 shift.toNat) m₂
        else ofRatio (n₁ != n₂) m₁ (m₂ * Nat.pow 2 (-shift).toNat)

/-- The sign of `left - right`, or nothing when one of them is no number. -/
def compare? (left right : Double) : Option Ordering :=
  match left.read, right.read with
  | .notANumber, _ => none
  | _, .notANumber => none
  | .infinite n₁, .infinite n₂ =>
      some (if n₁ = n₂ then .eq else if n₁ then .lt else .gt)
  | .infinite n₁, .finite .. => some (if n₁ then .lt else .gt)
  | .finite .., .infinite n₂ => some (if n₂ then .gt else .lt)
  | .finite n₁ m₁ e₁, .finite n₂ m₂ e₂ =>
      let exponent := min e₁ e₂
      some (compare (signed n₁ (m₁ * Nat.pow 2 (e₁ - exponent).toNat))
        (signed n₂ (m₂ * Nat.pow 2 (e₂ - exponent).toNat)))

/-- The sign of `left - right` with the whole number taken exactly. -/
def compareInt? (left : Int) (right : Double) : Option Ordering :=
  match right.read with
  | .notANumber => none
  | .infinite negative => some (if negative then .gt else .lt)
  | .finite negative mantissa exponent =>
      let scaled :=
        if 0 ≤ exponent then
          (left, signed negative (mantissa * Nat.pow 2 exponent.toNat))
        else (left * Int.pow 2 (-exponent).toNat, signed negative mantissa)
      some (compare scaled.1 scaled.2)

end Double

end Lisplet
