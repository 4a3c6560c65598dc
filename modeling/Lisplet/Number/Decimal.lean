import Lisplet.Number.Double

/-!
# Decimal text of doubles

`shortest` finds the fewest decimal digits that read back as a given double, and
of those the nearest to it. `layout` places them: positionally for moderate
exponents, in scientific form otherwise. `ofText?` reads both forms back.
-/

namespace Lisplet

/-- The number `digits * 10 ^ exponent`. -/
structure Decimal where
  digits : Nat
  exponent : Int

namespace Decimal

def width (number : Nat) : Nat :=
  if number < 10 then 1 else width (number / 10) + 1

/-- Zeros at the end move into the exponent. -/
def dropZeros (digits : Nat) (exponent : Int) : Decimal :=
  if digits = 0 then ⟨0, exponent⟩
  else if digits % 10 = 0 then dropZeros (digits / 10) (exponent + 1)
  else ⟨digits, exponent⟩
  termination_by digits

/-- The power of ten just above `mantissa * 2 ^ exponent`. No double is below
`10 ^ -330`, so scaling by that power loses nothing of the width. -/
def magnitude (mantissa : Nat) (exponent : Int) : Int :=
  let scaled := mantissa * Nat.pow 2 exponent.toNat * Nat.pow 10 330 / Nat.pow 2 (-exponent).toNat
  (width scaled : Int) - 330

/-- A grid point of `places` digits that reads back as
`mantissa * 2 ^ exponent`; if both neighbours do, the nearer one, and the even
one if neither is nearer. Quarters of the unit `2 ^ exponent` are compared with
units of the grid: `tens` and `parts` bring both sides to whole numbers. -/
def onGrid (mantissa : Nat) (exponent : Int) (top : Int) (places : Nat) :
    Option Decimal :=
  let grid := top - places
  let tens := Nat.pow 10 grid.toNat * Nat.pow 2 (2 - exponent).toNat
  let parts := Nat.pow 10 (-grid).toNat * Nat.pow 2 (exponent - 2).toNat
  let atBoundary :=
    decide (mantissa = Nat.pow 2 52 ∧ Double.lowestExponent < exponent)
  let low := (4 * mantissa - if atBoundary then 1 else 2) * parts
  let value := 4 * mantissa * parts
  let high := (4 * mantissa + 2) * parts
  let closed := mantissa % 2 = 0
  let readsBack := fun (point : Nat) =>
    (low < point * tens ∧ point * tens < high) ∨
      (closed ∧ (point * tens = low ∨ point * tens = high))
  let below := value / tens
  let above := below + 1
  if readsBack below then
    let down := value - below * tens
    let up := above * tens - value
    if readsBack above ∧ (up < down ∨ (up = down ∧ above % 2 = 0)) then
      some (dropZeros above grid)
    else some (dropZeros below grid)
  else if readsBack above then some (dropZeros above grid)
  else none

/-- The fewest digits that read back; seventeen always do. -/
def shortest (mantissa : Nat) (exponent : Int) : Decimal :=
  let top := magnitude mantissa exponent
  ((List.range 17).findSome? fun fewer =>
    onGrid mantissa exponent top (fewer + 1)).getD ⟨mantissa, exponent⟩

def zeros (count : Nat) : String :=
  String.ofList (List.replicate count '0')

/-- The exponent of the scientific form has a sign and at least two digits. -/
def exponentText (exponent : Int) : String :=
  let digits := toString exponent.natAbs
  (if exponent < 0 then "-" else "+") ++
    (if digits.length < 2 then "0" else "") ++ digits

/-- Positional notation reaches from four zeros after the point up to sixteen
digits before it, and always shows a digit after the point. -/
def layout (decimal : Decimal) : String :=
  let digits := (toString decimal.digits).toList
  let count := digits.length
  let point : Int := count + decimal.exponent
  if -3 ≤ point ∧ point ≤ 16 then
    if point ≤ 0 then "0." ++ zeros (-point).toNat ++ String.ofList digits
    else if (count : Int) ≤ point then
      String.ofList digits ++ zeros (point - count).toNat ++ ".0"
    else
      String.ofList (digits.take point.toNat) ++ "." ++
        String.ofList (digits.drop point.toNat)
  else
    String.ofList (digits.take 1) ++
      (if count ≤ 1 then "" else "." ++ String.ofList (digits.drop 1)) ++
      "e" ++ exponentText (point - 1)

def digitsValue (digits : List Char) : Nat :=
  digits.foldl (fun total digit => total * 10 + (digit.toNat - '0'.toNat)) 0

end Decimal

namespace Double

def text (value : Double) : String :=
  match value.read with
  | .notANumber => "nan"
  | .infinite negative => if negative then "-inf" else "inf"
  | .finite negative mantissa exponent =>
      (if negative then "-" else "") ++
        if mantissa = 0 then "0.0"
        else (Decimal.shortest mantissa exponent).layout

/-- Decimal exponents of this size are out of reach of doubles. -/
def exponentReach : Int := 400

/-- The double nearest to `whole.fraction * 10 ^ exponent`, the parts being rows
of digits. An exponent so far off that the result is zero or infinite is cut
short. -/
def ofDigits (negative : Bool) (whole fraction : List Char) (exponent : Int) :
    Double :=
  let mantissa := Decimal.digitsValue (whole ++ fraction)
  let bounded :=
    max (-(whole.length + exponentReach)) (min exponent (fraction.length + exponentReach))
  let scale := bounded - fraction.length
  if 0 ≤ scale then ofRatio negative (mantissa * Nat.pow 10 scale.toNat) 1
  else ofRatio negative mantissa (Nat.pow 10 (-scale).toNat)

def exponentOfText? (text : List Char) : Option Int :=
  let (negative, digits) :=
    match text with
    | '-' :: rest => (true, rest)
    | '+' :: rest => (false, rest)
    | rest => (false, rest)
  if digits.isEmpty || !digits.all Char.isDigit then none
  else
    let size : Int := Decimal.digitsValue digits
    some (if negative then -size else size)

/-- Reads what `text` writes: digits with an optional fraction and exponent, or
the words for infinity and no number. -/
def ofText? (text : String) : Option Double :=
  let (negative, body) :=
    match text.toList with
    | '-' :: rest => (true, rest)
    | rest => (false, rest)
  if body = ['n', 'a', 'n'] then some nan
  else if body = ['i', 'n', 'f'] then some (infinity negative)
  else
    let whole := body.takeWhile Char.isDigit
    let rest := body.dropWhile Char.isDigit
    let (fraction, rest) :=
      match rest with
      | '.' :: tail => (tail.takeWhile Char.isDigit, tail.dropWhile Char.isDigit)
      | tail => ([], tail)
    if whole.isEmpty && fraction.isEmpty then none
    else
      match rest with
      | [] => some (ofDigits negative whole fraction 0)
      | 'e' :: tail =>
          (exponentOfText? tail).map (ofDigits negative whole fraction ·)
      | _ => none

end Double

end Lisplet
