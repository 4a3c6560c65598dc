import Lisplet.Config.Setting
import Lisplet.Config.Spelling

/-!
# What scalars mean

A plain scalar is a word with a meaning, a number, a date or text. Numbers may
have underscores between their digits and may count by sixties, with colons
between the places.
-/

namespace Lisplet.Config

inductive Form where
  | text
  | null
  | boolean
  | integer
  | float
  | moment
  /-- The key whose value is merged into its mapping. -/
  | merge
  /-- The key for a value of its own. -/
  | default
  deriving DecidableEq

def trueWords : List String :=
  ["yes", "Yes", "YES", "true", "True", "TRUE", "on", "On", "ON"]

def falseWords : List String :=
  ["no", "No", "NO", "false", "False", "FALSE", "off", "Off", "OFF"]

def nullWords : List String :=
  ["", "~", "null", "Null", "NULL"]

/-! ## Whole numbers -/

def isDigitOrBar (character : Char) : Bool :=
  character.isDigit || character = '_'

def isHexOrBar (character : Char) : Bool :=
  (hexValue? character).isSome || character = '_'

def isOctalOrBar (character : Char) : Bool :=
  character = '_' || ('0' ≤ character && character ≤ '7')

def isBinaryOrBar (character : Char) : Bool :=
  character = '_' || character = '0' || character = '1'

def withoutBars (characters : List Char) : List Char :=
  characters.filter (· != '_')

def splitSign : List Char → Bool × List Char
  | '-' :: rest => (true, rest)
  | '+' :: rest => (false, rest)
  | rest => (false, rest)

/-- A place behind the first of a number that counts by sixties. -/
def isSixtieth : List Char → Bool
  | [digit] => digit.isDigit
  | [tens, digit] => '0' ≤ tens && tens ≤ '5' && digit.isDigit
  | _ => false

def isDigits : List Char → Bool
  | [] => false
  | first :: rest => first.isDigit && rest.all isDigitOrBar

def isIntegerBody (body : List Char) : Bool :=
  match body with
  | '0' :: 'b' :: digit :: digits => (digit :: digits).all isBinaryOrBar
  | '0' :: 'x' :: digit :: digits => (digit :: digits).all isHexOrBar
  | '0' :: digits => digits.all isOctalOrBar
  | _ =>
      match body.splitOn ':' with
      | first :: rest => isDigits first && rest.all isSixtieth
      | [] => false

def isInteger (text : List Char) : Bool :=
  isIntegerBody (splitSign text).2

/-- The value of digits in a base. Decimal digits are limited in number, and a
base needs a digit. -/
def digitsInBase (base : Nat) (digits : List Char) : Except ConfigFault Nat :=
  if base = 10 && Number.digitLimit < digits.length then
    throw (.integerTooLong digits.length)
  else if digits.isEmpty then throw (.noDigits base)
  else
    return digits.foldl
      (fun total digit => total * base + (hexValue? digit).getD 0) 0

def bySixties (places : List (List Char)) : Except ConfigFault Nat :=
  places.foldlM
    (fun total place => do
      let value ← digitsInBase 10 place
      return total * 60 + value)
    0

def integerBody (body : List Char) : Except ConfigFault Nat :=
  match withoutBars body with
  | ['0'] => return 0
  | '0' :: 'b' :: digits => digitsInBase 2 digits
  | '0' :: 'x' :: digits => digitsInBase 16 digits
  | '0' :: digits => digitsInBase 8 ('0' :: digits)
  | digits => bySixties (digits.splitOn ':')

def integer (text : List Char) : Except ConfigFault Int := do
  let (negative, body) := splitSign text
  let size ← integerBody body
  return if negative then -(size : Int) else size

/-! ## Numbers with a point -/

def infinityWords : List String := [".inf", ".Inf", ".INF"]

def nanWords : List String := [".nan", ".NaN", ".NAN"]

/-- An exponent has a sign; there may be none at all. -/
def exponent? : List Char → Option Int
  | [] => some 0
  | mark :: direction :: digit :: digits =>
      if (mark = 'e' || mark = 'E') && (direction = '+' || direction = '-') &&
          (digit :: digits).all Char.isDigit then
        let size : Int := Decimal.digitsValue (digit :: digits)
        some (if direction = '-' then -size else size)
      else none
  | _ => none

structure Pointed where
  whole : List Char
  fraction : List Char
  exponent : Int

/-- Digits, a point, and more digits with perhaps an exponent. -/
def pointed? (body : List Char) : Option Pointed :=
  match body.dropWhile isDigitOrBar with
  | '.' :: rest =>
      (exponent? (rest.dropWhile isDigitOrBar)).map fun exponent =>
        ⟨body.takeWhile isDigitOrBar, rest.takeWhile isDigitOrBar, exponent⟩
  | _ => none

def Pointed.value (number : Pointed) : Double :=
  Double.ofDigits false (withoutBars number.whole) (withoutBars number.fraction)
    number.exponent

/-- Without digits before the point there is no sign, and one behind it. -/
def Pointed.isNumber (number : Pointed) (signed : Bool) : Bool :=
  if number.whole.isEmpty then
    !signed && number.fraction.head?.any Char.isDigit
  else isDigits number.whole

def sixtiesWithPoint? (body : List Char) : Option (List (List Char) × Pointed) :=
  match (body.splitOn ':').reverse with
  | last :: first :: rest =>
      let places := (first :: rest).reverse
      match pointed? last, places with
      | some number, leading :: others =>
          if isDigits leading && others.all isSixtieth && isSixtieth number.whole &&
              !last.any (fun found => found = 'e' || found = 'E') then
            some (places, number)
          else none
      | _, _ => none
  | _ => none

/-- The sum of places that count by sixties, lowest first, added as doubles. -/
def sumSixties : List Double → Nat → Double → Except ConfigFault Double
  | [], _, total => return total
  | place :: rest, weight, total =>
      match (Number.int weight).toDouble with
      | .error fault => throw (.arithmetic fault)
      | .ok factor => sumSixties rest (weight * 60) (total.add (place.mul factor))

def floatBody? (signed : Bool) (body : List Char) : Option (Except ConfigFault Double) :=
  let word := String.ofList body
  if infinityWords.contains word then some (.ok (.infinity false))
  else if nanWords.contains word then
    if signed then none else some (.ok .nan)
  else
    match sixtiesWithPoint? body with
    | some (places, number) =>
        let leading := places.map fun place =>
          Double.ofDigits false (withoutBars place) [] 0
        some (sumSixties (number.value :: leading.reverse) 1 (.zero false))
    | none =>
        match pointed? body with
        | some number => if number.isNumber signed then some (.ok number.value) else none
        | none => none

def float? (text : List Char) : Option (Except ConfigFault Double) :=
  let (negative, body) := splitSign text
  (floatBody? (body.length != text.length) body).map fun size =>
    size.map fun value => if negative then value.neg else value

/-! ## Dates -/

def someDigits? (least most : Nat) (text : List Char) : Option (Nat × List Char) :=
  let digits := (text.take most).takeWhile Char.isDigit
  if digits.length < least then none
  else some (Decimal.digitsValue digits, text.drop digits.length)

def after? (mark : Char) : List Char → Option (List Char)
  | [] => none
  | character :: rest => if character = mark then some rest else none

def dateParts? (least : Nat) (text : List Char) :
    Option ((Nat × Nat × Nat) × List Char) := do
  let (year, rest) ← someDigits? 4 4 text
  let (month, rest) ← (after? '-' rest).bind (someDigits? least 2)
  let (day, rest) ← (after? '-' rest).bind (someDigits? least 2)
  return ((year, month, day), rest)

/-- What is behind the time: the zone, in minutes ahead. -/
def zoneMinutes? (text : List Char) : Option (Option Int) :=
  if text.isEmpty then some none
  else
    match text.dropWhile isSpaceOrTab with
    | ['Z'] => some (some 0)
    | sign :: rest =>
        if sign = '+' || sign = '-' then do
          let (hours, rest) ← someDigits? 1 2 rest
          let (minutes, rest) ←
            match rest with
            | ':' :: more => someDigits? 2 2 more
            | more => some (0, more)
          let ahead : Int := hours * 60 + minutes
          if rest.isEmpty then some (some (if sign = '-' then -ahead else ahead))
          else none
        else none
    | [] => none

def microseconds (digits : List Char) : Nat :=
  Decimal.digitsValue ((digits ++ List.replicate 6 '0').take 6)

structure Clock where
  hour : Nat
  minute : Nat
  second : Nat
  microsecond : Nat
  zone : Option Int

def clock? (text : List Char) : Option Clock := do
  let (hour, rest) ← someDigits? 1 2 text
  let (minute, rest) ← (after? ':' rest).bind (someDigits? 2 2)
  let (second, rest) ← (after? ':' rest).bind (someDigits? 2 2)
  let (fraction, rest) :=
    match rest with
    | '.' :: more => (more.takeWhile Char.isDigit, more.dropWhile Char.isDigit)
    | more => ([], more)
  let zone ← zoneMinutes? rest
  return ⟨hour, minute, second, microseconds fraction, zone⟩

def afterDate? : List Char → Option (List Char)
  | 'T' :: rest => some rest
  | 't' :: rest => some rest
  | character :: rest =>
      if isSpaceOrTab character then some (rest.dropWhile isSpaceOrTab) else none
  | [] => none

def date (year month day : Nat) : Except ConfigFault Date :=
  match Date.make year month day with
  | .ok found => return found
  | .error fault => throw (.calendar fault)

/-- The zone is checked first, then the date, then the time. -/
def moment (year month day : Nat) (clock : Clock) : Except ConfigFault Setting := do
  let zone ←
    match clock.zone.map Zone.make with
    | none => pure Zone.unknown
    | some (.ok zone) => pure zone
    | some (.error fault) => throw (.calendar fault)
  let found ← date year month day
  match Moment.make found clock.hour clock.minute clock.second clock.microsecond zone with
  | .ok made => return .moment made
  | .error fault => throw (.calendar fault)

def moment? (text : List Char) : Option (Except ConfigFault Setting) :=
  match dateParts? 2 text with
  | some ((year, month, day), []) => some (Setting.date <$> date year month day)
  | _ => do
      let ((year, month, day), rest) ← dateParts? 1 text
      let clock ← (afterDate? rest).bind clock?
      return moment year month day clock

/-! ## All scalars -/

def formOf (text : List Char) : Form :=
  let word := String.ofList text
  if nullWords.contains word then .null
  else if trueWords.contains word || falseWords.contains word then .boolean
  else if word = "<<" then .merge
  else if word = "=" then .default
  else if isInteger text then .integer
  else if (float? text).isSome then .float
  else if (moment? text).isSome then .moment
  else .text

def scalarSetting (form : Form) (text : List Char) : Except ConfigFault Setting :=
  match form with
  | .text => return .text (String.ofList text)
  | .null => return .null
  | .boolean =>
      if trueWords.contains (String.ofList text) then return .boolean true
      else if falseWords.contains (String.ofList text) then return .boolean false
      else throw .malformed
  | .integer => if isInteger text then .integer <$> integer text else throw .malformed
  | .float =>
      match float? text with
      | some value => .float <$> value
      | none => throw .malformed
  | .moment => (moment? text).getD (throw .malformed)
  | .merge => throw .malformed
  | .default => throw .malformed

end Lisplet.Config
