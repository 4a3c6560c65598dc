import Lisplet.Pattern.Basic

/-!
# Reading patterns

A pattern text is first cut into marks: a character, or a backslash with the
character behind it. A reader stands before a mark; moving it on looks one mark
ahead, so that a backslash at the very end is reported as soon as it comes next.
-/

namespace Lisplet

inductive PatternMark where
  | plain (character : Char)
  | escaped (character : Char)
  /-- A backslash with nothing behind it. -/
  | dangling
  deriving DecidableEq

namespace PatternMark

def width : PatternMark → Nat
  | .escaped _ => 2
  | _ => 1

def text : PatternMark → String
  | .plain character => String.singleton character
  | .escaped character => "\\" ++ String.singleton character
  | .dangling => "\\"

def ofText : List Char → List PatternMark
  | [] => []
  | ['\\'] => [.dangling]
  | '\\' :: character :: rest => .escaped character :: ofText rest
  | character :: rest => .plain character :: ofText rest

def plain? : PatternMark → Option Char
  | .plain character => some character
  | _ => none

end PatternMark

structure PatternReader where
  marks : List PatternMark
  offset : Nat := 0

namespace PatternReader

def failAt {α : Type} (flaw : PatternFlaw) (position : Nat) :
    Except PatternError α :=
  .error (.flawed flaw position)

/-- Refuses to stand before a lone backslash. -/
def checked (reader : PatternReader) : Except PatternError PatternReader :=
  match reader.marks with
  | .dangling :: _ => failAt .danglingEscape reader.offset
  | _ => .ok reader

def skip (reader : PatternReader) (count : Nat) :
    Except PatternError PatternReader :=
  checked {
    marks := reader.marks.drop count
    offset := (reader.marks.take count).foldl (fun offset mark => offset + mark.width)
      reader.offset }

def next? (reader : PatternReader) : Option PatternMark :=
  reader.marks.head?

def standsAt (reader : PatternReader) (character : Char) : Bool :=
  reader.next? == some (.plain character)

/-- The plain characters of a class that come next, at most `limit` of them. -/
def run (reader : PatternReader) (limit : Nat) (holds : Char → Bool) :
    List Char :=
  ((reader.marks.take limit).map PatternMark.plain?).takeWhile
    (fun mark => mark.any holds) |>.filterMap id

def isOctal (character : Char) : Bool :=
  '0' ≤ character && character ≤ '7'

def isHexadecimal (character : Char) : Bool :=
  character.isDigit || ('a' ≤ character && character ≤ 'f') ||
    ('A' ≤ character && character ≤ 'F')

def digitValue (character : Char) : Nat :=
  if character.isDigit then character.toNat - '0'.toNat
  else if 'a' ≤ character then character.toNat - 'a'.toNat + 10
  else character.toNat - 'A'.toNat + 10

def valueIn (base : Nat) (digits : List Char) : Nat :=
  digits.foldl (fun total digit => total * base + digitValue digit) 0

/-- Characters that letters escape, inside and outside of sets. -/
def controlEscape? : Char → Option Char
  | 'a' => some '\x07'
  | 'f' => some '\x0c'
  | 'n' => some '\n'
  | 'r' => some '\r'
  | 't' => some '\t'
  | 'v' => some '\x0b'
  | '\\' => some '\\'
  | _ => none

def classEscape? : Char → Option SetItem
  | 'd' => some (.member .digit false)
  | 'D' => some (.member .digit true)
  | 's' => some (.member .blank false)
  | 'S' => some (.member .blank true)
  | 'w' => some (.member .word false)
  | 'W' => some (.member .word true)
  | _ => none

def anchorEscape? : Char → Option Anchor
  | 'A' => some .textStart
  | 'b' => some .wordEdge
  | 'B' => some .wordInside
  | 'Z' => some .textEnd
  | _ => none

def hexadecimalWidth? : Char → Option Nat
  | 'x' => some 2
  | 'u' => some 4
  | 'U' => some 8
  | _ => none

/-- Reads the digits behind a hexadecimal escape; the reader is behind the
escape itself. -/
def hexadecimal (reader : PatternReader) (letter : Char) (width : Nat) :
    Except PatternError (Char × PatternReader) := do
  let digits := reader.run width isHexadecimal
  let after ← reader.skip digits.length
  let shown := String.ofList ('\\' :: letter :: digits)
  if digits.length < width then
    failAt (.incompleteEscape shown) (reader.offset - 2)
  else if (valueIn 16 digits).isValidChar then
    return (Char.ofNat (valueIn 16 digits), after)
  else failAt (.badEscape shown) (reader.offset - 2)

/-- An escape that stands for one character by itself: letters and digits are
reserved. -/
def selfEscape (reader : PatternReader) (character : Char) :
    Except PatternError Char :=
  if character.isAlpha || character.isDigit then
    failAt (.badEscape (PatternMark.escaped character).text) (reader.offset - 2)
  else .ok character

def setEscape (reader : PatternReader) (character : Char) :
    Except PatternError (SetItem × PatternReader) :=
  match controlEscape? character, classEscape? character,
      hexadecimalWidth? character with
  | some control, _, _ => return (.single control, reader)
  | _, some item, _ => return (item, reader)
  | _, _, some width => do
      let (value, after) ← reader.hexadecimal character width
      return (.single value, after)
  | none, none, none =>
      if character = 'b' then return (.single '\x08', reader)
      else if isOctal character then do
        let digits := character :: reader.run 2 isOctal
        let after ← reader.skip (digits.length - 1)
        if 255 < valueIn 8 digits then
          failAt (.octalRange (String.ofList ('\\' :: digits)))
            (reader.offset - 2)
        else return (.single (Char.ofNat (valueIn 8 digits)), after)
      else do
        let value ← reader.selfEscape character
        return (.single value, reader)

def setMember (reader : PatternReader) (mark : PatternMark) :
    Except PatternError (SetItem × PatternReader) :=
  match mark with
  | .plain character => return (.single character, reader)
  | .escaped character => reader.setEscape character
  | .dangling => failAt .danglingEscape reader.offset

/-- Reads the members of a set up to its closing bracket. The set was opened at
`opening`; every round passes at least one mark, so the number of marks left is
fuel enough. -/
def setMembers (opening : Nat) :
    Nat → List SetItem → PatternReader →
      Except PatternError (List SetItem × PatternReader)
  | 0, _, _ => failAt .unterminatedSet opening
  | fuel + 1, items, reader =>
      match reader.next? with
      | none => failAt .unterminatedSet opening
      | some mark => do
          let behind ← reader.skip 1
          if mark = .plain ']' && !items.isEmpty then
            return (items.reverse, behind)
          else
            let (first, after) ← behind.setMember mark
            if !after.standsAt '-' then setMembers opening fuel (first :: items) after
            else
              let beyond ← after.skip 1
              match beyond.next? with
              | none => failAt .unterminatedSet opening
              | some (.plain ']') => do
                  let closed ← beyond.skip 1
                  return ((.single '-' :: first :: items).reverse, closed)
              | some upper => do
                  let behindUpper ← beyond.skip 1
                  let (last, rest) ← behindUpper.setMember upper
                  let refusal : Except PatternError (List SetItem × PatternReader) :=
                    failAt (.badRange (mark.text ++ "-" ++ upper.text))
                      (rest.offset - (mark.width + 1 + upper.width))
                  match first, last with
                  | .single low, .single high =>
                      if high < low then refusal
                      else setMembers opening fuel (.range low high :: items) rest
                  | _, _ => refusal

def set (reader : PatternReader) :
    Except PatternError (Pattern × PatternReader) := do
  let opening := reader.offset - 1
  let negated := reader.standsAt '^'
  let inside ← if negated then reader.skip 1 else .ok reader
  let (items, after) ←
    setMembers opening (inside.marks.length + 1) [] inside
  return (.set negated items, after)

/-- A group that is still open, with what was read before it. -/
structure OpenGroup where
  opening : Nat
  number : Option Nat
  branches : List Pattern
  items : List Pattern

/-- Branches and items are kept in reverse. -/
structure PatternState where
  pending : List OpenGroup := []
  branches : List Pattern := []
  items : List Pattern := []
  /-- How many groups capture. -/
  groups : Nat := 0

namespace PatternState

def add (state : PatternState) (item : Pattern) : PatternState :=
  { state with items := item :: state.items }

def sequenceOf : List Pattern → Pattern
  | [] => .empty
  | [item] => item
  | item :: rest => .sequence item (sequenceOf rest)

def alternativeOf : List Pattern → Pattern
  | [] => .empty
  | [branch] => branch
  | branch :: rest => .alternative branch (alternativeOf rest)

def branch (state : PatternState) : Pattern :=
  sequenceOf state.items.reverse

def body (state : PatternState) : Pattern :=
  alternativeOf (state.branch :: state.branches).reverse

def isOpen (state : PatternState) (number : Nat) : Bool :=
  state.pending.any fun group => group.number == some number

end PatternState

def escape (reader : PatternReader) (state : PatternState) (character : Char) :
    Except PatternError (Pattern × PatternReader) :=
  match anchorEscape? character, classEscape? character,
      controlEscape? character, hexadecimalWidth? character with
  | some anchor, _, _, _ => return (.anchor anchor, reader)
  | _, some item, _, _ => return (.set false [item], reader)
  | _, _, some control, _ => return (.literal control, reader)
  | _, _, _, some width => do
      let (value, after) ← reader.hexadecimal character width
      return (.literal value, after)
  | none, none, none, none =>
      if character = '0' then do
        let digits := reader.run 2 isOctal
        let after ← reader.skip digits.length
        return (.literal (Char.ofNat (valueIn 8 digits)), after)
      else if character.isDigit then do
        let second := reader.run 1 Char.isDigit
        let afterSecond ← reader.skip second.length
        let third := afterSecond.run 1 isOctal
        let octal := character :: second ++ third
        if octal.length = 3 && octal.all isOctal then
          let after ← afterSecond.skip 1
          if 255 < valueIn 8 octal then
            failAt (.octalRange (String.ofList ('\\' :: octal)))
              (reader.offset - 2)
          else return (.literal (Char.ofNat (valueIn 8 octal)), after)
        else
          let number := valueIn 10 (character :: second)
          if state.groups < number then
            failAt (.invalidReference number) (reader.offset - 1)
          else if state.isOpen number then
            failAt .openReference (reader.offset - 2)
          else return (.reference number, afterSecond)
      else do
        let value ← reader.selfEscape character
        return (.literal value, reader)

/-- Repetition numbers have to stay below this bound. -/
def repetitionBound : Nat := 4294967295

/-- The bounds in braces, and the reader behind them; nothing if the brace
stands for itself. -/
def braces (reader : PatternReader) :
    Except PatternError (Option (Nat × Option Nat × PatternReader)) :=
  if reader.standsAt '}' then return none
  else do
    let low := reader.run reader.marks.length Char.isDigit
    let afterLow ← reader.skip low.length
    let ranged := afterLow.standsAt ','
    let afterComma ← if ranged then afterLow.skip 1 else .ok afterLow
    let high :=
      if ranged then afterComma.run afterComma.marks.length Char.isDigit else low
    let afterHigh ← if ranged then afterComma.skip high.length else .ok afterComma
    if !afterHigh.standsAt '}' then return none
    else
      let after ← afterHigh.skip 1
      let least := valueIn 10 low
      let most := if high.isEmpty then none else some (valueIn 10 high)
      if repetitionBound ≤ least || most.any (repetitionBound ≤ ·) then
        .error .repetitionTooLarge
      else if most.any (· < least) then failAt .repeatBounds reader.offset
      else return some (least, most, after)

/-- Repeats the item read last; the quantifier stands at `position` and the
reader behind it. -/
def quantify (reader : PatternReader) (state : PatternState) (position least : Nat)
    (most : Option Nat) : Except PatternError (PatternState × PatternReader) :=
  match state.items with
  | [] => failAt .nothingToRepeat position
  | .anchor _ :: _ => failAt .nothingToRepeat position
  | .repeated .. :: _ => failAt .multipleRepeat position
  | item :: before => do
      let (appetite, after) ←
        if reader.standsAt '?' then
          (Appetite.lazy, ·) <$> reader.skip 1
        else if reader.standsAt '+' then
          (Appetite.possessive, ·) <$> reader.skip 1
        else .ok (Appetite.greedy, reader)
      return ({ state with items := .repeated item least most appetite :: before },
        after)

def openGroup (reader : PatternReader) (state : PatternState) :
    Except PatternError (PatternState × PatternReader) := do
  let opening := reader.offset - 1
  let entered := fun (number : Option Nat) (groups : Nat) =>
    ({ pending :=
          { opening, number, branches := state.branches, items := state.items } ::
            state.pending
       branches := []
       items := []
       groups } : PatternState)
  if reader.standsAt '?' then
    let behind ← reader.skip 1
    match behind.next? with
    | none => failAt .unexpectedEnd behind.offset
    | some mark => do
        let inside ← behind.skip 1
        if mark = .plain ':' then return (entered none state.groups, inside)
        else
          failAt (.unknownExtension ("?" ++ mark.text))
            (inside.offset - mark.width - 1)
  else return (entered (some (state.groups + 1)) (state.groups + 1), reader)

def closeGroup (reader : PatternReader) (state : PatternState) :
    Except PatternError (PatternState × PatternReader) :=
  match state.pending with
  | [] => failAt .unbalancedParenthesis reader.offset
  | group :: outer => do
      let behind ← reader.skip 1
      return ({ pending := outer
                branches := group.branches
                items := .group group.number state.body :: group.items
                groups := state.groups }, behind)

def item (reader : PatternReader) (state : PatternState) (mark : PatternMark) :
    Except PatternError (PatternState × PatternReader) :=
  if mark = .plain ')' then reader.closeGroup state
  else do
    let position := reader.offset
    let behind ← reader.skip 1
    match mark with
    | .dangling => failAt .danglingEscape position
    | .escaped character => do
        let (pattern, after) ← behind.escape state character
        return (state.add pattern, after)
    | .plain '|' =>
        return ({ state with branches := state.branch :: state.branches, items := [] },
          behind)
    | .plain '[' => do
        let (pattern, after) ← behind.set
        return (state.add pattern, after)
    | .plain '*' => behind.quantify state position 0 none
    | .plain '+' => behind.quantify state position 1 none
    | .plain '?' => behind.quantify state position 0 (some 1)
    | .plain '{' => do
        let bounds ← behind.braces
        match bounds with
        | none => return (state.add (.literal '{'), behind)
        | some (least, most, after) => after.quantify state position least most
    | .plain '.' => return (state.add .any, behind)
    | .plain '(' => behind.openGroup state
    | .plain '^' => return (state.add (.anchor .textStart), behind)
    | .plain '$' => return (state.add (.anchor .lineEnd), behind)
    | .plain character => return (state.add (.literal character), behind)

/-- Reads items to the end. Every round passes at least one mark, so the number
of marks is fuel enough. -/
def items : Nat → PatternState → PatternReader → Except PatternError PatternState
  | 0, state, _ => .ok state
  | fuel + 1, state, reader =>
      match reader.next? with
      | none => .ok state
      | some mark => do
          let (after, rest) ← reader.item state mark
          items fuel after rest

end PatternReader

structure CompiledPattern where
  pattern : Pattern
  groups : Nat

def readPattern (text : String) : Except PatternError CompiledPattern := do
  let marks := PatternMark.ofText text.toList
  let reader ← PatternReader.checked { marks }
  let state ← PatternReader.items marks.length {} reader
  match state.pending with
  | [] => return ⟨state.body, state.groups⟩
  | group :: _ => .error (.flawed .missingParenthesis group.opening)

end Lisplet
