import Lisplet.Number.Basic
import Lisplet.Text.Quoted

/-!
# Plain data

Atoms are what a program can write directly, together with the text of a pattern
group that took no part in a match. Data are atoms and lists of data.
-/

namespace Lisplet

inductive Atom where
  | number (value : Number)
  | string (text : String)
  /-- A string without text: what a group that took no part in a match captured. -/
  | unmatched
  | boolean (value : Bool)
  | nil
  deriving DecidableEq

inductive Datum where
  | atom (value : Atom)
  | list (items : List Datum)

inductive Unwritable where
  | tooManyDigits
  | noText
  | tooDeep
  deriving DecidableEq

/-- Forms and lists that nest deeper cannot be read, written or compared. The number stands
for the room on the host's stack, which the host does not count in levels. -/
def nestingLimit : Nat := 20000

/-- What is inside is met with one level of nesting less to go; with none left it is
refused. -/
def deeper {Outcome : Type} (room : Nat) (refusal : Outcome) (inside : Nat → Outcome) :
    Outcome :=
  match room with
  | 0 => refusal
  | room + 1 => inside room

/-- A comparison goes on as long as nothing differs. It has no outcome if it goes too
deep. -/
@[macro_inline] def thenSame (verdict rest : Option Bool) : Option Bool :=
  match verdict with
  | some true => rest
  | stopped => stopped

namespace Atom

def escapeCharacter (character : Char) : List Char :=
  if character = '\\' then ['\\', '\\']
  else if character = '"' then ['\\', '"']
  else if character = '\n' then ['\\', 'n']
  else [character]

def stringLiteral (text : String) : String :=
  String.ofList ('"' :: text.toList.flatMap escapeCharacter ++ ['"'])

def describe : Atom → Except Unwritable String
  | .number value =>
      match value.text? with
      | some text => .ok text
      | none => .error .tooManyDigits
  | .string text => .ok (stringLiteral text)
  | .unmatched => .error .noText
  | .boolean value => .ok (if value then "true" else "false")
  | .nil => .ok "nil"

def kind : Atom → String
  | .number _ => "number"
  | .string _ => "string"
  | .unmatched => "string"
  | .boolean _ => "boolean"
  | .nil => "nil"

def label : Atom → String
  | .number _ => "PLispNumber"
  | .string _ => "PLispString"
  | .unmatched => "PLispString"
  | .boolean _ => "PLispBoolean"
  | .nil => "PLispNil"

def inspect (atom : Atom) : Except Unwritable String :=
  match atom with
  | .number value =>
      match value.text? with
      | some text => .ok (atom.label ++ "(value=" ++ text ++ ")")
      | none => .error .tooManyDigits
  | .string text => .ok (atom.label ++ "(value=" ++ Text.quoted text ++ ")")
  | .unmatched => .ok (atom.label ++ "(value=None)")
  | .boolean value =>
      .ok (atom.label ++ "(value=" ++ (if value then "True" else "False") ++ ")")
  | .nil => .ok (atom.label ++ "()")

/-- Atoms are the same when they have one kind and one content. -/
def same : Atom → Atom → Bool
  | .number left, .number right => left.same right
  | .string left, .string right => left == right
  | .unmatched, .unmatched => true
  | .boolean left, .boolean right => left == right
  | .nil, .nil => true
  | _, _ => false

end Atom

/-- Items in parentheses, a single one followed by a comma. -/
def tupleText : List String → String
  | [] => "()"
  | [item] => "(" ++ item ++ ",)"
  | items => "(" ++ Text.joined ", " items ++ ")"

namespace Datum

def number (value : Number) : Datum := .atom (.number value)

def label : Datum → String
  | .atom value => value.label
  | .list _ => "PLispList"

mutual

def describeWithin (room : Nat) : Datum → Except Unwritable String
  | .atom value => value.describe
  | .list items =>
      deeper room (throw .tooDeep) fun room => do
        let texts ← describeAllWithin room items
        return "(" ++ Text.joined " " texts ++ ")"

def describeAllWithin (room : Nat) : List Datum → Except Unwritable (List String)
  | [] => return []
  | item :: rest => do
      let text ← item.describeWithin room
      let texts ← describeAllWithin room rest
      return text :: texts

end

mutual

def inspect : Datum → Except Unwritable String
  | .atom value => value.inspect
  | .list items => do
      let texts ← inspectAll items
      return "PLispList(elements=" ++ tupleText texts ++ ")"

def inspectAll : List Datum → Except Unwritable (List String)
  | [] => return []
  | item :: rest => do
      let text ← item.inspect
      let texts ← inspectAll rest
      return text :: texts

end

mutual

def sameWithin (room : Nat) : Datum → Datum → Option Bool
  | .atom left, .atom right => some (left.same right)
  | .list left, .list right =>
      deeper room none fun room => sameAllWithin room left right
  | _, _ => some false

def sameAllWithin (room : Nat) : List Datum → List Datum → Option Bool
  | [], [] => some true
  | left :: lefts, right :: rights =>
      thenSame (left.sameWithin room right) (sameAllWithin room lefts rights)
  | _, _ => some false

end

end Datum

end Lisplet
