import Lisplet.Config.Calendar
import Lisplet.Syntax.Datum

/-!
# Settings

The values that a configuration can hold before they are checked.
-/

namespace Lisplet

open Config (Date Moment)

inductive Setting where
  | null
  | boolean (value : Bool)
  | integer (value : Int)
  | float (value : Double)
  | text (value : String)
  | date (value : Date)
  | moment (value : Moment)
  | list (items : List Setting)
  | mapping (entries : List (Setting × Setting))

namespace Setting

def kind : Setting → String
  | .null => "NoneType"
  | .boolean _ => "bool"
  | .integer _ => "int"
  | .float _ => "float"
  | .text _ => "str"
  | .date _ => "datetime.date"
  | .moment _ => "datetime.datetime"
  | .list _ => "list"
  | .mapping _ => "dict"

mutual

/-- A setting as messages show it, unless an integer in it is too long. -/
def shown : Setting → Except Unwritable String
  | .null => return "None"
  | .boolean value => return if value then "True" else "False"
  | .integer value =>
      match Number.integerText? value with
      | some digits => return digits
      | none => throw .tooManyDigits
  | .float value => return value.text
  | .text value => return Text.quoted value
  | .date value => return value.shown
  | .moment value => return value.shown
  | .list items => do
      let texts ← shownAll items
      return "[" ++ Text.joined ", " texts ++ "]"
  | .mapping entries => do
      let texts ← shownEntries entries
      return "\x7b" ++ Text.joined ", " texts ++ "\x7d"

def shownAll : List Setting → Except Unwritable (List String)
  | [] => return []
  | item :: rest => do
      let text ← item.shown
      let texts ← shownAll rest
      return text :: texts

def shownEntries : List (Setting × Setting) → Except Unwritable (List String)
  | [] => return []
  | (key, value) :: rest => do
      let keyText ← key.shown
      let valueText ← value.shown
      let texts ← shownEntries rest
      return (keyText ++ ": " ++ valueText) :: texts

end

def isText (setting : Setting) (wanted : String) : Bool :=
  match setting with
  | .text value => value == wanted
  | _ => false

def isNull : Setting → Bool
  | .null => true
  | _ => false

/-- The number that a setting is; truth values are one and zero. -/
def number? : Setting → Option Number
  | .boolean value => some (.int value.toInt)
  | .integer value => some (.int value)
  | .float value => some (Number.ofDouble 0 value)
  | _ => none

/-- Whether two settings are one key: numbers by value, others by kind and
content. Collections are no keys. -/
def sameKey (left right : Setting) : Bool :=
  match left, right with
  | .null, .null => true
  | .text first, .text second => first == second
  | .date first, .date second => first == second
  | .moment first, .moment second => first == second
  | _, _ =>
      match left.number?, right.number? with
      | some first, some second => first.same second
      | _, _ => false

end Setting

/-- Entries of a mapping, one for each key, in the order of their first
appearance. -/
abbrev Settings := List (Setting × Setting)

namespace Settings

/-- A repeated key takes the last value. -/
def put (key value : Setting) : Settings → Settings
  | [] => [(key, value)]
  | entry :: rest =>
      if entry.1.sameKey key then (entry.1, value) :: rest
      else entry :: put key value rest

def get? (settings : Settings) (name : String) : Option Setting :=
  (settings.find? fun entry => entry.1.isText name).map Prod.snd

end Settings

end Lisplet
