import Lisplet.Machine.Basic

/-!
# Arguments of native functions

How native functions take their arguments apart, and what they say about
arguments they cannot use.
-/

namespace Lisplet.Prelude

/-- A complaint that shows the offending value. A value that cannot be shown is
complained about for that reason instead. -/
def complain {α : Type} (value : Value) (fault : String → Fault) : Except Fault α :=
  match value.describe with
  | .ok described => .error (fault described)
  | .error reason => .error (.unwritable reason)

def needAtLeast (function : Native) (least : Nat) (arguments : List Value) :
    Except Fault Unit :=
  if arguments.length < least then
    .error (.tooFewArguments function least arguments.length)
  else .ok ()

def refuseCount {α : Type} (function : Native) (allowed : List Nat)
    (arguments : List Value) : Except Fault α :=
  .error (.argumentCount function allowed arguments.length)

def refuseExact {α : Type} (function : Native) (expected : Nat)
    (arguments : List Value) : Except Fault α :=
  .error (.exactCount function expected arguments.length)

/-- All arguments as numbers; the first other value is complained about. -/
def numbers (function : Native) : List Value → Except Fault (List Number)
  | [] => return []
  | .number value :: rest => do
      let others ← numbers function rest
      return value :: others
  | value :: _ => complain value (.notNumber function value.kind)

/-- The text of a string argument; a string without text has none. -/
def text (function : Native) : Value → Except Fault (Option String)
  | .string content => return some content
  | .unmatched => return none
  | value => complain value (.wrongKind function .string value.kind)

def textFor (function : Native) (use : TextUse) (value : Value) :
    Except Fault String := do
  match ← text function value with
  | some content => return content
  | none => throw (.noText use)

def integer (function : Native) : Value → Except Fault Int
  | .number (.int value) => return value
  | value => complain value (.wrongKind function .integer value.kind)

/-- The elements of a list argument; nil is the empty list. -/
def sequence (function : Native) : Value → Except Fault (List Value)
  | .nil => return []
  | .list items => return items
  | value => complain value (.wrongKind function .list value.kind)

def sequences (function : Native) : List Value → Except Fault (List (List Value))
  | [] => return []
  | value :: rest => do
      let items ← sequence function value
      let others ← sequences function rest
      return items :: others

/-- The texts that `display` shows, with a separator between them. An item
without text has to be a string that took no part in a match. -/
def joinTexts (separator : String) : Nat → List (Option String) → Except Fault String
  | _, [] => return ""
  | index, none :: _ => throw (.noText (.joinItem index))
  | _, [some text] => return text
  | index, some text :: rest => do
      let others ← joinTexts separator (index + 1) rest
      return text ++ separator ++ others

def joined (separator : String) (values : List Value) : Except Fault String :=
  match Value.displayTexts values with
  | .ok texts => joinTexts separator 0 texts
  | .error reason => .error (.unwritable reason)

end Lisplet.Prelude
