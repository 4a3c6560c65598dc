import Lisplet.Native.Basic
import Lisplet.Syntax.Expr

/-!
# Values

What evaluation produces: atoms, lists, procedures, native functions, and quoted
forms. A procedure refers to the scope it was made in by number; everything else
is plain data.
-/

namespace Lisplet

/-- Scopes are numbered in the order they are made. -/
abbrev ScopeId := Nat

/-- A procedure, and the scope that was active where it was made. -/
structure Closure where
  scope : ScopeId
  name : String
  parameters : List String
  body : List Expr

inductive Value where
  | atom (value : Atom)
  | list (items : List Value)
  | closure (procedure : Closure)
  | native (function : Native)
  | form (expression : Expr)

def Closure.arity (closure : Closure) : Nat :=
  closure.parameters.length

def Closure.describe (closure : Closure) : String :=
  "#(" ++ Text.joined " " (closure.name :: closure.parameters) ++ ")"

/-- The same procedure: one scope, and equal name, parameters and body. -/
def Closure.sameWithin (room : Nat) (left right : Closure) : Option Bool :=
  deeper room none fun room =>
    thenSame
      (some (left.scope == right.scope && left.name == right.name &&
        left.parameters == right.parameters))
      (Expr.sameAllWithin room left.body right.body)

def Native.describe (function : Native) : String :=
  "#<native " ++ function.name ++ ">"

namespace Value

@[match_pattern] abbrev number (value : Number) : Value := .atom (.number value)

@[match_pattern] abbrev string (text : String) : Value := .atom (.string text)

@[match_pattern] abbrev unmatched : Value := .atom .unmatched

@[match_pattern] abbrev boolean (value : Bool) : Value := .atom (.boolean value)

@[match_pattern] abbrev nil : Value := .atom .nil

mutual

def ofDatum : Datum → Value
  | .atom value => .atom value
  | .list items => .list (ofData items)

def ofData : List Datum → List Value
  | [] => []
  | item :: rest => ofDatum item :: ofData rest

end

def kind : Value → String
  | .atom value => value.kind
  | .list _ => "list"
  | .closure _ => "procedure"
  | .native _ => "native-function"
  | .form _ => "form"

mutual

def describeWithin (room : Nat) : Value → Except Unwritable String
  | .atom value => value.describe
  | .list items =>
      deeper room (throw .tooDeep) fun room => do
        let texts ← describeAllWithin room items
        return "(" ++ Text.joined " " texts ++ ")"
  | .closure procedure => return procedure.describe
  | .native function => return function.describe
  | .form expression => expression.describeWithin room

def describeAllWithin (room : Nat) : List Value → Except Unwritable (List String)
  | [] => return []
  | item :: rest => do
      let text ← item.describeWithin room
      let texts ← describeAllWithin room rest
      return text :: texts

end

def describe (value : Value) : Except Unwritable String :=
  value.describeWithin nestingLimit

mutual

def inspect : Value → Except Unwritable String
  | .atom value => value.inspect
  | .list items => do
      let texts ← inspectAll items
      return "PLispList(elements=" ++ tupleText texts ++ ")"
  | .closure procedure => return "PLispClosure(" ++ procedure.describe ++ ")"
  | .native function =>
      return "PLispNativeFunction(" ++ Text.quoted function.name ++ ")"
  | .form expression => expression.inspect

def inspectAll : List Value → Except Unwritable (List String)
  | [] => return []
  | item :: rest => do
      let text ← item.inspect
      let texts ← inspectAll rest
      return text :: texts

end

mutual

/-- Values are the same when they have one kind and equal content; procedures
also need one scope. A value is compared with itself like any other. -/
def sameWithin (room : Nat) : Value → Value → Option Bool
  | .atom left, .atom right => some (left.same right)
  | .list left, .list right =>
      deeper room none fun room => sameAllWithin room left right
  | .closure left, .closure right => left.sameWithin room right
  | .native left, .native right => some (left == right)
  | .form left, .form right => left.sameWithin room right
  | _, _ => some false

def sameAllWithin (room : Nat) : List Value → List Value → Option Bool
  | [], [] => some true
  | left :: lefts, right :: rights =>
      thenSame (left.sameWithin room right) (sameAllWithin room lefts rights)
  | _, _ => some false

end

/-- Only the boolean false is false. -/
def isTruthy : Value → Bool
  | .boolean false => false
  | _ => true

/-- The text that `display` shows: a string as it is, anything else described.
A string without text has none. -/
def displayText : Value → Except Unwritable (Option String)
  | .string text => return some text
  | .unmatched => return none
  | value => some <$> value.describe

def displayTexts : List Value → Except Unwritable (List (Option String))
  | [] => return []
  | value :: rest => do
      let text ← value.displayText
      let texts ← displayTexts rest
      return text :: texts

end Value

end Lisplet
