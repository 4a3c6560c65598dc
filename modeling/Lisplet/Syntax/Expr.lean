import Lisplet.Syntax.Datum

/-!
# Expressions

The expression tree of a program. Code is data: quotation hands a tree back to
the program, so a tree has a text, can be inspected, and can be compared. Source
locations take no part in comparison.
-/

namespace Lisplet

structure Location where
  line : Nat
  column : Nat
  deriving DecidableEq

inductive Expr where
  | literal (location : Option Location) (value : Datum)
  | reference (location : Option Location) (name : String)
  | apply (location : Option Location) (callee : Expr) (arguments : List Expr)
  | branch (location : Option Location) (test consequent alternate : Expr)
  | define (location : Option Location) (name : String) (value : Expr)
  | procedure (location : Option Location) (name : String)
      (parameters : List String) (body : List Expr)
  | lambda (location : Option Location) (parameters : List String)
      (body : List Expr)
  | quote (location : Option Location) (form : Expr)
  /-- A value standing where an expression belongs. It can be quoted, but not
  evaluated. -/
  | plain (value : Datum)

namespace Expr

def location : Expr → Option Location
  | .literal location _ => location
  | .reference location _ => location
  | .apply location _ _ => location
  | .branch location _ _ _ => location
  | .define location _ _ => location
  | .procedure location _ _ _ => location
  | .lambda location _ _ => location
  | .quote location _ => location
  | .plain _ => none

def parameterText (parameters : List String) : String :=
  "[" ++ Text.joined " " parameters ++ "]"

mutual

def describeWithin (room : Nat) : Expr → Except Unwritable String
  | .literal _ value => value.describeWithin room
  | .reference _ name => return name
  | .apply _ callee arguments =>
      deeper room (throw .tooDeep) fun room => do
        let calleeText ← callee.describeWithin room
        let argumentText ← describeBodyWithin room arguments
        return "(" ++ calleeText ++ argumentText ++ ")"
  | .branch _ test consequent alternate =>
      deeper room (throw .tooDeep) fun room => do
        let testText ← test.describeWithin room
        let consequentText ← consequent.describeWithin room
        let alternateText ← alternate.describeWithin room
        return "(if " ++ testText ++ " " ++ consequentText ++ " " ++
          alternateText ++ ")"
  | .define _ name value =>
      deeper room (throw .tooDeep) fun room => do
        let valueText ← value.describeWithin room
        return "(define " ++ name ++ " " ++ valueText ++ ")"
  | .procedure _ name parameters body =>
      deeper room (throw .tooDeep) fun room => do
        let bodyText ← describeBodyWithin room body
        return "(define " ++ name ++ " " ++ parameterText parameters ++
          bodyText ++ ")"
  | .lambda _ parameters body =>
      deeper room (throw .tooDeep) fun room => do
        let bodyText ← describeBodyWithin room body
        return "(lambda " ++ parameterText parameters ++ bodyText ++ ")"
  | .quote _ form =>
      deeper room (throw .tooDeep) fun room => do
        let formText ← form.describeWithin room
        return "(quote " ++ formText ++ ")"
  | .plain value => value.describeWithin room

def describeBodyWithin (room : Nat) : List Expr → Except Unwritable String
  | [] => return ""
  | expression :: rest => do
      let text ← expression.describeWithin room
      let others ← describeBodyWithin room rest
      return " " ++ text ++ others

end

def describe (expression : Expr) : Except Unwritable String :=
  expression.describeWithin nestingLimit

def locationText (location : Option Location) : String :=
  match location with
  | some place =>
      "line=" ++ toString place.line ++ ", column=" ++ toString place.column
  | none => "line=None, column=None"

def namesText (names : List String) : String :=
  tupleText (names.map Text.quoted)

mutual

def inspect : Expr → Except Unwritable String
  | .literal location value => do
      let valueText ← value.inspect
      return "PLispLiteral(" ++ locationText location ++ ", value=" ++
        valueText ++ ")"
  | .reference _ name => return "PLispNameRef(" ++ Text.quoted name ++ ")"
  | .apply location callee arguments => do
      let calleeText ← callee.inspect
      let argumentTexts ← inspectAll arguments
      return "PLispApply(" ++ locationText location ++ ", callee=" ++
        calleeText ++ ", arguments=" ++ tupleText argumentTexts ++ ")"
  | .branch location test consequent alternate => do
      let testText ← test.inspect
      let consequentText ← consequent.inspect
      let alternateText ← alternate.inspect
      return "PLispIf(" ++ locationText location ++ ", test=" ++ testText ++
        ", consequent=" ++ consequentText ++ ", alternate=" ++ alternateText ++
        ")"
  | .define location name value => do
      let valueText ← value.inspect
      return "PLispDefineBinding(" ++ locationText location ++ ", name=" ++
        Text.quoted name ++ ", value=" ++ valueText ++ ")"
  | .procedure location name parameters body => do
      let bodyTexts ← inspectAll body
      return "PLispDefineProcedure(" ++ locationText location ++ ", name=" ++
        Text.quoted name ++ ", parameters=" ++ namesText parameters ++
        ", body=" ++ tupleText bodyTexts ++ ")"
  | .lambda location parameters body => do
      let bodyTexts ← inspectAll body
      return "PLispLambda(" ++ locationText location ++ ", parameters=" ++
        namesText parameters ++ ", body=" ++ tupleText bodyTexts ++ ")"
  | .quote location form => do
      let formText ← form.inspect
      return "PLispQuote(" ++ locationText location ++ ", form=" ++ formText ++
        ")"
  | .plain value => value.inspect

def inspectAll : List Expr → Except Unwritable (List String)
  | [] => return []
  | expression :: rest => do
      let text ← expression.inspect
      let texts ← inspectAll rest
      return text :: texts

end

mutual

/-- Equal trees, wherever they stand in a source. -/
def sameWithin (room : Nat) : Expr → Expr → Option Bool
  | .literal _ left, .literal _ right => left.sameWithin room right
  | .reference _ left, .reference _ right => some (left == right)
  | .apply _ callee₁ arguments₁, .apply _ callee₂ arguments₂ =>
      deeper room none fun room =>
        thenSame (callee₁.sameWithin room callee₂)
          (sameAllWithin room arguments₁ arguments₂)
  | .branch _ test₁ consequent₁ alternate₁, .branch _ test₂ consequent₂ alternate₂ =>
      deeper room none fun room =>
        thenSame (test₁.sameWithin room test₂)
          (thenSame (consequent₁.sameWithin room consequent₂)
            (alternate₁.sameWithin room alternate₂))
  | .define _ name₁ value₁, .define _ name₂ value₂ =>
      deeper room none fun room =>
        thenSame (some (name₁ == name₂)) (value₁.sameWithin room value₂)
  | .procedure _ name₁ parameters₁ body₁, .procedure _ name₂ parameters₂ body₂ =>
      deeper room none fun room =>
        thenSame (some (name₁ == name₂ && parameters₁ == parameters₂))
          (sameAllWithin room body₁ body₂)
  | .lambda _ parameters₁ body₁, .lambda _ parameters₂ body₂ =>
      deeper room none fun room =>
        thenSame (some (parameters₁ == parameters₂)) (sameAllWithin room body₁ body₂)
  | .quote _ left, .quote _ right =>
      deeper room none fun room => left.sameWithin room right
  | .plain left, .plain right => left.sameWithin room right
  | _, _ => some false

def sameAllWithin (room : Nat) : List Expr → List Expr → Option Bool
  | [], [] => some true
  | left :: lefts, right :: rights =>
      thenSame (left.sameWithin room right) (sameAllWithin room lefts rights)
  | _, _ => some false

end

end Expr

end Lisplet
