import Lisplet.Value.Basic

/-!
# Trace messages

Each step of an evaluation can be announced. A message shows how many procedure
calls are in progress by its indentation.
-/

namespace Lisplet

inductive TraceStep where
  | visit (expression : Expr) (location : String)
  | load (name : String)
  | apply (callee : Expr)
  | define (name : String)
  | bound (name : String) (value : Value)
  | defineProcedure (name : String) (parameters : List String)
  | makeClosure (location : String)
  | quote (form : Expr)
  | consequent
  | alternate
  | call (closure : Closure)
  | native (function : Native) (arguments : List Value)

/-- The text of a step; it fails where a value in it has no text. -/
def TraceStep.render : TraceStep → Except Unwritable String
  | .visit expression location => do
      let text ← expression.describe
      return text ++ " in " ++ location
  | .load name => return "loading binding " ++ name
  | .apply callee => do
      let text ← callee.describe
      return "applying " ++ text
  | .define name => return "define " ++ name
  | .bound name value => do
      let text ← value.describe
      return name ++ " = " ++ text
  | .defineProcedure name parameters =>
      return "define procedure " ++ name ++ " " ++ Expr.parameterText parameters
  | .makeClosure location => return "creating a closure in " ++ location
  | .quote form => do
      let text ← form.describe
      return "quote of " ++ text
  | .consequent => return "evaluating consequent"
  | .alternate => return "evaluating alternate"
  | .call closure => return "procedure " ++ closure.describe
  | .native function arguments => do
      let text ← (Value.list arguments).describe
      return "native " ++ function.name ++ " on " ++ text

/-- A step that was announced, with the number of calls then in progress. -/
structure TraceEntry where
  depth : Nat
  step : TraceStep
  text : String

def traceMark : String := "[TRACE]"

def indentation (depth : Nat) : String :=
  String.ofList (List.replicate (2 * depth) ' ')

def TraceEntry.message (entry : TraceEntry) : String :=
  traceMark ++ " " ++ indentation entry.depth ++ entry.text

def streamLine (message : String) : String :=
  message ++ "\n"

/-- What an evaluation shows to the outside, apart from files. -/
inductive Event where
  | display (text : String)
  | trace (entry : TraceEntry)

end Lisplet
