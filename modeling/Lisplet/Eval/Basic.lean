import Lisplet.Native.Invoke

/-!
# Evaluation

Expressions are evaluated by recursion on their tree; procedures are applied by
an applier that is given from outside. The applier itself goes down through a
limit on nested applications, and fails when the limit is used up. Every
recursion is therefore on the expression or on the limit.
-/

namespace Lisplet

def lambdaName : String := "lambda"

/-- The value of a quoted form: a literal stands for its value, as does a value
in the place of an expression; any other form stands for itself. -/
def quotedValue : Expr → Value
  | .literal _ value => Value.ofDatum value
  | .plain value => Value.ofDatum value
  | form => .form form

def loadBinding (scope : ScopeId) (name : String) : EvalM Value := do
  let machine ← get
  match machine.scopes.lookup? scope name with
  | some value => return value
  | none => throw (.unbound name scope)

mutual

def Expr.eval (tracing : Bool) (apply : Applier) (scope : ScopeId)
    (expression : Expr) : EvalM Value := do
  EvalM.announce tracing fun machine =>
    .visit expression (machine.scopes.location scope)
  match expression with
  | .literal _ value => return Value.ofDatum value
  | .reference _ name => do
      EvalM.announce tracing fun _ => .load name
      loadBinding scope name
  | .apply _ callee arguments => do
      EvalM.announce tracing fun _ => .apply callee
      let procedure ← callee.eval tracing apply scope
      let values ← evalEach tracing apply scope arguments
      apply procedure values scope
  | .branch _ test consequent alternate => do
      let verdict ← test.eval tracing apply scope
      if verdict.isTruthy then do
        EvalM.announce tracing fun _ => .consequent
        consequent.eval tracing apply scope
      else do
        EvalM.announce tracing fun _ => .alternate
        alternate.eval tracing apply scope
  | .define _ name value => do
      EvalM.announce tracing fun _ => .define name
      let result ← value.eval tracing apply scope
      EvalM.announce tracing fun _ => .bound name result
      EvalM.define scope name result
      return result
  | .procedure _ name parameters body => do
      EvalM.announce tracing fun _ => .defineProcedure name parameters
      let closure : Value := .closure ⟨scope, name, parameters, body⟩
      EvalM.define scope name closure
      return closure
  | .lambda _ parameters body => do
      EvalM.announce tracing fun machine =>
        .makeClosure (machine.scopes.location scope)
      return .closure ⟨scope, lambdaName, parameters, body⟩
  | .quote _ form => do
      EvalM.announce tracing fun _ => .quote form
      return quotedValue form
  | .plain value => EvalM.fault (.notExpression value.label)

def evalEach (tracing : Bool) (apply : Applier) (scope : ScopeId) :
    List Expr → EvalM (List Value)
  | [] => return []
  | expression :: rest => do
      let value ← expression.eval tracing apply scope
      let values ← evalEach tracing apply scope rest
      return value :: values

end

/-- The value of the last of several expressions, `result` if there is none. -/
def evalSequence (tracing : Bool) (apply : Applier) (scope : ScopeId) :
    Value → List Expr → EvalM Value
  | result, [] => return result
  | _, expression :: rest => do
      let value ← expression.eval tracing apply scope
      evalSequence tracing apply scope value rest

/-- Calls a procedure in a new scope inside the one it was made in. A wrong
number of arguments is the caller's failure. -/
def callClosure (tracing : Bool) (apply : Applier) (closure : Closure)
    (arguments : List Value) (site : ScopeId) : EvalM Value := do
  EvalM.announce tracing fun _ => .call closure
  if arguments.length ≠ closure.arity then
    throw (.arityMismatch closure arguments.length site)
  else do
    let scope ←
      EvalM.makeScope closure.scope closure.name (closure.parameters.zip arguments)
    EvalM.insideCall (evalSequence tracing apply scope .nil closure.body)

/-- Applies a procedure on behalf of the innermost native function in
progress. -/
def callBack (apply : Applier) : Caller := fun procedure arguments => do
  let machine ← get
  match machine.sites with
  | [] => EvalM.fault .noNativeRunning
  | site :: _ => apply procedure arguments site

/-- A fault of the host inside a native function becomes that function's
failure; any other failure passes through. -/
def blameNative (site : ScopeId) : Failure → Failure
  | .host cause => .native cause site
  | failure => failure

def callNative (tracing : Bool) (apply : Applier) (function : Native)
    (arguments : List Value) (site : ScopeId) : EvalM Value := do
  EvalM.announce tracing fun _ => .native function arguments
  let reply ←
    EvalM.insideNative site (Prelude.invoke (callBack apply) function arguments)
      |>.adaptExcept (blameNative site)
  match reply with
  | .value value => return value
  | .foreign kind => throw (.native (.foreignReply function kind) site)

def applyWith (tracing : Bool) (apply : Applier) : Applier :=
  fun callee arguments site =>
    match callee with
    | .closure closure => callClosure tracing apply closure arguments site
    | .native function => callNative tracing apply function arguments site
    | other => do
        let described ← EvalM.ofText other.describe
        throw (.native (.notProcedure described) site)

/-- Applies a value to arguments with at most `limit` applications nested in
each other. -/
def applyWithin (tracing : Bool) : Nat → Applier
  | 0 => fun _ _ _ => EvalM.fault .recursionTooDeep
  | limit + 1 => applyWith tracing (applyWithin tracing limit)

end Lisplet
