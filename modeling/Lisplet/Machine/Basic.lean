import Lisplet.Machine.Scope
import Lisplet.Machine.Trace
import Lisplet.Machine.TraceFile
import Lisplet.Value.Fault

/-!
# The machine

Everything that evaluation can change: scopes, files, what was shown, the calls
in progress, and the counter that tells results that are no number apart. A
failed evaluation leaves the machine as it was when it failed.
-/

namespace Lisplet

/-- Why an evaluation failed. The first three name the scope that was active. -/
inductive Failure where
  | arityMismatch (closure : Closure) (given : Nat) (scope : ScopeId)
  | unbound (name : String) (scope : ScopeId)
  /-- A native function failed at a call in this scope. -/
  | native (cause : Fault) (scope : ScopeId)
  /-- The host failed outside of any native function. -/
  | host (fault : Fault)

structure Machine where
  scopes : Scopes := {}
  files : FileSystem := {}
  /-- The file that the trace is kept in, if it is. -/
  traceFile : Option TraceFile := none
  events : Array Event := #[]
  /-- Procedure calls in progress. -/
  depth : Nat := 0
  /-- The scopes that native functions in progress were called in, innermost
  first. -/
  sites : List ScopeId := []
  /-- Names the next result that is no number. -/
  serial : Nat := 0
  /-- What the touch probe noted. -/
  notes : Array String := #[]

namespace Machine

/-- The machine once the trace has reached its file as far as it does by
itself. -/
def settled (machine : Machine) : Machine :=
  match machine.traceFile with
  | none => machine
  | some file =>
      let (written, files) := (file.catchUp machine.events).write machine.files
      { machine with traceFile := some written, files }

def closedFiles (machine : Machine) : FileSystem :=
  match machine.traceFile with
  | none => machine.files
  | some file => ((file.catchUp machine.events).drain.write machine.files).2

end Machine

abbrev EvalM := EStateM Failure Machine

/-- Applies a procedure to arguments; the scope is that of the call. -/
abbrev Applier := Value → List Value → ScopeId → EvalM Value

/-- Applies a procedure on behalf of a native function in progress. -/
abbrev Caller := Value → List Value → EvalM Value

namespace EvalM

def fault {α : Type} (cause : Fault) : EvalM α :=
  throw (.host cause)

def ofExcept {α : Type} : Except Fault α → EvalM α
  | .ok value => pure value
  | .error cause => fault cause

def ofText {α : Type} : Except Unwritable α → EvalM α
  | .ok value => pure value
  | .error reason => fault (.unwritable reason)

/-- The machine as one who looks at its files finds it. -/
def settle : EvalM Machine :=
  modifyGet fun machine => (machine.settled, machine.settled)

def emit (event : Event) : EvalM Unit :=
  modify fun machine => { machine with events := machine.events.push event }

def freshSerial : EvalM Nat :=
  modifyGet fun machine =>
    (machine.serial, { machine with serial := machine.serial + 1 })

/-- Runs an action, then undoes what was entered for it, also when it fails. -/
def bracket {α : Type} (enter leave : Machine → Machine) (action : EvalM α) :
    EvalM α := fun machine =>
  match action (enter machine) with
  | .ok value after => .ok value (leave after)
  | .error failure after => .error failure (leave after)

def insideCall {α : Type} (action : EvalM α) : EvalM α :=
  bracket (fun machine => { machine with depth := machine.depth + 1 })
    (fun machine => { machine with depth := machine.depth - 1 }) action

def insideNative {α : Type} (site : ScopeId) (action : EvalM α) : EvalM α :=
  bracket (fun machine => { machine with sites := site :: machine.sites })
    (fun machine => { machine with sites := machine.sites.tail }) action

def announce (tracing : Bool) (step : Machine → TraceStep) : EvalM Unit :=
  if tracing then do
    let machine ← get
    let shown := step machine
    let text ← ofText shown.render
    emit (.trace ⟨machine.depth, shown, text⟩)
  else pure ()

def define (scope : ScopeId) (name : String) (value : Value) : EvalM Unit :=
  modify fun machine =>
    { machine with scopes := machine.scopes.define scope name value }

def makeScope (parent : ScopeId) (location : String)
    (added : List (String × Value)) : EvalM ScopeId :=
  modifyGet fun machine =>
    (machine.scopes.size,
      { machine with scopes := machine.scopes.make (some parent) location added })

end EvalM

end Lisplet
