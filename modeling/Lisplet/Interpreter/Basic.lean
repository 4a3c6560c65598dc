import Lisplet.Eval.Basic
import Lisplet.Interpreter.Report
import Lisplet.Machine.Watcher
import Lisplet.Syntax.Parser

/-!
# The interpreter

One interpreter owns one machine with one global scope, so a program sees what
the programs before it defined. What an evaluation shows is handed to those who
asked for it when the evaluation is over.
-/

namespace Lisplet

inductive RunError where
  | scan (source : String) (error : ScanError)
  | parse (source : String) (error : ParseError)
  | failed (failure : Failure)

/-- Applications may nest this deep. -/
def recursionLimit : Nat := 20000

def globalScope : ScopeId := 0

structure Interpreter where
  options : Options := {}
  machine : Machine := {}
  watcher : Watcher := .output
  /-- Whether `display` writes to standard output or to a page of its own. -/
  displayOnOutput : Bool := false

/-- Text that was written: by `display` to its page, to standard output, and by
a stream of trace messages. -/
structure Transcript where
  page : String := ""
  output : String := ""
  stream : String := ""

def parseSource (source : String) : Except RunError (List Expr) :=
  match parse source with
  | .ok program => .ok program
  | .error (.scan (.tooManyDigits count)) =>
      .error (.failed (.host (.integerTooLong count)))
  | .error (.scan error) => .error (.scan source error)
  | .error (.parse (.refused error)) => .error (.parse source error)
  | .error (.parse .tooDeep) => .error (.failed (.host .recursionTooDeep))

namespace Machine

def start (functions : List Native) (files : FileSystem) : Machine where
  scopes := Scopes.make {} none globalLocation
    (functions.map fun function => (function.name, .native function))
  files := files

end Machine

namespace Interpreter

def start (options : Options) (watcher : Watcher) (files : FileSystem) :
    Interpreter where
  options := options
  machine := Machine.start Native.standard files
  watcher := watcher

def install (interpreter : Interpreter) (functions : List Native) : Interpreter :=
  { interpreter with
    machine := { interpreter.machine with
      scopes := interpreter.machine.scopes.defineAll globalScope
        (functions.map fun function => (function.name, .native function)) } }

def perform {α : Type} (interpreter : Interpreter) (action : EvalM α) :
    Except RunError α × Interpreter :=
  match action interpreter.machine with
  | .ok value machine => (.ok value, { interpreter with machine })
  | .error failure machine =>
      (.error (.failed (failure.counted interpreter.options)), { interpreter with machine })

def applier (interpreter : Interpreter) : Applier :=
  applyWithin interpreter.options.traceExecution recursionLimit

def evaluate (interpreter : Interpreter) (scope : ScopeId) (program : List Expr) :
    Except RunError Value × Interpreter :=
  interpreter.perform
    (evalSequence interpreter.options.traceExecution interpreter.applier scope .nil
      program)

def evaluateTree (interpreter : Interpreter) (expression : Expr) :
    Except RunError Value × Interpreter :=
  interpreter.perform
    (expression.eval interpreter.options.traceExecution interpreter.applier
      globalScope)

def runIn (interpreter : Interpreter) (scope : ScopeId) (source : String) :
    Except RunError Value × Interpreter :=
  match parseSource source with
  | .error error => (.error error, interpreter)
  | .ok program => interpreter.evaluate scope program

def run (interpreter : Interpreter) (source : String) :
    Except RunError Value × Interpreter :=
  interpreter.runIn globalScope source

def runFile (interpreter : Interpreter) (path : String) :
    Except RunError Value × Interpreter :=
  match interpreter.machine.files.readText path with
  | .error fault => (.error (.failed (.host fault)), interpreter)
  | .ok source => interpreter.run source

def apply (interpreter : Interpreter) (callee : Value) (arguments : List Value) :
    Except RunError Value × Interpreter :=
  interpreter.perform (interpreter.applier callee arguments globalScope)

/-- Applies a value the way native functions do, which needs one in progress. -/
def applyFromNative (interpreter : Interpreter) (callee : Value)
    (arguments : List Value) : Except RunError Value × Interpreter :=
  interpreter.perform (callBack interpreter.applier callee arguments)

def define (interpreter : Interpreter) (name : String) (value : Value) :
    Interpreter :=
  { interpreter with
    machine := { interpreter.machine with
      scopes := interpreter.machine.scopes.define globalScope name value } }

def lookup? (interpreter : Interpreter) (name : String) : Option Value :=
  interpreter.machine.scopes.lookup? globalScope name

/-- Names bound in the global scope by programs, in order of first binding. -/
def ownNames (interpreter : Interpreter) (functions : List Native) : List String :=
  match interpreter.machine.scopes.get? globalScope with
  | none => []
  | some scope =>
      scope.bindings.names.filter fun name =>
        !(functions.any fun function => function.name == name)

def traceEntry? : Event → Option TraceEntry
  | .display _ => none
  | .trace entry => some entry

/-- Writes one event where it is to be read; a buffer takes its entries
itself. -/
def write (displayOnOutput : Bool) (watcher : Watcher) (transcript : Transcript) :
    Event → Transcript
  | .display text =>
      if displayOnOutput then { transcript with output := transcript.output ++ text }
      else { transcript with page := transcript.page ++ text }
  | .trace entry =>
      match watcher with
      | .output =>
          { transcript with output := transcript.output ++ streamLine entry.message }
      | .stream =>
          { transcript with stream := transcript.stream ++ streamLine entry.message }
      | .buffer _ => transcript
      | .file => transcript

def watch (events : Array Event) : Watcher → Watcher
  | .buffer buffer => .buffer (buffer.recordAll (events.toList.filterMap traceEntry?))
  | watcher => watcher

def deliver (interpreter : Interpreter) : Transcript × Interpreter :=
  let events := interpreter.machine.events
  (events.foldl (write interpreter.displayOnOutput interpreter.watcher) {},
    { interpreter with
      watcher := watch events interpreter.watcher
      machine := { interpreter.machine with events := #[] } })

end Interpreter

namespace RunError

def label : RunError → String
  | .scan .. => "PLispTokenError"
  | .parse .. => "PLispParseError"
  | .failed failure => failure.label

def diagnostic? : RunError → Option Diagnostic
  | .scan source error => error.diagnostic? source
  | .parse source error => some (error.diagnostic source)
  | .failed _ => none

def text (error : RunError) (options : Options) (scopes : Scopes) : String :=
  match error with
  | .failed failure => failure.report options scopes
  | _ => (error.diagnostic?.map Diagnostic.text).getD ""

end RunError

end Lisplet
