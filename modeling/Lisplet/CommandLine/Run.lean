import Lisplet.CommandLine.Arguments
import Lisplet.Interpreter.Basic

/-!
# The command line

A command line is run on a tree of files. It ends with an exit code, what it
printed, and the files it leaves behind.
-/

namespace Lisplet.CommandLine

def versionText : String := "Pocket Lisp version 0.1.0"

def usageText : String :=
  "usage: plisp [-h] [--version] [--tokens] [--ast]\n" ++
  "             [--max-native-stack-trace MAX_NATIVE_STACK_TRACE]\n" ++
  "             [--trace-execution | --no-trace-execution]\n" ++
  "             [--trace-file TRACE_FILE] [--config CONFIG] [--verbose]\n" ++
  "             [file]\n"

def helpText : String :=
  usageText ++
  "\n" ++
  "The Pocket Lisp interpreter!\n" ++
  "\n" ++
  "positional arguments:\n" ++
  "  file                  Pocket Lisp program to run\n" ++
  "\n" ++
  "options:\n" ++
  "  -h, --help            show this help message and exit\n" ++
  "  --version             Displays the version and exits\n" ++
  "  --tokens              Displays the tokens for the file and exits\n" ++
  "  --ast                 Displays the AST for the file and exits\n" ++
  "  --max-native-stack-trace MAX_NATIVE_STACK_TRACE\n" ++
  "                        Defines the maximum number of locations to show in a\n" ++
  "                        native stack trace (default: 20)\n" ++
  "  --trace-execution, --no-trace-execution\n" ++
  "                        Prints a trace of the Pocket Lisp interpreter's\n" ++
  "                        execution\n" ++
  "  --trace-file TRACE_FILE\n" ++
  "                        Writes the execution trace to this file instead of\n" ++
  "                        stdout\n" ++
  "  --config CONFIG, -c CONFIG\n" ++
  "                        YAML file with interpreter options\n" ++
  "  --verbose, -v         Enable debug logging\n" ++
  "\n" ++
  "Examples:\n" ++
  "  plisp program.plisp                       # Run a program\n" ++
  "  plisp program.plisp --ast                 # Show the expression tree\n" ++
  "  plisp program.plisp --trace-execution     # Trace every evaluation step\n" ++
  "  plisp program.plisp --trace-file t.log     # Write the trace to t.log\n" ++
  "        \n"

def misuseText (error : String) : String :=
  "Failed to run Pocket Lisp:\n\n" ++ error ++
    "\n\n---\nSee \x60plisp --help\x60 for detailed usage information."

/-- Frames that a program may nest, as the message on deep recursion states. -/
def statedFrameLimit : Nat := 100000

structure Outcome where
  exit : Nat
  output : String := ""
  /-- Why the arguments were not understood. -/
  usageError : Option String := none
  files : FileSystem

def deepText (file : String) : String :=
  "Error: " ++ file ++ " recursed deeper than " ++ toString statedFrameLimit ++
    " Python frames"

/-- A failure of the host: problems with files are the command line's fault. -/
def faultText (file : String) : Fault → String
  | .file fault path => misuseText (fault.message path)
  | .recursionTooDeep => deepText file
  | .unwritable .tooDeep => deepText file
  | fault => "Error: " ++ fault.message

def errorText (file : String) (options : Options) (scopes : Scopes) :
    RunError → String
  | .failed (.host fault) => faultText file fault
  | error => error.text options scopes

def succeeded (output : String) (files : FileSystem) : Outcome :=
  { exit := 0, output, files }

def failedWith (output : String) (files : FileSystem) : Outcome :=
  { exit := 1, output, files }

def printed (lines : List String) : String :=
  String.join (lines.map (· ++ "\n"))

def list (heading file : String) (files : FileSystem)
    (entries : String → Except RunError (List String)) : Outcome :=
  let top := heading ++ " for " ++ file ++ "\n---\n"
  let fail := fun (error : RunError) =>
    failedWith (top ++ errorText file {} {} error ++ "\n") files
  match files.readText file with
  | .error fault => fail (.failed (.host fault))
  | .ok source =>
      match entries source with
      | .error error => fail error
      | .ok lines => succeeded (top ++ printed lines) files

def tokenLines (source : String) : Except RunError (List String) :=
  match tokenize source with
  | .ok tokens => .ok (tokens.map Token.text)
  | .error (.tooManyDigits count) => .error (.failed (.host (.integerTooLong count)))
  | .error error => .error (.scan source error)

/-- Numbers in a source are short enough to be written again. -/
def treeLines (source : String) : Except RunError (List String) := do
  let program ← parseSource source
  program.mapM fun form =>
    match form.describe with
    | .ok text => .ok text
    | .error reason => .error (.failed (.host (.unwritable reason)))

def conclude (file : String) (result : Except RunError Value)
    (interpreter : Interpreter) (output : String) (files : FileSystem) : Outcome :=
  match result with
  | .ok _ => succeeded output files
  | .error error =>
      failedWith
        (output ++
          errorText file interpreter.options interpreter.machine.scopes error ++ "\n")
        files

def runSource (file source : String) (options : Options) (files : FileSystem) :
    Outcome :=
  let interpreter :=
    { Interpreter.start options .output files with displayOnOutput := true }
  let (result, ran) := interpreter.run source
  let (transcript, done) := ran.deliver
  conclude file result done transcript.output done.machine.files

/-- Runs a source with its trace in a file, which switches tracing on. -/
def runTraced (file source : String) (options : Options) (traceFile : String)
    (files : FileSystem) : Outcome :=
  match files.openForWriting traceFile with
  | .error fault => failedWith (faultText file fault ++ "\n") files
  | .ok (place, opened) =>
      let started := Interpreter.start { options with traceExecution := true } .file opened
      let interpreter :=
        { started with
          machine := { started.machine with traceFile := some { place } }
          displayOnOutput := true }
      let (result, ran) := interpreter.run source
      let (transcript, done) := ran.deliver
      conclude file result done transcript.output ran.machine.closedFiles

def runFile (file : String) (options : Options) (traceFile : Given String)
    (files : FileSystem) : Outcome :=
  match files.readText file with
  | .error fault => failedWith (faultText file fault ++ "\n") files
  | .ok source =>
      match traceFile with
      | .absent => runSource file source options files
      | .blank => failedWith (faultText file (.notPath "list") ++ "\n") files
      | .value target => runTraced file source options target files

/-- A value as a setting; a blank is an empty list. -/
def Given.setting {α : Type} (make : α → Setting) : Given α → Setting
  | .absent => .null
  | .blank => .list []
  | .value content => make content

/-- The options that a request asks for; the command line wins over the
configuration. -/
def requestedOptions (request : Request) (files : FileSystem) :
    Except OptionFault Options := do
  let base ←
    match request.config with
    | .value path => if path.isEmpty then .ok {} else Options.load files path
    | _ => .ok {}
  let trace : Setting := (request.trace.map Setting.boolean).getD .null
  base.replace
    [(.text Options.framesKey, request.maxFrames.setting .integer),
      (.text Options.traceKey, trace)]

def serve (request : Request) (files : FileSystem) : Outcome :=
  if request.showVersion then succeeded (versionText ++ "\n") files
  else
    match request.file with
    | none => failedWith helpText files
    | some file =>
        if file.isEmpty then failedWith helpText files
        else
          match requestedOptions request files with
          | .error fault => failedWith (misuseText fault.message ++ "\n") files
          | .ok options =>
              if request.showTokens then list "Tokens" file files tokenLines
              else if request.showTree then list "AST" file files treeLines
              else runFile file options request.traceFile files

def run (arguments : List String) (files : FileSystem) : Outcome :=
  match readArguments arguments with
  | .error .help => succeeded helpText files
  | .error (.misuse error) =>
      { exit := 2, usageError := some ("plisp: error: " ++ error.message), files }
  | .ok request => serve request files

end Lisplet.CommandLine
