import Lisplet.Config.Reader
import Lisplet.Value.Fault

/-!
# Options

How an evaluation is traced and how much of a native failure is shown. Options
come from a command line or a configuration, so their settings are checked.
-/

namespace Lisplet

open Config (ConfigFault)

structure Options where
  /-- Host frames shown with the failure of a native function; none if zero. -/
  maxNativeFrames : Nat := 20
  traceExecution : Bool := false
  deriving DecidableEq

/-- Operations that take settings as named arguments. -/
inductive NamedCall where
  | make
  | replace
  deriving DecidableEq

def NamedCall.name : NamedCall → String
  | .make => "PLispOptions.__init__"
  | .replace => "PLispOptions.replace"

inductive OptionFault where
  | unknown (names : List String)
  /-- A key that is no text, where keys are to be listed. -/
  | keyNotText (index : Nat) (kind : String)
  | framesNotInteger (shown : String)
  | traceNotBoolean (shown : String)
  | negativeFrames (shown : String)
  | unexpectedArgument (name : String)
  /-- A name that the operation itself has taken. -/
  | repeatedArgument (call : NamedCall) (name : String)
  /-- Two values of kinds that have no order. -/
  | unordered (left right : String)
  | notFound (path : String)
  | notMapping (path : String)
  | config (fault : ConfigFault)
  | host (fault : Fault)
  deriving DecidableEq

def characterCodeLimit : Nat := Nat.pow 2 31

def Config.ConfigFault.label : ConfigFault → String
  | .malformed => "YAMLError"
  | .noCharacter code =>
      if code < characterCodeLimit then "ValueError" else "OverflowError"
  | .noDigits _ => "ValueError"
  | .integerTooLong _ => "ValueError"
  | .arithmetic fault => fault.label
  | .calendar _ => "ValueError"

def Config.ConfigFault.message : ConfigFault → String
  | .malformed => "malformed configuration"
  | .noCharacter code =>
      if code < characterCodeLimit then "chr() arg not in range(0x110000)"
      else "Python int too large to convert to C int"
  | .noDigits base =>
      "invalid literal for int() with base " ++ toString base ++ ": ''"
  | .integerTooLong digits => (Fault.integerTooLong digits).message
  | .arithmetic fault => fault.message
  | .calendar fault => fault.message

namespace OptionFault

def label : OptionFault → String
  | .unknown _ => "ValueError"
  | .keyNotText .. => "TypeError"
  | .framesNotInteger _ => "ValueError"
  | .traceNotBoolean _ => "ValueError"
  | .negativeFrames _ => "ValueError"
  | .unexpectedArgument _ => "TypeError"
  | .repeatedArgument .. => "TypeError"
  | .unordered .. => "TypeError"
  | .notFound _ => "FileNotFoundError"
  | .notMapping _ => "ValueError"
  | .config fault => fault.label
  | .host fault => fault.label

def message : OptionFault → String
  | .unknown names => "Unknown options: " ++ Text.joined ", " names
  | .keyNotText index kind =>
      "sequence item " ++ toString index ++ ": expected str instance, " ++ kind ++
        " found"
  | .framesNotInteger shown =>
      "max_native_frames must be an integer, got " ++ shown
  | .traceNotBoolean shown =>
      "trace_execution must be true or false, got " ++ shown
  | .negativeFrames shown => "max_native_frames cannot be negative: " ++ shown
  | .unexpectedArgument name =>
      NamedCall.make.name ++ "() got an unexpected keyword argument '" ++ name ++ "'"
  | .repeatedArgument call name =>
      call.name ++ "() got multiple values for argument '" ++ name ++ "'"
  | .unordered left right =>
      "'<' not supported between instances of '" ++ left ++ "' and '" ++ right ++ "'"
  | .notFound path => "Configuration file not found: " ++ path
  | .notMapping path => "Configuration file must contain a mapping: " ++ path
  | .config fault => fault.message
  | .host fault => fault.message

end OptionFault

def Setting.inFault (setting : Setting) (fault : String → OptionFault) : OptionFault :=
  match setting.shown with
  | .ok shown => fault shown
  | .error reason => .host (.unwritable reason)

namespace Options

def framesKey : String := "max_native_frames"

def traceKey : String := "trace_execution"

def isKnown (key : Setting) : Bool :=
  key.isText framesKey || key.isText traceKey

/-- Options of the right kinds; only the sign is checked. -/
def make (frames : Int) (trace : Bool) : Except OptionFault Options :=
  if frames < 0 then .error ((Setting.integer frames).inFault .negativeFrames)
  else .ok ⟨frames.toNat, trace⟩

/-- Names in order; all keys have to be texts. -/
def keyNames (names : List String) : List Setting → Option (List String)
  | [] => some (names.mergeSort (· ≤ ·))
  | .text name :: rest => keyNames (name :: names) rest
  | _ => none

/-- The smallest number among keys, if all are numbers; it comes first in their
order. -/
def leastNumber : Setting → List Setting → Option Setting
  | least, [] => least.number?.map fun _ => least
  | least, key :: rest =>
      match least.number?, key.number? with
      | some first, some second =>
          leastNumber (if second.compare? first = some .lt then key else least) rest
      | _, _ => none

/-- The fault of keys that are no option. They are put in order and listed by
name, so they fail if they have no order, and if the first is no text. -/
def unknownFault (keys : List Setting) : Option OptionFault :=
  match keys with
  | [] => none
  | [key] =>
      match key with
      | .text name => some (.unknown [name])
      | other => some (.keyNotText 0 other.kind)
  | first :: rest =>
      match keyNames [] keys, leastNumber first rest with
      | some names, _ => some (.unknown names)
      | none, some least => some (.keyNotText 0 least.kind)
      | none, none =>
          match rest.find? fun key => key.kind != first.kind with
          | some other => some (.unordered other.kind first.kind)
          | none => some (.keyNotText 0 first.kind)

def frames : Setting → Except OptionFault Int
  | .integer value => return value
  | setting => throw (setting.inFault .framesNotInteger)

def trace : Setting → Except OptionFault Bool
  | .boolean value => return value
  | setting => throw (setting.inFault .traceNotBoolean)

/-- Options from settings: unknown keys are refused, missing ones take their
default. -/
def ofSettings (settings : Settings) : Except OptionFault Options := do
  match unknownFault ((settings.map Prod.fst).filter (!isKnown ·)) with
  | some fault => throw fault
  | none =>
      let frameCount ←
        frames ((settings.get? framesKey).getD
          (.integer ({} : Options).maxNativeFrames))
      let traced ←
        trace ((settings.get? traceKey).getD
          (.boolean ({} : Options).traceExecution))
      make frameCount traced

def toSettings (options : Options) : Settings :=
  [(.text framesKey, .integer options.maxNativeFrames),
    (.text traceKey, .boolean options.traceExecution)]

/-- Settings with some of them changed; a null changes nothing. -/
def changed (settings changes : Settings) : Settings :=
  changes.foldl
    (fun current change =>
      if change.2.isNull then current
      else Settings.put change.1 change.2 current)
    settings

def replace (options : Options) (changes : Settings) : Except OptionFault Options :=
  ofSettings (changed options.toSettings changes)

def load (files : FileSystem) (path : String) : Except OptionFault Options :=
  if path.toList.contains '\x00' || !files.hasPath path then .error (.notFound path)
  else
    match files.readTextInPieces path with
    | .error fault => .error (.host fault)
    | .ok text =>
        match Config.read text with
        | .error fault => .error (.config fault)
        | .ok .null => .ok {}
        | .ok (.mapping settings) => ofSettings settings
        | .ok _ => .error (.notMapping path)

end Options

/-- Options whose values were taken as they came. -/
structure LooseOptions where
  frames : Setting := .integer ({} : Options).maxNativeFrames
  trace : Setting := .boolean ({} : Options).traceExecution

namespace LooseOptions

/-- The name under which an operation takes the options themselves. -/
def ownName : String := "self"

def ofOptions (options : Options) : LooseOptions :=
  ⟨.integer options.maxNativeFrames, .boolean options.traceExecution⟩

def checkNames : Settings → Except OptionFault Unit
  | [] => return
  | (key, _) :: rest =>
      match key with
      | .text name =>
          if name = ownName then throw (.repeatedArgument .make name)
          else if Options.isKnown key then checkNames rest
          else throw (.unexpectedArgument name)
      | _ => checkNames rest

/-- Only a frame count that has no order with zero, or stands below it, is
refused. -/
def checkFrames (frames : Setting) : Except OptionFault Unit :=
  match frames.number? with
  | none => throw (.unordered frames.kind (Setting.integer 0).kind)
  | some number =>
      if number.compare? (.int 0) = some .lt then
        throw (frames.inFault .negativeFrames)
      else return

def make (settings : Settings) : Except OptionFault LooseOptions := do
  checkNames settings
  let made : LooseOptions :=
    { frames := (settings.get? Options.framesKey).getD ({} : LooseOptions).frames
      trace := (settings.get? Options.traceKey).getD ({} : LooseOptions).trace }
  checkFrames made.frames
  return made

def replace (options : LooseOptions) (changes : Settings) :
    Except OptionFault LooseOptions := do
  if (changes.get? ownName).isSome then throw (.repeatedArgument .replace ownName)
  else
    let checked ← Options.ofSettings
      (Options.changed
        [(.text Options.framesKey, options.frames), (.text Options.traceKey, options.trace)]
        changes)
    return ofOptions checked

end LooseOptions

end Lisplet
