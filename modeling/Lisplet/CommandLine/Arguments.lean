import Lisplet.Text.Blank
import Lisplet.Text.Letter
import Lisplet.Text.Quoted

/-!
# Arguments of the command line

Options may stand before or behind the program file. Long options may be cut
short as long as it stays clear which one is meant, short ones may be written
together, and a value may follow its option as a word of its own or directly.
-/

namespace Lisplet.CommandLine

inductive Switch where
  | help
  | version
  | tokens
  | tree
  | maxFrames
  | trace
  | traceFile
  | config
  | verbose
  deriving DecidableEq

/-- What a flag stands for; two flags of one switch turn it on and off. -/
structure Flag where
  text : String
  switch : Switch
  turnsOn : Bool := true

def flags : List Flag :=
  [⟨"-h", .help, true⟩, ⟨"--help", .help, true⟩, ⟨"--version", .version, true⟩,
    ⟨"--tokens", .tokens, true⟩, ⟨"--ast", .tree, true⟩,
    ⟨"--max-native-stack-trace", .maxFrames, true⟩,
    ⟨"--trace-execution", .trace, true⟩, ⟨"--no-trace-execution", .trace, false⟩,
    ⟨"--trace-file", .traceFile, true⟩, ⟨"--config", .config, true⟩,
    ⟨"-c", .config, true⟩, ⟨"--verbose", .verbose, true⟩, ⟨"-v", .verbose, true⟩]

namespace Switch

def takesValue : Switch → Bool
  | .maxFrames => true
  | .traceFile => true
  | .config => true
  | _ => false

def title (switch : Switch) : String :=
  Text.joined "/" ((flags.filter (·.switch == switch)).map Flag.text)

end Switch

inductive Given (α : Type) where
  | absent
  /-- Two dashes in place of a value, which count as none. -/
  | blank
  | value (content : α)
  deriving DecidableEq

structure Request where
  file : Option String := none
  showVersion : Bool := false
  showTokens : Bool := false
  showTree : Bool := false
  maxFrames : Given Int := .absent
  trace : Option Bool := none
  traceFile : Given String := .absent
  config : Given String := .absent
  deriving DecidableEq

inductive UsageError where
  | ambiguous (word : String) (candidates : List String)
  | missingValue (switch : Switch)
  | ignoredValue (switch : Switch) (value : String)
  | notInteger (switch : Switch) (value : String)
  | unrecognized (words : List String)
  deriving DecidableEq

def UsageError.message : UsageError → String
  | .ambiguous word candidates =>
      "ambiguous option: " ++ word ++ " could match " ++ Text.joined ", " candidates
  | .missingValue switch => "argument " ++ switch.title ++ ": expected one argument"
  | .ignoredValue switch value =>
      "argument " ++ switch.title ++ ": ignored explicit argument " ++
        Text.quoted value
  | .notInteger switch value =>
      "argument " ++ switch.title ++ ": invalid int value: " ++ Text.quoted value
  | .unrecognized words => "unrecognized arguments: " ++ Text.joined " " words

inductive Word where
  | argument (text : String)
  /-- Two dashes, which end the options. -/
  | terminator
  /-- An option with the value written in the same word. -/
  | option (flag : Flag) (attached : Option (List Char))
  /-- Looks like an option, but is none. -/
  | unknown (text : String)

def flag? (text : String) : Option Flag :=
  flags.find? (·.text == text)

/-- Everything before the first equals sign, and what is behind it. -/
def splitEquals (word : List Char) : List Char × Option (List Char) :=
  match word.dropWhile (· != '=') with
  | [] => (word, none)
  | _ :: value => (word.takeWhile (· != '='), some value)

def isLong (word : List Char) : Bool :=
  ['-', '-'].isPrefixOf word

def candidates (word : List Char) : List (Flag × Option (List Char)) :=
  if isLong word then
    let (stem, value) := splitEquals word
    (flags.filter fun flag => stem.isPrefixOf flag.text.toList).map fun flag =>
      (flag, value)
  else
    flags.filterMap fun flag =>
      if flag.text.toList = word.take 2 then some (flag, some (word.drop 2))
      else if word.isPrefixOf flag.text.toList then some (flag, none)
      else none

def isDigits (word : List Char) : Bool :=
  !word.isEmpty && word.all Text.isDecimal

def withoutLineFeed (word : List Char) : List Char :=
  if word.getLast? = some '\n' then word.dropLast else word

/-- A negative number is an argument and no option; a line feed may follow it. -/
def isNegativeNumber (word : List Char) : Bool :=
  match withoutLineFeed word with
  | '-' :: digits =>
      isDigits digits ||
        (match digits.dropWhile Text.isDecimal with
          | '.' :: fraction => isDigits fraction
          | _ => false)
  | _ => false

def readWord (text : String) : Except UsageError Word :=
  let word := text.toList
  if word.head? ≠ some '-' then return .argument text
  else
    match flag? text, splitEquals word with
    | some flag, _ => return .option flag none
    | none, (stem, value) =>
        if word.length = 1 then return .argument text
        else
          match value, flag? (String.ofList stem) with
          | some attached, some flag => return .option flag (some attached)
          | _, _ =>
              match candidates word with
              | [(flag, attached)] => return .option flag attached
              | [] =>
                  if isNegativeNumber word || word.contains ' ' then
                    return .argument text
                  else return .unknown text
              | several =>
                  throw (.ambiguous text (several.map fun found => found.1.text))

/-- All words in turn; behind the terminator there are only arguments. -/
def readWords : List String → Except UsageError (List Word)
  | [] => return []
  | text :: rest =>
      if text = "--" then return .terminator :: rest.map .argument
      else do
        let word ← readWord text
        let words ← readWords rest
        return word :: words

def groupedDigits : List Char → Option (List Nat)
  | [] => none
  | [digit] => (Text.decimalValue? digit).map ([·])
  | digit :: '_' :: rest => do
      let value ← Text.decimalValue? digit
      let values ← groupedDigits rest
      return value :: values
  | digit :: rest => do
      let value ← Text.decimalValue? digit
      let values ← groupedDigits rest
      return value :: values

def integerDigitLimit : Nat := 4300

def readInteger? (text : String) : Option Int :=
  let body := (Text.trimWhere Text.isSpace text).toList
  let (negative, digits) :=
    match body with
    | '-' :: rest => (true, rest)
    | '+' :: rest => (false, rest)
    | rest => (false, rest)
  match groupedDigits digits with
  | none => none
  | some values =>
      if integerDigitLimit < values.length then none
      else
        let size : Nat := values.foldl (fun total digit => total * 10 + digit) 0
        some (if negative then -(size : Int) else size)

def terminatorText : String := "--"

/-- What has been read so far; words that have no place are kept in reverse. -/
structure Reading where
  request : Request := {}
  fileRead : Bool := false
  strays : List String := []

inductive Stop where
  | help
  | misuse (error : UsageError)

def setSwitch (reading : Reading) (flag : Flag) : Except Stop Reading :=
  let request := reading.request
  match flag.switch with
  | .help => throw .help
  | .version => return { reading with request := { request with showVersion := true } }
  | .tokens => return { reading with request := { request with showTokens := true } }
  | .tree => return { reading with request := { request with showTree := true } }
  | .trace =>
      return { reading with request := { request with trace := some flag.turnsOn } }
  | _ => return reading

def setValue (reading : Reading) (switch : Switch) (value : String) :
    Except Stop Reading :=
  let request := reading.request
  let text : Given String := if value = terminatorText then .blank else .value value
  match switch with
  | .maxFrames =>
      match text, readInteger? value with
      | .value _, some count =>
          return { reading with request := { request with maxFrames := .value count } }
      | .value _, none => throw (.misuse (.notInteger switch value))
      | _, _ => return { reading with request := { request with maxFrames := .blank } }
  | .traceFile => return { reading with request := { request with traceFile := text } }
  | .config => return { reading with request := { request with config := text } }
  | _ => return reading

/-- What an option word comes to: the flags it sets, and then a flag that takes
its value from the word or from the next one. -/
structure Cluster where
  set : List Flag := []
  valued : Option (Flag × Option String) := none

/-- Reads short options written together. An option without a value passes what
is attached on to the option that the next letter names. -/
def cluster (flag : Flag) : List Char → Except Stop Cluster
  | [] => throw (.misuse (.ignoredValue flag.switch ""))
  | letter :: rest =>
      let attached := String.ofList (letter :: rest)
      if flag.switch.takesValue then return { valued := some (flag, some attached) }
      else if isLong flag.text.toList then
        throw (.misuse (.ignoredValue flag.switch attached))
      else
        match flag? (String.ofList ['-', letter]), rest with
        | none, _ => throw (.misuse (.ignoredValue flag.switch attached))
        | some next, [] =>
            if next.switch.takesValue then
              return { set := [flag], valued := some (next, none) }
            else return { set := [flag, next] }
        | some next, _ :: _ => do
            let others ← cluster next rest
            return { others with set := flag :: others.set }

def clusterOf (flag : Flag) : Option (List Char) → Except Stop Cluster
  | none =>
      if flag.switch.takesValue then return { valued := some (flag, none) }
      else return { set := [flag] }
  | some [] =>
      if flag.switch.takesValue then return { valued := some (flag, some "") }
      else cluster flag []
  | some attached => cluster flag attached

def setAll : List Flag → Reading → Except Stop Reading
  | [], reading => return reading
  | flag :: rest, reading => do
      let next ← setSwitch reading flag
      setAll rest next

def takeFile (reading : Reading) (file : Option String) : Reading :=
  { reading with
    fileRead := true
    request := { reading.request with file } }

def putAside (reading : Reading) (text : String) : Reading :=
  { reading with strays := text :: reading.strays }

def Cluster.wantsWord (found : Cluster) : Bool :=
  match found.valued with
  | some (_, none) => true
  | _ => false

/-- Applies what an option word came to; `word` is the argument behind it. -/
def Cluster.apply (found : Cluster) (reading : Reading) (word : Option String) :
    Except Stop Reading :=
  match found.valued, word with
  | none, _ => setAll found.set reading
  | some (flag, some value), _ => do
      let next ← setAll found.set reading
      setValue next flag.switch value
  | some (flag, none), some value => do
      let next ← setAll found.set reading
      setValue next flag.switch value
  | some (flag, none), none => throw (.misuse (.missingValue flag.switch))

def readAll : List Word → Reading → Except Stop Reading
  | [], reading => return reading
  | .unknown text :: rest, reading => readAll rest (putAside reading text)
  | .terminator :: .argument text :: rest, reading =>
      if reading.fileRead then
        readAll rest (putAside (putAside reading terminatorText) text)
      else readAll rest (takeFile reading (some text))
  | .terminator :: rest, reading =>
      if reading.fileRead then readAll rest (putAside reading terminatorText)
      else readAll rest (takeFile reading none)
  | .argument text :: .terminator :: rest, reading =>
      if reading.fileRead then
        readAll rest (putAside (putAside reading text) terminatorText)
      else readAll rest (takeFile reading (some text))
  | .argument text :: rest, reading =>
      if reading.fileRead then readAll rest (putAside reading text)
      else readAll rest (takeFile reading (some text))
  | .option flag attached :: .argument value :: rest, reading => do
      let found ← clusterOf flag attached
      let next ← found.apply reading (some value)
      if found.wantsWord then readAll rest next
      else readAll (.argument value :: rest) next
  | .option flag attached :: rest, reading => do
      let found ← clusterOf flag attached
      let next ← found.apply reading none
      readAll rest next

def readArguments (arguments : List String) : Except Stop Request :=
  match readWords arguments with
  | .error error => .error (.misuse error)
  | .ok words => do
      let reading ← readAll words {}
      match reading.strays with
      | [] => return reading.request
      | strays => throw (.misuse (.unrecognized strays.reverse))

end Lisplet.CommandLine
