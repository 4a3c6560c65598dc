import Lisplet.Files.Basic
import Lisplet.Native.Basic
import Lisplet.Pattern.Basic
import Lisplet.Syntax.Datum

/-!
# Faults

The ways in which the host fails: a native function is misused, a number or a
file is out of reach, a value has no text. Each has a label and a message.
-/

namespace Lisplet

inductive Wanted where
  | string
  | integer
  | list
  deriving DecidableEq

def Wanted.text : Wanted → String
  | .string => "a string"
  | .integer => "an integer"
  | .list => "a list"

/-- What a string without text was used for. -/
inductive TextUse where
  | upcase
  | downcase
  | reverse
  | trim
  | startsWith
  | endsWith
  | prefixed
  | suffixed
  | separator
  | joinItem (index : Nat)
  | length
  | splitSubject
  | splitPattern
  | path
  | content
  deriving DecidableEq

inductive Fault where
  | unwritable (reason : Unwritable)
  | notProcedure (described : String)
  | notNumber (native : Native) (kind described : String)
  | wrongKind (native : Native) (wanted : Wanted) (kind described : String)
  | tooFewArguments (native : Native) (least given : Nat)
  | argumentCount (native : Native) (allowed : List Nat) (given : Nat)
  | exactCount (native : Native) (expected given : Nat)
  | missingLists (given : Nat)
  | foreignReply (native : Native) (kind : String)
  | notExpression (label : String)
  | noText (use : TextUse)
  | outOfRange (index : Int) (length : Nat)
  | noArgument
  | arithmetic (fault : ArithmeticFault)
  | integerTooLong (digits : Nat)
  | nullInPath
  /-- Something of another kind where a path belongs. -/
  | notPath (kind : String)
  | file (fault : FileFault) (path : String)
  | undecodable (error : Text.DecodeError)
  | badPattern (pattern : String) (error : PatternError)
  | noNativeRunning
  /-- A word that is none of those known. -/
  | unknownWord (word : String)
  /-- More host frames are asked for than can be counted. -/
  | tooManyFrames
  | raised (message : String)
  | recursionTooDeep
  | comparisonTooDeep
  deriving DecidableEq

namespace TextUse

def message : TextUse → String
  | .upcase => "'NoneType' object has no attribute 'upper'"
  | .downcase => "'NoneType' object has no attribute 'lower'"
  | .reverse => "'NoneType' object is not subscriptable"
  | .trim => "'NoneType' object has no attribute 'strip'"
  | .startsWith => "'NoneType' object has no attribute 'startswith'"
  | .endsWith => "'NoneType' object has no attribute 'endswith'"
  | .prefixed => "startswith first arg must be str or a tuple of str, not NoneType"
  | .suffixed => "endswith first arg must be str or a tuple of str, not NoneType"
  | .separator => "'NoneType' object has no attribute 'join'"
  | .joinItem index =>
      "sequence item " ++ toString index ++ ": expected str instance, NoneType found"
  | .length => "object of type 'NoneType' has no len()"
  | .splitSubject => "expected string or bytes-like object, got 'NoneType'"
  | .splitPattern => "first argument must be string or compiled pattern"
  | .path => "expected str, bytes or os.PathLike object, not NoneType"
  | .content => "write() argument must be str, not None"

def label : TextUse → String
  | .upcase => "AttributeError"
  | .downcase => "AttributeError"
  | .trim => "AttributeError"
  | .startsWith => "AttributeError"
  | .endsWith => "AttributeError"
  | .separator => "AttributeError"
  | _ => "TypeError"

end TextUse

def digitLimitText : String :=
  "Exceeds the limit (" ++ toString Number.digitLimit ++
    " digits) for integer string conversion"

def digitLimitAdvice : String :=
  "; use sys.set_int_max_str_digits() to increase the limit"

def tooDeepText : String := "maximum recursion depth exceeded"

def Unwritable.label : Unwritable → String
  | .tooManyDigits => "ValueError"
  | .noText => "AttributeError"
  | .tooDeep => "RecursionError"

def Unwritable.message : Unwritable → String
  | .tooManyDigits => digitLimitText ++ digitLimitAdvice
  | .noText => "'NoneType' object has no attribute 'replace'"
  | .tooDeep => tooDeepText

def ArithmeticFault.label : ArithmeticFault → String
  | .integerTooLarge => "OverflowError"
  | .quotientTooLarge => "OverflowError"
  | .integerDivisionByZero => "ZeroDivisionError"
  | .floatDivisionByZero => "ZeroDivisionError"

def ArithmeticFault.message : ArithmeticFault → String
  | .integerTooLarge => "int too large to convert to float"
  | .quotientTooLarge => "integer division result too large for a float"
  | .integerDivisionByZero => "division by zero"
  | .floatDivisionByZero => "float division by zero"

def FileFault.label : FileFault → String
  | .notFound => "FileNotFoundError"
  | .isDirectory => "IsADirectoryError"
  | .notDirectory => "NotADirectoryError"
  | .nameTooLong => "OSError"

def FileFault.message (path : String) : FileFault → String
  | .notFound => "[Errno 2] No such file or directory: " ++ Text.quoted path
  | .isDirectory => "[Errno 21] Is a directory: " ++ Text.quoted path
  | .notDirectory => "[Errno 20] Not a directory: " ++ Text.quoted path
  | .nameTooLong => "[Errno 36] File name too long: " ++ Text.quoted path

def PatternError.label : PatternError → String
  | .flawed .. => "error"
  | .repetitionTooLarge => "OverflowError"

namespace Fault

def label : Fault → String
  | .unwritable reason => reason.label
  | .notProcedure _ => "TypeError"
  | .notNumber .. => "TypeError"
  | .wrongKind .. => "TypeError"
  | .tooFewArguments .. => "TypeError"
  | .argumentCount .. => "TypeError"
  | .exactCount .. => "TypeError"
  | .missingLists _ => "TypeError"
  | .foreignReply .. => "TypeError"
  | .notExpression _ => "TypeError"
  | .noText use => use.label
  | .outOfRange .. => "IndexError"
  | .noArgument => "IndexError"
  | .arithmetic fault => fault.label
  | .integerTooLong _ => "ValueError"
  | .nullInPath => "ValueError"
  | .notPath _ => "TypeError"
  | .file fault _ => fault.label
  | .undecodable _ => "UnicodeDecodeError"
  | .badPattern _ error => error.label
  | .noNativeRunning => "RuntimeError"
  | .unknownWord _ => "KeyError"
  | .tooManyFrames => "ValueError"
  | .raised _ => "RuntimeError"
  | .recursionTooDeep => "RecursionError"
  | .comparisonTooDeep => "RecursionError"

def plural (count : Nat) : String :=
  if count = 1 then "argument" else "arguments"

def message : Fault → String
  | .unwritable reason => reason.message
  | .notProcedure described => described ++ " is not a procedure"
  | .notNumber native kind described =>
      native.name ++ " expects numbers, got " ++ kind ++ ": " ++ described
  | .wrongKind native wanted kind described =>
      native.name ++ " expects " ++ wanted.text ++ ", got " ++ kind ++ ": " ++
        described
  | .tooFewArguments native least given =>
      native.name ++ " requires at least " ++ toString least ++
        " argument(s), got " ++ toString given
  | .argumentCount native allowed given =>
      native.name ++ " requires " ++ Text.joined " or " (allowed.map toString) ++
        " argument(s), got " ++ toString given
  | .exactCount native expected given =>
      native.name ++ " requires exactly " ++ toString expected ++ " " ++
        plural expected ++ ", got " ++ toString given
  | .missingLists given =>
      "map requires a procedure and at least 1 list, got " ++ toString given ++
        " argument(s)"
  | .foreignReply function kind =>
      "native " ++ function.name ++ " returned " ++ kind ++
        ", not a Pocket Lisp value"
  | .notExpression label => "Cannot evaluate " ++ label
  | .noText use => use.message
  | .outOfRange index length =>
      "nth index " ++ toString index ++ " out of range for list of length " ++
        toString length
  | .noArgument => "list index out of range"
  | .arithmetic fault => fault.message
  | .integerTooLong digits =>
      digitLimitText ++ ": value has " ++ toString digits ++ " digits" ++
        digitLimitAdvice
  | .nullInPath => "embedded null byte"
  | .notPath kind => "expected str, bytes or os.PathLike object, not " ++ kind
  | .file fault path => fault.message path
  | .undecodable error => error.text
  | .badPattern pattern error => error.text pattern
  | .noNativeRunning => "call_from_native used outside of a native call"
  | .unknownWord word => Text.quoted word
  | .tooManyFrames =>
      "Stop argument for islice() must be None or an integer: 0 <= x <= sys.maxsize."
  | .raised message => message
  | .recursionTooDeep => tooDeepText
  | .comparisonTooDeep => tooDeepText ++ " in comparison"

end Fault

def FileSystem.readDecoded (files : FileSystem) (path : String)
    (decode : Text.Bytes → Except Text.DecodeError String) : Except Fault String :=
  if path.toList.contains '\x00' then .error .nullInPath
  else
    match files.read path with
    | .error fault => .error (.file fault path)
    | .ok bytes =>
        match decode bytes with
        | .error error => .error (.undecodable error)
        | .ok text => .ok (String.ofList (Text.unifyNewlines text.toList))

def FileSystem.readText (files : FileSystem) (path : String) :
    Except Fault String :=
  files.readDecoded path Text.decodeText

/-- The same in pieces, so that faults are told by their place in a piece. -/
def FileSystem.readTextInPieces (files : FileSystem) (path : String) :
    Except Fault String :=
  files.readDecoded path Text.decodePieces

def FileSystem.openForWriting (files : FileSystem) (path : String) :
    Except Fault (List String × FileSystem) :=
  if path.toList.contains '\x00' then .error .nullInPath
  else
    match files.truncate path with
    | .error fault => .error (.file fault path)
    | .ok opened => .ok opened

end Lisplet
