import Lisplet.Native.Arithmetic
import Lisplet.Native.Lists
import Lisplet.Native.Output
import Lisplet.Native.Strings

/-!
# Invoking native functions
-/

namespace Lisplet

/-- What a native function answers: a value, or something of the host's. -/
inductive Reply where
  | value (value : Value)
  | foreign (kind : String)

namespace Prelude

def foreignKind? : String → Option String
  | "int" => some "int"
  | "str" => some "str"
  | "none" => some "NoneType"
  | "list" => some "list"
  | _ => none

def probed (probe : Probe) (arguments : List Value) : EvalM Reply :=
  match probe, arguments with
  | .bad, [] => EvalM.fault .noArgument
  | .bad, .string word :: _ =>
      match foreignKind? word with
      | some kind => return .foreign kind
      | none => EvalM.fault (.unknownWord word)
  | .bad, _ => return .foreign "NoneType"
  | .touch, [] => EvalM.fault .noArgument
  | .fail, [] => EvalM.fault .noArgument
  | .touch, value :: _ => do
      let described ← EvalM.ofText value.describe
      modify fun machine => { machine with notes := machine.notes.push described }
      return .value value
  | .fail, value :: _ => do
      let described ← EvalM.ofText value.describe
      EvalM.fault (.raised described)

def pureReply (result : Except Fault Value) : EvalM Reply :=
  .value <$> EvalM.ofExcept result

/-- A computation on numbers, under a serial of its own. -/
def numericReply (compute : Nat → Except Fault Value) : EvalM Reply := do
  let serial ← EvalM.freshSerial
  pureReply (compute serial)

/-- Runs a native function; procedures it is given are applied by `call`. -/
def invoke (call : Caller) (function : Native) (arguments : List Value) :
    EvalM Reply :=
  match function with
  | .display => .value <$> displayed arguments
  | .readFile => .value <$> fileRead arguments
  | .writeFile => .value <$> fileWritten arguments
  | .equal => pureReply ((.boolean ·) <$> allSame .equal arguments)
  | .notEqual => pureReply ((.boolean !·) <$> allSame .notEqual arguments)
  | .greater => pureReply (ordered .greater (· == .gt) arguments)
  | .greaterEqual => pureReply (ordered .greaterEqual (· != .lt) arguments)
  | .less => pureReply (ordered .less (· == .lt) arguments)
  | .lessEqual => pureReply (ordered .lessEqual (· != .gt) arguments)
  | .add => numericReply fun serial => sum serial arguments
  | .subtract => numericReply fun serial => difference serial arguments
  | .multiply => numericReply fun serial => product serial arguments
  | .divide => numericReply fun serial => quotient serial arguments
  | .isNumber => pureReply (numberTest arguments)
  | .negate => pureReply (negation arguments)
  | .conjunction => return .value (firstFalse arguments)
  | .disjunction => return .value (firstTrue arguments)
  | .stringJoin => pureReply (stringJoined arguments)
  | .stringSplit => pureReply (stringSplitAt arguments)
  | .stringUpcase => pureReply (mapText .stringUpcase .upcase Text.upcase arguments)
  | .stringDowncase =>
      pureReply (mapText .stringDowncase .downcase Text.downcase arguments)
  | .stringReverse =>
      pureReply (mapText .stringReverse .reverse reverseText arguments)
  | .stringTrim => pureReply (mapText .stringTrim .trim Text.trim arguments)
  | .startsWith =>
      pureReply (testText .startsWith .startsWith .prefixed beginsWith arguments)
  | .endsWith =>
      pureReply (testText .endsWith .endsWith .suffixed endsIn arguments)
  | .list => return .value (.list arguments)
  | .first => pureReply (firstElement arguments)
  | .rest => pureReply (otherElements arguments)
  | .nth => pureReply (elementAt arguments)
  | .take => pureReply (taken arguments)
  | .drop => pureReply (dropped arguments)
  | .count => pureReply (counted arguments)
  | .map => .value <$> mapped call arguments
  | .filter => .value <$> filtered call arguments
  | .reduce => .value <$> reduced call arguments
  | .flatmap => .value <$> flatMapped call arguments
  | .probe probe => probed probe arguments

end Prelude

end Lisplet
