import Lisplet.Native.Arguments

/-!
# Display and files
-/

namespace Lisplet.Prelude

def displayed (arguments : List Value) : EvalM Value := do
  let line ← EvalM.ofExcept (joined " " arguments)
  EvalM.emit (.display (line ++ "\n"))
  return .nil

def fileRead : List Value → EvalM Value
  | [pathValue] => do
      let path ← EvalM.ofExcept (textFor .readFile .path pathValue)
      let machine ← EvalM.settle
      let content ← EvalM.ofExcept (machine.files.readText path)
      return .string content
  | arguments => EvalM.ofExcept (refuseExact .readFile 1 arguments)

/-- Opening the file empties it, before the text to be written is known. -/
def fileWritten : List Value → EvalM Value
  | [pathValue, value] => do
      let path ← EvalM.ofExcept (textFor .writeFile .path pathValue)
      let machine ← EvalM.settle
      let (place, opened) ← EvalM.ofExcept (machine.files.openForWriting path)
      set { machine with files := opened }
      let content ← EvalM.ofText value.displayText
      match content with
      | none => EvalM.fault (.noText .content)
      | some text =>
          modify fun current =>
            { current with
              files := current.files.put place (.file (Text.encodeText text)) }
          return .nil
  | arguments => EvalM.ofExcept (refuseExact .writeFile 2 arguments)

end Lisplet.Prelude
