import Lisplet.Text.Quoted

/-!
# Diagnostics

A diagnostic explains one failure: what went wrong, where, what was found, what
would have been right, and how to mend it.
-/

namespace Lisplet

structure Diagnostic where
  message : String
  context : Option String := none
  expected : Option String := none
  received : Option String := none
  suggestion : Option String := none
  sample : Option String := none
  position : Option Int := none
  deriving DecidableEq

namespace Diagnostic

def detailLine (title : String) : Option String → List String
  | none => []
  | some detail => if detail.isEmpty then [] else [title ++ ": " ++ detail]

def positionLine : Option Int → List String
  | none => []
  | some position => ["Position: " ++ toString position]

def lines (diagnostic : Diagnostic) : List String :=
  ("Error: " ++ diagnostic.message) ::
    positionLine diagnostic.position ++
    detailLine "Received" diagnostic.received ++
    detailLine "Expected" diagnostic.expected ++
    detailLine "Context" diagnostic.context ++
    detailLine "Suggestion" diagnostic.suggestion ++
    detailLine "Example" diagnostic.sample

def text (diagnostic : Diagnostic) : String :=
  Text.joined "\n" diagnostic.lines

end Diagnostic

end Lisplet
