import Lisplet.Native.Arguments
import Lisplet.Pattern.Matching
import Lisplet.Text.Casing

/-!
# Strings

The native functions on strings. A string without text passes as a string and
fails where its text is needed.
-/

namespace Lisplet.Prelude

/-- With one argument there is no separator. -/
def stringJoined : List Value → Except Fault Value
  | [value] => do
      let items ← sequence .stringJoin value
      .string <$> joined "" items
  | [separatorValue, value] => do
      let separator ← text .stringJoin separatorValue
      let items ← sequence .stringJoin value
      match separator with
      | some separatorText => .string <$> joined separatorText items
      | none => throw (.noText .separator)
  | arguments => refuseCount .stringJoin [1, 2] arguments

def piece : Option String → Value
  | some text => .string text
  | none => .unmatched

/-- The pieces between the matches of a pattern, and what its groups captured. -/
def stringSplitAt : List Value → Except Fault Value
  | [subjectValue, patternValue] => do
      let subject ← text .stringSplit subjectValue
      let pattern ← textFor .stringSplit .splitPattern patternValue
      match readPattern pattern with
      | .error error => throw (.badPattern pattern error)
      | .ok compiled =>
          match subject with
          | none => throw (.noText .splitSubject)
          | some subjectText => return .list ((compiled.split subjectText).map piece)
  | arguments => refuseCount .stringSplit [2] arguments

def mapText (function : Native) (use : TextUse) (change : String → String) :
    List Value → Except Fault Value
  | [value] => do
      let content ← textFor function use value
      return .string (change content)
  | arguments => refuseCount function [1] arguments

def reverseText (content : String) : String :=
  String.ofList content.toList.reverse

/-- A test of a text against another one. The first is asked for its text before
the second is looked at. -/
def testText (function : Native) (use otherUse : TextUse)
    (holds : List Char → List Char → Bool) : List Value → Except Fault Value
  | [value, otherValue] => do
      let whole ← textFor function use value
      let part ← textFor function otherUse otherValue
      return .boolean (holds whole.toList part.toList)
  | arguments => refuseCount function [2] arguments

def beginsWith (whole part : List Char) : Bool :=
  part.isPrefixOf whole

def endsIn (whole part : List Char) : Bool :=
  part.isSuffixOf whole

end Lisplet.Prelude
