import Lisplet.Machine.Basic
import Lisplet.Options.Basic

/-!
# Reports of failures

A failure of the program is reported with the locations from where it happened
out to the global scope. A native failure adds the host's own account, unless no
host frames are to be shown.
-/

namespace Lisplet

namespace Failure

/-- The scope that was active, unless the host itself failed. -/
def scope? : Failure → Option ScopeId
  | .arityMismatch _ _ scope => some scope
  | .unbound _ scope => some scope
  | .native _ scope => some scope
  | .host _ => none

def label : Failure → String
  | .arityMismatch .. => "PLispArityMismatchError"
  | .unbound .. => "PLispUndefinedBindingError"
  | .native .. => "PLispNativeError"
  | .host fault => fault.label

def headline : Failure → String
  | .arityMismatch closure given _ =>
      closure.describe ++ " expects " ++ toString closure.arity ++
        " arguments, got " ++ toString given ++ "."
  | .unbound name _ => name ++ " is not defined."
  | .native cause _ => cause.label ++ ": " ++ cause.message
  | .host fault => fault.message

/-- The greatest number of host frames that can be counted. -/
def frameCountLimit : Nat := Nat.pow 2 63 - 1

/-- A native failure cannot be told if more frames are asked for than can be
counted. -/
def counted (options : Options) : Failure → Failure
  | .native cause scope =>
      if frameCountLimit < options.maxNativeFrames then .host .tooManyFrames
      else .native cause scope
  | failure => failure

def stackTrace (failure : Failure) (scopes : Scopes) : List String :=
  match failure.scope? with
  | some scope => scopes.stackTrace scope
  | none => []

def nativeHeading : String := "\n\nNative trace:"

def nativeAccount (options : Options) : Failure → String
  | .native cause _ =>
      if options.maxNativeFrames = 0 then ""
      else nativeHeading ++ "\n" ++ cause.label ++ ": " ++ cause.message
  | _ => ""

def report (failure : Failure) (options : Options) (scopes : Scopes) : String :=
  match failure with
  | .host fault => fault.message
  | _ =>
      failure.headline ++ "\n" ++ stackTraceText (failure.stackTrace scopes) ++
        failure.nativeAccount options

end Failure

end Lisplet
