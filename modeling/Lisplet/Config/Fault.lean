import Lisplet.Config.Calendar
import Lisplet.Number.Basic

/-!
# Faults of a configuration
-/

namespace Lisplet.Config

inductive ConfigFault where
  | malformed
  /-- An escape for a character that does not exist. -/
  | noCharacter (code : Nat)
  | noDigits (base : Nat)
  | integerTooLong (digits : Nat)
  | arithmetic (fault : ArithmeticFault)
  | calendar (fault : CalendarFault)
  deriving DecidableEq

end Lisplet.Config
