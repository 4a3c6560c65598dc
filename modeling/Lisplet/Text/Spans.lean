/-!
# Sets of characters as spans of code points

A character class of a standard is a list of closed spans in rising order.
-/

namespace Lisplet.Text

/-- Closed spans of code points, in rising order and apart from each other. -/
abbrev Spans := List (Nat × Nat)

/-- A search that stops at the first span beyond the code point. -/
def Spans.contains : Spans → Nat → Bool
  | [], _ => false
  | (first, last) :: rest, code =>
      if code < first then false
      else code ≤ last || Spans.contains rest code

end Lisplet.Text
