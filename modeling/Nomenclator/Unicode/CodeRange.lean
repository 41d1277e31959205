/-!
# Sets of code points

A character property is stored as the list of its ranges. In many scripts capital and small letters
alternate, so a range may also take every second code point only.

Ranges are listed in the order of their first code points. A lookup therefore stops as soon as a
range begins beyond the code point, and letters of the basic Latin block are found at once.
-/

namespace Nomenclator.Unicode

/-- The code points `first`, `first + step`, `first + 2 * step`, … up to `last`. -/
structure CodeRange where
  first : Nat
  last : Nat
  step : Nat

namespace CodeRange

/-- Whether a code point lies in a range. -/
def contains (range : CodeRange) (code : Nat) : Bool :=
  range.first ≤ code && code ≤ range.last && (code - range.first) % range.step == 0

end CodeRange

/-- Whether a code point lies in one of several ranges, which are in the order of their first code
points. -/
def covers : List CodeRange → Nat → Bool
  | [], _ => false
  | range :: rest, code =>
    if code < range.first then false else range.contains code || covers rest code

end Nomenclator.Unicode
