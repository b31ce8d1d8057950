/-!
# `SlidePress.Text.Range` — sets of code points given by their ranges

A character property of the standard is kept as the ascending list of the closed ranges it consists of.
-/

namespace SlidePress.Text

/-- A set of code points: disjoint closed ranges, in ascending order. -/
abbrev CodeRanges := List (Nat × Nat)

/-- Whether a code point lies in one of the ranges; ranges above it are not visited. -/
def CodeRanges.contains : CodeRanges → Nat → Bool
  | [], _ => false
  | (low, high) :: rest, n => if n < low then false else if n ≤ high then true else contains rest n

end SlidePress.Text
