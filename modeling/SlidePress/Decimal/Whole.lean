/-!
# `SlidePress.Decimal.Whole` — whole numbers in decimal
-/

namespace SlidePress.Decimal

/-- A whole number in decimal. -/
def wholeChars (n : Int) : List Char :=
  if n < 0 then '-' :: Nat.toDigits 10 n.natAbs else Nat.toDigits 10 n.natAbs

/-- A whole number in decimal. -/
def wholeText (n : Int) : String := String.ofList (wholeChars n)

/-- A number that is not negative is written with its digits alone. -/
theorem wholeChars_natCast (n : Nat) : wholeChars n = Nat.toDigits 10 n := by
  simp [wholeChars]

end SlidePress.Decimal
