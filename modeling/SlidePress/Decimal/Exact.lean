/-!
# `SlidePress.Decimal.Exact` — the exact value of a double

Numbers are written from the exact value of a double, in whole-number arithmetic, so that no rounding happens
before the last digit is chosen.
-/

namespace SlidePress.Decimal

/-- The exact value of a double. -/
inductive Exact
  | nan
  | infinite (negative : Bool)
  /-- The number `± mantissa · 2 ^ exponent`; zero keeps its sign. -/
  | finite (negative : Bool) (mantissa : Nat) (exponent : Int)
deriving DecidableEq, Repr

/-- The least mantissa of a normal double, and the number of fractions: two to the power 52. -/
def leastNormal : Nat := 0x10000000000000

/-- The value that the 64 bits of a double stand for. -/
def Exact.ofBits (bits : Nat) : Exact :=
  let negative := decide (bits / 0x8000000000000000 % 2 = 1)
  let exponent : Nat := bits / leastNormal % 0x800
  let fraction := bits % leastNormal
  if exponent = 2047 then (if fraction = 0 then .infinite negative else .nan)
  else if exponent = 0 then .finite negative fraction (-1074)
  else .finite negative (leastNormal + fraction) ((exponent : Int) - 1075)

/-- The exact value of a double. -/
def Exact.ofFloat (x : Float) : Exact := .ofBits x.toBits.toNat

/-- The numerator of `mantissa · 2 ^ exponent`, over `2 ^ (-exponent)` when the exponent is negative. -/
def ratio (mantissa : Nat) (exponent : Int) : Nat × Nat :=
  (mantissa * Nat.pow 2 exponent.toNat, Nat.pow 2 (-exponent).toNat)

/-- The whole number nearest to `num / den`; half-way, the even one. -/
def roundRatio (num den : Nat) : Nat :=
  let below := num / den
  let rest := 2 * (num % den)
  if rest < den then below
  else if den < rest then below + 1
  else if below % 2 = 0 then below else below + 1

end SlidePress.Decimal
