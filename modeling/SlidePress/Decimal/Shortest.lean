import SlidePress.Decimal.Exact

/-!
# `SlidePress.Decimal.Shortest` — the fewest digits that read back

A double is shown by the fewest significant digits that read back as the same double, and among those of that
many digits by the ones nearest to it.
-/

namespace SlidePress.Decimal

/-- The number `e` with `10 ^ (e - 1) ≤ num / den < 10 ^ e`, for a positive `num`. -/
def decimalPoint (num den : Nat) : Int :=
  if den ≤ num then ((toString (num / den)).length : Int)
  else
    -- below one: count the places before the first digit that is not zero
    let places := (List.range 400).find? fun k => den ≤ num * Nat.pow 10 (k + 1)
    Int.negOfNat (places.getD 400)

/-- The numbers of `n` significant digits next to `mantissa · 2 ^ exponent`, nearest first, that read back as it:
they lie between the midpoints to the neighbouring doubles, ends included when the mantissa is even. -/
def readBack? (mantissa : Nat) (exponent : Int) (point : Int) (n : Nat) : Option Nat :=
  -- everything is compared in units of `2 ^ (exponent - 2)`, where the value is `4 · mantissa`
  let place := point - n
  let unit := exponent - 2
  let decimalScale := Nat.pow 10 place.toNat * Nat.pow 2 (-unit).toNat
  let binaryScale := Nat.pow 10 (-place).toNat * Nat.pow 2 unit.toNat
  let value := 4 * mantissa * binaryScale
  let low := (4 * mantissa - (if mantissa = leastNormal ∧ -1074 < exponent then 1 else 2)) * binaryScale
  let high := (4 * mantissa + 2) * binaryScale
  let inside (k : Nat) : Bool :=
    let x := k * decimalScale
    if mantissa % 2 = 0 then low ≤ x && x ≤ high else low < x && x < high
  let below := value / decimalScale
  let above := below + 1
  let downNearer := decide (2 * value < (below + above) * decimalScale) ||
    (decide (2 * value = (below + above) * decimalScale) && below % 2 == 0)
  let (first, second) := if downNearer then (below, above) else (above, below)
  if inside first then some first else if inside second then some second else none

/-- The fewest significant digits that read back as `mantissa · 2 ^ exponent`, and where the point stands: after
that many of the digits. -/
def shortestDigits (mantissa : Nat) (exponent : Int) : List Char × Int :=
  let (num, den) := ratio mantissa exponent
  let point := decimalPoint num den
  let hit := (List.range 17).findSome? fun i => (readBack? mantissa exponent point (i + 1)).map (·, i + 1)
  match hit with
  | none => (['0'], 1)
  | some (k, n) =>
    let digits := (toString k).toList
    -- rounding up to a power of ten gives one digit more, and moves the point
    let point := point + ((digits.length : Int) - n)
    let kept := (digits.reverse.dropWhile (· = '0')).reverse
    (if kept.isEmpty then ['0'] else kept, point)

/-- The digits with a point after the first `point` of them. -/
def positionalText (digits : List Char) (point : Int) : String :=
  let n : Int := digits.length
  if point ≤ 0 then "0." ++ String.ofList (List.replicate (-point).toNat '0' ++ digits)
  else if n ≤ point then String.ofList (digits ++ List.replicate (point - n).toNat '0') ++ ".0"
  else String.ofList (digits.take point.toNat) ++ "." ++ String.ofList (digits.drop point.toNat)

/-- The digits with the point after the first of them and a power of ten of at least two digits. -/
def exponentText (digits : List Char) (point : Int) : String :=
  let power := point - 1
  let size := toString power.natAbs
  let tail := digits.drop 1
  String.ofList (digits.take 1) ++ (if tail.isEmpty then "" else "." ++ String.ofList tail) ++
    "e" ++ (if power < 0 then "-" else "+") ++ (if size.length < 2 then "0" ++ size else size)

/-- A double as the fewest digits that read back. -/
def floatText (x : Float) : String :=
  match Exact.ofFloat x with
  | .nan => "nan"
  | .infinite negative => if negative then "-inf" else "inf"
  | .finite negative mantissa exponent =>
    let sign := if negative then "-" else ""
    if mantissa = 0 then sign ++ "0.0"
    else
      let (digits, point) := shortestDigits mantissa exponent
      sign ++ (if -4 < point ∧ point ≤ 16 then positionalText digits point else exponentText digits point)

end SlidePress.Decimal
