import SlidePress.Decimal.Exact

/-!
# `SlidePress.Decimal.Fixed` — a fixed number of places

A double is written with, or rounded to, a given number of decimal places. Both start from its exact value, and
an exact half goes to the even neighbour.
-/

namespace SlidePress.Decimal

/-- The value `mantissa · 2 ^ exponent` in units of the last of `places` decimal places, rounded. -/
def scaled (places mantissa : Nat) (exponent : Int) : Nat :=
  let (num, den) := ratio mantissa exponent
  roundRatio (num * Nat.pow 10 places) den

/-- A whole number of units of the last place, with a point before that many digits. -/
def placedText (places units : Nat) : String :=
  let whole := toString (units / Nat.pow 10 places)
  if places = 0 then whole
  else
    let digits := (toString (units % Nat.pow 10 places)).toList
    whole ++ "." ++ String.ofList (List.replicate (places - digits.length) '0' ++ digits)

/-- A double with a fixed number of decimal places; a value that rounds to zero keeps its sign. -/
def fixedText (places : Nat) (x : Float) : String :=
  match Exact.ofFloat x with
  | .nan => "nan"
  | .infinite negative => if negative then "-inf" else "inf"
  | .finite negative mantissa exponent =>
    (if negative then "-" else "") ++ placedText places (scaled places mantissa exponent)

/-- A double rounded to a number of decimal places: the nearest double to the nearest such decimal. What is not
finite stays as it is. -/
def roundTo (places : Nat) (x : Float) : Float :=
  match Exact.ofFloat x with
  | .nan | .infinite _ => x
  | .finite negative mantissa exponent =>
    let rounded := Float.ofScientific (scaled places mantissa exponent) true places
    if negative then -rounded else rounded

end SlidePress.Decimal
