import SlidePress.Text.Blank
import SlidePress.Text.Digit

/-!
# `SlidePress.Decimal.Read` — reading numbers

A decimal numeral is read as the nearest double, and one that is too large as infinity. A whole number is read as it is.
-/

namespace SlidePress.Decimal

/-- The double nearest to `± digits · 10 ^ power`. Beyond the range of doubles the power is not worked out. -/
def nearest (negative : Bool) (digits : Nat) (power : Int) : Float :=
  let size : Int := (toString digits).length + power
  let magnitude : Float :=
    if digits = 0 ∨ size < -400 then 0
    else if 400 < size then 1 / 0
    else if power < 0 then Float.ofScientific digits true power.natAbs
    else Float.ofScientific digits false power.natAbs
  if negative then -magnitude else magnitude

/-- The number that a run of ASCII digits writes. -/
def digitsValue (cs : List Char) : Nat := cs.foldl (fun n c => 10 * n + (c.toNat - '0'.toNat)) 0

/-- The parts of a numeral: the digits before and after the point, and the power of ten. -/
structure Numeral where
  negative : Bool
  whole : List Char
  fraction : Option (List Char)
  power : Option Int
deriving DecidableEq, Repr

/-- The double nearest to a numeral. -/
def Numeral.toFloat (n : Numeral) : Float :=
  let fraction := n.fraction.getD []
  nearest n.negative (digitsValue (n.whole ++ fraction)) (n.power.getD 0 - fraction.length)

/-- A sign at the front of a text, and the rest. -/
def scanSign : List Char → Bool × List Char
  | '-' :: rest => (true, rest)
  | '+' :: rest => (false, rest)
  | cs => (false, cs)

/-- A power of ten at the front of a text: `e`, a sign or none, and at least one digit. -/
def scanPower : List Char → Option Int × List Char
  | [] => (none, [])
  | c :: rest =>
    if c = 'e' ∨ c = 'E' then
      let (negative, digits) := scanSign rest
      let run := digits.takeWhile Char.isDigit
      if run.isEmpty then (none, c :: rest)
      else
        let size : Int := digitsValue run
        (some (if negative then -size else size), digits.dropWhile Char.isDigit)
    else (none, c :: rest)

/-- A text that is a numeral from end to end: a sign or none, digits with at most one point among them or at
either end, at least one digit, and a power of ten or none. -/
def readNumeral? (cs : List Char) : Option Numeral :=
  let (negative, body) := scanSign cs
  let whole := body.takeWhile Char.isDigit
  let afterWhole := body.dropWhile Char.isDigit
  let (fraction, afterPoint) : Option (List Char) × List Char := match afterWhole with
    | '.' :: rest => (some (rest.takeWhile Char.isDigit), rest.dropWhile Char.isDigit)
    | rest => (none, rest)
  let (power, left) := scanPower afterPoint
  if left.isEmpty && !(whole.isEmpty && (fraction.getD []).isEmpty) then
    some ⟨negative, whole, fraction, power⟩
  else none

/-- A text that names a double: a numeral, `inf`, `infinity` or `nan`, the words in any case and with a sign. -/
def readFloat? (cs : List Char) : Option Float :=
  let (negative, body) := scanSign cs
  let word := String.ofList (body.map Char.toLower)
  if word = "inf" ∨ word = "infinity" then some (if negative then -(1 / 0) else 1 / 0)
  else if word = "nan" then some (0 / 0)
  else (readNumeral? cs).map Numeral.toFloat

/-- A text that is a whole number: a sign or none, and the digits of any script with single underscores between some of
them, white space around it left out. -/
def readWhole? (cs : List Char) : Option Int := do
  let (negative, body) := scanSign (Text.trim cs)
  let digits ← Text.joinedDigits? Text.isDigit body
  match Text.numeral digits with
  | .ok n => return if negative then -(n : Int) else n
  | .error _ => none

end SlidePress.Decimal
