/-!
# `SlidePress.Text.Digit` — decimal digits of every script

A number may be written with the decimal digits of any script. Each script has ten digits in a row, so a table
of the zeros is enough.
-/

namespace SlidePress.Text

/-- The code points of the digit zero in each script of Unicode 14; the digits one to nine follow each of them. -/
def decimalZeros : List Nat :=
  [
    0x30, 0x660, 0x6F0, 0x7C0, 0x966, 0x9E6, 0xA66, 0xAE6, 0xB66, 0xBE6, 0xC66, 0xCE6, 0xD66, 0xDE6, 0xE50, 0xED0,
    0xF20, 0x1040, 0x1090, 0x17E0, 0x1810, 0x1946, 0x19D0, 0x1A80, 0x1A90, 0x1B50, 0x1BB0, 0x1C40, 0x1C50, 0xA620,
    0xA8D0, 0xA900, 0xA9D0, 0xA9F0, 0xAA50, 0xABF0, 0xFF10, 0x104A0, 0x10D30, 0x11066, 0x110F0, 0x11136, 0x111D0,
    0x112F0, 0x11450, 0x114D0, 0x11650, 0x116C0, 0x11730, 0x118E0, 0x11950, 0x11C50, 0x11D50, 0x11DA0, 0x16A60,
    0x16AC0, 0x16B50, 0x1D7CE, 0x1D7D8, 0x1D7E2, 0x1D7EC, 0x1D7F6, 0x1E140, 0x1E2F0, 0x1E950, 0x1FBF0
  ]

/-- The value of a decimal digit. -/
def digitValue? (c : Char) : Option Nat :=
  decimalZeros.findSome? fun low =>
    if low ≤ c.toNat ∧ c.toNat < low + 10 then some (c.toNat - low) else none

/-- Whether a character is a decimal digit of some script. -/
def isDigit (c : Char) : Bool := (digitValue? c).isSome

/-- An ASCII digit has the value that its code point says. -/
theorem digitValue?_ascii : ∀ d < 10, digitValue? (Char.ofNat (48 + d)) = some d := by decide

/-- The digits of a written number, with single underscores between them left out; nothing where an underscore stands
elsewhere, where there is no digit, and where there is anything else. -/
def joinedDigits? (isDigit : Char → Bool) : List Char → Option (List Char)
  | [] => none
  | [c] => if isDigit c then some [c] else none
  | c :: '_' :: rest => if isDigit c then (joinedDigits? isDigit rest).map (c :: ·) else none
  | c :: rest => if isDigit c then (joinedDigits? isDigit rest).map (c :: ·) else none

/-- The number that a run of digits writes, most significant digit first. -/
def numeralValue (cs : List Char) : Nat :=
  cs.foldl (fun n c => 10 * n + (digitValue? c).getD 0) 0

/-- The most digits, leading zeros counted, that a written number may have. -/
def maxDigits : Nat := 4300

/-- A written number with more digits than `maxDigits`. -/
structure NumeralTooLong where
  /-- How many digits it has. -/
  digits : Nat
deriving DecidableEq, Repr

/-- What is said of a number that is too long. -/
def NumeralTooLong.message (e : NumeralTooLong) : String :=
  s!"Exceeds the limit ({maxDigits} digits) for integer string conversion: value has {e.digits} digits; " ++
    "use sys.set_int_max_str_digits() to increase the limit"

/-- The number that a run of digits writes, unless it is too long. -/
def numeral (cs : List Char) : Except NumeralTooLong Nat :=
  if cs.length ≤ maxDigits then .ok (numeralValue cs) else .error ⟨cs.length⟩

end SlidePress.Text
