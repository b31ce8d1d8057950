import SlidePress.Json.Basic
import SlidePress.Decimal.Read
import SlidePress.Text.Digit

/-!
# `SlidePress.Json.Parser` — reading JSON values

The grammar is the strict one: no control characters inside texts, no comma before a closing bracket, nothing
after the value but white space. `NaN`, `Infinity` and `-Infinity` are numbers, a repeated key keeps its first
place and takes the last value, and a whole number may have at most `Text.maxDigits` digits.

Brackets may be nested only so deep: every bracket that opens takes one unit of the room for nesting, and gives it back
when it closes. How much room there is depends on who asks for the value.
-/

namespace SlidePress

namespace Json

/-- What stands in brackets. -/
inductive Container
  | array
  | object
deriving DecidableEq, Repr

/-- Why a text is no JSON value. -/
inductive ParseError
  | malformed
  | numeralTooLong (numeral : Text.NumeralTooLong)
  /-- There is no room for what stands in these brackets. -/
  | nestedTooDeeply (container : Container)
deriving DecidableEq, Repr

/-- What is said of brackets that there is no room for. -/
def Container.tooDeepMessage (container : Container) : String :=
  let name := match container with
    | .array => "array"
    | .object => "object"
  s!"maximum recursion depth exceeded while decoding a JSON {name} from a unicode string"

/-- The white space between the parts of a value. -/
def isSpace (c : Char) : Bool := c = ' ' || c = '\t' || c = '\n' || c = '\r'

/-- The text from its first character on that is no white space. -/
def skipSpace (cs : List Char) : List Char := cs.dropWhile isSpace

/-! ## Texts -/

/-- The value of a hexadecimal digit. -/
def hexValue? (c : Char) : Option Nat :=
  if '0' ≤ c ∧ c ≤ '9' then some (c.toNat - '0'.toNat)
  else if 'a' ≤ c ∧ c ≤ 'f' then some (c.toNat - 'a'.toNat + 10)
  else if 'A' ≤ c ∧ c ≤ 'F' then some (c.toNat - 'A'.toNat + 10)
  else none

/-- The value of four hexadecimal digits. -/
def hexUnit? (a b c d : Char) : Option Nat := do
  let a ← hexValue? a
  let b ← hexValue? b
  let c ← hexValue? c
  let d ← hexValue? d
  return ((a * 16 + b) * 16 + c) * 16 + d

/-- The character that a letter after a backslash stands for. -/
def unescape? (c : Char) : Option Char :=
  if c = '"' ∨ c = '\\' ∨ c = '/' then some c
  else if c = 'n' then some '\n'
  else if c = 'r' then some '\r'
  else if c = 't' then some '\t'
  else if c = 'b' then some '\x08'
  else if c = 'f' then some '\x0c'
  else none

/-- A text up to its closing quote, and what follows the quote. An escaped code unit may be half of a pair, so
the text comes as code units. -/
def scanString : List Char → Option (List Nat × List Char)
  | [] => none
  | '"' :: rest => some ([], rest)
  | '\\' :: 'u' :: a :: b :: c :: d :: rest => do
    let unit ← hexUnit? a b c d
    let (units, rest) ← scanString rest
    return (unit :: units, rest)
  | '\\' :: e :: rest => do
    let c ← unescape? e
    let (units, rest) ← scanString rest
    return (c.toNat :: units, rest)
  | c :: rest => do
    if c.toNat < 0x20 then none
    let (units, rest) ← scanString rest
    return (c.toNat :: units, rest)

/-- The characters of code units: a high and a low half next to each other are one character, and a half alone
is shown as U+FFFD. -/
def joinSurrogates : List Nat → List Char
  | [] => []
  | [unit] => [if 0xD800 ≤ unit ∧ unit < 0xE000 then '\ufffd' else Char.ofNat unit]
  | high :: low :: rest =>
    if 0xD800 ≤ high ∧ high < 0xDC00 ∧ 0xDC00 ≤ low ∧ low < 0xE000 then
      Char.ofNat (0x10000 + (high - 0xD800) * 0x400 + (low - 0xDC00)) :: joinSurrogates rest
    else
      (if 0xD800 ≤ high ∧ high < 0xE000 then '\ufffd' else Char.ofNat high) :: joinSurrogates (low :: rest)

/-- A text up to its closing quote, and what follows the quote. -/
def parseString (cs : List Char) : Except ParseError (String × List Char) :=
  match scanString cs with
  | some (units, rest) => .ok (String.ofList (joinSurrogates units), rest)
  | none => .error .malformed

/-! ## Numbers -/

/-- The whole part of a number: a zero alone, or digits that do not start with one. -/
def scanWhole : List Char → Option (List Char × List Char)
  | '0' :: rest => some (['0'], rest)
  | cs =>
    let run := cs.takeWhile Char.isDigit
    if run.isEmpty then none else some (run, cs.dropWhile Char.isDigit)

/-- The fraction of a number: a point and at least one digit. -/
def scanFraction : List Char → Option (List Char) × List Char
  | '.' :: rest =>
    let run := rest.takeWhile Char.isDigit
    if run.isEmpty then (none, '.' :: rest) else (some run, rest.dropWhile Char.isDigit)
  | cs => (none, cs)

/-- A number at the front of a text, and the rest: whole unless it has a fraction or a power of ten. -/
def parseNumber (cs : List Char) : Except ParseError (Number × List Char) :=
  let (negative, body) := match cs with
    | '-' :: rest => (true, rest)
    | cs => (false, cs)
  match scanWhole body with
  | none => .error .malformed
  | some (whole, rest) =>
    let (fraction, rest) := scanFraction rest
    let (power, rest) := Decimal.scanPower rest
    if fraction.isNone && power.isNone then
      match Text.numeral whole with
      | .ok n => .ok (.int (if negative then -(n : Int) else n), rest)
      | .error long => .error (.numeralTooLong long)
    else .ok (.float (Decimal.Numeral.toFloat ⟨negative, whole, fraction, power⟩), rest)

/-! ## Values -/

/-- The rest of a text after a word at its front. -/
def afterWord? (word : String) (cs : List Char) : Option (List Char) :=
  if word.toList.isPrefixOf cs then some (cs.drop word.toList.length) else none

/-- The values that are written as a word. -/
def wordValues : List (String × Json) :=
  [("null", .null), ("true", .bool true), ("false", .bool false), ("NaN", .num (.float (0 / 0))),
    ("Infinity", .num (.float (1 / 0))), ("-Infinity", .num (.float (-(1 / 0))))]

/-- A value that is a word or a number. -/
def parseScalar (cs : List Char) : Except ParseError (Json × List Char) :=
  match wordValues.findSome? fun entry => (afterWord? entry.1 cs).map (entry.2, ·) with
  | some found => .ok found
  | none => (parseNumber cs).map fun (number, rest) => (.num number, rest)

/-- What stands in brackets, read with the room that they leave for more. -/
def inside {α : Type} (container : Container) (room : Nat) (read : Nat → Except ParseError α) : Except ParseError α :=
  match room with
  | 0 => .error (.nestedTooDeeply container)
  | room + 1 => read room

mutual

/-- A value at the front of a text, and the rest. -/
def parseValue : Nat → Nat → List Char → Except ParseError (Json × List Char)
  | _, 0, _ => .error .malformed
  | room, fuel + 1, cs =>
    match cs with
    | '"' :: rest => (parseString rest).map fun (s, rest) => (.str s, rest)
    | '[' :: rest =>
      inside .array room fun room =>
        match skipSpace rest with
        | ']' :: rest => .ok (.arr [], rest)
        | rest => (parseItems room fuel rest).map fun (items, rest) => (.arr items, rest)
    | '\x7b' :: rest =>
      inside .object room fun room =>
        match skipSpace rest with
        | '\x7d' :: rest => .ok (.obj [], rest)
        | rest => (parseMembers room fuel [] rest).map fun (members, rest) => (.obj members, rest)
    | cs => parseScalar cs

/-- The items up to the closing bracket, at least one. -/
def parseItems : Nat → Nat → List Char → Except ParseError (List Json × List Char)
  | _, 0, _ => .error .malformed
  | room, fuel + 1, cs => do
    let (item, rest) ← parseValue room fuel cs
    match skipSpace rest with
    | ']' :: rest => return ([item], rest)
    | ',' :: rest =>
      let (items, rest) ← parseItems room fuel (skipSpace rest)
      return (item :: items, rest)
    | _ => .error .malformed

/-- The members up to the closing bracket, at least one, after the ones already read. -/
def parseMembers : Nat → Nat → Members → List Char → Except ParseError (Members × List Char)
  | _, 0, _, _ => .error .malformed
  | room, fuel + 1, members, cs =>
    match cs with
    | '"' :: rest => do
      let (key, rest) ← parseString rest
      match skipSpace rest with
      | ':' :: rest =>
        let (value, rest) ← parseValue room fuel (skipSpace rest)
        let members := members.put key value
        match skipSpace rest with
        | '\x7d' :: rest => return (members, rest)
        | ',' :: rest => parseMembers room fuel members (skipSpace rest)
        | _ => .error .malformed
      | _ => .error .malformed
    | _ => .error .malformed

end

/-- The room for nesting where nothing else is known: a little less than the thousand calls that may be open at once. -/
def usualRoom : Nat := 990

/-- The value that a text is. Of every two steps of the fuel one consumes a character, so twice the length of the text is
enough. -/
def parse (s : String) (room : Nat := usualRoom) : Except ParseError Json := do
  let cs := s.toList
  let (value, rest) ← parseValue room (2 * cs.length + 1) (skipSpace cs)
  if (skipSpace rest).isEmpty then return value else .error .malformed

end Json

end SlidePress
