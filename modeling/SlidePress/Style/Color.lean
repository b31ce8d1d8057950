import SlidePress.Decimal.Read
import SlidePress.Text.Blank
import SlidePress.Text.Case
import SlidePress.Text.Digit
import SlidePress.Text.Lines

/-!
# `SlidePress.Style.Color` — colours

A colour is authored as a name, as a function of its parts, or as a number with two hexadecimal digits for each part.
-/

namespace SlidePress

/-- A colour, every part from 0 to 1. -/
structure Color where
  red : Float
  green : Float
  blue : Float
  opacity : Float := 1
deriving DecidableEq, Repr

namespace Color

open Text

/-- Opaque white. -/
def white : Color := ⟨1, 1, 1, 1⟩

/-- Opaque black. -/
def black : Color := ⟨0, 0, 0, 1⟩

/-- A part given as a number from 0 to 255. -/
def part (n : Nat) : Float := Float.ofNat n / 255

/-- The opaque colour whose parts are the last three bytes of a number, in two's complement. -/
def ofCode (code : Int) : Color :=
  let low := (code % 0x1000000).toNat
  ⟨part (low / 0x10000), part (low / 0x100 % 0x100), part (low % 0x100), 1⟩

/-- The colours with a name. -/
def namedColors : List (String × Nat) :=
  [
    ("aliceblue", 0xf0f8ff), ("antiquewhite", 0xfaebd7), ("aqua", 0x00ffff), ("aquamarine", 0x7fffd4),
    ("azure", 0xf0ffff), ("beige", 0xf5f5dc), ("bisque", 0xffe4c4), ("black", 0x000000), ("blanchedalmond", 0xffebcd),
    ("blue", 0x0000ff), ("blueviolet", 0x8a2be2), ("brown", 0xa52a2a), ("burlywood", 0xdeb887),
    ("cadetblue", 0x5f9ea0), ("chartreuse", 0x7fff00), ("chocolate", 0xd2691e), ("coral", 0xff7f50),
    ("cornflowerblue", 0x6495ed), ("cornsilk", 0xfff8dc), ("crimson", 0xdc143c), ("cyan", 0x00ffff),
    ("darkblue", 0x00008b), ("darkcyan", 0x008b8b), ("darkgoldenrod", 0xb8860b), ("darkgray", 0xa9a9a9),
    ("darkgreen", 0x006400), ("darkgrey", 0xa9a9a9), ("darkkhaki", 0xbdb76b), ("darkmagenta", 0x8b008b),
    ("darkolivegreen", 0x556b2f), ("darkorange", 0xff8c00), ("darkorchid", 0x9932cc), ("darkred", 0x8b0000),
    ("darksalmon", 0xe9967a), ("darkseagreen", 0x8fbc8b), ("darkslateblue", 0x483d8b), ("darkslategray", 0x2f4f4f),
    ("darkslategrey", 0x2f4f4f), ("darkturquoise", 0x00ced1), ("darkviolet", 0x9400d3), ("deeppink", 0xff1493),
    ("deepskyblue", 0x00bfff), ("dimgray", 0x696969), ("dimgrey", 0x696969), ("dodgerblue", 0x1e90ff),
    ("firebrick", 0xb22222), ("floralwhite", 0xfffaf0), ("forestgreen", 0x228b22), ("fuchsia", 0xff00ff),
    ("gainsboro", 0xdcdcdc), ("ghostwhite", 0xf8f8ff), ("gold", 0xffd700), ("goldenrod", 0xdaa520),
    ("gray", 0x808080), ("green", 0x008000), ("greenyellow", 0xadff2f), ("grey", 0x808080), ("honeydew", 0xf0fff0),
    ("hotpink", 0xff69b4), ("indianred", 0xcd5c5c), ("indigo", 0x4b0082), ("ivory", 0xfffff0), ("khaki", 0xf0e68c),
    ("lavender", 0xe6e6fa), ("lavenderblush", 0xfff0f5), ("lawngreen", 0x7cfc00), ("lemonchiffon", 0xfffacd),
    ("lightblue", 0xadd8e6), ("lightcoral", 0xf08080), ("lightcyan", 0xe0ffff), ("lightgoldenrodyellow", 0xfafad2),
    ("lightgray", 0xd3d3d3), ("lightgreen", 0x90ee90), ("lightgrey", 0xd3d3d3), ("lightpink", 0xffb6c1),
    ("lightsalmon", 0xffa07a), ("lightseagreen", 0x20b2aa), ("lightskyblue", 0x87cefa), ("lightslategray", 0x778899),
    ("lightslategrey", 0x778899), ("lightsteelblue", 0xb0c4de), ("lightyellow", 0xffffe0), ("lime", 0x00ff00),
    ("limegreen", 0x32cd32), ("linen", 0xfaf0e6), ("magenta", 0xff00ff), ("maroon", 0x800000),
    ("mediumaquamarine", 0x66cdaa), ("mediumblue", 0x0000cd), ("mediumorchid", 0xba55d3), ("mediumpurple", 0x9370db),
    ("mediumseagreen", 0x3cb371), ("mediumslateblue", 0x7b68ee), ("mediumspringgreen", 0x00fa9a),
    ("mediumturquoise", 0x48d1cc), ("mediumvioletred", 0xc71585), ("midnightblue", 0x191970), ("mintcream", 0xf5fffa),
    ("mistyrose", 0xffe4e1), ("moccasin", 0xffe4b5), ("navajowhite", 0xffdead), ("navy", 0x000080),
    ("oldlace", 0xfdf5e6), ("olive", 0x808000), ("olivedrab", 0x6b8e23), ("orange", 0xffa500),
    ("orangered", 0xff4500), ("orchid", 0xda70d6), ("palegoldenrod", 0xeee8aa), ("palegreen", 0x98fb98),
    ("paleturquoise", 0xafeeee), ("palevioletred", 0xdb7093), ("papayawhip", 0xffefd5), ("peachpuff", 0xffdab9),
    ("peru", 0xcd853f), ("pink", 0xffc0cb), ("plum", 0xdda0dd), ("powderblue", 0xb0e0e6), ("purple", 0x800080),
    ("red", 0xff0000), ("rosybrown", 0xbc8f8f), ("royalblue", 0x4169e1), ("saddlebrown", 0x8b4513),
    ("salmon", 0xfa8072), ("sandybrown", 0xf4a460), ("seagreen", 0x2e8b57), ("seashell", 0xfff5ee),
    ("sienna", 0xa0522d), ("silver", 0xc0c0c0), ("skyblue", 0x87ceeb), ("slateblue", 0x6a5acd),
    ("slategray", 0x708090), ("slategrey", 0x708090), ("snow", 0xfffafa), ("springgreen", 0x00ff7f),
    ("steelblue", 0x4682b4), ("tan", 0xd2b48c), ("teal", 0x008080), ("thistle", 0xd8bfd8), ("tomato", 0xff6347),
    ("turquoise", 0x40e0d0), ("violet", 0xee82ee), ("wheat", 0xf5deb3), ("white", 0xffffff), ("whitesmoke", 0xf5f5f5),
    ("yellow", 0xffff00), ("yellowgreen", 0x9acd32)
  ]

/-- The colour with a name. -/
def ofName? (name : String) : Option Color :=
  (namedColors.find? fun entry => entry.1 = name).map fun entry => ofCode entry.2

/-! ## Functions -/

/-- Whether a value lies in a range; not-a-number does not. -/
def inRange (low high x : Float) : Bool := low ≤ x && x ≤ high

/-- The number that an argument is. -/
def argument? (cs : List Char) : Option Float := Decimal.readFloat? (trim cs)

/-- A part as a fraction of one. -/
def fractionPart? (cs : List Char) : Option Float := do
  let x ← argument? cs
  if inRange 0 1 x then some x else none

/-- A part as a percentage, to the nearest of 255 steps. -/
def percentPart? (cs : List Char) : Option Float := do
  let x ← argument? (cs.filter (· ≠ '%'))
  if inRange 0 100 x then some ((x / 100 * 255 + 0.5).floor / 255) else none

/-- A part as a number of 255 steps. -/
def stepPart? (cs : List Char) : Option Float := do
  let x ← argument? cs
  if inRange 0 255 x then some (x.floor / 255) else none

/-- The arguments of a function: separated by commas if there is one, and by white space if there is none. -/
def arguments (cs : List Char) : List (List Char) :=
  if cs.contains ',' then splitOn ',' cs else words cs

/-- The three parts, all of one kind: percentages if there is a percent sign, else fractions if there is a point, else
steps. -/
def parts? (red green blue : List Char) : Option (Float × Float × Float) := do
  let all := red ++ green ++ blue
  let read := if all.contains '%' then percentPart? else if all.contains '.' then fractionPart? else stepPart?
  return (← read red, ← read green, ← read blue)

/-- The inside of the brackets of a function with the given name, white space around it left out. -/
def functionBody? (name : List Char) (cs : List Char) : Option (List Char) :=
  let cs := trim cs
  if name.isPrefixOf cs then
    match trimLeft (cs.drop name.length) with
    | '(' :: rest =>
      match rest.reverse with
      | ')' :: inner => some inner.reverse
      | _ => none
    | _ => none
  else none

/-- A colour written as a function of its three parts, or of its three parts and its opacity. -/
def ofFunction? (cs : List Char) : Option Color :=
  match functionBody? ['r', 'g', 'b', 'a'] cs with
  | some body =>
    match arguments body with
    | [red, green, blue, opacity] => do
      let (r, g, b) ← parts? red green blue
      return ⟨r, g, b, ← fractionPart? opacity⟩
    | _ => none
  | none =>
    match functionBody? ['r', 'g', 'b'] cs with
    | some body =>
      match arguments body with
      | [red, green, blue] => do
        let (r, g, b) ← parts? red green blue
        return ⟨r, g, b, 1⟩
      | _ => none
    | none => none

/-! ## Numbers -/

/-- The value of a hexadecimal digit. -/
def hexDigit? (c : Char) : Option Nat :=
  if 'a' ≤ c ∧ c ≤ 'f' then some (c.toNat - 'a'.toNat + 10)
  else if 'A' ≤ c ∧ c ≤ 'F' then some (c.toNat - 'A'.toNat + 10)
  else digitValue? c

/-- Hexadecimal digits without a zero and an x before them. -/
def withoutMarker : List Char → List Char
  | '0' :: 'x' :: digits | '0' :: 'X' :: digits => if digits.head? = some '_' then digits.drop 1 else digits
  | digits => digits

/-- A number in hexadecimal digits, with a sign or none, white space around it left out. -/
def hexadecimal? (cs : List Char) : Option Int := do
  let (negative, body) := Decimal.scanSign (trim cs)
  let digits ← joinedDigits? (fun c => (hexDigit? c).isSome) (withoutMarker body)
  let n : Nat := (digits.filterMap hexDigit?).foldl (fun n d => 16 * n + d) 0
  return if negative then -(n : Int) else n

/-- A colour written as a number: hexadecimal after `#` or `0x`, decimal otherwise. -/
def ofNumber? (cs : List Char) : Option Color :=
  match cs with
  | '#' :: digits => (hexadecimal? digits).map ofCode
  | '0' :: 'x' :: digits | '0' :: 'X' :: digits => (hexadecimal? digits).map ofCode
  | digits => (Decimal.readWhole? digits).map ofCode

/-! ## All forms -/

/-- The colour that a text describes: a function, a name in any case, a name in lower case before white space, or a
number before white space. -/
def parse? (text : String) : Option Color :=
  let cs := text.toList
  match ofFunction? cs with
  | some color => some color
  | none =>
    match ofName? (lower text) with
    | some color => some color
    | none =>
      match ofName? (String.ofList (trimRight cs)) with
      | some color => some color
      | none => ofNumber? cs

end Color

end SlidePress
