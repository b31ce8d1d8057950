/-!
# `SlidePress.Text.Case` — words in either case

Names are compared without regard to case. Besides the ASCII letters there are three letters whose other case is an
ASCII letter: the Kelvin sign, the dotless i and the long s.
-/

namespace SlidePress.Text

/-- A character in lower case, as far as its lower case is an ASCII letter. -/
def lowerChar (c : Char) : Char := if c = '\u212A' then 'k' else c.toLower

/-- A character in upper case, as far as its upper case is an ASCII letter. -/
def upperChar (c : Char) : Char :=
  if c = '\u0131' then 'I' else if c = '\u017F' then 'S' else c.toUpper

/-- A text in lower case. -/
def lower (s : String) : String := String.ofList (s.toList.map lowerChar)

/-- A text in upper case. -/
def upper (s : String) : String := String.ofList (s.toList.map upperChar)

end SlidePress.Text
