/-!
# `SlidePress.Inline.Escape` — markup characters as text

Text becomes part of markup only after the three characters that mean something there are written as entities.
-/

namespace SlidePress.Inline

/-- The text with every `c` replaced by `written`. -/
def substitute (c : Char) (written : List Char) (cs : List Char) : List Char :=
  cs.flatMap fun d => if d = c then written else [d]

/-- The ampersand as an entity. -/
def ampEntity : List Char := ['&', 'a', 'm', 'p', ';']

/-- The less-than sign as an entity. -/
def ltEntity : List Char := ['&', 'l', 't', ';']

/-- The greater-than sign as an entity. -/
def gtEntity : List Char := ['&', 'g', 't', ';']

/-- The text with `&`, `<` and `>` written as entities. -/
def escape (cs : List Char) : List Char :=
  substitute '>' gtEntity (substitute '<' ltEntity (substitute '&' ampEntity cs))

/-- The text with `&`, `<` and `>` written as entities. -/
def escapeText (text : String) : String := String.ofList (escape text.toList)

/-- Replacing commutes with putting texts together. -/
@[simp] theorem substitute_append (c : Char) (written a b : List Char) :
    substitute c written (a ++ b) = substitute c written a ++ substitute c written b :=
  List.flatMap_append

/-- Escaping commutes with putting texts together. -/
@[simp] theorem escape_append (a b : List Char) : escape (a ++ b) = escape a ++ escape b := by
  simp [escape]

end SlidePress.Inline
