import SlidePress.Inline.CodeSpan
import SlidePress.Inline.Escape
import SlidePress.Inline.Nesting
import SlidePress.Log
import SlidePress.Text.Quoted

/-!
# `SlidePress.Inline.Markup` — authored text as paragraph markup

Bold and italic text and code spans become tags; everything else becomes text. Emphasis that overlaps cannot be
nested, and such a text is kept as it was written.
-/

namespace SlidePress.Inline

open Text

/-- The text with entities, and with placeholders for its code spans. -/
def plainMarkup (text : List Char) : List Char := escape (withPlaceholders 0 (pieces text))

/-- Whether the emphasis of a text overlaps, so that its tags do not nest. -/
def overlaps (text : List Char) : Bool := !isBalanced (emphasize (plainMarkup text))

/-- The markup of a text with placeholders for its code spans: with emphasis unless it overlaps. -/
def emphasizedMarkup (text : List Char) : List Char :=
  if overlaps text then plainMarkup text else emphasize (plainMarkup text)

/-- A code span, in the font for code. -/
def fontElement (font content : List Char) : List Char :=
  "<font name=\"".toList ++ font ++ "\">".toList ++ escape content ++ "</font>".toList

/-- The markup of a text. -/
def markupChars (font text : List Char) : Except FillError (List Char) :=
  fill ((codeSpans (pieces text)).map (fontElement font)) (emphasizedMarkup text)

/-- The markup of a text, with its code spans in the given font. -/
def markup (font text : String) : Except FillError String :=
  (markupChars font.toList text.toList).map String.ofList

/-- What is reported about a text: that its emphasis overlaps. -/
def markupJournal (text : String) : Journal :=
  if overlaps text.toList then
    [⟨.warning, s!"Overlapping emphasis kept as plain text: {quoted text}"⟩]
  else []

end SlidePress.Inline
