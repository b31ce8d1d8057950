import SlidePress.Deck.Basic
import SlidePress.Inline.Escape
import SlidePress.Story.ParagraphStyle

/-!
# `SlidePress.Story.Flowable` — what pages are filled with

A story is a list of flowables, which are set one below the other, from page to page.
-/

namespace SlidePress

/-- Something that a page is filled with. -/
inductive Flowable
  /-- Text that is broken into lines; a bullet stands before its first line. -/
  | paragraph (style : ParagraphStyle) (markup : String) (bullet : Option String)
  /-- Text that keeps its lines. -/
  | preformatted (style : ParagraphStyle) (text : String)
  /-- White space. -/
  | spacer (width height : Float)
  /-- A line across the frame. -/
  | rule (thickness : Float) (color : Color) (spaceBefore spaceAfter : Float)
  /-- Ends the page. -/
  | pageBreak
  /-- Has no size; the slide with this index begins here. -/
  | anchor (index : Nat) (slide : Slide)
deriving DecidableEq, Repr

/-- A text, set as it is in a paragraph. -/
def Flowable.textParagraph (style : ParagraphStyle) (text : String) : Flowable :=
  .paragraph style (Inline.escapeText text) none

/-- The thickness of the rule below the title of a slide. -/
def titleRule : Float := 1.2

/-- The space below that rule; above it there is half of it. -/
def titleBandPadding : Float := 6

/-- The title of a slide with a rule in the colour of the deck below it. -/
def Style.titleBand (s : Style) (title : String) : List Flowable :=
  [.textParagraph s.sheet.slideTitle title, .rule titleRule s.color (titleBandPadding / 2) titleBandPadding]

end SlidePress
