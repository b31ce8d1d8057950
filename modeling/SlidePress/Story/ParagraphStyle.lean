import SlidePress.Style.Basic

/-!
# `SlidePress.Story.ParagraphStyle` — how paragraphs are set

Every kind of paragraph of a deck has a style of its own, worked out from the style of the deck.
-/

namespace SlidePress

/-- Where the lines of a paragraph stand. -/
inductive Alignment
  | left
  | centre
deriving DecidableEq, Repr

/-- The properties of a paragraph, all lengths in points. -/
structure ParagraphStyle where
  name : String
  fontName : String
  fontSize : Float
  /-- The distance from one line to the next. -/
  leading : Float
  leftIndent : Float := 0
  rightIndent : Float := 0
  bulletIndent : Float := 0
  spaceBefore : Float := 0
  spaceAfter : Float := 0
  alignment : Alignment := .left
  textColor : Color := .black
deriving DecidableEq, Repr

/-- How high paragraphs are: for a style and a markup, the height in a frame of some width and height. -/
abbrev Wrap := ParagraphStyle → String → Float → Float → Float

/-- The paragraph styles of a deck. -/
structure StyleSheet where
  body : ParagraphStyle
  bullet : ParagraphStyle
  quote : ParagraphStyle
  code : ParagraphStyle
  math : ParagraphStyle
  subheading : ParagraphStyle
  slideTitle : ParagraphStyle
  deckTitle : ParagraphStyle
  deckSubtitle : ParagraphStyle
  deckInfo : ParagraphStyle
deriving DecidableEq, Repr

/-- All styles of a deck, in order. -/
def StyleSheet.all (sheet : StyleSheet) : List ParagraphStyle :=
  [sheet.body, sheet.bullet, sheet.quote, sheet.code, sheet.math, sheet.subheading, sheet.slideTitle,
    sheet.deckTitle, sheet.deckSubtitle, sheet.deckInfo]

/-- The distance between lines, as a share of the font size. -/
def lineSpacing : Float := 1.25

/-- The paragraph styles that belong to the style of a deck. -/
def Style.sheet (s : Style) : StyleSheet :=
  let body : ParagraphStyle :=
    { name := "Body", fontName := s.textFont, fontSize := s.fontSize, leading := s.fontSize * lineSpacing
      spaceAfter := s.fontSize * 0.4 }
  { body
    bullet :=
      { body with
        name := "Bullet", leftIndent := s.fontSize * 1.2, bulletIndent := s.fontSize * 0.3
        spaceAfter := s.fontSize * 0.2 }
    quote :=
      { body with
        name := "Quote", leftIndent := s.fontSize * 1.5, rightIndent := s.fontSize * 1.5, textColor := s.color }
    code :=
      { name := "Code", fontName := s.monoFont, fontSize := s.monoSize, leading := s.monoSize * lineSpacing
        leftIndent := s.fontSize * 0.5, spaceBefore := s.fontSize * 0.2, spaceAfter := s.fontSize * 0.4 }
    math :=
      { body with
        name := "Math", fontName := s.mathFont, alignment := .centre, spaceBefore := s.fontSize * 0.2 }
    subheading :=
      { body with
        name := "Subheading", fontName := s.headingFont, textColor := s.color, spaceBefore := s.fontSize * 0.3
        spaceAfter := s.fontSize * 0.2 }
    slideTitle :=
      { name := "SlideTitle", fontName := s.headingFont, fontSize := s.headingSize
        leading := s.headingSize * lineSpacing, textColor := s.color }
    deckTitle :=
      { name := "DeckTitle", fontName := s.headingFont, fontSize := s.headingSize * 1.4
        leading := s.headingSize * 1.4 * lineSpacing, alignment := .centre, textColor := s.color }
    deckSubtitle :=
      { name := "DeckSubtitle", fontName := s.textFont, fontSize := s.headingSize
        leading := s.headingSize * lineSpacing, alignment := .centre }
    deckInfo :=
      { name := "DeckInfo", fontName := s.textFont, fontSize := s.fontSize, leading := s.fontSize * lineSpacing
        alignment := .centre } }

end SlidePress
