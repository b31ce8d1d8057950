import SlidePress.Config.Load
import SlidePress.Decimal.Fixed
import SlidePress.Style.Color
import SlidePress.Style.Font

/-!
# `SlidePress.Style.Basic` — from settings to the values that are drawn with

Settings that stand for others are replaced by what they stand for, the colour and the fonts are looked up, and sizes
that depend on the font size are worked out.
-/

namespace SlidePress

/-- The values that a deck is drawn with. -/
structure Style where
  title : String
  subtitle : String
  shortTitle : String
  author : String
  shortAuthor : String
  institute : String
  shortInstitute : String
  date : String
  color : Color
  fontSize : Float
  textFont : String
  headingFont : String
  monoFont : String
  mathFont : String
  headingSize : Float
  monoSize : Float
  chromeSize : Float
  pageWidth : Float
  pageHeight : Float
deriving DecidableEq, Repr

/-- The footer text: the short author and the short institute, as far as there are any. -/
def Style.identity (s : Style) : String :=
  String.intercalate " · " ([s.shortAuthor, s.shortInstitute].filter (· ≠ ""))

/-- The width and height of a page, in points. -/
def AspectRatio.pageSize : AspectRatio → Float × Float
  | .wide => (841.89, 473.56)
  | .standard => (793.70, 595.28)

/-- A text, or another one where it is the word `auto`. -/
def fallback (value default : String) : String := if value = auto then default else value

/-- A size, or a share of the font size, rounded to two places, where it is `auto`. -/
def autoSize (size : Size) (fontSize ratio : Float) : Float :=
  match size with
  | .auto => Decimal.roundTo 2 (fontSize * ratio)
  | .points x => x

/-- The share of the font size that headings have. -/
def headingRatio : Float := 1.2

/-- The share of the font size that code has. -/
def monoRatio : Float := 0.8

/-- The share of the font size that header and footer have. -/
def chromeRatio : Float := 0.5

/-- What resolving works on: the registered fonts and the journal. -/
structure Desk where
  fonts : FontRegistry := .initial
  journal : Journal := []
deriving DecidableEq, Repr

/-- A step of resolving. What it did to the desk stays, also where it fails. -/
abbrev Resolving := ExceptT ConfigError (StateM Desk)

/-- Adds a record to the journal. -/
def Resolving.log (record : LogRecord) : Resolving Unit :=
  modify fun desk => { desk with journal := desk.journal ++ [record] }

/-- The colour that a value describes. -/
def Resolving.color (library : StyleLibrary) (value : String) : Resolving Color :=
  match library.color? value with
  | some color => pure color
  | none => throw (.unknownColor value)

/-- The font that a value stands for. -/
def Resolving.font (library : StyleLibrary) (value : String) : Resolving String := do
  let desk ← get
  match desk.fonts.resolve value library with
  | (.ok (name, records), fonts) =>
    set { desk with fonts, journal := desk.journal ++ records }
    return name
  | (.error e, fonts) =>
    set { desk with fonts }
    throw e

/-- The style of a configuration with the given colour and fonts. -/
def Config.styleWith (c : Config) (color : Color) (text heading mono math : String) : Style where
  title := c.title
  subtitle := c.subtitle
  shortTitle := fallback c.shortTitle c.title
  author := c.author
  shortAuthor := fallback c.shortAuthor c.author
  institute := c.institute
  shortInstitute := c.shortInstitute
  date := c.date
  color := color
  fontSize := c.fontSize
  textFont := text
  headingFont := heading
  monoFont := mono
  mathFont := math
  headingSize := autoSize c.headingSize c.fontSize headingRatio
  monoSize := autoSize c.monoSize c.fontSize monoRatio
  chromeSize := autoSize c.chromeSize c.fontSize chromeRatio
  pageWidth := c.aspectRatio.pageSize.1
  pageHeight := c.aspectRatio.pageSize.2

/-- The style of a configuration: the colour is looked up first, then the fonts in order. -/
def Config.resolve (c : Config) (library : StyleLibrary) : Resolving Style := do
  let color ← Resolving.color library c.color
  let text ← Resolving.font library c.textFont
  let heading ← Resolving.font library c.headingFont
  let mono ← Resolving.font library c.monoFont
  let math ← Resolving.font library c.mathFont
  let size := Decimal.floatText c.fontSize
  Resolving.log ⟨.debug, s!"Resolved style: {c.aspectRatio.name}, {size}pt, fonts={text}/{heading}"⟩
  return c.styleWith color text heading mono math

/-- The outcome of resolving a configuration, and the desk afterwards. -/
def Config.resolveOn (c : Config) (desk : Desk) (library : StyleLibrary := .usual) : Except ConfigError Style × Desk :=
  (c.resolve library).run.run desk

end SlidePress
