import SlidePress.Decimal.Shortest
import SlidePress.Decimal.Whole
import SlidePress.Files.Path
import SlidePress.Json.Basic
import SlidePress.Style.Color
import SlidePress.Style.Metrics
import SlidePress.Text.Quoted

/-!
# `SlidePress.Style.Library` — what a style asks of the layout library

Colours, fonts and the widths of texts come from a library that is not part of this program. What the program asks of it
is the structure `StyleLibrary`, and nothing is taken for granted about the answers: where something is relied on, it is
a named assumption.

`StyleLibrary.usual` is one such library. It answers as the real one does for the common forms of colours, for the
standard fonts and for the font files that come with the library, and it knows no others.
-/

namespace SlidePress

/-! ## Registered fonts -/

/-- The fonts registered so far, the first ones first. -/
structure FontRegistry where
  names : List String
deriving DecidableEq, Repr

namespace FontRegistry

/-- The fonts that are registered from the start. -/
def initial : FontRegistry := ⟨["Helvetica", "Symbol", "ZapfDingbats"]⟩

/-- Whether a font is registered. -/
def contains (registry : FontRegistry) (name : String) : Bool := registry.names.contains name

/-- The registry with a font. -/
def register (registry : FontRegistry) (name : String) : FontRegistry :=
  if registry.contains name then registry else ⟨registry.names ++ [name]⟩

/-- A registered font stays registered. -/
theorem contains_register (registry : FontRegistry) (name other : String) :
    (registry.register name).contains other = (registry.contains other || other == name) := by
  unfold register
  split
  · next h =>
    by_cases e : other = name
    · subst e; simp [h]
    · simp [e]
  · simp [contains, Bool.or_comm, Bool.beq_eq_decide_eq]

end FontRegistry

/-! ## The library -/

/-- An error of the library: its kind, and what it says. -/
structure Fault where
  kind : String
  text : String
deriving DecidableEq, Repr

/-- **What a style asks of the library.** -/
structure StyleLibrary where
  /-- The fonts that are registered from the start. -/
  registered : FontRegistry
  /-- The colour that a value describes. -/
  color? : String → Option Color
  /-- Looks for the font with a name, and what is registered then. -/
  find : FontRegistry → String → Except Fault Unit × FontRegistry
  /-- Reads a font file as the font with a name, and what is registered then. -/
  read : FontRegistry → String → Path → Except Fault Unit × FontRegistry
  /-- The width of a text in a font of some size. -/
  width : FontRegistry → String → Number → String → Except Fault Float

/-- A number as it is shown. -/
def Number.text : Number → String
  | .int n => Decimal.wholeText n
  | .float x => Decimal.floatText x

/-- A number as a double. -/
def Number.value : Number → Float
  | .int n => Decimal.nearest (n < 0) n.natAbs 0
  | .float x => x

/-! ## The usual library -/

namespace FontRegistry

/-- A font that is registered, or needs no file. -/
def findStandard (fonts : FontRegistry) (name : String) : Except Fault Unit × FontRegistry :=
  if fonts.contains name || isStandardFont name then (.ok (), fonts.register name)
  else (.error { kind := "KeyError", text := Text.quoted name }, fonts)

/-- A font file, if it is one of those that can be read. -/
def readAmong (files : List String) (fonts : FontRegistry) (name : String) (path : Path) :
    Except Fault Unit × FontRegistry :=
  if files.contains path.text then (.ok (), fonts.register name)
  else (.error { kind := "TTFError", text := s!"Can't open file \"{path.text}\"" }, fonts)

/-- The widths of the characters of a font. A registered font without known widths counts as one whose characters are
equally wide. -/
def metrics? (fonts : FontRegistry) (font : String) : Option Metrics :=
  match standardFonts.lookup font with
  | some m => some m
  | none => if fonts.contains font then some monospaceMetrics else none

/-- The width of a text in a font whose widths are known. -/
def widthOf (fonts : FontRegistry) (font : String) (size : Number) (text : String) : Except Fault Float :=
  match fonts.metrics? font with
  | some m => .ok (m.textWidth size.value text)
  | none => .error { kind := "KeyError", text := Text.quoted font }

end FontRegistry

namespace StyleLibrary

/-- The usual library, where these font files can be read. -/
def withFiles (files : List String) : StyleLibrary where
  registered := .initial
  color? := Color.parse?
  find := FontRegistry.findStandard
  read := FontRegistry.readAmong files
  width := FontRegistry.widthOf

/-- The usual library. -/
def usual : StyleLibrary := withFiles fontFiles

end StyleLibrary

end SlidePress
