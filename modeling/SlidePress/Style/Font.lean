import SlidePress.Config.Load
import SlidePress.Log
import SlidePress.Style.Library

/-!
# `SlidePress.Style.Font` — fonts, and the widths of texts in them

A font is found by its name, or read from a file and registered under the name of the file first. A file is only read
when no font of its name is registered yet. Texts are measured in a font by its name.
-/

namespace SlidePress

/-! ## Looking up fonts -/

/-- The suffixes of font files. -/
def fontSuffixes : List String := [".ttf", ".otf"]

/-- Whether a value names a font file. -/
def isFontFile (value : String) : Bool := fontSuffixes.contains ((Path.parse value).suffix.map Char.toLower)

/-- The name of the font that a value stands for, and the registry afterwards. A font file gives the font named like it;
any other value is a name itself. -/
def FontRegistry.resolve (registry : FontRegistry) (value : String) (library : StyleLibrary := .usual) :
    Except ConfigError (String × Journal) × FontRegistry :=
  if isFontFile value then
    let path := Path.parse value
    if registry.contains path.stem then (.ok (path.stem, []), registry)
    else
      match library.read registry path.stem path with
      | (.ok (), fonts) => (.ok (path.stem, [⟨.info, s!"Registered font {path.stem} from {path.text}"⟩]), fonts)
      | (.error fault, fonts) => (.error (.unreadableFont value fault.text), fonts)
  else
    match library.find registry value with
    | (.ok (), fonts) => (.ok (value, []), fonts)
    | (.error _, fonts) => (.error (.unknownFont value), fonts)

/-! ## Measuring -/

/-- Why a text cannot be measured. -/
inductive MeasureError
  /-- The library gives no width. -/
  | unmeasured (text font : String) (size : Number) (reason : String)
  /-- The measure refuses this text. -/
  | refused (text : String)
deriving DecidableEq, Repr

/-- What is said of a text that cannot be measured. -/
def MeasureError.message : MeasureError → String
  | .unmeasured text font size reason => s!"Cannot measure {Text.quoted text} in {font} {size.text}pt: {reason}"
  | .refused text => s!"cannot measure {text}"

/-- A way to measure texts. -/
abbrev Measure (α : Type) := String → Except MeasureError α

/-- The measure for a font and a size. -/
def StyleLibrary.measure (library : StyleLibrary) (fonts : FontRegistry) (font : String) (size : Number) :
    Measure Float := fun text =>
  match library.width fonts font size text with
  | .ok width => .ok width
  | .error fault => .error (.unmeasured text font size fault.text)

end SlidePress
