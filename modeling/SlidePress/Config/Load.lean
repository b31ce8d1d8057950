import SlidePress.Config.Validate
import SlidePress.Json.Parser
import SlidePress.Text.Lines
import SlidePress.Text.Quoted

/-!
# `SlidePress.Config.Load` — configurations from files

A configuration file holds a JSON object whose members are the settings. Most of what can be wrong with it is a
configuration error (`ConfigError`); what is wrong before anything looks for JSON in the file, or while its digits and
brackets are counted, is an error of another class (`LoadError`).
-/

namespace SlidePress

/-- Why a configuration cannot be used. -/
inductive ConfigError
  /-- The settings are not acceptable. -/
  | invalid (cause : Config.Invalid)
  /-- The file is missing or holds no JSON. -/
  | unreadable (path : String)
  /-- The file holds something other than an object. -/
  | notAnObject (path : String)
  /-- The colour is none. -/
  | unknownColor (value : String)
  /-- No font has this name. -/
  | unknownFont (value : String)
  /-- The font file cannot be read. -/
  | unreadableFont (value reason : String)
deriving DecidableEq, Repr

/-- What is said of a configuration that cannot be used. -/
def ConfigError.message : ConfigError → String
  | .invalid cause => cause.message
  | .unreadable path => s!"Cannot read deck configuration {path}"
  | .notAnObject path => s!"Deck configuration {path} must be a JSON object"
  | .unknownColor value => s!"Invalid color: {Text.quoted value}"
  | .unknownFont value => s!"Unknown font: {Text.quoted value}"
  | .unreadableFont value reason => s!"Cannot register font file {value}: {reason}"

/-- Why a file gives no configuration. -/
inductive LoadError
  | config (cause : ConfigError)
  /-- The bytes are not UTF-8. -/
  | notUtf8
  /-- A whole number in the file has too many digits. -/
  | numeralTooLong (numeral : Text.NumeralTooLong)
  /-- There is no room for brackets in the file. -/
  | nestedTooDeeply (container : Json.Container)
  /-- There is a null character in the path, which no file has. -/
  | nullInPath
deriving DecidableEq, Repr

/-- What is said of a null character in a path. -/
def nullInPathMessage : String := "embedded null byte"

namespace Config

/-- The configuration that the text of a file gives, with some room for nesting. -/
def ofText (path text : String) (room : Nat := Json.usualRoom) : Except LoadError Config :=
  match Json.parse text room with
  | .error .malformed => .error (.config (.unreadable path))
  | .error (.numeralTooLong numeral) => .error (.numeralTooLong numeral)
  | .error (.nestedTooDeeply container) => .error (.nestedTooDeeply container)
  | .ok (.obj members) => (ofMembers members).mapError fun e => .config (.invalid e)
  | .ok _ => .error (.config (.notAnObject path))

/-- The configuration in a file: its bytes as UTF-8, with every kind of newline as a line feed. -/
def load (path : String) (bytes? : Option ByteArray) (room : Nat := Json.usualRoom) : Except LoadError Config :=
  match bytes? with
  | none => if path.toList.contains '\x00' then .error .nullInPath else .error (.config (.unreadable path))
  | some bytes =>
    match String.fromUTF8? bytes with
    | none => .error .notUtf8
    | some text => ofText path (String.ofList (Text.normalizeNewlines text.toList)) room

end Config

end SlidePress
