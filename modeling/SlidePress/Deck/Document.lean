import SlidePress.Deck.Basic
import SlidePress.Json.Parser
import SlidePress.Json.Printer
import SlidePress.Text.Quoted

/-!
# `SlidePress.Deck.Document` — decks as JSON documents

Blocks, slides and decks have a JSON form. Writing leaves out what has its default (the number of a block that
has none); reading fills defaults in and refuses a block or slide without its required members.
-/

namespace SlidePress

/-- Why a JSON value is no block, slide or deck. -/
inductive DocumentError
  /-- The text is no JSON value. -/
  | notJson (cause : Json.ParseError)
  /-- A required member is missing. -/
  | missing (key : String)
  /-- A name that is none of the block kinds. -/
  | unknownBlockKind (name : String)
  /-- A name that is none of the content kinds. -/
  | unknownContentKind (name : String)
  /-- Something that should be an object, and is not. -/
  | notAnObject
  /-- A member with a value of the wrong type. -/
  | wrongType
deriving DecidableEq, Repr

namespace Document

/-- The members of an object. -/
def members : Json → Except DocumentError Members
  | .obj members => .ok members
  | _ => .error .notAnObject

/-- A text. -/
def text : Json → Except DocumentError String
  | .str s => .ok s
  | _ => .error .wrongType

/-- The text under a required key. -/
def requiredText (object : Members) (key : String) : Except DocumentError String :=
  match object.get? key with
  | none => .error (.missing key)
  | some value => text value

/-- The text under a key, or a default. -/
def textOr (default : String) (object : Members) (key : String) : Except DocumentError String :=
  match object.get? key with
  | none => .ok default
  | some value => text value

/-- The text under a key, absent when the key is or when the value is null. -/
def optionalText (object : Members) (key : String) : Except DocumentError (Option String) :=
  match object.get? key with
  | none | some .null => .ok none
  | some value => (text value).map some

/-- The number under a key, or zero; a truth value counts as a number. -/
def numberOrZero (object : Members) (key : String) : Except DocumentError Number :=
  match object.get? key with
  | none | some .null => .ok 0
  | some (.num n) => .ok n
  | some (.bool b) => .ok (if b then 1 else 0)
  | some _ => .error .wrongType

/-- The items under a key, or none. -/
def items (object : Members) (key : String) : Except DocumentError (List Json) :=
  match object.get? key with
  | none => .ok []
  | some (.arr items) => .ok items
  | some _ => .error .wrongType

/-- An optional text as a value. -/
def ofOptional : Option String → Json
  | none => .null
  | some s => .str s

end Document

open Document

/-! ## Blocks -/

/-- The JSON form of a block; a number of zero is left out. -/
def Block.toJson (block : Block) : Json :=
  .obj <| ("kind", .str block.kind.name) :: match block with
    | .slideMark title => [("title", .str title)]
    | .content kind text number =>
      [("text", .str text), ("content_kind", .str kind.name)] ++
        (if number.isZero then [] else [("number", .num number)])
    | .sectionMark text | .topicMark text | .subheading text => [("text", .str text)]

/-- The block that a JSON value is the form of: the kind is looked at first, then the text, then the rest. -/
def Block.ofJson (value : Json) : Except DocumentError Block := do
  let object ← members value
  let name ← requiredText object "kind"
  match BlockKind.ofName? name with
  | none => .error (.unknownBlockKind name)
  | some .sectionMark => return .sectionMark (← requiredText object "text")
  | some .topicMark => return .topicMark (← requiredText object "text")
  | some .slideMark => return .slideMark (← requiredText object "title")
  | some .subheading => return .subheading (← requiredText object "text")
  | some .content =>
    let text ← requiredText object "text"
    let name ← textOr ContentKind.paragraph.name object "content_kind"
    match ContentKind.ofName? name with
    | none => .error (.unknownContentKind name)
    | some kind => return .content kind text (← numberOrZero object "number")

/-! ## Slides -/

/-- The JSON form of a slide. -/
def Slide.toJson (slide : Slide) : Json :=
  .obj [("title", .str slide.title), ("body", .arr (slide.body.map Block.toJson)),
    ("section", .str slide.header.sectionText), ("topic", .str slide.header.topicText),
    ("outline_section", ofOptional slide.newSection), ("outline_topic", ofOptional slide.newTopic)]

/-- The slide that a JSON value is the form of. -/
def Slide.ofJson (value : Json) : Except DocumentError Slide := do
  let object ← members value
  let title ← requiredText object "title"
  let body ← (← items object "body").mapM Block.ofJson
  let sectionText ← textOr "" object "section"
  let topicText ← textOr "" object "topic"
  let newSection ← optionalText object "outline_section"
  let newTopic ← optionalText object "outline_topic"
  return { title, body, header := { sectionText, topicText }, newSection, newTopic }

/-! ## Decks -/

/-- The JSON form of a deck. -/
def Deck.toJson (deck : Deck) : Json :=
  .obj [("slides", .arr (deck.slides.map Slide.toJson)), ("slide_count", .num deck.slides.length),
    ("dropped_blocks", .num deck.dropped)]

/-- The deck that a JSON value is the form of; the slide count is not looked at. -/
def Deck.ofJson (value : Json) : Except DocumentError Deck := do
  let object ← members value
  let slides ← (← items object "slides").mapM Slide.ofJson
  let dropped ← numberOrZero object "dropped_blocks"
  return { slides, dropped }

/-- A deck as text. -/
def Deck.render (layout : Json.Layout) (deck : Deck) : String := deck.toJson.render layout

/-- The deck that a text describes. -/
def Deck.parse (s : String) : Except DocumentError Deck := do
  let value ← (Json.parse s).mapError .notJson
  Deck.ofJson value

/-- What is said of a value that is no block, slide or deck, where something is. -/
def DocumentError.message? : DocumentError → Option String
  | .missing key => some (Text.quoted key)
  | .unknownBlockKind name => some s!"{Text.quoted name} is not a valid BlockKind"
  | .unknownContentKind name => some s!"{Text.quoted name} is not a valid ContentKind"
  | .notJson (.numeralTooLong numeral) => some numeral.message
  | .notJson (.nestedTooDeeply container) => some container.tooDeepMessage
  | .notJson .malformed | .notAnObject | .wrongType => none

end SlidePress
