import SlidePress.Json.Basic

/-!
# `SlidePress.Config.Basic` — the configuration of a deck

A deck is configured by eighteen settings, each with a name and most with a default that depends on nothing else. A
setting of several words may also be given under its name with hyphens.
-/

namespace SlidePress

/-- The shapes of a page. -/
inductive AspectRatio
  | wide
  | standard
deriving DecidableEq, Repr

/-- The name of a page shape. -/
def AspectRatio.name : AspectRatio → String
  | .wide => "16-9"
  | .standard => "4-3"

/-- The page shape with a name. -/
def AspectRatio.ofName? (name : String) : Option AspectRatio := [wide, standard].find? fun ratio => ratio.name = name

/-- The word for a value that is worked out from another setting. -/
def auto : String := "auto"

/-- A size that may be worked out from the font size. -/
inductive Size
  | auto
  | points (x : Float)
deriving DecidableEq, Repr

/-- The configuration of a deck. -/
structure Config where
  title : String := ""
  subtitle : String := ""
  /-- The title in the footer; `auto` is the title. -/
  shortTitle : String := auto
  author : String := ""
  /-- The author in the footer; `auto` is the author. -/
  shortAuthor : String := auto
  institute : String := ""
  shortInstitute : String := ""
  date : String := ""
  color : String := "#1f4e79"
  fontSize : Float := 20
  textFont : String := "Helvetica"
  headingFont : String := "Helvetica-Bold"
  monoFont : String := "Courier"
  mathFont : String := "Times-Italic"
  headingSize : Size := .auto
  monoSize : Size := .auto
  chromeSize : Size := .auto
  aspectRatio : AspectRatio := .wide
deriving DecidableEq, Repr

/-- The settings of a configuration. -/
inductive Setting
  | title
  | subtitle
  | shortTitle
  | author
  | shortAuthor
  | institute
  | shortInstitute
  | date
  | color
  | fontSize
  | textFont
  | headingFont
  | monoFont
  | mathFont
  | headingSize
  | monoSize
  | chromeSize
  | aspectRatio
deriving DecidableEq, Repr

/-- The words of the name of a setting. -/
def Setting.words : Setting → List String
  | .title => ["title"]
  | .subtitle => ["subtitle"]
  | .shortTitle => ["short", "title"]
  | .author => ["author"]
  | .shortAuthor => ["short", "author"]
  | .institute => ["institute"]
  | .shortInstitute => ["short", "institute"]
  | .date => ["date"]
  | .color => ["color"]
  | .fontSize => ["font", "size"]
  | .textFont => ["text", "font"]
  | .headingFont => ["heading", "font"]
  | .monoFont => ["mono", "font"]
  | .mathFont => ["math", "font"]
  | .headingSize => ["heading", "size"]
  | .monoSize => ["mono", "size"]
  | .chromeSize => ["chrome", "size"]
  | .aspectRatio => ["aspect", "ratio"]

/-- The name of a setting. -/
def Setting.name (s : Setting) : String := String.intercalate "_" s.words

/-- The name of a setting with hyphens, which is the one authors write. -/
def Setting.authoredName (s : Setting) : String := String.intercalate "-" s.words

/-- Every setting, in the order in which they are checked and written. -/
def Setting.all : List Setting :=
  [.title, .subtitle, .shortTitle, .author, .shortAuthor, .institute, .shortInstitute, .date, .color, .fontSize,
    .textFont, .headingFont, .monoFont, .mathFont, .headingSize, .monoSize, .chromeSize, .aspectRatio]

/-- A size as a value. -/
def Size.toJson : Size → Json
  | .auto => .str SlidePress.auto
  | .points x => .num (.float x)

/-- The value of a setting. -/
def Config.get (c : Config) : Setting → Json
  | .title => .str c.title
  | .subtitle => .str c.subtitle
  | .shortTitle => .str c.shortTitle
  | .author => .str c.author
  | .shortAuthor => .str c.shortAuthor
  | .institute => .str c.institute
  | .shortInstitute => .str c.shortInstitute
  | .date => .str c.date
  | .color => .str c.color
  | .fontSize => .num (.float c.fontSize)
  | .textFont => .str c.textFont
  | .headingFont => .str c.headingFont
  | .monoFont => .str c.monoFont
  | .mathFont => .str c.mathFont
  | .headingSize => c.headingSize.toJson
  | .monoSize => c.monoSize.toJson
  | .chromeSize => c.chromeSize.toJson
  | .aspectRatio => .str c.aspectRatio.name

/-- A configuration, written under the names of its settings. -/
def Config.members (c : Config) : Members := Setting.all.map fun s => (s.name, c.get s)

end SlidePress
