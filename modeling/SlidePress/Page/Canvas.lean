import SlidePress.Json.Basic
import SlidePress.Style.Color

/-!
# `SlidePress.Page.Canvas` — what is drawn on a page

Drawing is recorded as a list of calls, in the order in which they are made.
-/

namespace SlidePress

/-- Which point of a text its position is. -/
inductive Anchor
  | left
  | right
  | centre
deriving DecidableEq, Repr

/-- The name of a point of a text in documents. -/
def Anchor.name : Anchor → String
  | .left => "left"
  | .right => "right"
  | .centre => "centre"

/-- One call to the canvas. -/
inductive DrawCall
  /-- The colour that areas and texts have from now on. -/
  | fill (color : Color)
  /-- A rectangle, with or without its outline and its inside. -/
  | rectangle (x y width height : Float) (outline inside : Bool)
  /-- The font that texts have from now on. -/
  | font (name : String) (size : Float)
  | text (anchor : Anchor) (x y : Float) (text : String)
  /-- Keeps colour and font for later. -/
  | save
  /-- Goes back to the colour and font that were kept. -/
  | restore
  /-- Marks the page as the target of a key. -/
  | target (key : String)
  /-- An outline entry that leads to the target of a key. -/
  | outlineEntry (title key : String) (level : Nat) (closed : Bool)
  /-- Shows the outline when the document is opened. -/
  | showOutline
deriving DecidableEq, Repr

/-- A colour as it stands in a document. -/
def Color.toJson (color : Color) : Json :=
  .arr ([color.red, color.green, color.blue, color.opacity].map fun x => .num (.float x))

/-- A call as it stands in a document: its name and its arguments. -/
def DrawCall.toJson : DrawCall → Json
  | .fill color => .arr [.str "fill", color.toJson]
  | .rectangle x y width height outline inside =>
    .arr (.str "rectangle" :: [x, y, width, height].map (.num <| .float ·) ++ [.bool outline, .bool inside])
  | .font name size => .arr [.str "font", .str name, .num (.float size)]
  | .text anchor x y shown => .arr [.str "text", .str anchor.name, .num (.float x), .num (.float y), .str shown]
  | .save => .arr [.str "save"]
  | .restore => .arr [.str "restore"]
  | .target key => .arr [.str "target", .str key]
  | .outlineEntry title key level closed =>
    .arr [.str "outline", .str title, .str key, .num level, .bool closed]
  | .showOutline => .arr [.str "show-outline"]

end SlidePress
