import SlidePress.Json.Basic

/-!
# `SlidePress.Block` — the block stream

Authored text is read into a stream of blocks: markers, which structure the deck, and content, which is printed.
-/

namespace SlidePress

/-- The kinds of content. -/
inductive ContentKind
  | paragraph
  | bullet
  | numbered
  | quote
  | code
  | math
deriving DecidableEq, Repr

/-- The name of a kind of content in documents. -/
def ContentKind.name : ContentKind → String
  | .paragraph => "paragraph"
  | .bullet => "bullet"
  | .numbered => "numbered"
  | .quote => "quote"
  | .code => "code"
  | .math => "math"

/-- Every kind of content. -/
def ContentKind.all : List ContentKind := [.paragraph, .bullet, .numbered, .quote, .code, .math]

/-- The kind of content with a name. -/
def ContentKind.ofName? (name : String) : Option ContentKind := all.find? fun kind => kind.name = name

/-- Every kind of content is found under its name. -/
theorem ContentKind.ofName?_name (kind : ContentKind) : ofName? kind.name = some kind := by
  cases kind <;> decide

/-- A block of the stream. -/
inductive Block
  /-- Opens a section. -/
  | sectionMark (text : String)
  /-- Opens a topic of the section. -/
  | topicMark (text : String)
  /-- Opens a slide with a printed title. -/
  | slideMark (title : String)
  /-- A heading inside a slide. -/
  | subheading (text : String)
  /-- Ordinary content; `number` is the position in a numbered list, zero for anything else. -/
  | content (kind : ContentKind) (text : String) (number : Number)
deriving DecidableEq, Repr

/-- The kinds of blocks. -/
inductive BlockKind
  | sectionMark
  | topicMark
  | slideMark
  | subheading
  | content
deriving DecidableEq, Repr

/-- The kind of a block. -/
def Block.kind : Block → BlockKind
  | .sectionMark _ => .sectionMark
  | .topicMark _ => .topicMark
  | .slideMark _ => .slideMark
  | .subheading _ => .subheading
  | .content .. => .content

/-- The text of a block; of a slide its title. -/
def Block.text : Block → String
  | .sectionMark text | .topicMark text | .slideMark text | .subheading text | .content _ text _ => text

/-- The name of a kind of block in documents. -/
def BlockKind.name : BlockKind → String
  | .sectionMark => "section"
  | .topicMark => "topic"
  | .slideMark => "slide"
  | .subheading => "subheading"
  | .content => "content"

/-- Every kind of block. -/
def BlockKind.all : List BlockKind := [.sectionMark, .topicMark, .slideMark, .subheading, .content]

/-- The kind of block with a name. -/
def BlockKind.ofName? (name : String) : Option BlockKind := all.find? fun kind => kind.name = name

/-- Every kind of block is found under its name. -/
theorem BlockKind.ofName?_name (kind : BlockKind) : ofName? kind.name = some kind := by
  cases kind <;> decide

/-- Whether a block belongs into the body of a slide. -/
def Block.isBody : Block → Bool
  | .subheading _ | .content .. => true
  | .sectionMark _ | .topicMark _ | .slideMark _ => false

/-! ## Kinds and bodies, constructor by constructor -/

namespace Block

@[simp] theorem kind_sectionMark (text : String) : (sectionMark text).kind = .sectionMark := rfl

@[simp] theorem kind_topicMark (text : String) : (topicMark text).kind = .topicMark := rfl

@[simp] theorem kind_slideMark (title : String) : (slideMark title).kind = .slideMark := rfl

@[simp] theorem kind_subheading (text : String) : (subheading text).kind = .subheading := rfl

@[simp] theorem kind_content (kind : ContentKind) (text : String) (number : Number) :
    (content kind text number).kind = .content := rfl

@[simp] theorem isBody_sectionMark (text : String) : (sectionMark text).isBody = false := rfl

@[simp] theorem isBody_topicMark (text : String) : (topicMark text).isBody = false := rfl

@[simp] theorem isBody_slideMark (title : String) : (slideMark title).isBody = false := rfl

@[simp] theorem isBody_subheading (text : String) : (subheading text).isBody = true := rfl

@[simp] theorem isBody_content (kind : ContentKind) (text : String) (number : Number) :
    (content kind text number).isBody = true := rfl

end Block

end SlidePress
