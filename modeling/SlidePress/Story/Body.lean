import SlidePress.Inline.Markup
import SlidePress.Story.Flowable

/-!
# `SlidePress.Story.Body` — the body of a slide

Every body block becomes one flowable. Code keeps its lines and formulas their text; in all other blocks emphasis and
code spans are marked up.
-/

namespace SlidePress

/-- Why a block cannot be set in the body of a slide. -/
inductive BodyError
  /-- A placeholder in its text stands for nothing. -/
  | fill (cause : Inline.FillError)
  /-- It is a marker, and no body block; its class is named. -/
  | notBody (className : String)
deriving DecidableEq, Repr

/-- A formula: its text as it is, with a break after each of its lines. -/
def formulaMarkup (text : String) : String :=
  String.ofList ((Inline.escapeText text).toList.flatMap fun c => if c = '\n' then "<br/>".toList else [c])

/-- The text of a block whose emphasis and code spans are marked up. -/
def Block.markedText? : Block → Option String
  | .subheading text => some text
  | .content .code .. | .content .math .. => none
  | .content _ text _ => some text
  | .sectionMark _ | .topicMark _ | .slideMark _ => none

/-- A marked-up paragraph. -/
def markedParagraph (s : Style) (style : ParagraphStyle) (text : String) (bullet : Option String := none) :
    Except BodyError Flowable :=
  match Inline.markup s.monoFont text with
  | .ok markup => .ok (.paragraph style markup bullet)
  | .error cause => .error (.fill cause)

/-- The flowable of a body block. -/
def Block.flowable (s : Style) : Block → Except BodyError Flowable
  | .subheading text => markedParagraph s s.sheet.subheading text
  | .content .code text _ => .ok (.preformatted s.sheet.code text)
  | .content .math text _ => .ok (.paragraph s.sheet.math (formulaMarkup text) none)
  | .content .bullet text _ => markedParagraph s s.sheet.bullet text (some "•")
  | .content .numbered text number => markedParagraph s s.sheet.bullet text (some (number.text ++ "."))
  | .content .quote text _ => markedParagraph s s.sheet.quote text
  | .content .paragraph text _ => markedParagraph s s.sheet.body text
  | .sectionMark _ => .error (.notBody "SectionMarker")
  | .topicMark _ => .error (.notBody "TopicMarker")
  | .slideMark _ => .error (.notBody "SlideMarker")

/-- What is reported about setting a block. -/
def Block.flowableJournal (block : Block) : Journal :=
  match block.markedText? with
  | some text => Inline.markupJournal text
  | none => []

/-- The flowables of a body, in order. -/
def bodyFlowables (s : Style) (body : List Block) : Except BodyError (List Flowable) := body.mapM (Block.flowable s)

/-- What is reported about setting a body, as far as it can be set. -/
def bodyJournal (s : Style) : List Block → Journal
  | [] => []
  | block :: body =>
    block.flowableJournal ++
      match block.flowable s with
      | .ok _ => bodyJournal s body
      | .error _ => []

end SlidePress
