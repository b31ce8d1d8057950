import SlidePress.Json.Printer
import SlidePress.Press.Library
import SlidePress.Press.TwoPass

/-!
# `SlidePress.Press.Typeset` — the press that decks are made with

A pass sets the story of a deck page by page and records what is drawn.
-/

namespace SlidePress

/-- Why a pass fails. -/
inductive PassError
  /-- A block cannot be set. -/
  | body (cause : BodyError)
  /-- The library cannot set the story. -/
  | flow (cause : Fault)
  /-- Something on a page cannot be measured. -/
  | measure (cause : MeasureError)
deriving DecidableEq, Repr

/-- The error that a block is which cannot be set. -/
def BodyError.fault : BodyError → Fault
  | .fill (.noSpan _) => { kind := "IndexError", text := "list index out of range" }
  | .fill (.numeralTooLong numeral) => { kind := "ValueError", text := numeral.message }
  | .notBody className =>
    { kind := "AttributeError", text := s!"{Text.quoted className} object has no attribute 'content_kind'" }

/-- What is said of a pass that fails. -/
def PassError.message : PassError → String
  | .measure cause => cause.message
  | .body cause => s!"Layout failed: {cause.fault.kind}: {cause.fault.text}"
  | .flow cause => s!"Layout failed: {cause.kind}: {cause.text}"

/-- What a deck is set with. -/
structure Typeset where
  chrome : Chrome
  /-- How high the paragraphs of the opening page are. -/
  wrap : Wrap
  slides : List Slide
  /-- How a story is set in a frame: what happens on its pages, and why it fails if it does. -/
  layout : BodyFrame → List Flowable → List PassEvent × Option Fault

namespace Typeset

/-- The document of a pass: everything that is drawn. -/
def document (calls : List DrawCall) : ByteArray :=
  (Json.render .oneLine (.arr (calls.map DrawCall.toJson))).toUTF8

/-- What is reported about a pass that has succeeded. -/
def passJournal (state : PassState) : Journal :=
  [⟨.debug, s!"Layout pass: {state.pages} pages, {state.outline.length} outline entries"⟩]

/-- A pass over the story of the deck. What cannot be drawn comes before what does not fit, when it comes first on the
pages. -/
def setStory (set : Typeset) (footer : Option (FooterMetrics Float)) (story : List Flowable) :
    PassOutcome PassError × List Header :=
  let (events, failure) := set.layout set.chrome.frame story
  let pass : Pass := { chrome := set.chrome, footer }
  let (state, calls, drawn) := pass.run {} events
  let outcome : PassOutcome PassError :=
    match drawn, failure with
    | .error cause, _ => { document := document calls, stats := .error (.measure cause) }
    | .ok (), some cause => { document := document calls, stats := .error (.flow cause) }
    | .ok (), none =>
      { document := document calls, journal := passJournal state
        stats := .ok { pages := state.pages, outline := state.outline, placements := state.placements } }
  (outcome, state.headers)

/-- A pass over the deck; the state holds the headers that were drawn. -/
def pass (set : Typeset) (footer : Option (FooterMetrics Float)) (headers : List Header) :
    PassOutcome PassError × List Header :=
  let journal := storyJournal set.chrome.style set.slides
  match set.chrome.story set.wrap set.slides with
  | .error cause => ({ document := ByteArray.empty, journal, stats := .error (.body cause) }, headers)
  | .ok story =>
    let (outcome, drawn) := set.setStory footer story
    ({ outcome with journal := journal ++ outcome.journal }, headers ++ drawn)

/-- The press for a deck. -/
def press (set : Typeset) : Press (List Header) PassError := { measure := set.chrome.measure, pass := set.pass }

end Typeset

end SlidePress
