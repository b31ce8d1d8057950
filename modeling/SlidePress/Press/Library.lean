import SlidePress.Page.Flow

/-!
# `SlidePress.Press.Library` — what a document asks of the layout library

Beside what its style asks (`StyleLibrary`), a document asks the library how high the paragraphs of its opening page
are, and has it set its story: the library places the flowables and ends the pages, and the program is told of both
while it happens. How it breaks lines and pages is up to the library.

`PressLibrary.usual` fills pages one line after another, with the widths of the standard fonts.
-/

namespace SlidePress

/-- **What a document asks of the library.** -/
structure PressLibrary extends StyleLibrary where
  /-- How high paragraphs are. -/
  wrap : FontRegistry → Wrap
  /-- How a story is set in a frame: what happens on its pages, and why it fails if it does. -/
  layout : FontRegistry → BodyFrame → List Flowable → List PassEvent × Option Fault

/-- The error for a story that cannot be set. -/
def FlowFailure.fault : FlowFailure → Fault
  | .stuck => { kind := "LayoutError", text := "a flowable is too large for a page" }
  | .notANumber => { kind := "ValueError", text := "cannot convert float NaN to integer" }

/-- The widths of the characters of a font; a font that there is not counts as one whose characters are equally wide. -/
def FontRegistry.metrics (fonts : FontRegistry) (font : String) : Metrics := (fonts.metrics? font).getD monospaceMetrics

namespace PressLibrary

/-- A library for styles, with paragraphs and pages that are filled line by line. -/
def filling (library : StyleLibrary) : PressLibrary where
  toStyleLibrary := library
  wrap := fun fonts => paragraphHeight fonts.metrics
  layout := fun fonts frame story =>
    let (events, failure) := flow fonts.metrics frame story
    (events, failure.map FlowFailure.fault)

/-- The usual library. -/
def usual : PressLibrary := filling .usual

end PressLibrary

end SlidePress
