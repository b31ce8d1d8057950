import SlidePress.Page.Chrome
import SlidePress.Story.Body
import SlidePress.Story.TitlePage

/-!
# `SlidePress.Page.Frame` — the frame between the bars, and what is set in it

The body of a page is a frame between header and footer. A deck is set as one story: the opening page, and then every
slide on a page of its own.
-/

namespace SlidePress

/-- The frame that the body of a page is set in, given by its lower left corner. -/
structure BodyFrame where
  x : Float
  y : Float
  width : Float
  height : Float
deriving DecidableEq, Repr

/-- The room beside the body. -/
def pageMargin : Float := 28

/-- The frame between the bars, half a line away from them. -/
def Chrome.frame (chrome : Chrome) : BodyFrame :=
  let style := chrome.style
  let y := chrome.footerHeight + style.fontSize * 0.5
  let top := style.pageHeight - chrome.headerHeight - style.fontSize * 0.5
  { x := pageMargin, y, width := style.pageWidth - 2 * pageMargin, height := top - y }

/-- What a slide is set as: a new page, which it is anchored on, its title and its body. -/
def slideFlowables (s : Style) (index : Nat) (slide : Slide) : Except BodyError (List Flowable) :=
  (bodyFlowables s slide.body).map fun body => .pageBreak :: .anchor index slide :: s.titleBand slide.title ++ body

/-- What the slides from an index on are set as. -/
def slidesFrom (s : Style) (index : Nat) : List Slide → Except BodyError (List Flowable)
  | [] => .ok []
  | slide :: slides =>
    match slideFlowables s index slide with
    | .error e => .error e
    | .ok flowables => (slidesFrom s (index + 1) slides).map (flowables ++ ·)

/-- The story of a deck: the opening page, and then one page or more for each slide. -/
def Chrome.story (chrome : Chrome) (wrap : Wrap) (slides : List Slide) : Except BodyError (List Flowable) :=
  let frame := chrome.frame
  (slidesFrom chrome.style 0 slides).map (chrome.style.titlePage wrap frame.width frame.height ++ ·)

/-- What is reported about setting the slides of a deck, as far as they can be set. -/
def storyJournal (s : Style) : List Slide → Journal
  | [] => []
  | slide :: slides =>
    bodyJournal s slide.body ++
      match bodyFlowables s slide.body with
      | .ok _ => storyJournal s slides
      | .error _ => []

end SlidePress
