import SlidePress.Page.Frame

/-!
# `SlidePress.Page.Pass` — a pass over the pages

While flowables are placed and pages end, a pass keeps track of the slide that the page belongs to. Where a slide begins
it enters the outline, and where a page ends the bars are drawn: the running header of its slide, and the footer once
the number of pages is known.
-/

namespace SlidePress

/-- An entry of the outline, and the page that it leads to. -/
structure OutlineEntry where
  level : Nat
  title : String
  page : Int
deriving DecidableEq, Repr

/-- What a pass has produced so far, and where it stands. -/
structure PassState where
  /-- The number of the page that is being filled. -/
  page : Int := 1
  /-- The slide that the page belongs to; the opening page belongs to none. -/
  current : Option Slide := none
  /-- Whether the last section that began has an entry, which topics are listed below. -/
  sectionOpen : Bool := false
  /-- The greatest number of a page that has ended. -/
  pages : Int := 0
  outline : List OutlineEntry := []
  placements : List (FooterPlacement Float) := []
  /-- The headers that were drawn. -/
  headers : List Header := []
deriving DecidableEq, Repr

/-- Something that happens in a pass. -/
inductive PassEvent
  /-- A flowable is placed on the page. -/
  | placed (flowable : Flowable)
  /-- The page ends. -/
  | pageEnd
  /-- The page has another number from now on. -/
  | goTo (page : Int)
deriving DecidableEq, Repr

namespace PassState

/-- A new entry of the outline, and what is drawn for it; the first one shows the outline. -/
def addOutline (state : PassState) (key title : String) (level : Nat) : PassState × List DrawCall :=
  ({ state with outline := state.outline ++ [{ level, title, page := state.page }] },
    [.target key, .outlineEntry title key level false] ++
      if state.outline.isEmpty then [.showOutline] else [])

/-- The entry for the section that a slide introduces. A section without a text closes the one before it, and gets no
entry itself. -/
def beginSection (state : PassState) (index : Nat) (slide : Slide) : PassState × List DrawCall :=
  match slide.newSection with
  | none => (state, [])
  | some title =>
    let state := { state with sectionOpen := !title.isEmpty }
    if title.isEmpty then (state, []) else state.addOutline s!"s{index}" title 0

/-- The entry for the topic that a slide introduces, below the section if one is open. -/
def beginTopic (state : PassState) (index : Nat) (slide : Slide) : PassState × List DrawCall :=
  match slide.newTopic with
  | none => (state, [])
  | some title =>
    if title.isEmpty then (state, [])
    else state.addOutline s!"t{index}" title (if state.sectionOpen then 1 else 0)

/-- A slide begins on the page. -/
def begin (state : PassState) (index : Nat) (slide : Slide) : PassState × List DrawCall :=
  let (state, sectionCalls) := beginSection { state with current := some slide } index slide
  let (state, topicCalls) := state.beginTopic index slide
  (state, sectionCalls ++ topicCalls)

end PassState

/-- What a pass draws with: the bars, and the metrics of the footer once the number of pages is known. -/
structure Pass where
  chrome : Chrome
  footer : Option (FooterMetrics Float)

namespace Pass

/-- The running header of the slide that the page belongs to. -/
def drawHeader (pass : Pass) (state : PassState) : PassState × List DrawCall :=
  match state.current with
  | none => (state, [])
  | some slide => ({ state with headers := state.headers ++ [slide.header] }, pass.chrome.drawHeader slide.header)

/-- The footer of the page, if the number of pages is known. -/
def drawFooter (pass : Pass) (state : PassState) : PassState × List DrawCall × Except MeasureError Unit :=
  match pass.footer with
  | none => (state, [], .ok ())
  | some metrics =>
    match pass.chrome.drawFooter state.page (some (metrics.count.label state.page)) metrics.labelWidth with
    | (calls, .error e) => (state, calls, .error e)
    | (calls, .ok placement) => ({ state with placements := state.placements ++ [placement] }, calls, .ok ())

/-- The page ends: its bars are drawn, and the next page begins. Where the footer cannot be drawn, the page does not
end. -/
def endPage (pass : Pass) (state : PassState) : PassState × List DrawCall × Except MeasureError Unit :=
  let (state, headerCalls) := pass.drawHeader state
  match pass.drawFooter state with
  | (state, footerCalls, .error e) => (state, .save :: headerCalls ++ footerCalls, .error e)
  | (state, footerCalls, .ok ()) =>
    ({ state with pages := max state.pages state.page, page := state.page + 1 },
      .save :: headerCalls ++ footerCalls ++ [.restore], .ok ())

/-- One event. Of what is placed only the anchor of a slide matters. -/
def step (pass : Pass) (state : PassState) : PassEvent → PassState × List DrawCall × Except MeasureError Unit
  | .placed (.anchor index slide) =>
    let (state, calls) := state.begin index slide
    (state, calls, .ok ())
  | .placed _ => (state, [], .ok ())
  | .pageEnd => pass.endPage state
  | .goTo page => ({ state with page }, [], .ok ())

/-- Several events, up to the first that fails. -/
def run (pass : Pass) (state : PassState) : List PassEvent → PassState × List DrawCall × Except MeasureError Unit
  | [] => (state, [], .ok ())
  | event :: events =>
    match pass.step state event with
    | (state, calls, .error e) => (state, calls, .error e)
    | (state, calls, .ok ()) =>
      let (state, later, outcome) := pass.run state events
      (state, calls ++ later, outcome)

end Pass

end SlidePress
