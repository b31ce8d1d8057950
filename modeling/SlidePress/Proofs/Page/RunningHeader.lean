import SlidePress.Proofs.Page.Layout
import SlidePress.Proofs.Page.Pass

/-!
# `SlidePress.Proofs.Page.RunningHeader` — the running header of a page

The running header of a page is drawn when the page ends, from the slide that began last. A slide begins at its anchor,
and no page has the anchor of one slide and flowables of another (`PageAfter`). So the slide that a pass keeps at the
end of a page is the one that everything on the page was made for, on overflow pages as well, which have no anchor
(`PageAfter.drawn`); and the opening page, before any anchor, has no header.

That a pass keeps the right slide is carried from page to page (`PagesFrom.drawn`). A pass may fail at the end of a
page, where its footer cannot be drawn; the header has been drawn by then.
-/

namespace SlidePress

/-! ## The texts of a running header -/

/-- Whether a call draws a text. -/
def DrawCall.isText : DrawCall → Bool
  | .text .. => true
  | _ => false

/-- A text where it is drawn, if it is not empty. -/
def textAt (anchor : Anchor) (x y : Float) (text : String) : List DrawCall :=
  if text = "" then [] else [.text anchor x y text]

/-- **What the running header of a slide shows**: the section from the padding on, and the topic up to the padding on the
other side, as far as they are not empty. A page that belongs to no slide shows nothing. -/
def Chrome.headerTexts (chrome : Chrome) : Option Slide → List DrawCall
  | none => []
  | some slide =>
    let y := chrome.baseline (chrome.style.pageHeight - chrome.headerHeight) chrome.headerHeight
    textAt .left padding y slide.header.sectionText ++
      textAt .right (chrome.style.pageWidth - padding) y slide.header.topicText

theorem texts_drawUnlessEmpty (anchor : Anchor) (x y : Float) (text : String) :
    (Chrome.drawUnlessEmpty anchor x y text).filter DrawCall.isText = textAt anchor x y text := by
  unfold Chrome.drawUnlessEmpty textAt
  by_cases empty : text = ""
  · rw [if_pos empty, if_pos (String.isEmpty_iff.mpr empty)]
    rfl
  · rw [if_neg empty, if_neg fun isEmpty => empty (String.isEmpty_iff.mp isEmpty)]
    rfl

/-- **The texts of a running header** are the section and the topic of its slide. -/
theorem Chrome.headerOf_texts (chrome : Chrome) (owner : Option Slide) :
    (chrome.headerOf owner).filter DrawCall.isText = chrome.headerTexts owner := by
  cases owner with
  | none => rfl
  | some slide =>
      have bar (bottom height : Float) : (chrome.drawBar bottom height).filter DrawCall.isText = [] := rfl
      rw [headerOf, drawHeader, List.filter_append, List.filter_append, bar, texts_drawUnlessEmpty,
        texts_drawUnlessEmpty, List.nil_append]
      rfl

/-! ## One page -/

/-- The events of a page: its flowables are placed, and it ends. -/
def pageEvents (page : List Owned) : List PassEvent := page.map (fun item => .placed item.flowable) ++ [.pageEnd]

/-- **A page is drawn** for the slide that it belongs to, or for none. -/
structure PageDrawn (pass : Pass) (owner : Option Slide) (before : PassState)
    (out : PassState × List DrawCall × Except MeasureError Unit) : Prop where
  /-- Apart from marks there are the header of this slide and the footer with the number of the page. -/
  calls : ∃ marks ended, (∀ call ∈ marks, call.isMark = true) ∧ (ended = [] ∨ ended = [.restore]) ∧
    out.2.1 = marks ++ (.save :: pass.chrome.headerOf owner ++ (pass.drawFooter before).2.1 ++ ended)
  /-- Of texts there are the section and the topic of this slide, and then those of the footer. -/
  texts : out.2.1.filter DrawCall.isText =
    pass.chrome.headerTexts owner ++ (pass.drawFooter before).2.1.filter DrawCall.isText
  /-- The header is that of this slide alone, -/
  headers : out.1.headers = before.headers ++ (owner.map Slide.header).toList
  /-- which the pass keeps when the page has ended. -/
  turned : out.2.2 = .ok () →
    out.1.current = owner ∧ out.1.page = before.page + 1 ∧ out.1.pages = max before.pages before.page

namespace Pass

variable (pass : Pass) (state : PassState)

/-- **A page that ends** is drawn for the slide that the pass keeps. -/
theorem endPage_drawn : PageDrawn pass state.current state (pass.endPage state) := by
  obtain ⟨ended, isEnd, drawn⟩ := endPage_calls pass state
  have texts : (pass.endPage state).2.1.filter DrawCall.isText =
      pass.chrome.headerTexts state.current ++ (pass.drawFooter state).2.1.filter DrawCall.isText := by
    have last : ended.filter DrawCall.isText = [] := by rcases isEnd with rfl | rfl <;> rfl
    rw [drawn, List.filter_append, List.filter_append, last, List.append_nil, List.filter_cons_of_neg (by decide),
      Chrome.headerOf_texts]
  rcases outcome : pass.endPage state with ⟨next, all, cause | _⟩
  · obtain rfl := endPage_error outcome
    rw [outcome] at drawn texts
    exact ⟨⟨[], ended, fun _ mem => (by cases mem), isEnd, drawn⟩, texts, rfl, fun ok => by cases ok⟩
  · obtain ⟨placements, rfl⟩ := endPage_ok outcome
    rw [outcome] at drawn texts
    exact ⟨⟨[], ended, fun _ mem => (by cases mem), isEnd, drawn⟩, texts, rfl, fun _ => ⟨rfl, rfl, rfl⟩⟩

/-! ## The flowables of a page -/

theorem step_plain {flowable : Flowable} (plain : flowable.isPlain = true) :
    pass.step state (.placed flowable) = (state, [], .ok ()) := by
  cases flowable with
  | anchor index slide => cases plain
  | _ => rfl

/-- A page without an anchor does nothing before it ends. -/
theorem run_plain {owner : Option Nat} {page : List Owned} (plain : Plain owner page) :
    pass.run state (pageEvents page) = pass.endPage state := by
  induction page with
  | nil =>
      rcases ended : pass.endPage state with ⟨next, calls, cause | _⟩
      · have step : pass.step state .pageEnd = (next, calls, .error cause) := ended
        exact run_cons_error step []
      · have step : pass.step state .pageEnd = (next, calls, .ok ()) := ended
        have all := run_cons_ok step []
        rwa [run, List.append_nil] at all
  | cons item page ih =>
      have first := step_plain pass state (plain item List.mem_cons_self).2
      have rest := ih fun other mem => plain other (List.mem_cons_of_mem _ mem)
      rw [pageEvents, List.map_cons, List.cons_append, run_cons_ok first]
      exact rest

end Pass

/-! ## The pages of a layout -/

/-- The slide that the last of some flowables was made for; where there are none, it is the one before. -/
def ownerAfter (owner : Option Nat) (items : List Owned) : Option Nat :=
  match items.getLast? with
  | none => owner
  | some item => item.owner

theorem ownerAfter_append (owner : Option Nat) (a b : List Owned) :
    ownerAfter owner (a ++ b) = ownerAfter (ownerAfter owner a) b := by
  unfold ownerAfter
  rw [List.getLast?_append]
  cases b.getLast? <;> rfl

/-- The slide with an index. -/
def slideOf (slides : List Slide) (owner : Option Nat) : Option Slide := owner.bind fun index => slides[index]?

variable {slides : List Slide} {owner next : Option Nat} {page : List Owned} {pages : List (List Owned)}
variable {pass : Pass} {state : PassState}

theorem PageAfter.owned (h : PageAfter slides owner page next) : ∀ item ∈ page, item.owner = next := by
  intro item mem
  cases h with
  | goesOn plain => exact (plain item mem).1
  | begins _ plain =>
      rcases List.mem_cons.mp mem with rfl | inPage
      · rfl
      · exact (plain item inPage).1

theorem PageAfter.ownerAfter (h : PageAfter slides owner page next) : SlidePress.ownerAfter owner page = next := by
  unfold SlidePress.ownerAfter
  cases last : page.getLast? with
  | some item => exact h.owned item (List.mem_of_getLast? last)
  | none =>
      -- an empty page goes on with the slide before
      obtain rfl := List.getLast?_eq_none_iff.mp last
      cases h
      rfl

/-- **One page**: if the pass keeps the slide of the page before, this page is drawn for its own slide. -/
theorem PageAfter.drawn (h : PageAfter slides owner page next) (current : state.current = slideOf slides owner) :
    PageDrawn pass (slideOf slides next) state (pass.run state (pageEvents page)) := by
  cases h with
  | goesOn plain =>
      rw [Pass.run_plain pass state plain, ← current]
      exact Pass.endPage_drawn pass state
  | @begins page slide found plain =>
      -- the slide begins, and then the page ends
      let begun := (state.begin (nextIndex owner) slide).1
      have same : begun = { state with
          current := some slide
          sectionOpen := slide.leavesOpen state.sectionOpen
          outline := begun.outline } := by
        simp only [begun, Pass.begin_state]
      have own : slideOf slides (some (nextIndex owner)) = begun.current := by
        rw [same]
        exact found
      have begins : pass.step state (.placed (.anchor (nextIndex owner) slide)) =
          (begun, (state.begin (nextIndex owner) slide).2, .ok ()) := rfl
      obtain ⟨⟨marks, ended, isMark, isEnd, drawn⟩, texts, headers, turned⟩ := Pass.endPage_drawn pass begun
      have footer : (pass.drawFooter begun).2.1 = (pass.drawFooter state).2.1 := by
        rw [Pass.drawFooter_eq, Pass.drawFooter_eq, same]
      have run := Pass.run_cons_ok begins (pageEvents page)
      rw [Pass.run_plain pass begun plain] at run
      show PageDrawn pass _ state (pass.run state (.placed (.anchor (nextIndex owner) slide) :: pageEvents page))
      -- what marks the page is no text
      have marksOnly : (state.begin (nextIndex owner) slide).2.filter DrawCall.isText = [] := by
        apply List.filter_eq_nil_iff.mpr
        intro call mem
        have mark := Pass.begin_marks state _ slide call mem
        cases call <;> first | exact Bool.false_ne_true | cases mark
      rw [run, own]
      refine ⟨⟨(state.begin (nextIndex owner) slide).2 ++ marks, ended, fun call mem => ?_, isEnd, ?_⟩, ?_, ?_, ?_⟩
      · rcases List.mem_append.mp mem with first | later
        · exact Pass.begin_marks state _ slide call first
        · exact isMark call later
      · simp only [drawn, footer, List.append_assoc]
      · rw [List.filter_append, marksOnly, List.nil_append, texts, footer]
      · rw [headers, same]
      · intro ok
        obtain ⟨kept, page, pages⟩ := turned ok
        exact ⟨kept, page.trans (by rw [same]), pages.trans (by rw [same])⟩

theorem PageAfter.turned (h : PageAfter slides owner page next) (current : state.current = slideOf slides owner)
    {reached : PassState} {calls : List DrawCall} (run : pass.run state (pageEvents page) = (reached, calls, .ok ())) :
    reached.current = slideOf slides next ∧ reached.page = state.page + 1 ∧
      reached.pages = max state.pages state.page := by
  have drawn : PageDrawn pass (slideOf slides next) state (pass.run state (pageEvents page)) := h.drawn current
  rw [run] at drawn
  exact drawn.turned rfl

/-- Everything on each of the pages was made for the same slide. -/
theorem PagesFrom.owned (h : PagesFrom slides owner pages) {before after : List (List Owned)}
    (split : pages = before ++ page :: after) : ∀ item ∈ page, item.owner = ownerAfter owner (before.flatten ++ page) := by
  induction h generalizing before with
  | done _ => simp at split
  | @page owner next first pages one _ ih =>
      cases before with
      | nil =>
          obtain ⟨rfl, rfl⟩ := List.cons.inj split
          rw [List.flatten_nil, List.nil_append, one.ownerAfter]
          exact one.owned
      | cons begun before =>
          obtain ⟨rfl, later⟩ := List.cons.inj split
          rw [List.flatten_cons, List.append_assoc, ownerAfter_append, one.ownerAfter]
          exact ih later

/-- **All pages** are drawn for their own slides, as far as the pass gets, and they are numbered one by one. -/
theorem PagesFrom.drawn (h : PagesFrom slides owner pages) (current : state.current = slideOf slides owner)
    {before after : List (List Owned)} (split : pages = before ++ page :: after) {reached : PassState}
    {calls : List DrawCall} (run : pass.run state (before.flatMap pageEvents) = (reached, calls, .ok ())) :
    reached.page = state.page + before.length ∧
      PageDrawn pass (slideOf slides (ownerAfter owner (before.flatten ++ page))) reached
        (pass.run reached (pageEvents page)) := by
  induction h generalizing state before calls with
  | done _ => simp at split
  | @page owner next first pages one _ ih =>
      cases before with
      | nil =>
          obtain ⟨rfl, rfl⟩ := List.cons.inj split
          cases run
          rw [List.flatten_nil, List.nil_append, one.ownerAfter]
          exact ⟨by simp, one.drawn current⟩
      | cons begun before =>
          obtain ⟨rfl, later⟩ := List.cons.inj split
          rw [List.flatMap_cons] at run
          obtain ⟨middle, drawn, more, firstRun, rest⟩ := Pass.exists_run_of_append run
          obtain ⟨kept, number, _⟩ := one.turned current firstRun
          obtain ⟨count, page⟩ := ih kept later rest
          rw [List.flatten_cons, List.append_assoc, ownerAfter_append, one.ownerAfter]
          refine ⟨?_, page⟩
          rw [count, number, List.length_cons]
          omega

theorem PagesFrom.counted (h : PagesFrom slides owner pages) (current : state.current = slideOf slides owner)
    (start : state.pages = state.page - 1) {reached : PassState} {calls : List DrawCall}
    (run : pass.run state (pages.flatMap pageEvents) = (reached, calls, .ok ())) :
    reached.pages = state.pages + pages.length := by
  induction h generalizing state calls with
  | done _ =>
      cases run
      simp
  | @page owner next first pages one _ ih =>
      rw [List.flatMap_cons] at run
      obtain ⟨middle, drawn, more, firstRun, rest⟩ := Pass.exists_run_of_append run
      obtain ⟨kept, number, count⟩ := one.turned current firstRun
      have all := ih kept (by omega) rest
      rw [all, List.length_cons]
      omega

/-- The slides that come next begin at the top of a page each. -/
theorem PagesFrom.starts (h : PagesFrom slides owner pages) {index : Nat} {slide : Slide} (ahead : nextIndex owner ≤ index)
    (found : slides[index]? = some slide) :
    ∃ before page after, pages = before ++ (anchorItem index slide :: page) :: after := by
  induction h with
  | done all =>
      have inside : index < slides.length := (List.getElem?_eq_some_iff.mp found).1
      omega
  | @page owner next first pages one _ ih =>
      have later : nextIndex next ≤ index →
          ∃ before page after, first :: pages = before ++ (anchorItem index slide :: page) :: after := by
        intro behind
        obtain ⟨before, page, after, rfl⟩ := ih behind
        exact ⟨first :: before, page, after, rfl⟩
      cases one with
      | goesOn plain => exact later ahead
      | @begins page other here plain =>
          by_cases own : nextIndex owner = index
          · subst own
            obtain rfl : other = slide := Option.some.inj (here.symm.trans found)
            exact ⟨[], page, pages, rfl⟩
          · exact later (by simp only [nextIndex] at *; omega)

/-- There are as many pages as slides come next, or more. -/
theorem PagesFrom.length (h : PagesFrom slides owner pages) : slides.length ≤ nextIndex owner + pages.length := by
  induction h with
  | done all => exact all
  | @page owner next first pages one _ ih =>
      -- no page begins more than one slide
      have step : nextIndex next ≤ nextIndex owner + 1 := by
        cases one with
        | goesOn _ => exact Nat.le_succ _
        | begins _ _ => exact Nat.le_refl _
      rw [List.length_cons]
      omega

/-! ## The running headers of a deck -/

/-- **Every page has the running header of its own slide.** -/
structure HeadersOwned (pass : Pass) (slides : List Slide) (pages : List (List Owned)) : Prop where
  /-- There is the opening page, and a page or more for each slide. -/
  count : 1 + slides.length ≤ pages.length
  /-- Each slide begins at the top of a page, and not of the first one. -/
  starts : ∀ (index : Nat) (slide : Slide), slides[index]? = some slide → ∃ before page after, before ≠ [] ∧
    pages = before ++ (anchorItem index slide :: page) :: after
  /-- Everything on a page was made for one slide, or for the opening page. -/
  owned : ∀ before page after, pages = before ++ page :: after →
    ∀ item ∈ page, item.owner = ownerAfter none (before.flatten ++ page)
  /-- For this slide the page is drawn. -/
  drawn : ∀ before page after, pages = before ++ page :: after → ∀ reached calls,
    pass.run {} (before.flatMap pageEvents) = (reached, calls, .ok ()) →
      reached.page = 1 + before.length ∧
        PageDrawn pass (slideOf slides (ownerAfter none (before.flatten ++ page))) reached
          (pass.run reached (pageEvents page))
  /-- A pass that does not fail finds as many pages as there are. -/
  counted : ∀ reached calls, pass.run {} (pages.flatMap pageEvents) = (reached, calls, .ok ()) →
    reached.pages = pages.length

/-- **The running headers of a deck.** However the story of a deck is set on pages, every slide begins on a page of its
own, everything on a page was made for the same slide, and the page has the header of that slide, also where a slide
needs several pages; the pages before the first slide have none. -/
theorem layout_headersOwned (pass : Pass) (wrap : Wrap) (slides : List Slide) (flowables : List Flowable)
    (h : pass.chrome.story wrap slides = .ok flowables) :
    ∃ story, pass.chrome.ownedStory wrap slides = .ok story ∧ story.map Owned.flowable = flowables ∧
      ∀ pages, Layout story pages → HeadersOwned pass slides pages := by
  have whole := ownedStory_flowables pass.chrome wrap slides
  rw [h] at whole
  cases made : pass.chrome.ownedStory wrap slides with
  | error e =>
      rw [made] at whole
      cases whole
  | ok story =>
      rw [made] at whole
      refine ⟨story, rfl, Except.ok.inj whole, fun pages layout => ?_⟩
      obtain ⟨opening, later, rfl, plain, pagesFrom⟩ := ownedStory_pagesFrom made layout
      -- the opening page is like a page that goes on with no slide
      have all : PagesFrom slides none (opening :: later) := .page (.goesOn plain) pagesFrom
      have start : ({} : PassState).current = slideOf slides none := rfl
      refine ⟨?_, fun index slide found => ?_, fun before page after split => ?_, fun before page after split => ?_, ?_⟩
      · have enough := pagesFrom.length
        simp only [nextIndex] at enough
        rw [List.length_cons]
        omega
      · obtain ⟨before, page, after, rfl⟩ := pagesFrom.starts (Nat.zero_le index) found
        exact ⟨opening :: before, page, after, List.cons_ne_nil _ _, rfl⟩
      · exact all.owned split
      · exact fun reached calls run => all.drawn start split run
      · intro reached calls run
        have count := all.counted start rfl run
        rw [count]
        exact Int.zero_add _

/-- Two slides, the first of which needs two pages: these show its section, and the last page shows the section and the
topic of the other one. -/
theorem layout_headersOwned_overflow :
    let pass : Pass :=
      { chrome :=
          { style := ({} : Config).styleWith .black "Helvetica" "Helvetica" "Courier" "Helvetica"
            measure := fun _ => .ok 0 }
        footer := none }
    let wrap : Wrap := fun _ _ _ _ => 10
    let one : Slide := { title := "One", header := { sectionText := "A" } }
    let two : Slide := { title := "Two", header := { sectionText := "B", topicText := "T" } }
    let y := pass.chrome.baseline (pass.chrome.style.pageHeight - pass.chrome.headerHeight) pass.chrome.headerHeight
    ∃ flowables story pages, pass.chrome.story wrap [one, two] = .ok flowables ∧
      story.map Owned.flowable = flowables ∧ Layout story pages ∧ HeadersOwned pass [one, two] pages ∧
      pages.length = 4 ∧
      (pass.run {} (pages.flatMap pageEvents)).1.headers = [one.header, one.header, two.header] ∧
      (pass.run {} (pages.flatMap pageEvents)).2.1.filter DrawCall.isText =
        [.text .left 10 y "A", .text .left 10 y "A", .text .left 10 y "B",
          .text .right (pass.chrome.style.pageWidth - 10) y "T"] := by
  intro pass wrap one two y
  let opening := (pass.chrome.style.titlePage wrap pass.chrome.frame.width pass.chrome.frame.height).map (Owned.mk none)
  let band (index : Nat) (slide : Slide) : List Owned :=
    (pass.chrome.style.titleBand slide.title).map (Owned.mk (some index))
  have plain : ∀ index slide, Plain (some index) (band index slide) := fun index slide =>
    plain_mk _ (plain_titleBand _ _)
  obtain ⟨story, made, whole, all⟩ := layout_headersOwned pass wrap [one, two] _ rfl
  have split : story = opening ++ (⟨some 0, .pageBreak⟩ :: anchorItem 0 one :: (band 0 one ++
      (⟨some 1, .pageBreak⟩ :: anchorItem 1 two :: (band 1 two ++ [])))) := (Except.ok.inj made).symm
  have layout : Layout story [opening ++ [], [anchorItem 0 one], band 0 one ++ [], anchorItem 1 two :: (band 1 two ++ [])] := by
    rw [split]
    apply Layout.places (plain_mk none (plain_titlePage _ _ _ _))
    apply Layout.turn rfl
    apply Layout.place (fun isBreak => by cases isBreak)
    -- the page ends before the title
    apply Layout.overflow (fun item mem index slide isAnchor => by cases mem; cases isAnchor)
    apply Layout.places (plain 0 one)
    apply Layout.turn rfl
    apply Layout.place (fun isBreak => by cases isBreak)
    apply Layout.places (plain 1 two)
    exact .finish
  exact ⟨_, story, _, rfl, whole, layout, all _ layout, rfl, by decide +kernel, by decide +kernel⟩

end SlidePress
