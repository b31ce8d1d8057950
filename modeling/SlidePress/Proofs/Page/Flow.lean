import SlidePress.Page.Flow
import SlidePress.Proofs.Page.RunningHeader
import Mathlib.Data.List.Forall2

/-!
# `SlidePress.Proofs.Page.Flow` — filling pages makes a layout

Filling pages is one way to set a story on pages. It keeps the order, since only the first item is ever placed, split or
put back (`step_cases`). It ends a page at every page break and wherever the first item neither fits nor can be split.
And it keeps an anchor on the page that was begun for it: an anchor cannot be split, so one that does not fit at the top
of a page is put back and does not fit at the top of the next one either, and then the story cannot be set
(`flowFrom_anchor`).

So whatever holds of every layout holds of the pages that are filled, if the story can be set at all.
-/

namespace SlidePress

/-! ## Items -/

/-- An item stands for a flowable, or for what is left of it. Nothing stands for a page break, and what stands for an
anchor is not made of lines. -/
inductive StandsFor : Option Item → Owned → Prop
  | pageBreak {owned : Owned} : owned.flowable = .pageBreak → StandsFor none owned
  | item {item : Item} {owned : Owned} : item.source = owned.flowable → owned.flowable ≠ .pageBreak →
      (owned.flowable.isPlain = true ∨ ∃ height, item.body = .solid height) → StandsFor (some item) owned

theorem standsFor_ofFlowable (metrics : String → Metrics) (width : Float) (owned : Owned) :
    StandsFor (Item.ofFlowable metrics width owned.flowable) owned := by
  obtain ⟨owner, flowable⟩ := owned
  cases flowable with
  | pageBreak => exact .pageBreak rfl
  | anchor index slide => exact .item rfl (fun same => by cases same) (Or.inr ⟨0, rfl⟩)
  | paragraph style markup bullet => exact .item rfl (fun same => by cases same) (Or.inl rfl)
  | preformatted style text => exact .item rfl (fun same => by cases same) (Or.inl rfl)
  | spacer width height => exact .item rfl (fun same => by cases same) (Or.inl rfl)
  | rule thickness color before after => exact .item rfl (fun same => by cases same) (Or.inl rfl)

namespace Item

theorem source_of_splitAfter {item first rest : Item} {count : Nat} (h : item.splitAfter count = .parts first rest) :
    rest.source = item.source := by
  unfold splitAfter at h
  split at h
  · cases h
  · split at h <;> cases h <;> rfl

/-- What is left of an item stands for the same flowable, and an item without lines has no parts. -/
theorem source_of_splitIn {item first rest : Item} {room : Float} (h : item.splitIn room = .parts first rest) :
    rest.source = item.source ∧ ∀ height, item.body ≠ .solid height := by
  unfold splitIn at h
  split at h
  · cases h
  · split at h
    · next found =>
        refine ⟨?_, fun height solid => by cases found.symm.trans solid⟩
        split at h
        · cases h
        · split at h
          · cases h
          · exact source_of_splitAfter h
    · next found =>
        refine ⟨?_, fun height solid => by cases found.symm.trans solid⟩
        split at h
        · cases h
        · split at h
          · cases h
          · split at h
            · cases h
            · exact source_of_splitAfter h
    · cases h

theorem splitIn_solid {item : Item} {height : Float} (solid : item.body = .solid height) (room : Float) :
    item.splitIn room = .whole := by
  unfold splitIn
  rw [solid]
  simp

end Item

/-! ## Steps -/

namespace FlowState

variable {frame : BodyFrame} {state next : FlowState} {event : PassEvent}

/-- After a page has ended, the next one is filled from its top. -/
theorem cursor_of_endPage {putBack : Bool} {items : List (Option Item)}
    (h : state.endPage frame putBack items = .next event next) :
    event = .pageEnd ∧ next.cursor = .top frame ∧ next.putBack = putBack ∧ next.items = items := by
  obtain ⟨kept, left⟩ := items_of_endPage h
  unfold endPage at h
  split at h
  · cases h
  · next found =>
      cases h
      simp only [nextPage?, Option.ite_none_right_eq_some, Option.some.injEq] at found
      obtain ⟨-, rfl⟩ := found
      exact ⟨rfl, rfl, kept, left⟩

/-- **What one step can do**, if it does not fail: the first item is placed, or a part of it; the page ends at a page
break, or because the first item neither fits nor can be split, and is put back. -/
theorem step_cases (h : state.step frame = .next event next) :
    (∃ item rest, state.items = some item :: rest ∧ event = .placed item.source ∧ next.items = rest) ∨
      (∃ item remainder rest, state.items = some item :: rest ∧ event = .placed item.source ∧
        next.items = some remainder :: rest ∧ remainder.source = item.source ∧
        ∀ height, item.body ≠ .solid height) ∨
      (∃ rest, state.items = none :: rest ∧ event = .pageEnd ∧ next.items = rest ∧ next.cursor = .top frame) ∨
      (∃ item rest, state.items = some item :: rest ∧ event = .pageEnd ∧ next.items = some item :: rest ∧
        next.cursor = .top frame ∧ next.putBack = true ∧ state.cursor.place? frame item = none) := by
  unfold step at h
  split at h
  · split at h <;> cases h
  · next rest items =>
      obtain ⟨rfl, top, _, left⟩ := cursor_of_endPage h
      exact Or.inr (Or.inr (Or.inl ⟨rest, items, rfl, left, top⟩))
  · next item rest items =>
      split at h
      · cases h
        exact Or.inl ⟨item, rest, items, rfl, rfl⟩
      · next noRoom =>
          unfold split at h
          split at h
          · cases h
          · cases h
          · next first remainder parts =>
              obtain ⟨source, lines⟩ := Item.source_of_splitIn parts
              split at h
              · cases h
              · cases h
                exact Or.inr (Or.inl ⟨item, remainder, rest, items, rfl, rfl, source, lines⟩)
          · split at h
            · cases h
            · obtain ⟨rfl, top, kept, left⟩ := cursor_of_endPage h
              exact Or.inr (Or.inr (Or.inr ⟨item, rest, items, rfl, left, top, kept, noRoom⟩))

theorem items_of_done (h : state.step frame = .done) : state.items = [] := by
  unfold step at h
  split at h
  · next items => exact items
  · unfold endPage at h
    split at h <;> cases h
  · split at h
    · cases h
    · unfold split at h
      split at h
      · cases h
      · cases h
      · split at h <;> cases h
      · split at h
        · cases h
        · unfold endPage at h
          split at h <;> cases h

end FlowState

section

variable {frame : BodyFrame} {state next : FlowState} {event : PassEvent}

theorem flowFrom_done (h : state.step frame = .done) : flowFrom frame state = ([.pageEnd], none) := by
  rw [flowFrom]
  split <;> simp_all

theorem flowFrom_failed {failure : FlowFailure} (h : state.step frame = .failed failure) :
    flowFrom frame state = ([], some failure) := by
  rw [flowFrom]
  split <;> simp_all

theorem flowFrom_next (h : state.step frame = .next event next) :
    flowFrom frame state = (event :: (flowFrom frame next).1, (flowFrom frame next).2) := by
  rw [flowFrom]
  split <;> simp_all

/-- **What does not fit at the top of a page and has no parts** cannot be set, once it has been put back. -/
theorem flowFrom_anchor {item : Item} {rest : List (Option Item)} {height : Float} (top : state.cursor = .top frame)
    (putBack : state.putBack = true) (items : state.items = some item :: rest) (solid : item.body = .solid height)
    (noRoom : (Cursor.top frame).place? frame item = none) : flowFrom frame state = ([], some .stuck) := by
  apply flowFrom_failed
  unfold FlowState.step
  rw [items]
  simp only [top, noRoom]
  unfold FlowState.split
  simp only [Item.splitIn_solid solid, putBack, if_true]

end

/-! ## The pages that are filled -/

theorem Layout.exists_cons {story : List Owned} {pages : List (List Owned)} (h : Layout story pages) :
    ∃ page later, pages = page :: later := by
  cases h <;> exact ⟨_, _, rfl⟩

/-- These are the events of a layout of a story. -/
def EventsOf (story : List Owned) (events : List PassEvent) : Prop :=
  ∃ pages, Layout story pages ∧ events = pages.flatMap pageEvents

section

variable {owned : Owned} {story : List Owned} {events : List PassEvent}

/-- The first page of a layout with one more flowable on it. -/
theorem pageEvents_cons (page : List Owned) (pages : List (List Owned)) :
    .placed owned.flowable :: (page :: pages).flatMap pageEvents = ((owned :: page) :: pages).flatMap pageEvents := by
  rw [List.flatMap_cons, List.flatMap_cons]
  rfl

theorem EventsOf.place (h : EventsOf story events) (noBreak : owned.flowable ≠ .pageBreak) :
    EventsOf (owned :: story) (.placed owned.flowable :: events) := by
  obtain ⟨pages, layout, rfl⟩ := h
  obtain ⟨page, pages, rfl⟩ := layout.exists_cons
  exact ⟨_, .place noBreak layout, pageEvents_cons page pages⟩

theorem EventsOf.part (h : EventsOf (owned :: story) events) (plain : owned.flowable.isPlain = true) :
    EventsOf (owned :: story) (.placed owned.flowable :: events) := by
  obtain ⟨pages, layout, rfl⟩ := h
  obtain ⟨page, pages, rfl⟩ := layout.exists_cons
  exact ⟨_, .part plain layout, pageEvents_cons page pages⟩

theorem EventsOf.turn (h : EventsOf story events) (isBreak : owned.flowable = .pageBreak) :
    EventsOf (owned :: story) (.pageEnd :: events) := by
  obtain ⟨pages, layout, rfl⟩ := h
  exact ⟨_, .turn isBreak layout, rfl⟩

theorem EventsOf.overflow (h : EventsOf (owned :: story) events) (plain : owned.flowable.isPlain = true) :
    EventsOf (owned :: story) (.pageEnd :: events) := by
  obtain ⟨pages, layout, rfl⟩ := h
  refine ⟨_, .overflow (fun other mem index slide isAnchor => ?_) layout, rfl⟩
  cases mem
  rw [isAnchor] at plain
  cases plain

end

/-- Where the filling of pages stands in a story: within what was made for a slide, or at the top of a page, with an
anchor next. -/
def AtPlace (s : Style) (slides : List Slide) (frame : BodyFrame) (state : FlowState) (story : List Owned) : Prop :=
  (∃ owner, Remaining s slides owner story) ∨
    state.cursor = .top frame ∧ ∃ index slide rest, story = anchorItem index slide :: rest ∧
      Remaining s slides (some index) rest

section

variable {s : Style} {slides : List Slide} {frame : BodyFrame} {state next : FlowState} {owned : Owned}
variable {story : List Owned}

theorem AtPlace.placed (h : AtPlace s slides frame state (owned :: story)) (noBreak : owned.flowable ≠ .pageBreak) :
    AtPlace s slides frame next story := by
  rcases h with ⟨owner, remaining⟩ | ⟨_, index, slide, rest, split, remaining⟩
  · rcases remaining_cases remaining with ⟨_, _, remaining⟩ | ⟨isBreak, _⟩
    · exact Or.inl ⟨owner, remaining⟩
    · exact absurd isBreak noBreak
  · obtain ⟨-, rfl⟩ := List.cons.inj split
    exact Or.inl ⟨some index, remaining⟩

/-- The place does not change before something that was made for a slide and is not its anchor. -/
theorem AtPlace.plain (h : AtPlace s slides frame state (owned :: story)) (plain : owned.flowable.isPlain = true) :
    AtPlace s slides frame next (owned :: story) := by
  rcases h with inside | ⟨_, index, slide, rest, split, _⟩
  · exact Or.inl inside
  · obtain ⟨rfl, -⟩ := List.cons.inj split
    cases plain

/-- The place behind a page break is the top of a page with an anchor next. -/
theorem AtPlace.pageBreak (h : AtPlace s slides frame state (owned :: story)) (isBreak : owned.flowable = .pageBreak)
    (top : next.cursor = .top frame) : AtPlace s slides frame next story := by
  rcases h with ⟨owner, remaining⟩ | ⟨_, index, slide, rest, split, _⟩
  · rcases remaining_cases remaining with ⟨_, plain, _⟩ | ⟨_, slide, rest, _, split, behind⟩
    · rw [isBreak] at plain
      cases plain
    · exact Or.inr ⟨top, _, slide, rest, split, behind⟩
  · obtain ⟨rfl, -⟩ := List.cons.inj split
    cases isBreak

/-- **A page ends before an item that is put back** only if this is no anchor. An anchor would be at the top of a page,
and could not be set on the next one either. -/
theorem AtPlace.overflow {item : Item} {items : List (Option Item)} {later : List PassEvent}
    (h : AtPlace s slides frame state (owned :: story)) (first : StandsFor (some item) owned)
    (left : next.items = some item :: items) (top : next.cursor = .top frame) (putBack : next.putBack = true)
    (noRoom : state.cursor.place? frame item = none) (rest : flowFrom frame next = (later, none)) :
    owned.flowable.isPlain = true := by
  rcases first with - | ⟨_, noBreak, plain | ⟨height, solid⟩⟩
  · exact plain
  · rcases h with ⟨owner, remaining⟩ | ⟨before, _⟩
    · rcases remaining_cases remaining with ⟨_, plain, _⟩ | ⟨isBreak, _⟩
      · exact plain
      · exact absurd isBreak noBreak
    · rw [before] at noRoom
      rw [flowFrom_anchor top putBack left solid noRoom] at rest
      cases rest

end

/-- **Filling pages makes a layout** of what is left of a story, if it ends without a failure. -/
theorem flowFrom_layout {s : Style} {slides : List Slide} {frame : BodyFrame} {state : FlowState} {story : List Owned}
    {events : List PassEvent} (stands : List.Forall₂ StandsFor state.items story)
    (place : AtPlace s slides frame state story) (h : flowFrom frame state = (events, none)) : EventsOf story events := by
  induction state using flowFrom.induct frame generalizing story events with
  | case1 state done =>
      rw [FlowState.items_of_done done] at stands
      cases stands
      rw [flowFrom_done done] at h
      cases h
      exact ⟨[[]], .finish, rfl⟩
  | case2 state failure failed =>
      rw [flowFrom_failed failed] at h
      cases h
  | case3 state event next step later outcome rest ih =>
      rw [flowFrom_next step, rest] at h
      cases h
      rcases FlowState.step_cases step with ⟨item, items, here, rfl, left⟩ |
        ⟨item, remainder, items, here, rfl, left, same, lines⟩ | ⟨items, here, rfl, left, top⟩ |
        ⟨item, items, here, rfl, left, top, putBack, noRoom⟩
      · -- the first item is placed
        rw [here] at stands
        rcases stands with - | ⟨first, others⟩
        rcases first with - | ⟨source, noBreak, _⟩
        rw [source]
        exact (ih (left ▸ others) (place.placed noBreak) rest).place noBreak
      · -- a part of it is placed
        rw [here] at stands
        rcases stands with - | @⟨_, owned, _, story, first, others⟩
        rcases first with - | ⟨source, noBreak, plain | ⟨height, solid⟩⟩
        · -- what is left of it stands for the same flowable
          have stays : List.Forall₂ StandsFor next.items (owned :: story) := by
            rw [left]
            exact .cons (.item (same.trans source) noBreak (Or.inl plain)) others
          rw [source]
          exact (ih stays (place.plain plain) rest).part plain
        · exact absurd solid (lines height)
      · -- the page ends at a page break
        rw [here] at stands
        rcases stands with - | ⟨first, others⟩
        rcases first with ⟨isBreak⟩
        exact (ih (left ▸ others) (place.pageBreak isBreak top) rest).turn isBreak
      · -- the page ends before the first item
        have stays : List.Forall₂ StandsFor next.items story := by rwa [left, ← here]
        rw [here] at stands
        rcases stands with - | ⟨first, others⟩
        have plain := place.overflow first left top putBack noRoom rest
        exact (ih stays (place.plain plain) rest).overflow plain

/-- **Filling pages makes a layout** of the story of a deck, if the story can be set. -/
theorem flow_layout {chrome : Chrome} {wrap : Wrap} {metrics : String → Metrics} {slides : List Slide} {story : List Owned}
    (made : chrome.ownedStory wrap slides = .ok story) {frame : BodyFrame} {events : List PassEvent}
    (h : flow metrics frame (story.map Owned.flowable) = (events, none)) :
    ∃ pages, Layout story pages ∧ events = pages.flatMap pageEvents := by
  have stands : List.Forall₂ StandsFor ((story.map Owned.flowable).map (Item.ofFlowable metrics frame.width)) story := by
    rw [List.map_map, List.forall₂_map_left_iff, List.forall₂_same]
    exact fun owned _ => standsFor_ofFlowable metrics frame.width owned
  exact flowFrom_layout stands (Or.inl ⟨none, remaining_ownedStory made⟩) h

end SlidePress
