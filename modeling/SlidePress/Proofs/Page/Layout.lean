import SlidePress.Page.Frame
import SlidePress.Proofs.Outcome
import Mathlib.Data.List.Basic

/-!
# `SlidePress.Proofs.Page.Layout` — the pages of a story, and whose they are

A layout puts the flowables of a story on pages, in order. Page breaks end a page, and pages may end wherever else
there is no more room, but an anchor stays on the page that the page break before it began. Nothing is known of how high
anything is.

In the story of a deck every anchor stands right behind a page break. So what is left of the story is always in one of
two places: within what was made for one slide or for the opening page (`Remaining`), or at an anchor right behind its
page break. This decides what the next page can be: it goes on with the same slide, or the next one begins at its top
(`PageAfter`). The pages of every layout are a chain of such pages (`Layout.pagesFrom`).
-/

namespace SlidePress

/-! ## Stories -/

/-- A flowable, and the index of the slide that it was made for. The opening page is made for none. -/
structure Owned where
  owner : Option Nat
  flowable : Flowable

/-- What the slides from an index on are set as. -/
def ownedFrom (s : Style) (index : Nat) : List Slide → Except BodyError (List Owned)
  | [] => .ok []
  | slide :: slides =>
    match slideFlowables s index slide with
    | .error e => .error e
    | .ok flowables => (ownedFrom s (index + 1) slides).map (flowables.map (Owned.mk (some index)) ++ ·)

/-- The story of a deck, with the slides that its flowables were made for. -/
def Chrome.ownedStory (chrome : Chrome) (wrap : Wrap) (slides : List Slide) :
    Except BodyError (List Owned) :=
  let frame := chrome.frame
  (ownedFrom chrome.style 0 slides).map
    ((chrome.style.titlePage wrap frame.width frame.height).map (Owned.mk none) ++ ·)

theorem map_flowable_mk (owner : Option Nat) (flowables : List Flowable) :
    (flowables.map (Owned.mk owner)).map Owned.flowable = flowables := by
  rw [List.map_map]
  exact List.map_id flowables

theorem ownedFrom_flowables (s : Style) (index : Nat) (slides : List Slide) :
    (ownedFrom s index slides).map (List.map Owned.flowable) = slidesFrom s index slides := by
  induction slides generalizing index with
  | nil => rfl
  | cons slide slides ih =>
      rw [ownedFrom, slidesFrom]
      cases slideFlowables s index slide with
      | error e => rfl
      | ok flowables =>
          simp only
          rw [← ih (index + 1)]
          cases ownedFrom s (index + 1) slides with
          | error e => rfl
          | ok later => simp only [Except.map, List.map_append, map_flowable_mk]

/-- **It is the story of the deck.** -/
theorem ownedStory_flowables (chrome : Chrome) (wrap : Wrap) (slides : List Slide) :
    (chrome.ownedStory wrap slides).map (List.map Owned.flowable) = chrome.story wrap slides := by
  unfold Chrome.ownedStory Chrome.story
  simp only
  rw [← ownedFrom_flowables]
  cases ownedFrom chrome.style 0 slides with
  | error e => rfl
  | ok later => simp only [Except.map, List.map_append, map_flowable_mk]

/-! ## What slides are set as -/

/-- Whether a flowable neither begins a slide nor ends a page. -/
def Flowable.isPlain : Flowable → Bool
  | .pageBreak | .anchor .. => false
  | _ => true

theorem plain_titlePage (s : Style) (wrap : Wrap) (frameWidth frameHeight : Float) :
    ∀ flowable ∈ s.titlePage wrap frameWidth frameHeight, flowable.isPlain = true := by
  intro flowable mem
  obtain ⟨item, _, rfl⟩ := List.mem_map.mp mem
  cases item <;> rfl

theorem plain_titleBand (s : Style) (title : String) : ∀ flowable ∈ s.titleBand title, flowable.isPlain = true := by
  intro flowable mem
  simp only [Style.titleBand, List.mem_cons, List.not_mem_nil, or_false] at mem
  rcases mem with rfl | rfl <;> rfl

theorem plain_markedParagraph {s : Style} {style : ParagraphStyle} {text : String} {bullet : Option String}
    {flowable : Flowable} (h : markedParagraph s style text bullet = .ok flowable) : flowable.isPlain = true := by
  unfold markedParagraph at h
  split at h
  · cases h
    rfl
  · cases h

theorem plain_flowable {s : Style} {block : Block} {flowable : Flowable} (h : block.flowable s = .ok flowable) :
    flowable.isPlain = true := by
  unfold Block.flowable at h
  split at h
  case h_2 | h_3 =>
    cases h
    rfl
  case h_8 | h_9 | h_10 => cases h
  all_goals exact plain_markedParagraph h

/-- Nothing in the body of a slide begins a slide or ends a page. -/
theorem plain_bodyFlowables {s : Style} {body : List Block} {flowables : List Flowable}
    (h : bodyFlowables s body = .ok flowables) : ∀ flowable ∈ flowables, flowable.isPlain = true := by
  intro flowable mem
  obtain ⟨block, _, found⟩ := exists_of_mem_mapM h mem
  exact plain_flowable found

/-- The item that a slide begins with. -/
def anchorItem (index : Nat) (slide : Slide) : Owned := { owner := some index, flowable := .anchor index slide }

theorem ownedFrom_cons {s : Style} {index : Nat} {slide : Slide} {slides : List Slide} {story : List Owned}
    (h : ownedFrom s index (slide :: slides) = .ok story) :
    ∃ (flowables : List Flowable) (later : List Owned), (∀ flowable ∈ flowables, flowable.isPlain = true) ∧
      ownedFrom s (index + 1) slides = .ok later ∧
      story = { owner := some index, flowable := .pageBreak } :: anchorItem index slide ::
        (flowables.map (Owned.mk (some index)) ++ later) := by
  rw [ownedFrom, slideFlowables] at h
  cases found : bodyFlowables s slide.body with
  | error e =>
      rw [found] at h
      cases h
  | ok body =>
      rw [found] at h
      cases others : ownedFrom s (index + 1) slides with
      | error e =>
          simp only [Except.map, others] at h
          cases h
      | ok later =>
          simp only [Except.map, others] at h
          cases h
          refine ⟨s.titleBand slide.title ++ body, later, ?_, rfl, rfl⟩
          intro flowable mem
          rcases List.mem_append.mp mem with inBand | inBody
          · exact plain_titleBand s slide.title flowable inBand
          · exact plain_bodyFlowables found flowable inBody

/-! ## What is left of a story -/

/-- The index of the slide that comes next. -/
def nextIndex : Option Nat → Nat
  | none => 0
  | some index => index + 1

/-- Everything was made for one slide, or for the opening page, and nothing begins a slide or ends a page. -/
def Plain (owner : Option Nat) (items : List Owned) : Prop :=
  ∀ item ∈ items, item.owner = owner ∧ item.flowable.isPlain = true

theorem plain_nil (owner : Option Nat) : Plain owner [] := by
  intro item mem
  cases mem

theorem Plain.cons {owner : Option Nat} {item : Owned} {items : List Owned} (made : item.owner = owner)
    (plain : item.flowable.isPlain = true) (h : Plain owner items) : Plain owner (item :: items) := by
  intro other mem
  rcases List.mem_cons.mp mem with rfl | inItems
  · exact ⟨made, plain⟩
  · exact h other inItems

theorem plain_mk {flowables : List Flowable} (owner : Option Nat)
    (plain : ∀ flowable ∈ flowables, flowable.isPlain = true) : Plain owner (flowables.map (Owned.mk owner)) := by
  intro item mem
  obtain ⟨flowable, inFlowables, rfl⟩ := List.mem_map.mp mem
  exact ⟨rfl, plain flowable inFlowables⟩

/-- **What is left of a story** within what was made for a slide, or for the opening page: a part of that, and the
slides that come next. -/
def Remaining (s : Style) (slides : List Slide) (owner : Option Nat) (story : List Owned) : Prop :=
  ∃ items later, Plain owner items ∧ ownedFrom s (nextIndex owner) (slides.drop (nextIndex owner)) = .ok later ∧
    story = items ++ later

section

variable {s : Style} {slides : List Slide} {owner : Option Nat} {item : Owned} {story : List Owned}

theorem remaining_ownedStory {chrome : Chrome} {wrap : Wrap}
    (h : chrome.ownedStory wrap slides = .ok story) : Remaining chrome.style slides none story := by
  unfold Chrome.ownedStory at h
  simp only at h
  cases all : ownedFrom chrome.style 0 slides with
  | error e =>
      rw [all] at h
      cases h
  | ok later =>
      rw [all] at h
      cases h
      exact ⟨_, later, plain_mk none (plain_titlePage _ _ _ _), all, rfl⟩

theorem remaining_nil (h : Remaining s slides owner []) : slides.length ≤ nextIndex owner := by
  obtain ⟨items, later, _, made, empty⟩ := h
  obtain ⟨-, rfl⟩ := List.append_eq_nil_iff.mp empty.symm
  apply List.drop_eq_nil_iff.mp
  cases ahead : slides.drop (nextIndex owner) with
  | nil => rfl
  | cons slide slides =>
      -- a slide is set as something
      rw [ahead] at made
      obtain ⟨_, _, _, _, something⟩ := ownedFrom_cons made
      cases something

/-- **What comes next in a story**: more of the same slide, or a page break with the anchor of the next slide behind
it. -/
theorem remaining_cases (h : Remaining s slides owner (item :: story)) :
    (item.owner = owner ∧ item.flowable.isPlain = true ∧ Remaining s slides owner story) ∨
      item.flowable = .pageBreak ∧ ∃ slide rest, slides[nextIndex owner]? = some slide ∧
        story = anchorItem (nextIndex owner) slide :: rest ∧ Remaining s slides (some (nextIndex owner)) rest := by
  obtain ⟨items, later, plain, made, split⟩ := h
  cases items with
  | cons first items =>
      obtain ⟨rfl, rfl⟩ := List.cons.inj split
      -- more of what was made for the same slide
      obtain ⟨own, isPlain⟩ := plain item List.mem_cons_self
      exact Or.inl ⟨own, isPlain, items, later, fun other mem => plain other (List.mem_cons_of_mem _ mem), made, rfl⟩
  | nil =>
      -- the next slide, which has to be there since something is left
      right
      rw [List.nil_append] at split
      subst split
      cases ahead : slides.drop (nextIndex owner) with
      | nil =>
          rw [ahead] at made
          cases made
      | cons slide rest =>
          have found : slides[nextIndex owner]? = some slide := by rw [← List.head?_drop, ahead, List.head?_cons]
          have drop : slides.drop (nextIndex owner + 1) = rest := by rw [← List.tail_drop, ahead, List.tail_cons]
          rw [ahead] at made
          obtain ⟨flowables, later, isPlain, others, split⟩ := ownedFrom_cons made
          obtain ⟨rfl, rfl⟩ := List.cons.inj split
          exact ⟨rfl, slide, _, found, rfl, _, later, plain_mk _ isPlain, drop ▸ others, rfl⟩

end

/-! ## Layouts -/

/-- **The pages that a story can be set on.** -/
inductive Layout : List Owned → List (List Owned) → Prop
  /-- The last page ends where the story does. -/
  | finish : Layout [] [[]]
  /-- A flowable is placed on the page. -/
  | place {item : Owned} {story page : List Owned} {pages : List (List Owned)} :
      item.flowable ≠ .pageBreak → Layout story (page :: pages) → Layout (item :: story) ((item :: page) :: pages)
  /-- A part of a flowable is placed on the page. An anchor has no parts. -/
  | part {item : Owned} {story page : List Owned} {pages : List (List Owned)} :
      item.flowable.isPlain = true → Layout (item :: story) (page :: pages) →
      Layout (item :: story) ((item :: page) :: pages)
  /-- A page break ends the page. -/
  | turn {item : Owned} {story : List Owned} {pages : List (List Owned)} :
      item.flowable = .pageBreak → Layout story pages → Layout (item :: story) ([] :: pages)
  /-- The page ends anywhere else, but not between a page break and the anchor behind it. -/
  | overflow {story : List Owned} {pages : List (List Owned)} :
      (∀ item ∈ story.head?, ∀ index slide, item.flowable ≠ .anchor index slide) → Layout story pages →
      Layout story ([] :: pages)

theorem Layout.places {owner : Option Nat} {items story page : List Owned} {pages : List (List Owned)}
    (plain : Plain owner items) (h : Layout story (page :: pages)) :
    Layout (items ++ story) ((items ++ page) :: pages) := by
  induction items with
  | nil => exact h
  | cons item items ih =>
      have noBreak : item.flowable ≠ .pageBreak := by
        intro isBreak
        have isPlain := (plain item List.mem_cons_self).2
        rw [isBreak] at isPlain
        cases isPlain
      exact .place noBreak (ih fun other mem => plain other (List.mem_cons_of_mem _ mem))

/-! ## Pages that belong to slides -/

/-- **The page after the pages of a slide, or of none**: it goes on with that slide, or the next slide begins at its
top. -/
inductive PageAfter (slides : List Slide) (owner : Option Nat) : List Owned → Option Nat → Prop
  | goesOn {page : List Owned} : Plain owner page → PageAfter slides owner page owner
  | begins {page : List Owned} {slide : Slide} : slides[nextIndex owner]? = some slide →
      Plain (some (nextIndex owner)) page →
      PageAfter slides owner (anchorItem (nextIndex owner) slide :: page) (some (nextIndex owner))

/-- **The pages after those of a slide**, or of none, up to the last slide. -/
inductive PagesFrom (slides : List Slide) : Option Nat → List (List Owned) → Prop
  | done {owner : Option Nat} : slides.length ≤ nextIndex owner → PagesFrom slides owner []
  | page {owner next : Option Nat} {page : List Owned} {pages : List (List Owned)} :
      PageAfter slides owner page next → PagesFrom slides next pages → PagesFrom slides owner (page :: pages)

/-- **The pages of a layout** of what is left of a story. The page that is being filled goes on with its slide; at an
anchor, the slide of the anchor begins on it. -/
theorem Layout.pagesFrom {s : Style} {slides : List Slide} {story : List Owned} {pages : List (List Owned)}
    (layout : Layout story pages) :
    (∀ owner, Remaining s slides owner story →
        ∃ page later, pages = page :: later ∧ Plain owner page ∧ PagesFrom slides owner later) ∧
      (∀ index slide rest, story = anchorItem index slide :: rest → Remaining s slides (some index) rest →
        ∃ page later, pages = (anchorItem index slide :: page) :: later ∧ Plain (some index) page ∧
          PagesFrom slides (some index) later) := by
  -- both together: a page break leads from the first to the second, and the anchor behind it leads back
  induction layout with
  | finish =>
      refine ⟨fun owner remaining => ?_, fun index slide rest split _ => by cases split⟩
      exact ⟨[], [], rfl, plain_nil owner, .done (remaining_nil remaining)⟩
  | place noBreak _ ih =>
      constructor
      · intro owner remaining
        rcases remaining_cases remaining with ⟨own, plain, remaining⟩ | ⟨isBreak, _⟩
        · obtain ⟨page, later, split, plains, pagesFrom⟩ := ih.1 owner remaining
          obtain ⟨rfl, rfl⟩ := List.cons.inj split
          exact ⟨_, _, rfl, plains.cons own plain, pagesFrom⟩
        · exact absurd isBreak noBreak
      · intro index slide rest split remaining
        obtain ⟨rfl, rfl⟩ := List.cons.inj split
        obtain ⟨page, later, split, plains, pagesFrom⟩ := ih.1 (some index) remaining
        obtain ⟨rfl, rfl⟩ := List.cons.inj split
        exact ⟨_, _, rfl, plains, pagesFrom⟩
  | part isPlain _ ih =>
      constructor
      · intro owner remaining
        rcases remaining_cases remaining with ⟨own, plain, _⟩ | ⟨isBreak, _⟩
        · obtain ⟨page, later, split, plains, pagesFrom⟩ := ih.1 owner remaining
          obtain ⟨rfl, rfl⟩ := List.cons.inj split
          exact ⟨_, _, rfl, plains.cons own plain, pagesFrom⟩
        · rw [isBreak] at isPlain
          cases isPlain
      · intro index slide rest split _
        obtain ⟨rfl, -⟩ := List.cons.inj split
        cases isPlain
  | turn isBreak _ ih =>
      constructor
      · intro owner remaining
        rcases remaining_cases remaining with ⟨_, plain, _⟩ | ⟨_, slide, rest, found, rfl, behind⟩
        · rw [isBreak] at plain
          cases plain
        · obtain ⟨page, later, rfl, plains, pagesFrom⟩ := ih.2 _ slide rest rfl behind
          exact ⟨[], _, rfl, plain_nil owner, .page (.begins found plains) pagesFrom⟩
      · intro index slide rest split _
        obtain ⟨rfl, -⟩ := List.cons.inj split
        cases isBreak
  | overflow noAnchor _ ih =>
      constructor
      · intro owner remaining
        obtain ⟨page, later, rfl, plains, pagesFrom⟩ := ih.1 owner remaining
        exact ⟨[], _, rfl, plain_nil owner, .page (.goesOn plains) pagesFrom⟩
      · intro index slide rest split _
        subst split
        exact absurd rfl (noAnchor _ rfl index slide)

/-- **The pages of every layout of a deck**: the opening page, and then the pages of the slides in order. -/
theorem ownedStory_pagesFrom {chrome : Chrome} {wrap : Wrap} {slides : List Slide} {story : List Owned}
    {pages : List (List Owned)} (h : chrome.ownedStory wrap slides = .ok story) (layout : Layout story pages) :
    ∃ page later, pages = page :: later ∧ Plain none page ∧ PagesFrom slides none later :=
  layout.pagesFrom.1 none (remaining_ownedStory h)

end SlidePress
