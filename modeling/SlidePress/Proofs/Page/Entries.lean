import SlidePress.Proofs.Page.Pass
import SlidePress.Proofs.Text.Numeral
import Mathlib.Data.List.Nodup

/-!
# `SlidePress.Proofs.Page.Entries` — the outline entries of a pass

What a pass draws depends on its events only through the slides that begin (`run_reached`): page ends come and go
between them. So what holds of the outline of any slides holds of a list of entries (`entriesFrom`). None has an empty
title, no two have the same key if no two slides have the same index, and their levels never jump: a topic is listed
below a section only while one is open, and a section is opened by its own entry (`supported_entriesFrom`). Only the
pages need the events themselves (`run_pages`).

## Contents
- `EachAfter`: a property of every item and the items before it.
- `entriesFrom`, `Began`, `run_reached`: what a pass draws.
- `OnlyForward`, `PagesInOrder`, `run_pages`: the pages of the outline.
- `slideKeys`, `keys_entriesFrom`: the keys.
- `titled_entriesFrom`: the titles.
- `Nestable`, `nestable_entriesFrom`: the levels.
-/

namespace SlidePress

/-! ## A property of every item and the items before it -/

/-- The property holds of every item together with those before it. -/
def EachAfter {α : Type} (P : List α → α → Prop) (items : List α) : Prop :=
  ∀ before item after, items = before ++ item :: after → P before item

section

variable {α : Type} {P : List α → α → Prop}

theorem eachAfter_nil : EachAfter P [] := by
  intro before item after h
  simp at h

theorem EachAfter.concat {items : List α} {last : α} (h : EachAfter P items) (hlast : P items last) :
    EachAfter P (items ++ [last]) := by
  intro before item after split
  rcases List.eq_nil_or_concat after with rfl | ⟨after, x, rfl⟩
  · obtain ⟨rfl, eq⟩ := List.append_inj' split rfl
    cases eq
    exact hlast
  · have split' : items ++ [last] = (before ++ item :: after) ++ [x] := by rw [split]; simp
    exact h before item after (List.append_inj' split' rfl).1

end

/-- The entry for what is introduced, if there is one, at the end of others. -/
theorem EachAfter.entryFor {P : List DrawnEntry → DrawnEntry → Prop} {entries : List DrawnEntry} (h : EachAfter P entries)
    {key : String} {level : Nat} {text? : Option String}
    (new : ∀ title, text? = some title → title ≠ "" → P entries { key, title, level }) :
    EachAfter P (entries ++ SlidePress.entryFor key level text?) := by
  unfold SlidePress.entryFor
  split
  · rwa [List.append_nil]
  · next title =>
      by_cases empty : title = ""
      · rw [if_pos (by simp [empty]), List.append_nil]
        exact h
      · rw [if_neg (by simp [empty])]
        exact h.concat (new title rfl empty)

/-! ## What a pass draws -/

/-- The entries that slides introduce one after another. -/
def entriesFrom (wasOpen : Bool) : List (Slide × Nat) → List DrawnEntry
  | [] => []
  | (slide, index) :: later => slide.entries wasOpen index ++ entriesFrom (slide.leavesOpen wasOpen) later

/-- What has been drawn and recorded since a state in which some slides began. -/
structure Began (before : PassState) (reached : List (Slide × Nat))
    (out : PassState × List DrawCall × Except MeasureError Unit) : Prop where
  current : out.1.current = (reached.getLast?.map Prod.fst).or before.current
  draws : Draws out.2.1 (entriesFrom before.sectionOpen reached)
  recorded : out.1.outline.map (fun entry => (entry.level, entry.title)) =
    before.outline.map (fun entry => (entry.level, entry.title)) ++
      (entriesFrom before.sectionOpen reached).map fun entry => (entry.level, entry.title)

namespace Pass

section

variable {state next : PassState} {calls : List DrawCall} {reached : List (Slide × Nat)}
variable {out : PassState × List DrawCall × Except MeasureError Unit}

/-- Where nothing happens to the outline, no slide began. -/
theorem LeavesOutline.began (h : LeavesOutline state out) : Began state [] out where
  current := h.current
  draws := h.draws
  recorded := by rw [h.outline]; simp [entriesFrom]

theorem began_cons (index : Nat) (slide : Slide) (later : Began (state.begin index slide).1 reached out) :
    Began state ((slide, index) :: reached) (out.1, (state.begin index slide).2 ++ out.2.1, out.2.2) := by
  have opened : (state.begin index slide).1.sectionOpen = slide.leavesOpen state.sectionOpen := by
    rw [begin_state]
  obtain ⟨current, draws, recorded⟩ := later
  rw [opened] at draws recorded
  refine ⟨?_, (begin_draws state index slide).append draws, ?_⟩
  · show out.1.current = _
    rw [current, begin_state, List.getLast?_cons]
    cases reached.getLast? <;> rfl
  · show out.1.outline.map _ = _
    rw [recorded, begin_state]
    simp [entriesFrom, DrawnEntry.recorded, Function.comp_def]

/-- Nothing happens to the outline, and slides begin after it. -/
theorem LeavesOutline.began_after (h : LeavesOutline state (next, calls, .ok ())) (later : Began next reached out) :
    Began state reached (out.1, calls ++ out.2.1, out.2.2) := by
  obtain ⟨outline, sectionOpen, current, draws⟩ := h
  refine ⟨later.current.trans (by rw [current]), ?_, later.recorded.trans (by rw [outline, sectionOpen])⟩
  have drawn := draws.append later.draws
  rwa [sectionOpen, List.nil_append] at drawn

/-- **What a pass draws** is what the slides introduce that begin, as far as it gets; if nothing fails, all of them. -/
theorem run_reached (pass : Pass) (state : PassState) (events : List PassEvent) :
    ∃ reached, reached <+: events.filterMap PassEvent.anchor? ∧
      ((pass.run state events).2.2 = .ok () → reached = events.filterMap PassEvent.anchor?) ∧
      Began state reached (pass.run state events) := by
  induction events generalizing state with
  | nil => exact ⟨[], List.prefix_rfl, fun _ => rfl, rfl, ⟨rfl, rfl⟩, by simp [run, entriesFrom]⟩
  | cons event events ih =>
      rcases step_cases pass state event with ⟨index, slide, rfl, step⟩ | ⟨noAnchor, leaves⟩
      · obtain ⟨reached, isPrefix, all, began⟩ := ih (state.begin index slide).1
        rw [run_cons_ok step]
        exact ⟨(slide, index) :: reached, List.cons_prefix_cons.mpr ⟨rfl, isPrefix⟩,
          fun ok => congrArg ((slide, index) :: ·) (all ok), began_cons index slide began⟩
      · rw [List.filterMap_cons_none noAnchor]
        rcases step : pass.step state event with ⟨next, calls, cause | _⟩
        · -- the pass ends here
          rw [step] at leaves
          rw [run_cons_error step]
          exact ⟨[], List.nil_prefix, (fun ok => by cases ok), leaves.began⟩
        · rw [step] at leaves
          obtain ⟨reached, isPrefix, all, began⟩ := ih next
          rw [run_cons_ok step]
          exact ⟨reached, isPrefix, all, leaves.began_after began⟩

end

end Pass

/-! ## The pages of the outline -/

/-- The pages of the events only go forward from a page on. -/
def OnlyForward (page : Int) : List PassEvent → Prop
  | [] => True
  | .placed _ :: events => OnlyForward page events
  | .pageEnd :: events => OnlyForward (page + 1) events
  | .goTo next :: events => page ≤ next ∧ OnlyForward next events

/-- The outline leads to pages in order, up to the present one. -/
structure PagesInOrder (state : PassState) : Prop where
  sorted : state.outline.Pairwise fun a b => a.page ≤ b.page
  reached : ∀ entry ∈ state.outline, entry.page ≤ state.page

section

variable {pass : Pass} {state : PassState}

/-- The outline stays in order where the page goes forward and nothing is recorded. -/
theorem PagesInOrder.forward {next : PassState} (h : PagesInOrder state) (outline : next.outline = state.outline)
    (page : state.page ≤ next.page) : PagesInOrder next where
  sorted := by rw [outline]; exact h.sorted
  reached entry mem := Int.le_trans (h.reached entry (outline ▸ mem)) page

theorem PagesInOrder.begin (h : PagesInOrder state) (index : Nat) (slide : Slide) :
    PagesInOrder (state.begin index slide).1 := by
  let new := (slide.entries state.sectionOpen index).map (DrawnEntry.recorded state.page)
  have onPage : ∀ entry ∈ new, entry.page = state.page := by
    intro entry mem
    obtain ⟨drawn, _, rfl⟩ := List.mem_map.mp mem
    rfl
  rw [Pass.begin_state]
  constructor
  · refine List.pairwise_append.mpr ⟨h.sorted, ?_, fun a ha b hb => ?_⟩
    · exact List.pairwise_of_forall_mem_list fun a ha b hb => Int.le_of_eq ((onPage a ha).trans (onPage b hb).symm)
    · exact Int.le_trans (h.reached a ha) (Int.le_of_eq (onPage b hb).symm)
  · intro entry mem
    rcases List.mem_append.mp mem with old | fresh
    · exact h.reached entry old
    · exact Int.le_of_eq (onPage entry fresh)

namespace Pass

/-- **One event** keeps the outline in order, and the pages still go forward after it. -/
theorem step_pagesInOrder {next : PassState} {calls : List DrawCall} {outcome : Except MeasureError Unit}
    {event : PassEvent} {events : List PassEvent} (h : PagesInOrder state)
    (forward : OnlyForward state.page (event :: events)) (step : pass.step state event = (next, calls, outcome)) :
    PagesInOrder next ∧ (outcome = .ok () → OnlyForward next.page events) := by
  rcases step_cases pass state event with ⟨index, slide, rfl, begins⟩ | ⟨noAnchor, leaves⟩
  · rw [begins] at step
    cases step
    have page : (state.begin index slide).1.page = state.page := by rw [begin_state]
    exact ⟨h.begin index slide, fun _ => by rw [page]; exact forward⟩
  · have outline : next.outline = state.outline := by
      rw [step] at leaves
      exact leaves.outline
    cases event with
    | placed flowable =>
        have same : next = state := by
          cases flowable with
          | anchor index slide => cases noAnchor
          | _ => cases step; rfl
        subst same
        exact ⟨h, fun _ => forward⟩
    | pageEnd =>
        cases outcome with
        | error cause =>
            obtain rfl := endPage_error step
            exact ⟨h.forward outline (Int.le_refl _), fun ok => by cases ok⟩
        | ok _ =>
            obtain ⟨placements, rfl⟩ := endPage_ok step
            exact ⟨h.forward outline (by simp only; omega), fun _ => forward⟩
    | goTo page =>
        cases step
        exact ⟨h.forward outline forward.1, fun _ => forward.2⟩

/-- **The pages of the outline never decrease** where the pages of the pass do not. -/
theorem run_pages {events : List PassEvent} (h : PagesInOrder state) (forward : OnlyForward state.page events) :
    PagesInOrder (pass.run state events).1 := by
  induction events generalizing state with
  | nil => exact h
  | cons event events ih =>
      rcases step : pass.step state event with ⟨next, calls, cause | _⟩
      · rw [run_cons_error step]
        exact (step_pagesInOrder h forward step).1
      · obtain ⟨kept, later⟩ := step_pagesInOrder h forward step
        rw [run_cons_ok step]
        exact ih kept (later rfl)

end Pass

end

/-! ## The keys of the outline -/

theorem toList_sectionKey (index : Nat) : (sectionKey index).toList = 's' :: Nat.toDigits 10 index := by
  rw [sectionKey, String.toList_append]
  exact congrArg ('s' :: ·) Nat.toList_repr

theorem toList_topicKey (index : Nat) : (topicKey index).toList = 't' :: Nat.toDigits 10 index := by
  rw [topicKey, String.toList_append]
  exact congrArg ('t' :: ·) Nat.toList_repr

theorem sectionKey_injective {a b : Nat} (h : sectionKey a = sectionKey b) : a = b := by
  have chars := congrArg String.toList h
  rw [toList_sectionKey, toList_sectionKey] at chars
  exact Text.toDigits_injective (List.cons.inj chars).2

theorem topicKey_injective {a b : Nat} (h : topicKey a = topicKey b) : a = b := by
  have chars := congrArg String.toList h
  rw [toList_topicKey, toList_topicKey] at chars
  exact Text.toDigits_injective (List.cons.inj chars).2

theorem sectionKey_ne_topicKey (a b : Nat) : sectionKey a ≠ topicKey b := by
  intro h
  have chars := congrArg String.toList h
  rw [toList_sectionKey, toList_topicKey] at chars
  exact absurd (List.cons.inj chars).1 (by decide)

/-- The keys that a slide may use. -/
def slideKeys (index : Nat) : List String := [sectionKey index, topicKey index]

theorem nodup_slideKeys {indices : List Nat} (distinct : indices.Nodup) : (indices.flatMap slideKeys).Nodup := by
  refine List.nodup_flatMap.mpr ⟨fun index _ => ?_, distinct.imp fun {a b} different => ?_⟩
  · simp [slideKeys, sectionKey_ne_topicKey]
  · have sections : sectionKey b ≠ sectionKey a := fun h => different (sectionKey_injective h).symm
    have topics : topicKey b ≠ topicKey a := fun h => different (topicKey_injective h).symm
    simp [Function.onFun, slideKeys, sections, topics, sectionKey_ne_topicKey, (sectionKey_ne_topicKey _ _).symm]

theorem keys_entryFor (key : String) (level : Nat) (text? : Option String) :
    ((entryFor key level text?).map DrawnEntry.key).Sublist [key] := by
  unfold entryFor
  split
  · exact List.nil_sublist _
  · split
    · exact List.nil_sublist _
    · exact List.Sublist.refl _

/-- The entries of slides use the keys of these slides, none of them twice. -/
theorem keys_entriesFrom (wasOpen : Bool) (slides : List (Slide × Nat)) :
    ((entriesFrom wasOpen slides).map DrawnEntry.key).Sublist ((slides.map Prod.snd).flatMap slideKeys) := by
  induction slides generalizing wasOpen with
  | nil => exact List.Sublist.refl _
  | cons first slides ih =>
      obtain ⟨slide, index⟩ := first
      rw [entriesFrom, Slide.entries, List.map_append, List.map_append, List.map_cons, List.flatMap_cons]
      exact ((keys_entryFor _ _ _).append (keys_entryFor _ _ _)).append (ih _)

/-! ## The titles of the outline -/

theorem mem_entryFor {key : String} {level : Nat} {text? : Option String} {entry : DrawnEntry}
    (mem : entry ∈ entryFor key level text?) : ∃ title, text? = some title ∧ title ≠ "" ∧ entry = { key, title, level } := by
  unfold entryFor at mem
  split at mem
  · cases mem
  · next title =>
      by_cases empty : title = ""
      · rw [if_pos (by simp [empty])] at mem
        cases mem
      · rw [if_neg (by simp [empty])] at mem
        exact ⟨title, rfl, empty, List.mem_singleton.mp mem⟩

theorem entryFor_some {key title : String} {level : Nat} (h : title ≠ "") :
    entryFor key level (some title) = [{ key, title, level }] := by
  simp [entryFor, h]

theorem titled_entriesFrom (wasOpen : Bool) (slides : List (Slide × Nat)) :
    ∀ entry ∈ entriesFrom wasOpen slides, entry.title ≠ "" := by
  induction slides generalizing wasOpen with
  | nil => intro entry mem; cases mem
  | cons first slides ih =>
      obtain ⟨slide, index⟩ := first
      intro entry mem
      rw [entriesFrom, Slide.entries, List.append_assoc] at mem
      rcases List.mem_append.mp mem with section_ | mem
      · obtain ⟨title, _, nonempty, rfl⟩ := mem_entryFor section_
        exact nonempty
      · rcases List.mem_append.mp mem with topic | later
        · obtain ⟨title, _, nonempty, rfl⟩ := mem_entryFor topic
          exact nonempty
        · exact ih _ entry later

/-! ## The levels of the outline -/

/-- **Entries that can be nested**: the first is at level 0, one at level 1 has one at level 0 before it, and none is
more than one level below the one before it. -/
structure Nestable (entries : List DrawnEntry) : Prop where
  first : ∀ entry ∈ entries.head?, entry.level = 0
  below : ∀ before entry after, entries = before ++ entry :: after → entry.level = 1 →
    ∃ above ∈ before, above.level = 0
  steps : ∀ before above entry after, entries = before ++ above :: entry :: after → entry.level ≤ above.level + 1

/-- An entry at level 0, or one at level 1 with another at level 0 before it. -/
def Supported (before : List DrawnEntry) (entry : DrawnEntry) : Prop :=
  entry.level = 0 ∨ entry.level = 1 ∧ ∃ above ∈ before, above.level = 0

/-- Entries that are each supported by those before it can be nested. -/
theorem nestable_of_supported {entries : List DrawnEntry} (h : EachAfter Supported entries) : Nestable entries where
  first entry mem := by
    obtain ⟨later, rfl⟩ := List.head?_eq_some_iff.mp mem
    rcases h [] entry later rfl with top | ⟨_, above, impossible, _⟩
    · exact top
    · cases impossible
  below before entry after split one := by
    rcases h before entry after split with top | ⟨_, support⟩
    · exact absurd (top.symm.trans one) (by decide)
    · exact support
  steps before above entry after split := by
    have supported := h (before ++ [above]) entry after (by rw [split]; simp)
    rcases supported with top | ⟨one, _⟩ <;> omega

/-- **A section is open only behind an entry of its own**, so the entries that slides introduce can be added to entries
that are supported, as long as there is one at level 0 among them if a section is open. -/
theorem supported_entriesFrom {entries : List DrawnEntry} {wasOpen : Bool} (h : EachAfter Supported entries)
    (behind : wasOpen = true → ∃ above ∈ entries, above.level = 0) (slides : List (Slide × Nat)) :
    EachAfter Supported (entries ++ entriesFrom wasOpen slides) := by
  induction slides generalizing entries wasOpen with
  | nil => rwa [entriesFrom, List.append_nil]
  | cons first slides ih =>
      obtain ⟨slide, index⟩ := first
      -- the section comes first, so the topic can rely on it
      let withSection := entries ++ entryFor (sectionKey index) 0 slide.newSection
      have sections : EachAfter Supported withSection := h.entryFor fun _ _ _ => Or.inl rfl
      have opened : slide.leavesOpen wasOpen = true → ∃ above ∈ withSection, above.level = 0 := by
        intro isOpen
        unfold Slide.leavesOpen at isOpen
        cases new : slide.newSection with
        | none =>
            rw [new] at isOpen
            obtain ⟨above, mem, level⟩ := behind isOpen
            exact ⟨above, List.mem_append_left _ mem, level⟩
        | some title =>
            rw [new] at isOpen
            have nonempty : title ≠ "" := by simpa using isOpen
            refine ⟨{ key := sectionKey index, title, level := 0 }, List.mem_append_right _ ?_, rfl⟩
            rw [new, entryFor_some nonempty]
            exact List.mem_singleton_self _
      let level := if slide.leavesOpen wasOpen then 1 else 0
      have topics : EachAfter Supported (withSection ++ entryFor (topicKey index) level slide.newTopic) := by
        refine sections.entryFor fun _ _ _ => ?_
        by_cases isOpen : slide.leavesOpen wasOpen = true
        · exact Or.inr ⟨if_pos isOpen, opened isOpen⟩
        · exact Or.inl (if_neg isOpen)
      have all := ih topics fun isOpen => by
        obtain ⟨above, mem, level⟩ := opened isOpen
        exact ⟨above, List.mem_append_left _ mem, level⟩
      simpa only [withSection, level, entriesFrom, Slide.entries, List.append_assoc] using all

/-- **The outline of any slides can be nested.** -/
theorem nestable_entriesFrom (slides : List (Slide × Nat)) : Nestable (entriesFrom false slides) :=
  nestable_of_supported (supported_entriesFrom eachAfter_nil (fun isOpen => by cases isOpen) slides)

end SlidePress
