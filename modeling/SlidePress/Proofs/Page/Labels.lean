import SlidePress.Proofs.Page.Flow
import SlidePress.Proofs.Page.Footers

/-!
# `SlidePress.Proofs.Page.Labels` — the labels of a pass

When the pages that end have the numbers 1, 2, 3 and so on, a pass has counted them all at the end, and it has recorded
a label for each of them, in order. This is the end of a run read off what it records (`run_ended`): the greatest of the
numbers is the last one, and every page has one footer, which names it (`shown_placementsOn`).

The pages of every layout of a deck are numbered like this, since pages end one after another and nothing else touches
the number (`endedPages_layout`); so are those that are filled with any story (`flow_numbered`).
-/

namespace SlidePress

/-- The numbers of some pages: 1, 2, 3 and so on. -/
def pageNumbers (count : Nat) : List Int := (List.range count).map fun (i : Nat) => (i : Int) + 1

/-- The page that a footer is on, and the label that it shows. -/
def FooterPlacement.shown {α : Type} (placement : FooterPlacement α) : Int × String := (placement.page, placement.label)

theorem pageNumbers_succ (count : Nat) : pageNumbers (count + 1) = pageNumbers count ++ [(count : Int) + 1] := by
  simp [pageNumbers, List.range_succ]

theorem foldl_max_pageNumbers (count : Nat) : (pageNumbers count).foldl max 0 = count := by
  induction count with
  | zero => rfl
  | succ count ih =>
      rw [pageNumbers_succ, List.foldl_append, ih]
      show max (count : Int) (count + 1) = _
      omega

namespace Pass

variable {pass : Pass} {events : List PassEvent} {count : Nat} {final : PassState} {calls : List DrawCall}

/-- **Every page has one footer**, which shows its label, if footers can be drawn. -/
theorem shown_placementsOn {metrics : FooterMetrics Float} (footer : pass.footer = some metrics)
    (drawable : pass.footerOutcome = .ok ()) (page : Int) :
    (pass.placementsOn page).map FooterPlacement.shown = [(page, metrics.count.label page)] := by
  unfold footerOutcome at drawable
  unfold placementsOn
  rw [footer] at drawable ⊢
  obtain ⟨dateX, dated, -⟩ := exists_of_map_eq_ok drawable
  simp only [Chrome.footerPlacement_eq, dated]
  rfl

theorem placementsOn_of_none (noFooter : pass.footer = none) (page : Int) : pass.placementsOn page = [] := by
  rw [placementsOn, noFooter]

/-- **A pass over numbered pages** has counted them all. -/
theorem run_counted (numbered : endedPages 1 events = pageNumbers count)
    (run : pass.run {} events = (final, calls, .ok ())) : final.pages = count := by
  have ended : Ended pass {} (endedPages 1 events) final := ended_of_run run
  rw [ended.pages, numbered]
  exact foldl_max_pageNumbers count

/-- **The labels of a pass**: one for each page, in order, if there are footers at all. -/
theorem run_labels (numbered : endedPages 1 events = pageNumbers count)
    (run : pass.run {} events = (final, calls, .ok ())) :
    (pass.footer = none → final.placements = []) ∧
      ∀ metrics, pass.footer = some metrics →
        final.placements.map FooterPlacement.shown = (pageNumbers count).map fun page => (page, metrics.count.label page) := by
  have ended : Ended pass {} (endedPages 1 events) final := ended_of_run run
  have recorded : final.placements = (pageNumbers count).flatMap pass.placementsOn := by
    rw [ended.placements, numbered]
    rfl
  rw [recorded]
  constructor
  · intro noFooter
    apply List.flatMap_eq_nil_iff.mpr
    intro page _
    exact placementsOn_of_none noFooter page
  · intro metrics footer
    have succeeds : (pass.run {} events).2.2 = .ok () := by rw [run]
    rcases (run_eq_ok_iff pass {} events).mp succeeds with drawable | noPage
    · rw [List.map_flatMap]
      simp only [shown_placementsOn footer drawable]
      exact List.map_eq_flatMap.symm
    · -- no page has ended, so there is no label either
      have none_ : pageNumbers count = [] := numbered.symm.trans noPage
      rw [none_]
      rfl

end Pass

/-! ## The pages of a layout -/

/-- The numbers of some pages, from a page on. -/
def numbersFrom (page : Int) (count : Nat) : List Int := (List.range count).map fun (i : Nat) => (i : Int) + page

theorem numbersFrom_succ (page : Int) (count : Nat) : numbersFrom page (count + 1) = page :: numbersFrom (page + 1) count := by
  rw [numbersFrom, List.range_succ_eq_map, List.map_cons, List.map_map]
  congr 1
  · simp
  · apply List.map_congr_left
    intro i _
    simp only [Function.comp_apply]
    omega

theorem endedPages_append_placed (page : Int) (items : List Owned) (events : List PassEvent) :
    endedPages page (items.map (fun item => .placed item.flowable) ++ events) = endedPages page events := by
  induction items with
  | nil => rfl
  | cons item items ih => exact ih

/-- **The pages of a layout** end one after another. -/
theorem endedPages_layout (page : Int) (pages : List (List Owned)) :
    endedPages page (pages.flatMap pageEvents) = numbersFrom page pages.length := by
  induction pages generalizing page with
  | nil => rfl
  | cons first pages ih =>
      have here : endedPages page ((first :: pages).flatMap pageEvents) =
          page :: endedPages (page + 1) (pages.flatMap pageEvents) := by
        rw [List.flatMap_cons, pageEvents, List.append_assoc, endedPages_append_placed]
        rfl
      rw [here, ih, List.length_cons, numbersFrom_succ]

/-- What is filled of a story ends pages one after another, and one at least. -/
theorem flowFrom_numbered {frame : BodyFrame} {state : FlowState} {events : List PassEvent}
    (h : flowFrom frame state = (events, none)) (page : Int) :
    ∃ count, 1 ≤ count ∧ endedPages page events = numbersFrom page count := by
  induction state using flowFrom.induct frame generalizing events page with
  | case1 state done =>
      rw [flowFrom_done done] at h
      cases h
      exact ⟨1, Nat.le_refl 1, by simp [numbersFrom, endedPages, PassEvent.ended]⟩
  | case2 state failure failed =>
      rw [flowFrom_failed failed] at h
      cases h
  | case3 state event next step later outcome rest ih =>
      rw [flowFrom_next step, rest] at h
      cases h
      -- a step places something, or ends the page
      have event_cases : (∃ flowable, event = .placed flowable) ∨ event = .pageEnd := by
        rcases FlowState.step_cases step with ⟨item, _, _, rfl, _⟩ | ⟨item, _, _, _, rfl, _⟩ | ⟨_, _, rfl, _⟩ |
          ⟨_, _, _, rfl, _⟩
        · exact Or.inl ⟨_, rfl⟩
        · exact Or.inl ⟨_, rfl⟩
        · exact Or.inr rfl
        · exact Or.inr rfl
      rcases event_cases with ⟨flowable, rfl⟩ | rfl
      · exact ih rest page
      · obtain ⟨count, -, numbered⟩ := ih rest (page + 1)
        refine ⟨count + 1, Nat.le_add_left 1 count, ?_⟩
        rw [numbersFrom_succ, ← numbered]
        rfl

/-- **The pages that are filled** have the numbers 1, 2, 3 and so on, and there is one at least. -/
theorem flow_numbered {metrics : String → Metrics} {frame : BodyFrame} {story : List Flowable} {events : List PassEvent}
    (h : flow metrics frame story = (events, none)) : ∃ count, 1 ≤ count ∧ endedPages 1 events = pageNumbers count :=
  flowFrom_numbered h 1

end SlidePress
