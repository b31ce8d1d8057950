import SlidePress.Proofs.Outcome
import SlidePress.Proofs.Page.Pass

/-!
# `SlidePress.Proofs.Page.Footers` — the footers of a pass

A pass draws a footer where a page ends, once the number of pages is known, and records where it stands. The footer
depends on nothing but the number of its page, and whether it can be drawn does not even depend on that: only the date
is measured, which is the same on all pages (`footerOutcome_eq_ok_iff`). So either every page of a pass can end or none
can (`run_eq_ok_iff`), and what a pass has recorded is one placement for each page that has ended, in order
(`run_ended`).

All of them have their box and their date at the same place, also in doubles, where nothing is known about the widths
(`run_placements_aligned`).
-/

namespace SlidePress

namespace Chrome

/-- **The texts of a footer**: last come the page label, which ends at the padding, and the date, which begins where the
placement says. -/
theorem drawFooter_texts {chrome : Chrome} {page : Int} {label : Option String} {boxWidth : Float}
    {placement : FooterPlacement Float}
    (placed : chrome.footerPlacement page label boxWidth = .ok placement) :
    ∃ before y, (chrome.drawFooter page label boxWidth).1 =
      before ++ drawUnlessEmpty .right (chrome.style.pageWidth - padding) y placement.label ++
        drawUnlessEmpty .left placement.dateX y chrome.style.date := by
  have named : placement.label = label.getD "" := by
    obtain ⟨dateX, -, rfl⟩ := exists_of_map_eq_ok placed
    rfl
  unfold drawFooter
  simp only [placed, named]
  exact ⟨_, _, rfl⟩

end Chrome

namespace Pass

/-- Footers can be drawn if there are none, or no date, or one that can be measured. -/
theorem footerOutcome_eq_ok_iff (pass : Pass) :
    pass.footerOutcome = .ok () ↔
      (pass.footer ≠ none → pass.chrome.style.date = "" ∨ ∃ width, pass.chrome.measure pass.chrome.style.date = .ok width) := by
  unfold footerOutcome Chrome.dated dateStart
  cases pass.footer with
  | none => simp
  | some metrics =>
      by_cases noDate : pass.chrome.style.date = ""
      · simp [noDate, Except.map]
      · cases pass.chrome.measure pass.chrome.style.date with
        | error cause => simp [noDate, Except.map]
        | ok width => simp [noDate, Except.map]

end Pass

/-! ## The pages that end -/

/-- The number of the page that an event ends, on the page with the given one. -/
def PassEvent.ended (page : Int) : PassEvent → List Int
  | .pageEnd => [page]
  | .placed _ | .goTo _ => []

/-- The number of the page after an event. -/
def PassEvent.pageAfter (page : Int) : PassEvent → Int
  | .placed _ => page
  | .pageEnd => page + 1
  | .goTo next => next

/-- **The numbers of the pages that end**, from a page on. -/
def endedPages (page : Int) : List PassEvent → List Int
  | [] => []
  | event :: events => event.ended page ++ endedPages (event.pageAfter page) events

/-- These pages have ended since a state: their footers are recorded, and they are counted. -/
structure Ended (pass : Pass) (before : PassState) (pages : List Int) (after : PassState) : Prop where
  placements : after.placements = before.placements ++ pages.flatMap pass.placementsOn
  pages : after.pages = pages.foldl max before.pages

theorem Ended.refl {pass : Pass} (state : PassState) : Ended pass state [] state := ⟨by simp, rfl⟩

theorem Ended.trans {pass : Pass} {before middle after : PassState} {first later : List Int}
    (h : Ended pass before first middle) (h' : Ended pass middle later after) :
    Ended pass before (first ++ later) after where
  placements := by rw [h'.placements, h.placements, List.flatMap_append, List.append_assoc]
  pages := by rw [h'.pages, h.pages, List.foldl_append]

namespace Pass

variable {pass : Pass} {state next : PassState} {calls : List DrawCall}

/-- **One event that succeeds** ends the page that it should, if footers can be drawn, and goes to the page that it
should. -/
theorem step_ended {event : PassEvent} (step : pass.step state event = (next, calls, .ok ())) :
    Ended pass state (event.ended state.page) next ∧ next.page = event.pageAfter state.page ∧
      (event.ended state.page ≠ [] → pass.footerOutcome = .ok ()) := by
  cases event with
  | placed flowable =>
      cases flowable with
      | anchor index slide =>
          have begun : next = (state.begin index slide).1 := by
            cases step
            rfl
          rw [begun, begin_state]
          exact ⟨⟨by simp [PassEvent.ended], rfl⟩, rfl, fun ends => absurd rfl ends⟩
      | _ =>
          cases step
          exact ⟨.refl _, rfl, fun ends => absurd rfl ends⟩
  | pageEnd =>
      have step : pass.endPage state = (next, calls, .ok ()) := step
      cases drawable : pass.footerOutcome with
      | error cause =>
          rw [endPage_of_error state drawable] at step
          cases step
      | ok _ =>
          rw [endPage_of_ok state drawable] at step
          cases step
          exact ⟨⟨by simp [PassEvent.ended], rfl⟩, rfl, fun _ => rfl⟩
  | goTo page =>
      cases step
      exact ⟨⟨by simp [PassEvent.ended], rfl⟩, rfl, fun ends => absurd rfl ends⟩

/-- An event that fails is the end of a page whose footer cannot be drawn; no page has ended then. -/
theorem step_failed {event : PassEvent} {cause : MeasureError}
    (step : pass.step state event = (next, calls, .error cause)) :
    event = .pageEnd ∧ pass.footerOutcome = .error cause ∧ Ended pass state [] next := by
  cases event with
  | placed flowable => cases flowable <;> cases step
  | pageEnd =>
      have step : pass.endPage state = (next, calls, .error cause) := step
      cases drawable : pass.footerOutcome with
      | error other =>
          rw [endPage_of_error state drawable] at step
          cases step
          exact ⟨rfl, rfl, by simp, rfl⟩
      | ok _ =>
          rw [endPage_of_ok state drawable] at step
          cases step
  | goTo page => cases step

/-- **A run** ends the pages that it should, in order, as far as it gets. -/
theorem run_ended (pass : Pass) (state : PassState) (events : List PassEvent) :
    ∃ pages, pages <+: endedPages state.page events ∧
      ((pass.run state events).2.2 = .ok () → pages = endedPages state.page events) ∧
      Ended pass state pages (pass.run state events).1 := by
  induction events generalizing state with
  | nil => exact ⟨[], List.prefix_rfl, fun _ => rfl, .refl state⟩
  | cons event events ih =>
      rcases step : pass.step state event with ⟨next, calls, cause | _⟩
      -- a run stops at the end of a page that cannot be drawn, before that page has ended
      · obtain ⟨-, -, ended⟩ := step_failed step
        rw [run_cons_error step]
        exact ⟨[], List.nil_prefix, (fun ok => by cases ok), ended⟩
      · obtain ⟨ended, page, -⟩ := step_ended step
        obtain ⟨pages, isPrefix, all, later⟩ := ih next
        rw [page] at isPrefix all
        rw [run_cons_ok step]
        exact ⟨_, (List.prefix_append_right_inj _).mpr isPrefix, fun ok => congrArg (event.ended state.page ++ ·) (all ok),
          ended.trans later⟩

/-- A run that succeeds ends all the pages that it should. -/
theorem ended_of_run {events : List PassEvent} (run : pass.run state events = (next, calls, .ok ())) :
    Ended pass state (endedPages state.page events) next := by
  obtain ⟨pages, -, all, ended⟩ := run_ended pass state events
  rw [run] at all ended
  rwa [all rfl] at ended

/-- **A run succeeds** unless a page ends whose footer cannot be drawn. -/
theorem run_eq_ok_iff (pass : Pass) (state : PassState) (events : List PassEvent) :
    (pass.run state events).2.2 = .ok () ↔ pass.footerOutcome = .ok () ∨ endedPages state.page events = [] := by
  induction events generalizing state with
  | nil => exact ⟨fun _ => Or.inr rfl, fun _ => rfl⟩
  | cons event events ih =>
      rcases step : pass.step state event with ⟨next, calls, cause | _⟩
      · obtain ⟨rfl, failed, -⟩ := step_failed step
        rw [run_cons_error step, failed]
        simp [endedPages, PassEvent.ended]
      · obtain ⟨-, page, drawn⟩ := step_ended step
        rw [run_cons_ok step]
        show (pass.run next events).2.2 = .ok () ↔ _
        rw [ih next, page, endedPages, List.append_eq_nil_iff]
        constructor
        · rintro (drawable | none_)
          · exact Or.inl drawable
          · -- no page ends later, but one may have ended with this event, and then footers can be drawn
            by_cases ends : event.ended state.page = []
            · exact Or.inr ⟨ends, none_⟩
            · exact Or.inl (drawn ends)
        · rintro (drawable | ⟨-, none_⟩)
          · exact Or.inl drawable
          · exact Or.inr none_

/-! ## All footers of a pass -/

/-- The placement is that of the footer of its page, with metrics of the document. -/
def FooterAt (pass : Pass) (metrics : FooterMetrics Float) (placement : FooterPlacement Float) : Prop :=
  pass.chrome.footerPlacement placement.page (some (metrics.count.label placement.page)) metrics.labelWidth =
    .ok placement

/-- **What is recorded for a page** is the placement of its footer. -/
theorem footerAt_of_mem_placementsOn {metrics : FooterMetrics Float} (footer : pass.footer = some metrics) {page : Int}
    {placement : FooterPlacement Float} (mem : placement ∈ pass.placementsOn page) :
    placement.page = page ∧ pass.FooterAt metrics placement := by
  unfold placementsOn at mem
  rw [footer] at mem
  have placed : pass.chrome.footerPlacement page (some (metrics.count.label page)) metrics.labelWidth = .ok placement :=
    ok_of_toOption (Option.mem_toList.mp mem)
  have own : placement.page = page := by
    obtain ⟨dateX, -, rfl⟩ := exists_of_map_eq_ok placed
    rfl
  refine ⟨own, ?_⟩
  rw [FooterAt, own]
  exact placed

/-- **All footers of a pass stand at the same place**: their boxes are of one width and begin at one place, and so does
their date. -/
theorem run_placements_aligned {metrics : FooterMetrics Float} (footer : pass.footer = some metrics)
    {events : List PassEvent} {outcome : Except MeasureError Unit} (run : pass.run {} events = (next, calls, outcome))
    {a b : FooterPlacement Float} (ha : a ∈ next.placements) (hb : b ∈ next.placements) :
    a.boxWidth = b.boxWidth ∧ a.labelX = b.labelX ∧ a.dateX = b.dateX := by
  obtain ⟨pages, -, -, ended⟩ := run_ended pass {} events
  rw [run] at ended
  have atPage : ∀ placement ∈ next.placements, pass.FooterAt metrics placement := by
    intro placement mem
    rw [ended.placements] at mem
    obtain ⟨page, -, recorded⟩ := List.mem_flatMap.mp mem
    exact (footerAt_of_mem_placementsOn footer recorded).2
  obtain ⟨dateX, dated, sameA⟩ := exists_of_map_eq_ok (atPage a ha)
  obtain ⟨dateX', dated', sameB⟩ := exists_of_map_eq_ok (atPage b hb)
  obtain rfl := Except.ok.inj (dated.symm.trans dated')
  rw [← sameA, ← sameB]
  exact ⟨rfl, rfl, rfl⟩

end Pass

end SlidePress
