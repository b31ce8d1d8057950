import SlidePress.Proofs.Page.Footers

/-!
# `SlidePress.Proofs.Page.Undisturbed` — footers do not disturb a pass

Header, footer, outline and page count are kept in one state, which the end of a page and the begin of a slide both
change. All of it but the footers can be told without knowing what the footers are: a sketch of the pass has everything
that is drawn, and marks the places where footers come, each with the number of its page (`Chrome.sketch`).

A pass that succeeds is its sketch, with its own footers at these places (`run_sketched`). Two passes with different
footers have the same sketch, so nothing else about them is different (`run_undisturbed`).
-/

namespace SlidePress

/-- A part of what a pass draws. -/
inductive Stroke
  /-- Calls that do not depend on the footers. -/
  | calls (calls : List DrawCall)
  /-- The footer of a page, whatever it is. -/
  | footer (page : Int)

/-- A part with the footers of a pass. -/
def Pass.fill (pass : Pass) : Stroke → List DrawCall
  | .calls calls => calls
  | .footer page => pass.footerCalls page

namespace PassState

/-- What a pass has produced, apart from footers. -/
def unfooted (state : PassState) : PassState := { state with placements := [] }

/-- What is the same apart from footers differs in the footers alone. -/
theorem eq_of_unfooted {a b : PassState} (same : a.unfooted = b.unfooted) : b = { a with placements := b.placements } := by
  obtain ⟨page, current, sectionOpen, pages, outline, placements, headers⟩ := a
  obtain ⟨page', current', sectionOpen', pages', outline', placements', headers'⟩ := b
  cases same
  rfl

section

variable (state : PassState) (index : Nat) (slide : Slide)

/-- **A slide begins** whatever footers there were. -/
theorem begin_unfooted : (state.begin index slide).1.unfooted = (state.unfooted.begin index slide).1 := by
  rw [Pass.begin_state, Pass.begin_state]
  rfl

/-- What is drawn for the entries of a slide does not depend on the footers either. -/
theorem begin_calls_unfooted : (state.begin index slide).2 = (state.unfooted.begin index slide).2 := by
  have sections : ∀ s : PassState, (s.beginSection index slide).2 = (s.unfooted.beginSection index slide).2 := by
    intro s
    unfold beginSection
    cases slide.newSection with
    | none => rfl
    | some title => by_cases empty : title.isEmpty = true <;> simp only [empty] <;> rfl
  have topics : ∀ s t : PassState, s.sectionOpen = t.sectionOpen → s.outline = t.outline →
      (s.beginTopic index slide).2 = (t.beginTopic index slide).2 := by
    intro s t sameOpen sameOutline
    unfold beginTopic addOutline
    rw [sameOpen, sameOutline]
    cases slide.newTopic with
    | none => rfl
    | some title => by_cases empty : title.isEmpty = true <;> simp only [empty] <;> rfl
  -- what is drawn for the topic depends on what the section has left, so both are compared one after the other
  let owned : PassState := { state with current := some slide }
  show (owned.beginSection index slide).2 ++ ((owned.beginSection index slide).1.beginTopic index slide).2 =
    (owned.unfooted.beginSection index slide).2 ++
      ((owned.unfooted.beginSection index slide).1.beginTopic index slide).2
  rw [sections owned]
  congr 1
  apply topics
  · rw [Pass.beginSection_state, Pass.beginSection_state]
    rfl
  · rw [Pass.beginSection_state, Pass.beginSection_state]
    rfl

end

end PassState

namespace Chrome

/-- One event in a sketch. -/
def sketchStep (chrome : Chrome) (state : PassState) : PassEvent → PassState × List Stroke
  | .placed (.anchor index slide) => ((state.begin index slide).1, [.calls (state.begin index slide).2])
  | .placed _ => (state, [])
  | .pageEnd =>
    ({ state with
        headers := state.headers ++ (state.current.map Slide.header).toList
        pages := max state.pages state.page
        page := state.page + 1 },
      [.calls (.save :: chrome.headerOf state.current), .footer state.page, .calls [.restore]])
  | .goTo page => ({ state with page }, [])

/-- **The sketch of a pass**: everything but the footers, with the places where they come. -/
def sketch (chrome : Chrome) (state : PassState) : List PassEvent → PassState × List Stroke
  | [] => (state, [])
  | event :: events =>
    let (next, strokes) := chrome.sketchStep state event
    let (final, later) := chrome.sketch next events
    (final, strokes ++ later)

end Chrome

namespace Pass

variable {pass : Pass} {state next : PassState} {calls : List DrawCall}

/-- **One event that succeeds** is as in the sketch. -/
theorem step_sketched {event : PassEvent} (step : pass.step state event = (next, calls, .ok ())) :
    next.unfooted = (pass.chrome.sketchStep state.unfooted event).1 ∧
      calls = (pass.chrome.sketchStep state.unfooted event).2.flatMap pass.fill := by
  cases event with
  | placed flowable =>
      cases flowable with
      | anchor index slide =>
          have begun : state.begin index slide = (next, calls) := by
            cases step
            rfl
          have isNext : next = (state.begin index slide).1 := by rw [begun]
          have isCalls : calls = (state.begin index slide).2 := by rw [begun]
          constructor
          · rw [isNext]
            exact state.begin_unfooted index slide
          · rw [isCalls, state.begin_calls_unfooted index slide]
            exact (List.append_nil _).symm
      | _ =>
          cases step
          exact ⟨rfl, rfl⟩
  | pageEnd =>
      have step : pass.endPage state = (next, calls, .ok ()) := step
      cases drawable : pass.footerOutcome with
      | error cause =>
          rw [endPage_of_error state drawable] at step
          cases step
      | ok _ =>
          rw [endPage_of_ok state drawable] at step
          cases step
          refine ⟨rfl, ?_⟩
          simp [Chrome.sketchStep, fill, PassState.unfooted]
  | goTo page =>
      cases step
      exact ⟨rfl, rfl⟩

/-- **A run that succeeds** is as its sketch. -/
theorem run_sketched {events : List PassEvent} (run : pass.run state events = (next, calls, .ok ())) :
    next.unfooted = (pass.chrome.sketch state.unfooted events).1 ∧
      calls = (pass.chrome.sketch state.unfooted events).2.flatMap pass.fill := by
  induction events generalizing state calls with
  | nil =>
      cases run
      exact ⟨rfl, rfl⟩
  | cons event events ih =>
      rcases step : pass.step state event with ⟨middle, first, cause | _⟩
      · rw [run_cons_error step] at run
        cases run
      · rcases rest : pass.run middle events with ⟨final, later, outcome⟩
        rw [run_cons_ok step, rest] at run
        cases run
        obtain ⟨reached, drawn⟩ := step_sketched step
        obtain ⟨reached', drawn'⟩ := ih rest
        -- the rest of the sketch starts where the first event has led
        rw [reached] at reached' drawn'
        constructor
        · exact reached'
        · rw [drawn, drawn']
          exact List.flatMap_append.symm

/-- **Two passes with different footers** differ in what they record and draw of the footers alone. -/
theorem run_undisturbed {chrome : Chrome} {footerA footerB : Option (FooterMetrics Float)} {events : List PassEvent}
    {finalA finalB : PassState} {callsA callsB : List DrawCall}
    (runA : ({ chrome, footer := footerA } : Pass).run state events = (finalA, callsA, .ok ()))
    (runB : ({ chrome, footer := footerB } : Pass).run state events = (finalB, callsB, .ok ())) :
    finalB = { finalA with placements := finalB.placements } ∧
      callsA = (chrome.sketch state.unfooted events).2.flatMap ({ chrome, footer := footerA } : Pass).fill ∧
      callsB = (chrome.sketch state.unfooted events).2.flatMap ({ chrome, footer := footerB } : Pass).fill := by
  obtain ⟨reachedA, drawnA⟩ := run_sketched runA
  obtain ⟨reachedB, drawnB⟩ := run_sketched runB
  have same : finalA.unfooted = finalB.unfooted := reachedA.trans reachedB.symm
  exact ⟨PassState.eq_of_unfooted same, drawnA, drawnB⟩

end Pass

end SlidePress
