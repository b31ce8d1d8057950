import SlidePress.Proofs.Page.Undisturbed
import SlidePress.Proofs.Press.PageCount

/-!
# `SlidePress.Proofs.Press.Convergence` — the second pass makes the pages of the first

The second pass differs from the first in its footers only. It is over the same story in the same frame, since neither
knows of footers, and footers do not disturb a pass. So it makes as many pages, whatever the layout is, as long as the
layout is a function of the story and the frame; and a document is never refused for its pages.
-/

namespace SlidePress

namespace Press

variable {σ ε : Type}

/-- **Where all passes make the same pages**, no document is refused for its pages. -/
theorem print_ne_pagesDiffer {press : Press σ ε}
    (steady : ∀ {metrics state later first second}, (press.pass none state).1.stats = .ok first →
      (press.pass (some metrics) later).1.stats = .ok second → second.pages = first.pages)
    (target : Path) (state : σ) (tree : FileTree) (provisional : Nat) (final : Int) :
    (press.print target state tree).outcome ≠ .error (.pagesDiffer provisional final) := by
  intro refused
  have counts := layoutPass_counts press state tree
  rcases print_cases press target state tree with ⟨cause, failed, outcome, -⟩ | ⟨total, later, counted, outcome, -⟩
  · rw [failed, Except.error.inj (outcome.symm.trans refused)] at counts
    cases counts
  · rw [counted] at counts
    have renders := renderPass_renders press (some total) target later tree
    generalize (press.renderPass (some total) target later tree).tree = files at renders
    rw [outcome.symm.trans refused] at renders
    cases counts with
    | counted isStats isTotal =>
        cases renders with
        | writes same _ measured writes =>
            cases same
            obtain ⟨labelWidth, -, rfl⟩ := exists_of_map_eq_ok measured
            cases writes with
            | pagesDiffer isStats' differ =>
                have samePages := steady isStats isStats'
                exact differ (samePages.trans (PageCount.ofInt_total isTotal).symm)

end Press

namespace Typeset

variable {set : Typeset}

/-- **Two passes over a deck** say the same of their pages and of the outline, and draw the same but for the footers. -/
theorem stats_undisturbed {footerA footerB : Option (FooterMetrics Float)} {headersA headersB : List Header}
    {statsA statsB : PassStats} (isStatsA : (set.pass footerA headersA).1.stats = .ok statsA)
    (isStatsB : (set.pass footerB headersB).1.stats = .ok statsB) :
    statsB = { statsA with placements := statsB.placements } ∧
      ∃ strokes : List Stroke,
        (set.pass footerA headersA).1.document =
            document (strokes.flatMap ({ chrome := set.chrome, footer := footerA } : Pass).fill) ∧
          (set.pass footerB headersB).1.document =
            document (strokes.flatMap ({ chrome := set.chrome, footer := footerB } : Pass).fill) := by
  obtain ⟨story, events, finalA, callsA, isStory, layout, runA, rfl, documentA⟩ := exists_run_of_stats isStatsA
  obtain ⟨story', events', finalB, callsB, isStory', layout', runB, rfl, documentB⟩ := exists_run_of_stats isStatsB
  -- the story is the same, and so is what happens on its pages
  obtain rfl := Except.ok.inj (isStory.symm.trans isStory')
  obtain ⟨rfl, -⟩ := Prod.mk.inj (layout.symm.trans layout')
  obtain ⟨final, drawnA, drawnB⟩ := Pass.run_undisturbed runA runB
  refine ⟨?_, (set.chrome.sketch ({} : PassState).unfooted events).2, ?_, ?_⟩
  · rw [final]
  · rw [documentA, drawnA]
  · rw [documentB, drawnB]

end Typeset

/-- **Footers do not disturb the layout.** Two passes with the same chrome over the same events that both succeed,
whatever footers they have, end in states that are the same but for what is recorded of the footers: the same number of
pages, the same outline and the same headers. They also draw the same, but for the footers that each of them puts in the
same places. So do two passes over a deck; and a deck is never refused because the second pass makes other pages than
the first, whatever function of story and frame its layout is. -/
theorem footers_undisturbing :
    (∀ (chrome : Chrome) (state : PassState) events footerA footerB {finalA finalB callsA callsB},
        ({ chrome, footer := footerA } : Pass).run state events = (finalA, callsA, .ok ()) →
        ({ chrome, footer := footerB } : Pass).run state events = (finalB, callsB, .ok ()) →
        finalB = { finalA with placements := finalB.placements } ∧
          callsA = (chrome.sketch state.unfooted events).2.flatMap ({ chrome, footer := footerA } : Pass).fill ∧
          callsB = (chrome.sketch state.unfooted events).2.flatMap ({ chrome, footer := footerB } : Pass).fill) ∧
      (∀ (set : Typeset) footerA footerB headersA headersB {statsA statsB},
        (set.pass footerA headersA).1.stats = .ok statsA → (set.pass footerB headersB).1.stats = .ok statsB →
        statsB = { statsA with placements := statsB.placements } ∧
          ∃ strokes : List Stroke,
            (set.pass footerA headersA).1.document =
                Typeset.document (strokes.flatMap ({ chrome := set.chrome, footer := footerA } : Pass).fill) ∧
              (set.pass footerB headersB).1.document =
                Typeset.document (strokes.flatMap ({ chrome := set.chrome, footer := footerB } : Pass).fill)) ∧
      ∀ (set : Typeset) target headers tree provisional final,
        (set.press.print target headers tree).outcome ≠ .error (.pagesDiffer provisional final) := by
  refine ⟨?_, ?_, ?_⟩
  · intro chrome state events footerA footerB finalA finalB callsA callsB runA runB
    exact Pass.run_undisturbed runA runB
  · intro set footerA footerB headersA headersB statsA statsB isStatsA isStatsB
    exact Typeset.stats_undisturbed isStatsA isStatsB
  · intro set target headers tree provisional final
    apply Press.print_ne_pagesDiffer
    intro metrics state later first second isFirst isSecond
    rw [(Typeset.stats_undisturbed isFirst isSecond).1]

/-- An opening page and a slide, whose page is renumbered: without footers and with them, the outline leads to the same
page and as many pages are counted. -/
theorem footers_undisturbing_renumbered :
    let slide : Slide := { title := "One", newTopic := some "Topic" }
    let events : List PassEvent := [.pageEnd, .goTo 5, .placed (.anchor 0 slide), .pageEnd]
    let set : Typeset :=
      { chrome :=
          { style := ({} : Config).styleWith .black "Helvetica" "Helvetica" "Courier" "Helvetica"
            measure := fun text => .ok text.length.toFloat }
        wrap := fun _ _ _ _ => 0
        slides := [slide]
        layout := fun _ _ => (events, none) }
    let footer : FooterMetrics Float := ⟨⟨5, by decide⟩, 30⟩
    let bare := ({ chrome := set.chrome, footer := none } : Pass).run {} events
    let footed := ({ chrome := set.chrome, footer := some footer } : Pass).run {} events
    footed.1 = { bare.1 with placements := footed.1.placements } ∧ bare.1.placements = [] ∧
      footed.1.placements.map FooterPlacement.shown = [(1, "1/5"), (5, "5/5")] ∧
      footed.1.pages = 5 ∧ footed.1.outline = [{ level := 0, title := "Topic", page := 5 }] ∧
      ∃ stats, (set.pass (some footer) []).1.stats = .ok stats ∧ stats.pages = 5 := by
  intro slide events set footer bare footed
  have bareOk : bare.2.2 = .ok () := rfl
  have footedOk : footed.2.2 = .ok () := rfl
  have runBare : ({ chrome := set.chrome, footer := none } : Pass).run {} events = (bare.1, bare.2.1, .ok ()) := by
    rw [← bareOk]
  have runFooted : ({ chrome := set.chrome, footer := some footer } : Pass).run {} events =
      (footed.1, footed.2.1, .ok ()) := by
    rw [← footedOk]
  have same := (footers_undisturbing.1 set.chrome {} events none (some footer) runBare runFooted).1
  have pages : bare.1.pages = 5 := by decide +kernel
  have outline : bare.1.outline = [{ level := 0, title := "Topic", page := 5 }] := by decide +kernel
  obtain ⟨first, isFirst, five⟩ : ∃ stats, (set.pass none []).1.stats = .ok stats ∧ stats.pages = 5 := ⟨_, rfl, rfl⟩
  obtain ⟨stats, isStats⟩ : ∃ stats, (set.pass (some footer) []).1.stats = .ok stats := ⟨_, rfl⟩
  have sameStats := (footers_undisturbing.2.1 set none (some footer) [] [] isFirst isStats).1
  refine ⟨same, rfl, by decide +kernel, ?_, ?_, stats, isStats, ?_⟩
  · rw [same]
    exact pages
  · rw [same]
    exact outline
  · rw [sameStats]
    exact five

end SlidePress
