import SlidePress.Press.Build
import SlidePress.Proofs.Deck.Restatement

/-!
# `SlidePress.Proofs.Deck.Consistency` — compiled decks are consistent

A deck is checked before it is set: no count is negative, and every entry that a slide introduces says what the header
of that slide says. The compiler cannot fail this check, whatever state it is in.

Which entries a slide introduces depends on what the state remembers, and there is nothing to be said of that in a state
that no stream leads to. But what an entry *says* is taken from the header of the slide itself (`finish_consistent`),
and this is all that the check looks at. So one finished slide is consistent in every state, and the slides of a run are
(`runs_consistent`); the count of dropped blocks only grows.
-/

namespace SlidePress

/-- **The entries that a slide introduces say what its header says.** -/
structure Slide.Consistent (slide : Slide) : Prop where
  sectionText : ∀ text, slide.newSection = some text → text = slide.header.sectionText
  topicText : ∀ text, slide.newTopic = some text → text = slide.header.topicText

namespace Deck

/-- Nothing is found where an entry is absent or says what it should. -/
theorem filter_ne_eq_none_iff {entry : Option String} {text : String} :
    entry.filter (· ≠ text) = none ↔ ∀ title, entry = some title → title = text := by
  cases entry with
  | none => simp
  | some title => simp

/-- Nothing is wrong with a consistent slide, and with no other. -/
theorem slideProblems_eq_nil_iff (index : Nat) (slide : Slide) : slideProblems index slide = [] ↔ slide.Consistent := by
  unfold slideProblems
  rw [List.append_eq_nil_iff, List.map_eq_nil_iff, List.map_eq_nil_iff, Option.toList_eq_nil_iff,
    Option.toList_eq_nil_iff, filter_ne_eq_none_iff, filter_ne_eq_none_iff]
  constructor
  · rintro ⟨sections, topics⟩
    exact ⟨sections, topics⟩
  · rintro ⟨sections, topics⟩
    exact ⟨sections, topics⟩

/-- **Nothing is wrong with a deck** that counts no less than nothing and has consistent slides, and with no other. -/
theorem problems_eq_nil_iff (deck : Deck) :
    deck.problems = [] ↔ deck.dropped.isNegative = false ∧ ∀ slide ∈ deck.slides, slide.Consistent := by
  have counted : (if deck.dropped.isNegative then [Problem.negativeDropped] else []) = [] ↔
      deck.dropped.isNegative = false := by
    cases deck.dropped.isNegative <;> simp
  have slides : (deck.slides.mapIdx slideProblems).flatten = [] ↔ ∀ slide ∈ deck.slides, slide.Consistent := by
    rw [List.flatten_eq_nil_iff]
    constructor
    · intro none_ slide mem
      obtain ⟨index, inside, rfl⟩ := List.getElem_of_mem mem
      apply (slideProblems_eq_nil_iff index _).mp
      exact none_ _ (List.mem_mapIdx.mpr ⟨index, inside, rfl⟩)
    · intro consistent problems mem
      obtain ⟨index, inside, rfl⟩ := List.mem_mapIdx.mp mem
      exact (slideProblems_eq_nil_iff index _).mpr (consistent _ (List.getElem_mem inside))
  unfold problems
  rw [List.append_eq_nil_iff, counted, slides]

theorem check_eq_ok {deck : Deck} (h : deck.problems = []) : deck.check = .ok deck := by
  unfold check
  rw [h]
  rfl

end Deck

namespace Compiler

/-! ## One slide, one block -/

/-- **A finished slide is consistent**, whatever entries the state remembers. -/
theorem finish_consistent (c : Compiler) (slide : OpenSlide) : (c.finish slide).1.Consistent := by
  constructor
  · intro text introduced
    obtain ⟨-, same⟩ := Option.ite_none_left_eq_some.mp introduced
    exact (Option.some.inj same).symm
  · intro text introduced
    obtain ⟨-, same⟩ := Option.ite_none_left_eq_some.mp introduced
    exact (Option.some.inj same).symm

/-- What closing yields is consistent, and closing drops nothing. -/
theorem close?_consistent {c d : Compiler} {slide : Slide} (h : c.close? = some (slide, d)) :
    slide.Consistent ∧ d.dropped = c.dropped := by
  obtain ⟨opened, _, finished⟩ := Option.map_eq_some_iff.mp h
  have consistent := c.finish_consistent opened
  have dropped : (c.finish opened).2.dropped = c.dropped := rfl
  rw [finished] at consistent dropped
  exact ⟨consistent, dropped⟩

theorem step_of_isBody (c : Compiler) {block : Block} (body : block.isBody = true) :
    (c.step block).1 = [] ∧ c.dropped ≤ (c.step block).2.dropped := by
  obtain ⟨header, lastSection, lastTopic, openSlide, dropped⟩ := c
  have grows : dropped ≤ dropped + 1 := by omega
  cases block with
  | sectionMark text => cases body
  | topicMark text => cases body
  | slideMark title => cases body
  | subheading text =>
      cases openSlide with
      | none => exact ⟨rfl, grows⟩
      | some slide => exact ⟨rfl, Int.le_refl _⟩
  | content kind text number =>
      cases openSlide with
      | none => exact ⟨rfl, grows⟩
      | some slide => exact ⟨rfl, Int.le_refl _⟩

/-- **One block** finishes consistent slides only, and drops itself at most. -/
theorem step_consistent (c : Compiler) (block : Block) :
    (∀ slide ∈ (c.step block).1, slide.Consistent) ∧ c.dropped ≤ (c.step block).2.dropped := by
  have noSlide : ∀ slide ∈ ([] : List Slide), slide.Consistent := by simp
  by_cases body : block.isBody = true
  · obtain ⟨nothing, dropped⟩ := c.step_of_isBody body
    rw [nothing]
    exact ⟨noSlide, dropped⟩
  · cases block with
    | sectionMark text => exact ⟨noSlide, Int.le_refl _⟩
    | topicMark text => exact ⟨noSlide, Int.le_refl _⟩
    | slideMark title =>
        simp only [step, close]
        cases closed : c.close? with
        | none => exact ⟨noSlide, Int.le_refl _⟩
        | some out =>
            obtain ⟨consistent, dropped⟩ := close?_consistent closed
            refine ⟨?_, Int.le_of_eq dropped.symm⟩
            intro slide mem
            obtain rfl := List.mem_singleton.mp mem
            exact consistent
    | subheading text => exact absurd rfl body
    | content kind text number => exact absurd rfl body

/-! ## Runs -/

/-- **A run from any state** finishes consistent slides only, and drops no fewer blocks than were dropped before. -/
theorem runs_consistent {c c' : Compiler} {slides : List Slide} (run : Runs c slides c') :
    (∀ slide ∈ slides, slide.Consistent) ∧ c.dropped ≤ c'.dropped := by
  induction run with
  | done => exact ⟨by simp, Int.le_refl _⟩
  | @block c c' slides block _ ih =>
      obtain ⟨here, dropped⟩ := c.step_consistent block
      obtain ⟨later, more⟩ := ih
      refine ⟨?_, Int.le_trans dropped more⟩
      intro slide mem
      rcases List.mem_append.mp mem with finished | behind
      · exact here slide finished
      · exact later slide behind
  | @close c d c' slide slides closed _ ih =>
      obtain ⟨here, dropped⟩ := close?_consistent closed
      obtain ⟨later, more⟩ := ih
      refine ⟨?_, dropped ▸ more⟩
      intro other mem
      rcases List.mem_cons.mp mem with rfl | behind
      · exact here
      · exact later other behind

/-- The deck of a run from any state that has counted no less than nothing has nothing wrong. -/
theorem problems_of_runs {c c' : Compiler} {slides : List Slide} (run : Runs c slides c') (counted : 0 ≤ c.dropped) :
    ({ slides, dropped := .int c'.dropped } : Deck).problems = [] := by
  obtain ⟨consistent, dropped⟩ := runs_consistent run
  rw [Deck.problems_eq_nil_iff]
  refine ⟨?_, consistent⟩
  have positive : 0 ≤ c'.dropped := Int.le_trans counted dropped
  simpa [Number.isNegative] using positive

end Compiler

/-- A compiled deck has nothing wrong: it is the deck of a run from the start, with the last slide closed. -/
theorem problems_compileDeck (blocks : List Block) : (compileDeck blocks).problems = [] := by
  have run := Compiler.Runs.of_run blocks (.of_close (({} : Compiler).run blocks).2)
  have nothingWrong := Compiler.problems_of_runs run (Int.le_refl 0)
  rwa [(Compiler.close_header_dropped _).2] at nothingWrong

namespace Compiler

/-- **The compiler keeps the contract of its decks.** From every state, also one that no stream leads to, blocks and
closings in any order finish slides that make a deck with nothing wrong, provided that no less than nothing was counted
before. So a compiled stream always passes the check. -/
theorem runs_problems :
    (∀ (c c' : Compiler) (slides : List Slide), Runs c slides c' → 0 ≤ c.dropped →
        ({ slides, dropped := .int c'.dropped } : Deck).problems = []) ∧
      ∀ blocks : List Block, Builder.compile blocks = .ok (compileDeck blocks) := by
  refine ⟨fun c c' slides run counted => problems_of_runs run counted, ?_⟩
  intro blocks
  rw [Builder.compile, Deck.check_eq_ok (problems_compileDeck blocks)]
  rfl

/-- A state that remembers a topic and no section, and has a slide open under another header than the running one. -/
theorem runs_problems_of_unreachable :
    let c : Compiler :=
      { header := { sectionText := "A", topicText := "t" }, lastTopic := some "t"
        openSlide := some { title := "1", header := { sectionText := "B", topicText := "t" } }, dropped := 3 }
    ∃ (slides : List Slide) (c' : Compiler), Runs c slides c' ∧ 0 ≤ c.dropped ∧ slides.length = 2 ∧ c'.dropped = 4 ∧
      ({ slides, dropped := .int c'.dropped } : Deck).problems = [] := by
  intro c
  have run : Runs c _ _ :=
    .close rfl <| .block (.subheading "lost") <| .block (.topicMark "u") <| .block (.slideMark "2") <| .close rfl .done
  exact ⟨_, _, run, by decide, rfl, rfl, runs_problems.1 c _ _ run (by decide)⟩

end Compiler

end SlidePress
