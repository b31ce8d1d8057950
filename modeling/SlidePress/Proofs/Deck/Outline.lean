import SlidePress.Deck.Compile
import Mathlib.Logic.Basic

/-!
# `SlidePress.Proofs.Deck.Outline` — which slides introduce outline entries

The compiler decides about outline entries from two fields of its state, the section and the topic it introduced last,
and clears one of them in the middle of the decision. Seen from outside it compares each slide with the one before: the
section is introduced where it differs, the topic where it or the section differs, and the first slide introduces both.

The two fields are those of the last finished slide (`Remembers`), in every state that blocks and closings lead to, in
any order. So one finished slide obeys the comparison and restores the invariant (`finish_introducedAfter`), and a run
of them is an induction.
-/

namespace SlidePress

namespace Compiler

/-- **A run of the compiler**: blocks and closings in any order, a closing only while a slide is open, with the slides
that are finished on the way. -/
inductive Runs : Compiler → List Slide → Compiler → Prop where
  | done {c : Compiler} : Runs c [] c
  | block {c c' : Compiler} {slides : List Slide} (block : Block) :
      Runs (c.step block).2 slides c' → Runs c ((c.step block).1 ++ slides) c'
  | close {c d c' : Compiler} {slide : Slide} {slides : List Slide} :
      c.close? = some (slide, d) → Runs d slides c' → Runs c (slide :: slides) c'

/-- The entries introduced last are those of the last finished slide; none before there is one. -/
structure Remembers (c : Compiler) (previous : Option Slide) : Prop where
  sectionText : c.lastSection = previous.map (·.header.sectionText)
  topicText : c.lastTopic = previous.map (·.header.topicText)

/-- The slide introduces its section unless the slide before has the same one, and its topic unless the slide before
has the same section and topic. -/
structure IntroducedAfter (previous : Option Slide) (slide : Slide) : Prop where
  sectionText : slide.newSection =
    if previous.map (·.header.sectionText) = some slide.header.sectionText then none
    else some slide.header.sectionText
  topicText : slide.newTopic =
    if previous.map (·.header) = some slide.header then none else some slide.header.topicText

/-- Every slide introduces what it should after the one before it. -/
def Introduced : Option Slide → List Slide → Prop
  | _, [] => True
  | previous, slide :: slides => IntroducedAfter previous slide ∧ Introduced (some slide) slides

theorem remembers_start : Remembers {} none := ⟨rfl, rfl⟩

/-! ## One finished slide -/

/-- **The decision.** A state that remembers the previous slide lets the finished one introduce what differs, and
remembers the finished one afterwards. -/
theorem finish_introducedAfter {c : Compiler} {previous : Option Slide} (h : Remembers c previous)
    (slide : OpenSlide) :
    IntroducedAfter previous (c.finish slide).1 ∧ Remembers (c.finish slide).2 (some (c.finish slide).1) := by
  obtain ⟨hsection, htopic⟩ := h
  refine ⟨⟨?_, ?_⟩, ⟨rfl, rfl⟩⟩
  · simp only [finish, hsection]
    by_cases same : previous.map (·.header.sectionText) = some slide.header.sectionText
    · rw [if_pos same.symm, if_pos same]
    · rw [if_neg (Ne.symm same), if_neg same]
  · obtain ⟨title, ⟨sectionText, topicText⟩, body⟩ := slide
    cases previous with
    | none => simp [finish, hsection]
    | some before =>
        obtain ⟨_, _, ⟨section₀, topic₀⟩, _, _⟩ := before
        -- the topic counts as introduced only where the section was not introduced just now
        by_cases same : sectionText = section₀
        · by_cases sameTopic : topicText = topic₀
          · simp [finish, hsection, htopic, same, sameTopic]
          · simp [finish, hsection, htopic, same, sameTopic, Ne.symm sameTopic]
        · simp [finish, hsection, same, Ne.symm same]

/-- **What a block can do to the entries**: nothing, or it finishes the open slide. -/
theorem step_entries (c : Compiler) (block : Block) :
    ((c.step block).1 = [] ∧ (c.step block).2.lastSection = c.lastSection ∧
        (c.step block).2.lastTopic = c.lastTopic) ∨
      ∃ slide, c.openSlide = some slide ∧ (c.step block).1 = [(c.finish slide).1] ∧
        (c.step block).2.lastSection = (c.finish slide).2.lastSection ∧
        (c.step block).2.lastTopic = (c.finish slide).2.lastTopic := by
  obtain ⟨header, lastSection, lastTopic, openSlide, dropped⟩ := c
  cases openSlide with
  | none => cases block <;> exact Or.inl ⟨rfl, rfl, rfl⟩
  | some slide =>
      cases block with
      | slideMark title => exact Or.inr ⟨slide, rfl, rfl, rfl, rfl⟩
      | sectionMark text => exact Or.inl ⟨rfl, rfl, rfl⟩
      | topicMark text => exact Or.inl ⟨rfl, rfl, rfl⟩
      | subheading text => exact Or.inl ⟨rfl, rfl, rfl⟩
      | content kind text number => exact Or.inl ⟨rfl, rfl, rfl⟩

/-! ## A run -/

/-- **A run that begins in a state which remembers the previous slide** finishes slides that introduce what they
should, each after the one before. -/
theorem runs_introduced {c c' : Compiler} {slides : List Slide} (run : Runs c slides c') :
    ∀ {previous : Option Slide}, Remembers c previous → Introduced previous slides := by
  induction run with
  | done => intro _ _; trivial
  | @block c c' slides block _ ih =>
      intro previous h
      rcases step_entries c block with ⟨none_, hs, ht⟩ | ⟨slide, _, one, hs, ht⟩
      · rw [none_, List.nil_append]
        exact ih ⟨hs.trans h.sectionText, ht.trans h.topicText⟩
      · obtain ⟨introduced, remembers⟩ := finish_introducedAfter h slide
        rw [one, List.singleton_append]
        exact ⟨introduced, ih ⟨hs.trans remembers.sectionText, ht.trans remembers.topicText⟩⟩
  | @close c d c' slide slides found _ ih =>
      intro previous h
      obtain ⟨open_, _, finished⟩ := Option.map_eq_some_iff.mp found
      obtain ⟨introduced, remembers⟩ := finish_introducedAfter h open_
      rw [finished] at introduced remembers
      exact ⟨introduced, ih remembers⟩

/-- The slide at a position introduces what it should after the slide at the position before. -/
theorem Introduced.getElem {previous : Option Slide} {slides : List Slide} (h : Introduced previous slides) (k : Nat)
    (hk : k < slides.length) : IntroducedAfter (if k = 0 then previous else slides[k - 1]?) slides[k] := by
  induction slides generalizing previous k with
  | nil => exact absurd hk (Nat.not_lt_zero k)
  | cons slide slides ih =>
    cases k with
    | zero => exact h.1
    | succ k =>
        have later := ih h.2 k (Nat.lt_of_succ_lt_succ hk)
        cases k with
        | zero => simpa using later
        | succ k => simpa using later

/-- **Outline entries compare neighbours.** In every run from the start, a slide introduces its section exactly if it is
the first or the slide before has another section, and its topic exactly if it is the first or the slide before has
another section or another topic. An entry that is introduced says what the header says, even if that is empty. -/
theorem runs_newEntries {slides : List Slide} {c : Compiler} (run : Runs {} slides c) (k : Nat)
    (hk : k < slides.length) :
    slides[k].newSection =
        (if k = 0 ∨ slides[k].header.sectionText ≠ slides[k - 1].header.sectionText then
          some slides[k].header.sectionText else none) ∧
      slides[k].newTopic =
        (if k = 0 ∨ slides[k].header.sectionText ≠ slides[k - 1].header.sectionText ∨
            slides[k].header.topicText ≠ slides[k - 1].header.topicText then
          some slides[k].header.topicText else none) := by
  obtain ⟨hsection, htopic⟩ := (runs_introduced run remembers_start).getElem k hk
  cases k with
  | zero => exact ⟨by simpa using hsection, by simpa using htopic⟩
  | succ k =>
      have before : slides[k + 1 - 1]? = some slides[k] := List.getElem?_eq_getElem (by omega)
      rw [if_neg (Nat.succ_ne_zero k), before] at hsection htopic
      constructor
      · rw [hsection, ← ite_not]
        refine if_congr ?_ rfl rfl
        rw [Option.map_some, Option.some.injEq, eq_comm]
        simp
      · rw [htopic, ← ite_not]
        refine if_congr ?_ rfl rfl
        -- headers are equal when both of their texts are
        rw [Option.map_some, Option.some.injEq, eq_comm, Header.mk.injEq]
        simp [Decidable.imp_iff_not_or]

/-- A topic is introduced again under a new section although its text repeats. -/
theorem runs_newEntries_repeated_topic :
    ∃ (slides : List Slide) (c : Compiler) (h : 1 < slides.length),
      Runs {} slides c ∧ slides[1].newSection = some "B" ∧ slides[1].newTopic = some "t" := by
  have run : Runs {} _ _ :=
    .block (.sectionMark "A") <| .block (.topicMark "t") <| .block (.slideMark "1") <| .close rfl <|
      .block (.sectionMark "B") <| .block (.topicMark "t") <| .block (.slideMark "2") <| .close rfl .done
  have entries := runs_newEntries run 1 (by decide)
  exact ⟨_, _, by decide, run, entries.1.trans (by decide), entries.2.trans (by decide)⟩

end Compiler

end SlidePress
