import SlidePress.Proofs.Deck.Segmentation

/-!
# `SlidePress.Proofs.Deck.Continuation` — a stream that goes on

The compiler goes through a stream once and never looks ahead. What it has decided about a stream therefore stands when
the stream goes on: finished slides stay, and the slide that the shorter stream ended with gets more blocks at most. Its
title, its header and the entries that it introduces are those that it would have had if the stream had ended there,
although the entries are decided only when the slide is closed.

This is not clear from the code of one block, which may move the running header while a slide is open and closes the
slide in the state of a later moment. But the open slide keeps the header it was opened under, and the entries depend on
nothing but that header and the entries before, which no block touches unless it closes a slide (`step_opened`). So a
run closes the slide that it finds open as it would have been closed at once, with the body blocks ahead added
(`exists_slides_of_opened`).
-/

namespace SlidePress

/-- **A slide, and the same slide with more blocks** at the end of its body. -/
structure Slide.Grown (slide grown : Slide) : Prop where
  title : grown.title = slide.title
  header : grown.header = slide.header
  newSection : grown.newSection = slide.newSection
  newTopic : grown.newTopic = slide.newTopic
  body : slide.body <+: grown.body

theorem Slide.Grown.refl (slide : Slide) : Slide.Grown slide slide :=
  ⟨rfl, rfl, rfl, rfl, List.prefix_rfl⟩

/-- **Slides that go on**: all of them but the last are kept at their positions, and the last one may have grown. -/
structure Continued (slides later : List Slide) : Prop where
  length_le : slides.length ≤ later.length
  kept : slides.dropLast <+: later
  grown : ∀ last, slides.getLast? = some last →
    ∃ slide, later[slides.length - 1]? = some slide ∧ Slide.Grown last slide

theorem continued_append (slides later : List Slide) : Continued slides (slides ++ later) := by
  constructor
  · rw [List.length_append]
    exact Nat.le_add_right _ _
  · exact (List.dropLast_prefix slides).trans (List.prefix_append _ _)
  · intro last found
    have positive : 0 < slides.length := by
      apply List.length_pos_iff.mpr
      rintro rfl
      cases found
    refine ⟨last, ?_, .refl last⟩
    rw [List.getElem?_append_left (Nat.sub_lt positive Nat.one_pos), ← List.getLast?_eq_getElem?, found]

theorem continued_grown {slide grown : Slide} (h : Slide.Grown slide grown) (slides later : List Slide) :
    Continued (slides ++ [slide]) (slides ++ grown :: later) := by
  constructor
  · rw [List.length_append, List.length_append]
    exact Nat.add_le_add_left (Nat.succ_le_succ (Nat.zero_le _)) _
  · rw [List.dropLast_concat]
    exact List.prefix_append _ _
  · intro last found
    obtain rfl : slide = last := by simpa using found
    exact ⟨grown, by simp, h⟩

namespace Compiler

/-! ## The slides of a stream -/

/-- The slides of a stream: those that the run finishes, and the one that it leaves open. -/
def slides (c : Compiler) (blocks : List Block) : List Slide := (c.run blocks).1 ++ (c.run blocks).2.close.1

/-- A stream that goes on: what the run over the first part has finished stays. -/
theorem slides_append (c : Compiler) (a b : List Block) :
    c.slides (a ++ b) = (c.run a).1 ++ (c.run a).2.slides b := by
  unfold slides
  rw [run_append, List.append_assoc]

theorem slides_cons (c : Compiler) (block : Block) (blocks : List Block) :
    c.slides (block :: blocks) = (c.step block).1 ++ (c.step block).2.slides blocks := by
  unfold slides
  rw [run, List.append_assoc]

/-! ## The open slide -/

theorem close_of_none {c : Compiler} (closed : c.openSlide = none) : c.close = ([], c) := by
  rw [close, close?, closed, Option.map_none]

theorem close_of_opened {c : Compiler} {slide : OpenSlide} (opened : c.openSlide = some slide) :
    c.close = ([(c.finish slide).1], (c.finish slide).2) := by
  rw [close, close?, opened, Option.map_some]

theorem extend_extend (slide : OpenSlide) (more others : List Block) :
    (slide.extend more).extend others = slide.extend (more ++ others) := by
  simp [OpenSlide.extend]

/-- How a slide is finished depends on the entries before, and on nothing else of the state. -/
theorem finish_eq_of_entries {c d : Compiler} (sections : d.lastSection = c.lastSection)
    (topics : d.lastTopic = c.lastTopic) (slide : OpenSlide) : (d.finish slide).1 = (c.finish slide).1 := by
  unfold finish
  rw [sections, topics]

/-- A slide that is finished with more blocks is the slide with more blocks. -/
theorem finish_extend_grown (c : Compiler) (slide : OpenSlide) (more : List Block) :
    Slide.Grown (c.finish slide).1 (c.finish (slide.extend more)).1 :=
  ⟨rfl, rfl, rfl, rfl, List.prefix_append _ _⟩

/-- **What a block can do to the open slide**: it finishes it, or adds itself to the body if it belongs there. The
entries before are the same as long as the slide is open. -/
theorem step_opened {c : Compiler} {slide : OpenSlide} (opened : c.openSlide = some slide) (block : Block) :
    (block.kind = .slideMark ∧ (c.step block).1 = [(c.finish slide).1]) ∨
      (block.kind ≠ .slideMark ∧ (c.step block).1 = [] ∧
        (c.step block).2.openSlide = some (slide.extend (leadingBody [block])) ∧
        (c.step block).2.lastSection = c.lastSection ∧ (c.step block).2.lastTopic = c.lastTopic) := by
  obtain ⟨header, lastSection, lastTopic, openSlide, dropped⟩ := c
  obtain rfl : openSlide = some slide := opened
  cases block with
  | slideMark title => exact Or.inl ⟨rfl, rfl⟩
  | sectionMark text => exact Or.inr ⟨by simp, rfl, by simp [step, leadingBody_cons], rfl, rfl⟩
  | topicMark text => exact Or.inr ⟨by simp, rfl, by simp [step, leadingBody_cons], rfl, rfl⟩
  | subheading text => exact Or.inr ⟨by simp, rfl, by simp [step, leadingBody_cons, OpenSlide.extend], rfl, rfl⟩
  | content kind text number =>
      exact Or.inr ⟨by simp, rfl, by simp [step, leadingBody_cons, OpenSlide.extend], rfl, rfl⟩

end Compiler

/-- The body blocks before the first marker of a stream that goes on: only a stream without a marker gets more. -/
theorem leadingBody_append (a b : List Block) :
    leadingBody (a ++ b) =
      leadingBody a ++ if ∃ block ∈ a, block.kind = .slideMark then [] else leadingBody b := by
  induction a with
  | nil => simp
  | cons block a ih =>
      rw [List.cons_append, leadingBody_cons, leadingBody_cons, ih]
      by_cases mark : block.kind = .slideMark
      · simp [mark]
      · by_cases body : block.isBody = true <;> simp [mark, body]

namespace Compiler

/-- **A run closes the slide that it finds open** as it would have been closed at once, with the body blocks that come
before the next marker. -/
theorem exists_slides_of_opened {c : Compiler} {slide : OpenSlide} (opened : c.openSlide = some slide)
    (blocks : List Block) :
    ∃ later, c.slides blocks = (c.finish (slide.extend (leadingBody blocks))).1 :: later := by
  induction blocks generalizing c slide with
  | nil =>
      refine ⟨[], ?_⟩
      show [] ++ c.close.1 = _
      rw [List.nil_append, leadingBody_nil, OpenSlide.extend_nil, close_of_opened opened]
  | cons block blocks ih =>
      rw [slides_cons]
      rcases step_opened opened block with ⟨mark, finished⟩ | ⟨noMark, nothing, grows, sections, topics⟩
      · have closed : leadingBody (block :: blocks) = [] := by rw [leadingBody_cons, if_pos mark]
        rw [finished, closed, OpenSlide.extend_nil]
        exact ⟨_, rfl⟩
      · obtain ⟨later, hlater⟩ := ih grows
        have ahead : leadingBody (block :: blocks) = leadingBody [block] ++ leadingBody blocks := by
          rw [← List.singleton_append, leadingBody_append, if_neg (by simpa using noMark)]
        refine ⟨later, ?_⟩
        rw [nothing, List.nil_append, hlater, extend_extend, ← ahead, finish_eq_of_entries sections topics]

end Compiler

/-! ## The blocks that are dropped -/

/-- The blocks that a deck has dropped are the body blocks before its first slide. -/
theorem compileDeck_dropped (blocks : List Block) : (compileDeck blocks).dropped = .int (leadingBody blocks).length := by
  rw [compileDeck_eq]
  show Number.int (({} : Compiler).run blocks).2.dropped = _
  rw [Compiler.run_dropped]
  simp

theorem exists_slideMark_of_slides {blocks : List Block} (h : (compileDeck blocks).slides ≠ []) :
    ∃ block ∈ blocks, block.kind = .slideMark := by
  have positive : 0 < (segmentsFrom {} blocks).length := by
    rw [← compileDeck_opened, List.length_map]
    exact List.length_pos_iff.mpr h
  rw [length_segmentsFrom, List.countP_pos_iff] at positive
  simpa using positive

/-! ## A stream that goes on -/

/-- **What is decided stands.** When a stream goes on, its deck has at least the slides that it had. All but the last of
them are the same at the same positions; the last one has the same title, header and entries, and may have more blocks.
No fewer blocks are dropped, and no more either once there is a slide. -/
theorem compileDeck_append (a b : List Block) :
    Continued (compileDeck a).slides (compileDeck (a ++ b)).slides ∧
      ∃ m n : Nat, (compileDeck a).dropped = .int m ∧ (compileDeck (a ++ b)).dropped = .int n ∧ m ≤ n ∧
        ((compileDeck a).slides ≠ [] → m = n) := by
  constructor
  · have shorter : (compileDeck a).slides = (({} : Compiler).run a).1 ++ (({} : Compiler).run a).2.close.1 := rfl
    have longer : (compileDeck (a ++ b)).slides = (({} : Compiler).run a).1 ++ (({} : Compiler).run a).2.slides b :=
      Compiler.slides_append {} a b
    rw [shorter, longer]
    generalize (({} : Compiler).run a).1 = finished
    generalize (({} : Compiler).run a).2 = c
    cases opened : c.openSlide with
    | none =>
        rw [Compiler.close_of_none opened, List.append_nil]
        exact continued_append finished _
    | some slide =>
        obtain ⟨later, goesOn⟩ := Compiler.exists_slides_of_opened opened b
        rw [Compiler.close_of_opened opened, goesOn]
        exact continued_grown (c.finish_extend_grown slide (leadingBody b)) finished later
  · refine ⟨_, _, compileDeck_dropped a, compileDeck_dropped (a ++ b), ?_, ?_⟩
    · rw [leadingBody_append, List.length_append]
      exact Nat.le_add_right _ _
    · intro hasSlide
      rw [leadingBody_append, if_pos (exists_slideMark_of_slides hasSlide), List.append_nil]

end SlidePress
