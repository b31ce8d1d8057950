import SlidePress.Proofs.Deck.Outline
import SlidePress.Proofs.Deck.Segmentation

/-!
# `SlidePress.Proofs.Deck.Restatement` — a deck, written as a stream again

A deck can be written as a stream once more, from its slides alone: before each slide only the markers of the entries
that it introduces, then the slide marker, then the body. Sections that no slide saw, topics that were replaced and
headers that were declared again are gone, and yet this stream compiles to the same slides. So the entries carry the
whole state of the running header.

The reason is that a slide introduces whatever differs from the slide before: the markers of the new entries turn the
header of the previous slide into that of the next one (`run_entryMarkers`), also where a new section clears the topic.
The compiler then finishes each slide with the entries it had, because these are determined by the slide before
(`IntroducedAfter.eq_of_opened`), and one slide after another the run gives the list back (`run_restated`).
-/

namespace SlidePress

/-- The stream that a slide is written as: markers for the entries it introduces, its own marker, and its body. -/
def Slide.restated (slide : Slide) : List Block :=
  (slide.newSection.map Block.sectionMark).toList ++ (slide.newTopic.map Block.topicMark).toList ++
    .slideMark slide.title :: slide.body

/-! ## Compiled decks -/

/-- The body of a slide of a stream holds body blocks only. -/
theorem isBody_of_mem_segmentsFrom {header : Header} {blocks : List Block} {slide : OpenSlide}
    (mem : slide ∈ segmentsFrom header blocks) : ∀ block ∈ slide.body, block.isBody = true := by
  intro block inside
  have found : block ∈ (segmentsFrom header blocks).flatMap OpenSlide.body := List.mem_flatMap.mpr ⟨slide, mem, inside⟩
  have stream : block ∈ blocks.filter Block.isBody := by
    rw [filter_isBody_eq header blocks]
    exact List.mem_append_right _ found
  exact (List.mem_filter.mp stream).2

/-- The body of a compiled slide holds body blocks only. -/
theorem isBody_of_mem_compileDeck {blocks : List Block} {slide : Slide} (mem : slide ∈ (compileDeck blocks).slides) :
    ∀ block ∈ slide.body, block.isBody = true := by
  have opened : slide.opened ∈ segmentsFrom {} blocks := by
    rw [← compileDeck_opened]
    exact List.mem_map_of_mem mem
  exact isBody_of_mem_segmentsFrom opened

namespace Compiler

theorem Runs.of_run {c c' : Compiler} {slides : List Slide} (blocks : List Block)
    (later : Runs (c.run blocks).2 slides c') : Runs c ((c.run blocks).1 ++ slides) c' := by
  induction blocks generalizing c with
  | nil => exact later
  | cons block blocks ih =>
      rw [run, List.append_assoc]
      exact .block block (ih later)

theorem Runs.of_close (c : Compiler) : Runs c c.close.1 c.close.2 := by
  cases h : c.close? with
  | none =>
      have closed : c.close = ([], c) := by rw [Compiler.close, h]
      rw [closed]
      exact .done
  | some out =>
      obtain ⟨slide, d⟩ := out
      have closed : c.close = ([slide], d) := by rw [Compiler.close, h]
      rw [closed]
      exact .close h .done

/-- **A compiled deck** has slides that introduce what they should, each after the one before. -/
theorem introduced_compileDeck (blocks : List Block) : Introduced none (compileDeck blocks).slides :=
  runs_introduced (.of_run blocks (.of_close _)) remembers_start

/-- **What a slide introduces is determined** by the slide before and by what the slide takes from the stream. -/
theorem IntroducedAfter.eq_of_opened {previous : Option Slide} {a b : Slide} (ha : IntroducedAfter previous a)
    (hb : IntroducedAfter previous b) (same : a.opened = b.opened) : a = b := by
  obtain ⟨aSection, aTopic⟩ := ha
  obtain ⟨bSection, bTopic⟩ := hb
  obtain ⟨title, body, header, newSection, newTopic⟩ := a
  obtain ⟨title', body', header', newSection', newTopic'⟩ := b
  obtain ⟨rfl, rfl, rfl⟩ : title = title' ∧ header = header' ∧ body = body' := by
    simpa [Slide.opened] using same
  simp only at aSection aTopic bSection bTopic
  rw [aSection, aTopic, bSection, bTopic]

/-! ## The stream of a slide -/

/-- The running header after a slide; before the first one it is empty. -/
def headerOf (previous : Option Slide) : Header := (previous.map Slide.header).getD {}

/-- **The markers of the new entries** turn the header of the slide before into the header of the slide. They touch
nothing else. -/
theorem run_entryMarkers {c : Compiler} {previous : Option Slide} {slide : Slide}
    (introduced : IntroducedAfter previous slide) (header : c.header = headerOf previous) :
    c.run ((slide.newSection.map Block.sectionMark).toList ++ (slide.newTopic.map Block.topicMark).toList) =
      ([], { c with header := slide.header }) := by
  obtain ⟨hsection, htopic⟩ := introduced
  obtain ⟨header, lastSection, lastTopic, openSlide, dropped⟩ := c
  obtain ⟨title, body, ⟨sectionText, topicText⟩, newSection, newTopic⟩ := slide
  cases previous with
  | none =>
      simp only [Option.map_none, reduceCtorEq, if_false] at hsection htopic
      simp [hsection, htopic, run, step]
  | some before =>
      obtain ⟨_, _, ⟨section₀, topic₀⟩, _, _⟩ := before
      simp only [headerOf, Option.map_some, Option.getD_some] at header
      simp only [Option.map_some, Option.some.injEq, Header.mk.injEq] at hsection htopic
      by_cases same : section₀ = sectionText
      · -- the section goes on: only the topic can be new
        by_cases sameTopic : topic₀ = topicText
        · simp [hsection, htopic, same, sameTopic, run, header]
        · simp [hsection, htopic, same, sameTopic, run, step, header]
      · simp [hsection, htopic, same, run, step]

/-- Body blocks go to the slide that is open, and do nothing else. -/
theorem run_body {c : Compiler} {slide : OpenSlide} (opened : c.openSlide = some slide) {body : List Block}
    (bodies : ∀ block ∈ body, block.isBody = true) :
    c.run body = ([], { c with openSlide := some (slide.extend body) }) := by
  induction body generalizing c slide with
  | nil => rw [OpenSlide.extend_nil, ← opened]; rfl
  | cons block body ih =>
      have one : c.step block = ([], { c with openSlide := some (slide.extend [block]) }) := by
        have isBody := bodies block List.mem_cons_self
        cases block with
        | sectionMark text => exact absurd isBody Bool.false_ne_true
        | topicMark text => exact absurd isBody Bool.false_ne_true
        | slideMark title => exact absurd isBody Bool.false_ne_true
        | subheading text => simp [step, opened, OpenSlide.extend]
        | content kind text number => simp [step, opened, OpenSlide.extend]
      rw [run, one]
      simp only
      rw [ih rfl fun b mem => bodies b (List.mem_cons_of_mem block mem)]
      simp [OpenSlide.extend]

/-- **The stream of a slide** closes the slide that was open and opens this one under its header. -/
theorem run_restated_slide {c : Compiler} {previous : Option Slide} {slide : Slide}
    (introduced : IntroducedAfter previous slide) (header : c.header = headerOf previous)
    (bodies : ∀ block ∈ slide.body, block.isBody = true) :
    c.run slide.restated = (c.close.1, { c.close.2 with header := slide.header, openSlide := some slide.opened }) := by
  have moved : ({ c with header := slide.header } : Compiler).close =
      (c.close.1, { c.close.2 with header := slide.header }) := by
    cases h : c.openSlide <;> simp [close, close?, finish, h]
  have opens : ({ c with header := slide.header } : Compiler).step (.slideMark slide.title) =
      (c.close.1, { c.close.2 with header := slide.header,
                                   openSlide := some { title := slide.title, header := slide.header } }) := by
    rw [step, moved]
  rw [Slide.restated, run_append, run_entryMarkers introduced header, run, opens]
  simp only
  rw [run_body rfl bodies]
  simp [OpenSlide.extend, Slide.opened]

/-! ## All slides -/

theorem close_header_dropped (c : Compiler) : c.close.2.header = c.header ∧ c.close.2.dropped = c.dropped := by
  cases h : c.openSlide <;> simp [close, close?, finish, h]

/-- **A run over the streams of slides**, from a state whose closing leads up to them: it finishes what was open and
then these slides, and drops nothing. -/
theorem run_restated {c : Compiler} {previous : Option Slide} {slides : List Slide}
    (remembers : Remembers c.close.2 previous) (header : c.header = headerOf previous)
    (introduced : Introduced previous slides) (bodies : ∀ slide ∈ slides, ∀ block ∈ slide.body, block.isBody = true) :
    (c.run (slides.flatMap Slide.restated)).1 ++ (c.run (slides.flatMap Slide.restated)).2.close.1 =
        c.close.1 ++ slides ∧
      (c.run (slides.flatMap Slide.restated)).2.dropped = c.dropped := by
  induction slides generalizing c previous with
  | nil => simp [run]
  | cons slide slides ih =>
      have first := run_restated_slide introduced.1 header (bodies slide List.mem_cons_self)
      let d : Compiler := { c.close.2 with header := slide.header, openSlide := some slide.opened }
      -- the slide is finished as it was, since the state remembers the slide before
      obtain ⟨again, remembers'⟩ :=
        finish_introducedAfter (c := d) ⟨remembers.sectionText, remembers.topicText⟩ slide.opened
      have same : (d.finish slide.opened).1 = slide := again.eq_of_opened introduced.1 rfl
      rw [same] at remembers'
      have closed : d.close.1 = [slide] := congrArg (fun s => [s]) same
      obtain ⟨finished, dropped⟩ := ih (c := d) remembers' rfl introduced.2 fun s mem =>
        bodies s (List.mem_cons_of_mem slide mem)
      rw [List.flatMap_cons, run_append, first]
      constructor
      · rw [List.append_assoc, finished, closed]
        rfl
      · exact dropped.trans (close_header_dropped c).2

end Compiler

/-- **A deck compiles from its own restatement.** Whatever the stream, the one that is written from its compiled slides
has the same slides, with the same headers, bodies and entries, and drops nothing. -/
theorem compileDeck_restated (blocks : List Block) :
    compileDeck ((compileDeck blocks).slides.flatMap Slide.restated) =
      { slides := (compileDeck blocks).slides, dropped := 0 } := by
  obtain ⟨slides, dropped⟩ := Compiler.run_restated (c := {}) Compiler.remembers_start rfl
    (Compiler.introduced_compileDeck blocks) fun _ mem => isBody_of_mem_compileDeck mem
  rw [compileDeck_eq (List.flatMap _ _), slides, dropped]
  rfl

end SlidePress
