import SlidePress.Deck.Check
import SlidePress.Log

/-!
# `SlidePress.Deck.Compile` — blocks into slides

The block stream is segmented in one forward pass. Section and topic markers change the running header, a slide
marker opens a slide with the header of that moment, and body blocks go to the open slide or, before the first
one, are dropped. A slide is closed when the next one opens or the stream ends, and then introduces an outline
entry wherever its header differs from the entries introduced before.
-/

namespace SlidePress

/-- A slide that is open and still grows. -/
structure OpenSlide where
  title : String
  header : Header := {}
  body : List Block := []
deriving DecidableEq, Repr

/-- The state of the pass. An entry that was never introduced is not the same as an empty one. -/
structure Compiler where
  /-- The running header. -/
  header : Header := {}
  /-- The section of the last outline entry. -/
  lastSection : Option String := none
  /-- The topic of the last outline entry, of this section. -/
  lastTopic : Option String := none
  /-- The slide that body blocks go to. -/
  openSlide : Option OpenSlide := none
  /-- How many body blocks found no slide. -/
  dropped : Int := 0
deriving DecidableEq, Repr

namespace Compiler

/-- The slide, finished in the given state, with the entries it introduces: the section when it is not the last
one introduced, and the topic when it is not the last one introduced in this section. -/
def finish (c : Compiler) (slide : OpenSlide) : Slide × Compiler :=
  let newSection := if some slide.header.sectionText = c.lastSection then none else some slide.header.sectionText
  -- a new section introduces its first topic even where the text repeats
  let lastTopic := if newSection.isSome then none else c.lastTopic
  let newTopic := if some slide.header.topicText = lastTopic then none else some slide.header.topicText
  ({ title := slide.title, body := slide.body, header := slide.header, newSection, newTopic },
    { c with
      openSlide := none
      lastSection := some slide.header.sectionText
      lastTopic := some slide.header.topicText })

/-- The open slide, finished; nothing when no slide is open. -/
def close? (c : Compiler) : Option (Slide × Compiler) := c.openSlide.map c.finish

/-- The slides that closing yields, one or none, and the state after it. -/
def close (c : Compiler) : List Slide × Compiler :=
  match c.close? with
  | some (slide, c) => ([slide], c)
  | none => ([], c)

/-- One block: the slides that it finishes, one or none, and the state after it. -/
def step (c : Compiler) : Block → List Slide × Compiler
  | .sectionMark text => ([], { c with header := { sectionText := text } })
  | .topicMark text => ([], { c with header := { c.header with topicText := text } })
  | .slideMark title =>
    let (finished, c) := c.close
    (finished, { c with openSlide := some { title, header := c.header } })
  | block@(.subheading _) | block@(.content ..) =>
    match c.openSlide with
    | none => ([], { c with dropped := c.dropped + 1 })
    | some slide => ([], { c with openSlide := some { slide with body := slide.body ++ [block] } })

/-- A stream of blocks: the slides that it finishes and the state after it. -/
def run (c : Compiler) : List Block → List Slide × Compiler
  | [] => ([], c)
  | block :: blocks =>
    let (finished, c) := c.step block
    let (later, c) := c.run blocks
    (finished ++ later, c)

/-- A run over two streams is the run over the first and then over the second. -/
theorem run_append (c : Compiler) (a b : List Block) :
    c.run (a ++ b) = ((c.run a).1 ++ ((c.run a).2.run b).1, ((c.run a).2.run b).2) := by
  induction a generalizing c with
  | nil => simp [run]
  | cons block a ih => simp [run, ih, List.append_assoc]

/-- What is reported about a block: only that it is dropped. -/
def stepJournal (c : Compiler) (block : Block) : Journal :=
  if block.isBody && c.openSlide.isNone then
    [⟨.debug, s!"Dropping {block.kind.name} block before first slide"⟩]
  else []

end Compiler

/-- The deck that a stream of blocks compiles to. -/
def compileDeck (blocks : List Block) : Deck :=
  let (finished, c) := ({} : Compiler).run blocks
  { slides := finished ++ c.close.1, dropped := .int c.dropped }

/-- The body blocks of a stream that come before its first slide. -/
def droppedBlocks (blocks : List Block) : List Block :=
  (blocks.takeWhile fun block => block.kind ≠ .slideMark).filter Block.isBody

/-- What is reported about the compilation of a stream: every dropped block, their number if they are to be warned
about, and the number of slides. -/
def compileJournal (warnDropped : Bool) (blocks : List Block) : Journal :=
  let dropped := droppedBlocks blocks
  dropped.map (fun block => ⟨.debug, s!"Dropping {block.kind.name} block before first slide"⟩) ++
    (if warnDropped && !dropped.isEmpty then
      [⟨.warning, s!"Dropped {dropped.length} block(s) authored before the first slide"⟩]
    else []) ++
    [⟨.info, s!"Compiled {(compileDeck blocks).slides.length} slides"⟩]

end SlidePress
