import SlidePress.Deck.Compile
import Mathlib.Data.List.DropRight

/-!
# `SlidePress.Proofs.Deck.Segmentation` — the slides of a stream, by position

The compiler goes through a stream once and keeps a slide open until the next marker. What it yields can be said
without a state: every slide marker gives one slide, its header is that of the blocks before the marker, and its body
is made of the body blocks up to the next marker.

The invariant is carried from the left (`run_segments`): whatever state a run starts in, the slides that it finishes and
the one it leaves open are the slide that was open, extended by the body blocks ahead, and one slide for each marker.
`segmentsFrom` is the recursive form of that list, `segments` the positional one, and `segments_eq` joins them.
-/

namespace SlidePress

/-! ## The header of a stream -/

/-- The text of the last block of a kind; empty when there is none. -/
def lastText (kind : BlockKind) (blocks : List Block) : String :=
  ((blocks.filter (·.kind = kind)).getLast?.map Block.text).getD ""

/-- The blocks after the last section marker; all of them when there is none. -/
def sinceSection (blocks : List Block) : List Block := blocks.rtakeWhile (·.kind ≠ .sectionMark)

/-- The header in force after a stream: its last section, and the last topic after that section's marker. -/
def headerAfter (blocks : List Block) : Header where
  sectionText := lastText .sectionMark blocks
  topicText := lastText .topicMark (sinceSection blocks)

/-- The header after one more block. -/
def Header.after (header : Header) : Block → Header
  | .sectionMark text => { sectionText := text }
  | .topicMark text => { header with topicText := text }
  | _ => header

theorem lastText_concat (kind : BlockKind) (blocks : List Block) (block : Block) :
    lastText kind (blocks ++ [block]) = if block.kind = kind then block.text else lastText kind blocks := by
  unfold lastText
  by_cases h : block.kind = kind <;> simp [h]

/-- **The positional header moves block by block.** A section marker cuts off the topics before it, and only section and
topic markers count. -/
theorem headerAfter_concat (blocks : List Block) (block : Block) :
    headerAfter (blocks ++ [block]) = (headerAfter blocks).after block := by
  unfold headerAfter sinceSection
  rw [List.rtakeWhile_concat, lastText_concat]
  cases block with
  | sectionMark text => simp [Header.after, Block.text, lastText]
  | topicMark text => simp [Header.after, Block.text, lastText_concat]
  | slideMark title => simp [Header.after, lastText_concat]
  | subheading text => simp [Header.after, lastText_concat]
  | content kind text number => simp [Header.after, lastText_concat]

/-! ## The slides of a stream -/

/-- The body blocks of a stream up to its first slide marker; all of them when there is none. -/
def leadingBody (blocks : List Block) : List Block :=
  (blocks.takeWhile (·.kind ≠ .slideMark)).filter Block.isBody

/-- What a slide takes from the stream: everything but its outline entries. -/
def Slide.opened (slide : Slide) : OpenSlide where
  title := slide.title
  header := slide.header
  body := slide.body

/-- The slide of the marker at a position, if there is a slide marker. -/
def segmentAt (blocks : List Block) (i : Nat) : Option OpenSlide :=
  match blocks[i]? with
  | some (.slideMark title) =>
    some { title, header := headerAfter (blocks.take i), body := leadingBody (blocks.drop (i + 1)) }
  | _ => none

/-- The slides of a stream, one for each slide marker, in order. -/
def segments (blocks : List Block) : List OpenSlide :=
  (List.range blocks.length).filterMap (segmentAt blocks)

/-- The slide that a block opens under a header, when the blocks `ahead` follow it. -/
def opening (header : Header) (ahead : List Block) : Block → List OpenSlide
  | .slideMark title => [{ title, header, body := leadingBody ahead }]
  | _ => []

/-- The slides of a stream that begins under a header. -/
def segmentsFrom (header : Header) : List Block → List OpenSlide
  | [] => []
  | block :: ahead => opening header ahead block ++ segmentsFrom (header.after block) ahead

/-- The slide with more blocks at the end of its body. -/
def OpenSlide.extend (slide : OpenSlide) (more : List Block) : OpenSlide :=
  { slide with body := slide.body ++ more }

@[simp] theorem leadingBody_nil : leadingBody [] = [] := rfl

theorem leadingBody_cons (block : Block) (ahead : List Block) :
    leadingBody (block :: ahead) =
      if block.kind = .slideMark then [] else if block.isBody then block :: leadingBody ahead else leadingBody ahead := by
  unfold leadingBody
  by_cases mark : block.kind = .slideMark
  · simp [mark]
  · by_cases body : block.isBody <;> simp [mark, body]

@[simp] theorem OpenSlide.extend_nil (slide : OpenSlide) : slide.extend [] = slide := by
  simp [OpenSlide.extend]

/-- The recursive form of the rest of a stream is its positional form, shifted by the blocks before. -/
theorem segmentsFrom_eq (before ahead : List Block) :
    segmentsFrom (headerAfter before) ahead =
      (List.range ahead.length).filterMap fun i => segmentAt (before ++ ahead) (before.length + i) := by
  induction ahead generalizing before with
  | nil => rfl
  | cons block ahead ih =>
    -- the first position is the block itself; at the others the block counts as one before
    have here : (segmentAt (before ++ block :: ahead) before.length).toList =
        opening (headerAfter before) ahead block := by
      unfold segmentAt
      cases block <;> simp [opening]
    have shift : ∀ i, segmentAt (before ++ block :: ahead) (before.length + (i + 1)) =
        segmentAt ((before ++ [block]) ++ ahead) ((before ++ [block]).length + i) := by
      intro i
      rw [List.append_cons, List.length_append, List.length_singleton]
      congr 1
      omega
    rw [segmentsFrom, ← headerAfter_concat, ih (before ++ [block]), ← here, List.length_cons,
      List.range_succ_eq_map, List.filterMap_cons, List.filterMap_map]
    simp only [Function.comp_def, Nat.succ_eq_add_one, shift, Nat.add_zero]
    cases segmentAt (before ++ block :: ahead) before.length <;> rfl

theorem segments_eq (blocks : List Block) : segments blocks = segmentsFrom {} blocks := by
  have whole := segmentsFrom_eq [] blocks
  simp only [List.nil_append, List.length_nil, Nat.zero_add] at whole
  exact whole.symm

theorem length_segmentsFrom (header : Header) (blocks : List Block) :
    (segmentsFrom header blocks).length = blocks.countP (·.kind = .slideMark) := by
  induction blocks generalizing header with
  | nil => rfl
  | cons block blocks ih =>
    rw [segmentsFrom, List.length_append, ih, List.countP_cons]
    cases block <;> simp [opening, Nat.add_comm]

/-- Every body block is before the first slide or in exactly one body, in the order of the stream. -/
theorem filter_isBody_eq (header : Header) (blocks : List Block) :
    blocks.filter Block.isBody = leadingBody blocks ++ (segmentsFrom header blocks).flatMap OpenSlide.body := by
  induction blocks generalizing header with
  | nil => rfl
  | cons block blocks ih =>
    rw [segmentsFrom, List.flatMap_append, List.filter_cons, ih (header.after block)]
    cases block <;> simp [opening, leadingBody_cons]

/-! ## The pass -/

namespace Compiler

@[simp] theorem finish_opened (c : Compiler) (slide : OpenSlide) : (c.finish slide).1.opened = slide := rfl

@[simp] theorem finish_header (c : Compiler) (slide : OpenSlide) : (c.finish slide).2.header = c.header := rfl

/-- A block moves the running header, whatever else it does. -/
theorem step_header (c : Compiler) (block : Block) : (c.step block).2.header = c.header.after block := by
  obtain ⟨header, lastSection, lastTopic, openSlide, dropped⟩ := c
  cases block <;> cases openSlide <;> rfl

/-- **One block.** The slide it finishes and the one it leaves open are the slide that was open and the one that the
block opens, each with the body blocks that are still ahead of it. -/
theorem step_segments (c : Compiler) (block : Block) (ahead : List Block) :
    (c.step block).1.map Slide.opened ++ ((c.step block).2.openSlide.map (·.extend (leadingBody ahead))).toList =
      (c.openSlide.map (·.extend (leadingBody (block :: ahead)))).toList ++ opening c.header ahead block := by
  obtain ⟨header, lastSection, lastTopic, openSlide, dropped⟩ := c
  cases openSlide with
  | none => cases block <;> simp [step, close, close?, opening, OpenSlide.extend, leadingBody_cons]
  | some slide => cases block <;> simp [step, close, close?, opening, OpenSlide.extend, finish_opened, leadingBody_cons]

/-- **A run.** The slides it finishes and the one it leaves open are the slide that was open, extended by the body blocks
before the first marker, and one slide for each marker. -/
theorem run_segments (c : Compiler) (blocks : List Block) :
    (c.run blocks).1.map Slide.opened ++ (c.run blocks).2.openSlide.toList =
      (c.openSlide.map (·.extend (leadingBody blocks))).toList ++ segmentsFrom c.header blocks := by
  induction blocks generalizing c with
  | nil => cases h : c.openSlide <;> simp [run, segmentsFrom, h]
  | cons block blocks ih =>
    simp only [run, segmentsFrom, List.map_append, List.append_assoc]
    rw [ih, step_header, ← List.append_assoc, step_segments, List.append_assoc]

/-- How many blocks a run drops: the body blocks before the first marker, unless a slide was open. -/
theorem run_dropped (c : Compiler) (blocks : List Block) :
    (c.run blocks).2.dropped = c.dropped + if c.openSlide.isNone then ((leadingBody blocks).length : Int) else 0 := by
  induction blocks generalizing c with
  | nil => simp [run]
  | cons block blocks ih =>
    simp only [run]
    rw [ih]
    obtain ⟨header, lastSection, lastTopic, openSlide, dropped⟩ := c
    cases openSlide with
    | none =>
        cases block <;> simp [step, close, close?, leadingBody_cons]
        all_goals omega
    | some slide => cases block <;> simp [step, close, close?, finish]

theorem close_opened (c : Compiler) : c.close.1.map Slide.opened = c.openSlide.toList := by
  cases h : c.openSlide <;> simp [close, close?, h]

end Compiler

/-- A compiled deck has the slides that the run over its stream finishes, and the one that is left open. -/
theorem compileDeck_eq (blocks : List Block) :
    compileDeck blocks =
      { slides := (({} : Compiler).run blocks).1 ++ (({} : Compiler).run blocks).2.close.1,
        dropped := .int (({} : Compiler).run blocks).2.dropped } := rfl

/-- **The slides of a compiled deck** are those of its stream. -/
theorem compileDeck_opened (blocks : List Block) :
    (compileDeck blocks).slides.map Slide.opened = segmentsFrom {} blocks := by
  have run := Compiler.run_segments {} blocks
  rw [compileDeck_eq, List.map_append, Compiler.close_opened, run]
  rfl

/-- **The compiled deck is the positional one.** It has one slide for each slide marker, in order, with the title of the
marker, the header of the blocks before it and the body blocks up to the next marker; the dropped blocks are the body
blocks before the first marker; and the dropped blocks with the bodies are the body blocks of the stream. -/
theorem compileDeck_segments (blocks : List Block) :
    (compileDeck blocks).slides.map Slide.opened = segments blocks ∧
      (compileDeck blocks).slides.length = blocks.countP (·.kind = .slideMark) ∧
      (compileDeck blocks).dropped = .int (leadingBody blocks).length ∧
      blocks.filter Block.isBody = leadingBody blocks ++ (compileDeck blocks).slides.flatMap Slide.body := by
  have slides : (compileDeck blocks).slides.map Slide.opened = segmentsFrom {} blocks := by
    have run := Compiler.run_segments {} blocks
    simp only [Option.map_none, Option.toList_none, List.nil_append] at run
    -- the slide that the run leaves open is the last of the deck
    rw [← run, compileDeck]
    cases h : (({} : Compiler).run blocks).2.openSlide <;> simp [Compiler.close, Compiler.close?, h]
  refine ⟨?_, ?_, ?_, ?_⟩
  · rw [slides, segments_eq]
  · rw [← length_segmentsFrom {}, ← slides, List.length_map]
  · show Number.int (({} : Compiler).run blocks).2.dropped = _
    rw [Compiler.run_dropped]
    simp
  · rw [filter_isBody_eq {}, ← slides, List.flatMap_map]
    rfl

end SlidePress
