import SlidePress.Json.Printer
import SlidePress.Proofs.Markdown.Form
import SlidePress.Proofs.Markdown.Run
import SlidePress.Proofs.Text.Lines
import SlidePress.Text.Word
import Mathlib.Data.Bool.AllAny

/-!
# `SlidePress.Proofs.Markdown.RoundTrip` — blocks written down and read back

An author writes a stream of blocks with a blank line between them: headings with hashes, list items and quotes with
their signs, code and mathematics between two delimiters. Reading that text gives the same blocks. Which texts can be
written so is said block by block (`Authorable`), and each block is a spec lemma of its own: its lines, read from
between blocks, make this block and nothing else (`readsAs_form`). The blank lines keep the blocks apart, so the result
is an induction over the stream.

## Contents
- `Authorable`: the blocks that can be written down.
- `Spelling`, `form`, `authoredText`: the written form of a block, and of a stream.
- `readsAs_form`: one block.
- `read_authoredText`: a stream, written and read.
-/

namespace SlidePress.Markdown

open Text

/-! ## What can be written -/

/-- A text on one line, without white space at its ends. It may be empty. -/
def IsTrimmedLine (text : List Char) : Prop := trim text = text ∧ IsLine text

instance (text : List Char) : Decidable (IsTrimmedLine text) := inferInstanceAs (Decidable (_ ∧ _))

/-- A letter of any script: a word character that is neither a decimal digit nor an underscore. Numeric signs that are
no decimal digits count as letters too. -/
def isLetter (c : Char) : Bool := isWordChar c && !isDigit c && c != '_'

/-- A line that stays as it is inside a fence and does not close it. -/
def Fence.Keeps (fence : Fence) (line : List Char) : Prop :=
  trimRight line = line ∧ IsLine line ∧ ¬ fence.delimiter <+: trimLeft line

instance (fence : Fence) (line : List Char) : Decidable (fence.Keeps line) :=
  inferInstanceAs (Decidable (_ ∧ _ ∧ ¬ _))

/-- A number that can stand before a list item: whole, not negative, and not too long. -/
def IsItemNumber : Number → Prop
  | .int n => 0 ≤ n ∧ (Nat.toDigits 10 n.toNat).length ≤ maxDigits
  | .float _ => False

instance : DecidablePred IsItemNumber
  | .int n => inferInstanceAs (Decidable (0 ≤ n ∧ (Nat.toDigits 10 n.toNat).length ≤ maxDigits))
  | .float _ => inferInstanceAs (Decidable False)

/-- **The blocks that can be written down.** Headings and quotes have a trimmed line as their text, list items one that
is not empty, paragraphs one that begins with a letter. Code and mathematics consist of lines that the fence keeps.
Only numbered items have a number, and one that is not too long. -/
def Authorable : Block → Prop
  | .sectionMark text | .topicMark text | .slideMark text | .subheading text => IsTrimmedLine text.toList
  | .content .paragraph text number => number = 0 ∧ IsTrimmedLine text.toList ∧ text.toList.head?.any isLetter
  | .content .bullet text number => number = 0 ∧ IsTrimmedLine text.toList ∧ text.toList ≠ []
  | .content .numbered text number =>
    IsItemNumber number ∧ IsTrimmedLine text.toList ∧ text.toList ≠ []
  | .content .quote text number => number = 0 ∧ IsTrimmedLine text.toList
  | .content .code text number => number = 0 ∧ ∀ line ∈ splitOn '\n' text.toList, Fence.code.Keeps line
  | .content .math text number => number = 0 ∧ ∀ line ∈ splitOn '\n' text.toList, Fence.math.Keeps line

instance : DecidablePred Authorable
  | .sectionMark text | .topicMark text | .slideMark text | .subheading text =>
    inferInstanceAs (Decidable (IsTrimmedLine text.toList))
  | .content .paragraph text number =>
    inferInstanceAs (Decidable (number = 0 ∧ IsTrimmedLine text.toList ∧ text.toList.head?.any isLetter))
  | .content .bullet text number =>
    inferInstanceAs (Decidable (number = 0 ∧ IsTrimmedLine text.toList ∧ text.toList ≠ []))
  | .content .numbered text number =>
    inferInstanceAs (Decidable (IsItemNumber number ∧ IsTrimmedLine text.toList ∧ text.toList ≠ []))
  | .content .quote text number => inferInstanceAs (Decidable (number = 0 ∧ IsTrimmedLine text.toList))
  | .content .code text number =>
    inferInstanceAs (Decidable (number = 0 ∧ ∀ line ∈ splitOn '\n' text.toList, Fence.code.Keeps line))
  | .content .math text number =>
    inferInstanceAs (Decidable (number = 0 ∧ ∀ line ∈ splitOn '\n' text.toList, Fence.math.Keeps line))

/-! ## How it is written -/

/-- What an author is free to choose. -/
structure Spelling where
  /-- How many hashes close a heading that has a text. -/
  closing : Nat
  closing_pos : 0 < closing
  /-- Whether fenced content that is empty is written as one empty line and not as none. -/
  emptyLine : Bool

/-- A heading: hashes alone, or hashes around the text. -/
def headingLine (spelling : Spelling) (depth : Nat) (text : List Char) : List Char :=
  if text.isEmpty then List.replicate depth '#'
  else List.replicate depth '#' ++ ' ' :: (text ++ ' ' :: List.replicate spelling.closing '#')

/-- The lines of a fenced text. -/
def fencedLines (spelling : Spelling) (text : List Char) : List (List Char) :=
  if text.isEmpty && !spelling.emptyLine then [] else splitOn '\n' text

/-- The lines that a block is written as. -/
def form (spelling : Spelling) : Block → List (List Char)
  | .sectionMark text => [headingLine spelling 1 text.toList]
  | .topicMark text => [headingLine spelling 2 text.toList]
  | .slideMark title => [headingLine spelling 3 title.toList]
  | .subheading text => [headingLine spelling 4 text.toList]
  | .content .paragraph text _ => [text.toList]
  | .content .bullet text _ => ['-' :: ' ' :: text.toList]
  | .content .numbered text number => [Json.numberText number ++ '.' :: ' ' :: text.toList]
  | .content .quote text _ => ['>' :: ' ' :: text.toList]
  | .content .code text _ => codeDelimiter :: fencedLines spelling text.toList ++ [codeDelimiter]
  | .content .math text _ => mathDelimiter :: fencedLines spelling text.toList ++ [mathDelimiter]

/-- A stream of blocks as it is written, with a blank line between two blocks. -/
def authoredText (items : List (Spelling × Block)) : List Char :=
  joinWith ['\n', '\n'] (items.map fun item => joinWith ['\n'] (form item.1 item.2))

/-! ## One line -/

/-- A line that is read between blocks, emits some blocks and leaves others pending, makes these blocks. -/
theorem readsAs_line {line : List Char} {mode : Mode} {emitted : List Block} {block : Block}
    (step : Mode.idle.stepForm (LineForm.of (trimRight line)) = .ok (mode, emitted)) (outside : mode.isFenced = false)
    (blocks : emitted ++ mode.close = [block]) : ReadsAs [line] block := by
  refine ⟨mode, emitted, ?_, outside, blocks⟩
  rw [run_cons (show Mode.idle.step line = .ok (mode, emitted) from step)]
  simp [Mode.run, Except.map]

/-- A line that begins a block of a trimmed text makes a block of this text. -/
theorem readsAs_starting {kind : ContentKind} {line : List Char} {text : String} (number : Nat)
    (h : trim text.toList = text.toList)
    (step : Mode.idle.stepForm (LineForm.of (trimRight line)) = .ok (.starting kind text.toList number, [])) :
    ReadsAs [line] (.content kind text (.int number)) := by
  refine readsAs_line step rfl ?_
  have joined : joinWith [' '] ([text.toList].filter fun line => !line.isEmpty) = text.toList := by
    cases text.toList <;> rfl
  show [Pending.block { kind, number, lines := [trim text.toList] }] = _
  rw [h, Pending.block, List.reverse_singleton, joined, String.ofList_toList]

theorem readsAs_heading (spelling : Spelling) {depth : Nat} (low : 1 ≤ depth) (high : depth ≤ 6) {text : String}
    (h : IsTrimmedLine text.toList) :
    ReadsAs [headingLine spelling depth text.toList] (headingBlock depth text) := by
  have found : LineForm.of (trimRight (headingLine spelling depth text.toList)) = .heading depth text.toList := by
    unfold headingLine
    by_cases empty : text.toList = []
    · rw [empty, if_pos List.isEmpty_nil, of_hashes low high]
    · rw [if_neg (by simpa using empty), of_closedHeading low high h.1 empty spelling.closing_pos]
  have step : Mode.idle.stepForm (LineForm.of (trimRight (headingLine spelling depth text.toList))) =
      .ok (.idle, [headingBlock depth text]) := by
    rw [found, Mode.stepForm, String.ofList_toList]
    rfl
  exact readsAs_line step rfl rfl

theorem readsAs_bullet {text : String} (h : IsTrimmedLine text.toList) (ne : text.toList ≠ []) :
    ReadsAs ['-' :: ' ' :: text.toList] (.content .bullet text 0) := by
  refine readsAs_starting 0 h.1 ?_
  rw [of_bullet h.1 ne]
  rfl

theorem exists_of_isItemNumber {number : Number} (h : IsItemNumber number) :
    ∃ n : Nat, number = .int n ∧ (Nat.toDigits 10 n).length ≤ maxDigits := by
  cases number with
  | int n => exact ⟨n.toNat, by rw [Int.toNat_of_nonneg h.1], h.2⟩
  | float x => exact absurd h (by simp [IsItemNumber])

theorem readsAs_numbered {text : String} {n : Nat} (few : (Nat.toDigits 10 n).length ≤ maxDigits)
    (h : IsTrimmedLine text.toList) (ne : text.toList ≠ []) :
    ReadsAs [Json.numberText (.int n) ++ '.' :: ' ' :: text.toList] (.content .numbered text (.int n)) := by
  refine readsAs_starting n h.1 ?_
  have digits : ∀ c ∈ Nat.toDigits 10 n, c.isDigit = true := fun c hc => ascii_of_mem_toDigits hc
  rw [Json.numberText, Decimal.wholeChars_natCast, of_numbered digits Nat.toDigits_ne_nil h.1 ne, Mode.stepForm,
    numeral_toDigits few]
  rfl

theorem readsAs_quote {text : String} (h : IsTrimmedLine text.toList) :
    ReadsAs ['>' :: ' ' :: text.toList] (.content .quote text 0) := by
  refine readsAs_starting 0 h.1 ?_
  rw [of_quote h.1]
  rfl

/-- A letter is no digit and no sign that begins another form. -/
theorem not_sign_of_isLetter {c : Char} (h : isLetter c = true) :
    isDigit c = false ∧ c ∉ ['`', '$', '#', '-', '*', '+', '>'] := by
  simp only [isLetter, Bool.and_eq_true, Bool.not_eq_true'] at h
  refine ⟨h.1.2, fun sign => ?_⟩
  have noWord : ∀ d ∈ ['`', '$', '#', '-', '*', '+', '>'], isWordChar d = false :=
    List.all_iff_forall_prop.mp (by decide)
  rw [noWord c sign] at h
  exact absurd h.1.1 (by decide)

theorem readsAs_paragraph {text : String} (h : IsTrimmedLine text.toList) (letter : text.toList.head?.any isLetter) :
    ReadsAs [text.toList] (.content .paragraph text 0) := by
  refine readsAs_starting 0 h.1 ?_
  cases chars : text.toList with
  | nil => simp [chars] at letter
  | cons c rest =>
      have trimmed := h.1
      rw [chars] at trimmed letter
      obtain ⟨digit, signs⟩ := not_sign_of_isLetter (c := c) (by simpa using letter)
      rw [of_plain trimmed digit signs]
      rfl

/-! ## Fences -/

/-- A fence takes the lines it keeps as they are, up to its delimiter. -/
theorem run_fenced {fence : Fence} {lines : List (List Char)} (h : ∀ line ∈ lines, fence.Keeps line)
    (seen : List (List Char)) :
    (Mode.fenced fence seen).run (lines ++ [fence.delimiter]) =
      .ok (.idle, [fencedBlock fence (lines.reverse ++ seen)]) := by
  induction lines generalizing seen with
  | nil =>
    have closes : (Mode.fenced fence seen).step fence.delimiter = .ok (.idle, [fencedBlock fence seen]) := by
      cases fence <;> rfl
    rw [List.nil_append, run_cons closes]
    rfl
  | cons line lines ih =>
    obtain ⟨right, _, inside⟩ := h line List.mem_cons_self
    have keeps : (Mode.fenced fence seen).step line = .ok (.fenced fence (line :: seen), []) := by
      have open_ : fence.delimiter.isPrefixOf (trimLeft line) = false := by
        rw [Bool.eq_false_iff]
        exact fun starts => inside (List.isPrefixOf_iff_prefix.mp starts)
      simp only [Mode.step, trim, right, open_]
      rfl
    rw [List.cons_append, run_cons keeps, ih fun l hl => h l (List.mem_cons_of_mem line hl), List.reverse_cons,
      List.append_assoc]
    rfl

theorem joinWith_fencedLines (spelling : Spelling) (text : List Char) :
    joinWith ['\n'] (fencedLines spelling text) = text := by
  unfold fencedLines
  split
  · next empty =>
      simp only [Bool.and_eq_true, List.isEmpty_iff] at empty
      rw [empty.1, joinWith_nil]
  · exact joinWith_splitOn '\n' text

theorem mem_fencedLines {spelling : Spelling} {text line : List Char} (h : line ∈ fencedLines spelling text) :
    line ∈ splitOn '\n' text := by
  unfold fencedLines at h
  split at h
  · exact absurd h List.not_mem_nil
  · exact h

theorem readsAs_fenced (fence : Fence) (spelling : Spelling) {text : String}
    (h : ∀ line ∈ splitOn '\n' text.toList, fence.Keeps line) :
    ReadsAs (fence.delimiter :: fencedLines spelling text.toList ++ [fence.delimiter]) (.content fence.kind text 0) := by
  have opens : Mode.idle.step fence.delimiter = .ok (.fenced fence [], []) := by
    cases fence <;> rfl
  refine ⟨.idle, [.content fence.kind text 0], ?_, rfl, rfl⟩
  rw [List.cons_append, run_cons opens, run_fenced fun line hl => h line (mem_fencedLines hl), fencedBlock,
    List.append_nil, List.reverse_reverse, joinWith_fencedLines, String.ofList_toList]
  rfl

/-! ## A stream -/

/-- **One block.** Its lines, read from between blocks, make the block. -/
theorem readsAs_form (spelling : Spelling) {block : Block} (h : Authorable block) :
    ReadsAs (form spelling block) block := by
  cases block with
  | sectionMark text => exact readsAs_heading spelling (by decide) (by decide) h
  | topicMark text => exact readsAs_heading spelling (by decide) (by decide) h
  | slideMark title => exact readsAs_heading spelling (by decide) (by decide) h
  | subheading text => exact readsAs_heading spelling (by decide) (by decide) h
  | content kind text number =>
      cases kind with
      | paragraph =>
          obtain ⟨rfl, line, letter⟩ := h
          exact readsAs_paragraph line letter
      | bullet =>
          obtain ⟨rfl, line, ne⟩ := h
          exact readsAs_bullet line ne
      | numbered =>
          obtain ⟨n, rfl, few⟩ := exists_of_isItemNumber h.1
          exact readsAs_numbered few h.2.1 h.2.2
      | quote =>
          obtain ⟨rfl, line⟩ := h
          exact readsAs_quote line
      | code =>
          obtain ⟨rfl, keeps⟩ := h
          exact readsAs_fenced .code spelling keeps
      | math =>
          obtain ⟨rfl, keeps⟩ := h
          exact readsAs_fenced .math spelling keeps

theorem isLine_headingLine (spelling : Spelling) (depth : Nat) {text : List Char} (h : IsLine text) :
    IsLine (headingLine spelling depth text) := by
  have hashes : ∀ n, IsLine (List.replicate n '#') := fun n => isLine_replicate n (by decide)
  unfold headingLine
  split
  · exact hashes depth
  · exact isLine_append (hashes depth) (isLine_cons (by decide) (isLine_append h (isLine_cons (by decide) (hashes _))))

theorem headingLine_ne_nil (spelling : Spelling) {depth : Nat} (pos : 1 ≤ depth) (text : List Char) :
    headingLine spelling depth text ≠ [] := by
  obtain ⟨more, rfl⟩ := Nat.exists_eq_add_of_le' pos
  unfold headingLine
  split <;> simp [List.replicate_succ]

theorem isLine_delimiter (fence : Fence) : IsLine fence.delimiter := by
  cases fence <;> decide

theorem isLine_fenced {fence : Fence} {spelling : Spelling} {text : List Char}
    (h : ∀ line ∈ splitOn '\n' text, fence.Keeps line) :
    ∀ line ∈ fence.delimiter :: fencedLines spelling text ++ [fence.delimiter], IsLine line := by
  intro line hl
  simp only [List.cons_append, List.mem_cons, List.mem_append, List.not_mem_nil, or_false] at hl
  rcases hl with rfl | hl | rfl
  · exact isLine_delimiter fence
  · exact (h line (mem_fencedLines hl)).2.1
  · exact isLine_delimiter fence

/-- No line of a written block has a line break of its own, and the last one is not empty. -/
theorem form_isLine (spelling : Spelling) {block : Block} (h : Authorable block) :
    (∀ line ∈ form spelling block, IsLine line) ∧ form spelling block ≠ [] ∧
      (form spelling block).getLast? ≠ some [] := by
  -- most blocks are a single line
  have single : ∀ line : List Char, IsLine line → line ≠ [] →
      (∀ l ∈ [line], IsLine l) ∧ [line] ≠ [] ∧ [line].getLast? ≠ some [] := by
    intro line hl ne
    refine ⟨fun l hm => ?_, List.cons_ne_nil _ _, fun last => ne (Option.some.inj last)⟩
    rw [List.mem_singleton.mp hm]
    exact hl
  cases block with
  | sectionMark text => exact single _ (isLine_headingLine _ _ h.2) (headingLine_ne_nil _ (by decide) _)
  | topicMark text => exact single _ (isLine_headingLine _ _ h.2) (headingLine_ne_nil _ (by decide) _)
  | slideMark title => exact single _ (isLine_headingLine _ _ h.2) (headingLine_ne_nil _ (by decide) _)
  | subheading text => exact single _ (isLine_headingLine _ _ h.2) (headingLine_ne_nil _ (by decide) _)
  | content kind text number =>
      cases kind with
      | paragraph =>
          refine single _ h.2.1.2 fun empty => ?_
          have letter := h.2.2
          rw [empty] at letter
          exact absurd letter (by decide)
      | bullet =>
          exact single _ (isLine_cons (by decide) (isLine_cons (by decide) h.2.1.2)) (List.cons_ne_nil _ _)
      | numbered =>
          obtain ⟨n, rfl, _⟩ := exists_of_isItemNumber h.1
          have digits : IsLine (Json.numberText (.int n)) := by
            intro c hc
            rw [Json.numberText, Decimal.wholeChars_natCast] at hc
            exact ascii_digit (P := fun c => isLineBreak c = false) (by decide) (ascii_of_mem_toDigits hc)
          exact single _ (isLine_append digits (isLine_cons (by decide) (isLine_cons (by decide) h.2.1.2))) (by simp)
      | quote =>
          exact single _ (isLine_cons (by decide) (isLine_cons (by decide) h.2.2)) (List.cons_ne_nil _ _)
      | code => exact ⟨isLine_fenced h.2, List.cons_ne_nil _ _, by rw [form, List.getLast?_concat]; decide⟩
      | math => exact ⟨isLine_fenced h.2, List.cons_ne_nil _ _, by rw [form, List.getLast?_concat]; decide⟩

/-- The lines of a written stream, read from between blocks, make its blocks. -/
theorem blocksFrom_authoredText {items : List (Spelling × Block)} (h : ∀ item ∈ items, Authorable item.2) :
    blocksFrom .idle (splitLines (authoredText items)) = .ok (items.map Prod.snd) := by
  induction items with
  | nil => rfl
  | cons item items ih =>
    have first := h item List.mem_cons_self
    obtain ⟨lines, ne, last⟩ := form_isLine item.1 first
    have reads := readsAs_form item.1 first
    by_cases alone : items = []
    · subst alone
      show blocksFrom .idle (splitLines (joinWith ['\n'] (form item.1 item.2))) = _
      rw [splitLines_joinWith lines last, reads.alone]
      rfl
    · have text : authoredText (item :: items) =
          joinWith ['\n'] (form item.1 item.2) ++ '\n' :: '\n' :: authoredText items := by
        unfold authoredText
        rw [List.map_cons, joinWith_cons _ _ (by simpa using alone), List.append_assoc]
        rfl
      rw [text, splitLines_joinWith_append lines ne, splitLines_feed, reads.before,
        ih fun other ho => h other (List.mem_cons_of_mem item ho)]
      rfl

/-- **A written stream is read back.** Every list of blocks that can be written down, in every order and however its
headings are closed, is what reading its text gives. -/
theorem read_authoredText (items : List (Spelling × Block)) (h : ∀ item ∈ items, Authorable item.2) :
    read (String.ofList (authoredText items)) = .ok (items.map Prod.snd) := by
  rw [read_eq, String.toList_ofList, blocksFrom_authoredText h]

/-- The texts may end in hashes, begin with the sign of a list item or a quote, and look like a heading in a fence. -/
theorem read_authoredText_of_signs :
    let once : Spelling := { closing := 1, closing_pos := by decide, emptyLine := false }
    let twice : Spelling := { closing := 2, closing_pos := by decide, emptyLine := true }
    let items : List (Spelling × Block) :=
      [(once, .sectionMark "C #"), (twice, .slideMark "##"), (once, .topicMark ""), (once, .content .bullet "- > #" 0),
        (once, .content .numbered "1. a" 12), (twice, .content .quote "" 0), (once, .content .paragraph "n. x" 0),
        (once, .content .code "# no heading\n\n  $$" 0), (twice, .content .math "" 0), (once, .content .code "" 0)]
    (∀ item ∈ items, Authorable item.2) ∧ read (String.ofList (authoredText items)) = .ok (items.map Prod.snd) := by
  intro once twice items
  have authorable : ∀ item ∈ items, Authorable item.2 := by decide +kernel
  exact ⟨authorable, read_authoredText items authorable⟩

end SlidePress.Markdown
