import SlidePress.Proofs.Deck.Segmentation
import SlidePress.Proofs.Markdown.Grammar
import SlidePress.Proofs.Markdown.Run

/-!
# `SlidePress.Proofs.Markdown.Heading` — headings outside of fences

The markers of a stream are the heading lines of its text and nothing else. Which lines are headings can be said line by
line (`headingLine?`, by its parts `headingLine?_eq_some_iff`), and which lines stand in a fence without a reader: a
fence goes from its opening line to the next line with the same delimiter, or to the end (`unfenced`).

The reader has three ways to miss a heading: another form of the line could be tried first, a block that is pending
could swallow it, and a fence could hide it or fail to. The first is settled by the first character of the line
(`form_eq_heading_iff`). For the second, every line outside of a fence emits the marker that it is and content besides,
in whatever mode it is read (`stepForm_headings`). For the third, a fence is read to its end in one go
(`blocksFrom_fenced`), which is how `unfenced` passes over it. The compiler makes one slide of each slide marker, so the
titles follow.
-/

namespace SlidePress

/-- The number of hashes and the text of the heading that a marker is. -/
def Block.asHeading? : Block → Option (Nat × String)
  | .sectionMark text => some (1, text)
  | .topicMark text => some (2, text)
  | .slideMark title => some (3, title)
  | .subheading text => some (4, text)
  | .content .. => none

end SlidePress

namespace SlidePress.Markdown

open Text

/-! ## Headings of a text -/

/-- The number of hashes and the text of a heading line: one to four hashes at the very start of the line, and then its
end or white space. -/
def headingLine? (line : List Char) : Option (Nat × String) :=
  let depth := (line.takeWhile (· = '#')).length
  let behind := line.dropWhile (· = '#')
  if 1 ≤ depth ∧ depth ≤ 4 ∧ behind.head?.all isBlank then
    some (depth, String.ofList (closedHeading (trimLeft behind)))
  else none

/-- The fence that a line opens: three backticks at its start, or two dollar signs alone, white space around it left
out. -/
def opens? (line : List Char) : Option Fence :=
  if codeDelimiter.isPrefixOf (trim line) then some .code
  else if trim line = mathDelimiter then some .math
  else none

/-- Whether a line closes a fence that is open: it begins with the same delimiter. -/
def Fence.closes (fence : Fence) (line : List Char) : Bool := fence.delimiter.isPrefixOf (trim line)

/-- **The lines outside of fences**, with the lines that open and close a fence. -/
def unfenced : List (List Char) → List (List Char)
  | [] => []
  | line :: lines =>
    match opens? line with
    | none => line :: unfenced lines
    | some fence =>
      -- from the line that closes the fence on; nothing if it is never closed
      let closed := lines.dropWhile fun l => !fence.closes l
      line :: closed.take 1 ++ unfenced (closed.drop 1)
termination_by lines => lines.length
decreasing_by
  · simp
  · have shorter := (List.dropWhile_suffix (fun l => !fence.closes l) (l := lines)).length_le
    simp
    omega

/-! ## Heading lines -/

theorem exists_of_heading? {line text : List Char} {depth : Nat} (h : heading? line = some (depth, text)) :
    ∃ rest, line = '#' :: rest := by
  cases line with
  | nil => cases h
  | cons c rest =>
      by_cases hash : c = '#'
      · exact ⟨rest, by rw [hash]⟩
      · rw [heading?_of_ne hash] at h
        cases h

/-- **No other form comes before a heading**: a line has that form exactly if it is a heading. -/
theorem form_eq_heading_iff {line : List Char} (right : trimRight line = line) {depth : Nat} {text : List Char} :
    LineForm.of line = .heading depth text ↔ heading? line = some (depth, text) := by
  constructor
  · intro form
    have found := found_of line
    rwa [form] at found
  · intro found
    obtain ⟨rest, rfl⟩ := exists_of_heading? found
    exact of_heading right found

/-- The heading that a form is, if it has one to four hashes. -/
def LineForm.asHeading? : LineForm → Option (Nat × String)
  | .heading depth text => if 1 ≤ depth ∧ depth ≤ 4 then some (depth, String.ofList text) else none
  | _ => none

/-- Heading lines are the headings of at most four hashes. -/
theorem headingLine?_eq (line : List Char) :
    headingLine? line = (heading? line).bind fun found => (LineForm.heading found.1 found.2).asHeading? := by
  unfold headingLine? heading?
  generalize (line.takeWhile (· = '#')).length = depth
  have fewest : ∀ text : List Char, (LineForm.heading depth text).asHeading? =
      (if 1 ≤ depth ∧ depth ≤ 6 then some (depth, text) else none).bind fun found =>
        (LineForm.heading found.1 found.2).asHeading? := by
    intro text
    by_cases known : 1 ≤ depth ∧ depth ≤ 6
    · rw [if_pos known]
      rfl
    · have many : ¬ (1 ≤ depth ∧ depth ≤ 4) := fun few => known ⟨few.1, Nat.le_trans few.2 (by decide)⟩
      rw [if_neg known]
      exact if_neg many
  cases line.dropWhile (· = '#') with
  | nil =>
      simp only [List.head?_nil, Option.all_none, and_true]
      exact fewest []
  | cons c rest =>
      by_cases blank : isBlank c = true
      · simp only [blank, and_true, List.head?_cons, Option.all_some, trimLeft_cons_of_blank blank]
        exact fewest (closedHeading (trimLeft rest))
      · simp [blank]

/-- **A heading line by its parts**: it is written as a heading, and has no more than four hashes. -/
theorem headingLine?_eq_some_iff {line : List Char} {depth : Nat} {text : String} :
    headingLine? line = some (depth, text) ↔
      depth ≤ 4 ∧ ∃ cs, (LineForm.heading depth cs).Written line ∧ text = String.ofList cs := by
  rw [headingLine?_eq, Option.bind_eq_some_iff]
  constructor
  · rintro ⟨⟨many, cs⟩, found, few⟩
    rw [LineForm.asHeading?] at few
    split at few
    · next inside =>
        obtain ⟨rfl, rfl⟩ := Prod.mk.inj (Option.some.inj few)
        exact ⟨inside.2, cs, heading?_eq_some_iff.mp found, rfl⟩
    · cases few
  · rintro ⟨few, cs, written, rfl⟩
    exact ⟨(depth, cs), heading?_eq_some_iff.mpr written, if_pos ⟨written.1.1, few⟩⟩

/-- **A line is a heading line exactly if its form is one.** -/
theorem asHeading?_form {line : List Char} (right : trimRight line = line) :
    (LineForm.of line).asHeading? = headingLine? line := by
  rw [headingLine?_eq]
  cases found : heading? line with
  | some pair =>
      rw [(form_eq_heading_iff right).mpr found]
      rfl
  | none =>
      cases form : LineForm.of line with
      | heading depth text =>
          rw [(form_eq_heading_iff right).mp form] at found
          cases found
      | _ => rfl

/-! ## One line -/

theorem headings_close (mode : Mode) : mode.close.filterMap Block.asHeading? = [] := by
  cases mode <;> rfl

/-- The marker of a heading is that heading, up to four hashes. -/
theorem asHeading?_headingBlock (depth : Nat) (text : List Char) :
    (headingBlock depth (String.ofList text)).asHeading? = (LineForm.heading depth text).asHeading? := by
  match depth with
  | 0 | 1 | 2 | 3 | 4 => rfl
  | n + 5 =>
      have many : ¬ (1 ≤ n + 5 ∧ n + 5 ≤ 4) := by omega
      rw [LineForm.asHeading?, if_neg many]
      rfl

/-- **A line outside of fences emits the heading that its form is**, and content besides, whatever is pending. -/
theorem stepForm_headings {mode next : Mode} {form : LineForm} {emitted : List Block}
    (step : mode.stepForm form = .ok (next, emitted)) :
    emitted.filterMap Block.asHeading? = form.asHeading?.toList := by
  rcases stepForm_cases step with ⟨_, _, rfl⟩ | ⟨_, _, _, _, rfl | rfl, _, rfl⟩
  · rw [List.filterMap_append, headings_close, List.nil_append]
    cases form with
    | heading depth text =>
        rw [LineForm.blocks, List.filterMap_cons, asHeading?_headingBlock]
        cases (LineForm.heading depth text).asHeading? <;> rfl
    | _ => rfl
  · rfl
  · rfl

/-- The fence that a form opens. -/
def LineForm.fence? : LineForm → Option Fence
  | .codeFence => some .code
  | .mathFence => some .math
  | _ => none

/-- **The form of a line opens the fence that the line opens.** -/
theorem fence?_form (line : List Char) : (LineForm.of line).fence? = opens? line := by
  unfold opens? LineForm.of
  dsimp only
  iterate 8
    split
    · rfl
  rfl

section

variable {mode next : Mode} {line : List Char} {emitted : List Block}

theorem step_eq_stepForm (outside : mode.isFenced = false) (right : trimRight line = line) :
    mode.step line = mode.stepForm (LineForm.of line) := by
  cases mode with
  | idle =>
      show Mode.idle.stepForm (LineForm.of (trimRight line)) = _
      rw [right]
  | pending block =>
      show (Mode.pending block).stepForm (LineForm.of (trimRight line)) = _
      rw [right]
  | fenced fence lines => cases outside

theorem step_of_opens (outside : mode.isFenced = false) (right : trimRight line = line) {fence : Fence}
    (opened : opens? line = some fence) : mode.step line = .ok (.fenced fence [], mode.close) := by
  rw [step_eq_stepForm outside right]
  rw [← fence?_form] at opened
  cases form : LineForm.of line with
  | codeFence => rw [form] at opened; cases opened; rfl
  | mathFence => rw [form] at opened; cases opened; rfl
  | _ => rw [form] at opened; cases opened

/-- **Any other line** emits the heading that it is, and content besides, and leads into no fence. -/
theorem step_headings (outside : mode.isFenced = false) (right : trimRight line = line) (closed : opens? line = none)
    (step : mode.step line = .ok (next, emitted)) :
    emitted.filterMap Block.asHeading? = (headingLine? line).toList ∧ next.isFenced = false := by
  rw [step_eq_stepForm outside right] at step
  constructor
  · rw [stepForm_headings step, asHeading?_form right]
  · rcases stepForm_cases step with ⟨_, rfl, _⟩ | ⟨_, _, _, _, _, rfl, _⟩
    · rw [← fence?_form] at closed
      cases form : LineForm.of line with
      | codeFence => rw [form] at closed; cases closed
      | mathFence => rw [form] at closed; cases closed
      | _ => rfl
    · rfl

theorem headingLine?_eq_none {fence : Fence} (right : trimRight line = line)
    (delimiter : fence.delimiter <+: trim line) : headingLine? line = none := by
  cases found : heading? line with
  | none => rw [headingLine?_eq, found]; rfl
  | some pair =>
      obtain ⟨rest, rfl⟩ := exists_of_heading? found
      rw [trim_eq_self (by decide) right] at delimiter
      cases fence <;> exact absurd (List.cons_prefix_cons.mp delimiter).1 (by decide)

theorem prefix_of_opens {fence : Fence} (opened : opens? line = some fence) : fence.delimiter <+: trim line := by
  unfold opens? at opened
  split at opened
  · next code =>
      cases opened
      exact List.isPrefixOf_iff_prefix.mp code
  split at opened
  · next math =>
      cases opened
      rw [math]
      exact List.prefix_rfl
  · cases opened

end

/-! ## A fence -/

theorem headings_closing (fence : Fence) {lines : List (List Char)} (right : ∀ line ∈ lines, trimRight line = line) :
    ((lines.dropWhile fun l => !fence.closes l).take 1).filterMap headingLine? = [] := by
  cases behind : lines.dropWhile fun l => !fence.closes l with
  | nil => rfl
  | cons line rest =>
      have mem : line ∈ lines := (List.dropWhile_suffix _).subset (behind ▸ List.mem_cons_self)
      have closes : fence.closes line = true := by
        have stops := List.head?_dropWhile_not (fun l => !fence.closes l) lines
        simpa [behind] using stops
      have none_ := headingLine?_eq_none (right line mem) (List.isPrefixOf_iff_prefix.mp closes)
      rw [List.take_one, List.head?_cons, Option.toList_some, List.filterMap_cons, none_, List.filterMap_nil]

/-- **A fence is read to its end**, as one block of content; what follows the line that closes it is read from between
blocks. -/
theorem blocksFrom_fenced {fence : Fence} {lines : List (List Char)} (right : ∀ line ∈ lines, trimRight line = line)
    {seen : List (List Char)} {blocks : List Block} (h : blocksFrom (.fenced fence seen) lines = .ok blocks) :
    ∃ text later, blocks = .content fence.kind text 0 :: later ∧
      blocksFrom .idle ((lines.dropWhile fun l => !fence.closes l).drop 1) = .ok later := by
  induction lines generalizing seen with
  | nil =>
      cases h
      exact ⟨_, [], rfl, rfl⟩
  | cons line lines ih =>
      have trimmed : trimRight line = line := right line List.mem_cons_self
      have later : ∀ l ∈ lines, trimRight l = l := fun l mem => right l (List.mem_cons_of_mem line mem)
      by_cases closes : fence.closes line = true
      · have step : (Mode.fenced fence seen).step line = .ok (.idle, [fencedBlock fence seen]) := by
          rw [Mode.step, trimmed]
          exact if_pos closes
        obtain ⟨next, emitted, rest, stepped, read, rfl⟩ := of_blocksFrom_cons h
        cases step.symm.trans stepped
        refine ⟨_, rest, rfl, ?_⟩
        rw [List.dropWhile_cons_of_neg (by simp [closes])]
        exact read
      · have step : (Mode.fenced fence seen).step line = .ok (.fenced fence (line :: seen), []) := by
          rw [Mode.step, trimmed]
          exact if_neg closes
        obtain ⟨next, emitted, rest, stepped, read, rfl⟩ := of_blocksFrom_cons h
        cases step.symm.trans stepped
        rw [List.dropWhile_cons_of_pos (by simp [closes])]
        exact ih later read

/-! ## A text -/

/-- **The markers of a text** are the heading lines outside of its fences. -/
theorem blocksFrom_headings {mode : Mode} (outside : mode.isFenced = false) {lines : List (List Char)}
    (right : ∀ line ∈ lines, trimRight line = line) {blocks : List Block} (h : blocksFrom mode lines = .ok blocks) :
    blocks.filterMap Block.asHeading? = (unfenced lines).filterMap headingLine? := by
  -- a fence is passed over as a whole, so the induction is on the number of lines
  induction n : lines.length using Nat.strongRecOn generalizing mode lines blocks with
  | ind n ih =>
    subst n
    cases lines with
    | nil =>
        cases h
        rw [headings_close, unfenced]
        rfl
    | cons line lines =>
        have trimmed : trimRight line = line := right line List.mem_cons_self
        have rightLater : ∀ l ∈ lines, trimRight l = l := fun l mem => right l (List.mem_cons_of_mem line mem)
        obtain ⟨next, emitted, later, step, read, rfl⟩ := of_blocksFrom_cons h
        rw [List.filterMap_append]
        cases opened : opens? line with
        | none =>
            obtain ⟨heading, outside'⟩ := step_headings outside trimmed opened step
            have rest : unfenced (line :: lines) = line :: unfenced lines := by
              rw [unfenced, opened]
            rw [heading, ih _ (Nat.lt_succ_self _) outside' rightLater read rfl, rest, List.filterMap_cons]
            cases headingLine? line <;> rfl
        | some fence =>
            cases (step_of_opens outside trimmed opened).symm.trans step
            obtain ⟨text, behind, rfl, readBehind⟩ := blocksFrom_fenced rightLater read
            have suffix := List.dropWhile_suffix (fun l => !fence.closes l) (l := lines)
            have shorter : ((lines.dropWhile fun l => !fence.closes l).drop 1).length < (line :: lines).length := by
              have atMost := suffix.length_le
              rw [List.length_drop, List.length_cons]
              omega
            have rightBehind : ∀ l ∈ (lines.dropWhile fun l => !fence.closes l).drop 1, trimRight l = l :=
              fun l mem => rightLater l (suffix.subset (List.mem_of_mem_drop mem))
            have rest : unfenced (line :: lines) = line :: (lines.dropWhile fun l => !fence.closes l).take 1 ++
                unfenced ((lines.dropWhile fun l => !fence.closes l).drop 1) := by
              rw [unfenced, opened]
            have ends : (line :: (lines.dropWhile fun l => !fence.closes l).take 1).filterMap headingLine? = [] := by
              rw [List.filterMap_cons, headingLine?_eq_none trimmed (prefix_of_opens opened),
                headings_closing fence rightLater]
            have content : (Block.content fence.kind text 0 :: behind).filterMap Block.asHeading? =
                behind.filterMap Block.asHeading? := rfl
            rw [headings_close, List.nil_append, content, rest, List.filterMap_append, ends, List.nil_append,
              ih _ shorter rfl rightBehind readBehind rfl]

/-- The white space at the end of a line does not matter. -/
theorem step_trimRight (mode : Mode) (line : List Char) : mode.step (trimRight line) = mode.step line := by
  cases mode <;> simp only [Mode.step, trimRight_trimRight]

theorem blocksFrom_map_trimRight (mode : Mode) (lines : List (List Char)) :
    blocksFrom mode (lines.map trimRight) = blocksFrom mode lines := by
  induction lines generalizing mode with
  | nil => rfl
  | cons line lines ih =>
      rw [List.map_cons, blocksFrom, blocksFrom, step_trimRight]
      cases mode.step line with
      | error e => rfl
      | ok out => simp only [ih]

/-- **The slides of a stream** have the titles of its slide markers. -/
theorem titles_compileDeck (blocks : List Block) :
    (compileDeck blocks).slides.map Slide.title =
      (blocks.filterMap Block.asHeading?).filterMap fun heading => if heading.1 = 3 then some heading.2 else none := by
  have titles : ∀ header, (segmentsFrom header blocks).map OpenSlide.title =
      (blocks.filterMap Block.asHeading?).filterMap fun heading =>
        if heading.1 = 3 then some heading.2 else none := by
    induction blocks with
    | nil => intro header; rfl
    | cons block blocks ih =>
        intro header
        rw [segmentsFrom, List.map_append, ih]
        cases block <;> rfl
  rw [← titles {}, ← compileDeck_opened, List.map_map]
  rfl

/-- **The markers of a text are its heading lines outside of fences**, in their order: each has the kind of as many
hashes as the line has, and the text of the line. So the slides of a text are its headings of three hashes, with their
titles, whatever stands around them. -/
theorem read_headings {text : String} {blocks : List Block} (h : read text = .ok blocks) :
    let headings := (unfenced ((splitLines text.toList).map trimRight)).filterMap headingLine?
    blocks.filterMap Block.asHeading? = headings ∧
      (compileDeck blocks).slides.map Slide.title =
        headings.filterMap fun heading => if heading.1 = 3 then some heading.2 else none := by
  intro headings
  have right : ∀ line ∈ (splitLines text.toList).map trimRight, trimRight line = line := by
    intro line mem
    obtain ⟨raw, _, rfl⟩ := List.mem_map.mp mem
    exact trimRight_trimRight raw
  rw [read_eq, ← blocksFrom_map_trimRight] at h
  have markers : blocks.filterMap Block.asHeading? = headings := blocksFrom_headings rfl right h
  exact ⟨markers, by rw [titles_compileDeck, markers]⟩

/-- Headings behind a paragraph and in a list, one in a fence that is closed, and one in a fence that never is. -/
theorem read_headings_of_fences :
    let text := "# A\npara\n### one #\n- item\n###\n  ```x\n### no\n```\n ### plain\n### two\n$$\n### never"
    ∃ blocks, read text = .ok blocks ∧
      blocks.filterMap Block.asHeading? = [(1, "A"), (3, "one"), (3, ""), (3, "two")] ∧
        (compileDeck blocks).slides.map Slide.title = ["one", "", "two"] := by
  intro text
  have reads : (read text).isOk = true := by decide +kernel
  have headings : (unfenced ((splitLines text.toList).map trimRight)).filterMap headingLine? =
      [(1, "A"), (3, "one"), (3, ""), (3, "two")] := by decide +kernel
  cases outcome : read text with
  | ok blocks =>
      obtain ⟨markers, titles⟩ := read_headings outcome
      rw [headings] at markers titles
      exact ⟨blocks, rfl, markers, titles⟩
  | error e =>
      rw [outcome] at reads
      cases reads

end SlidePress.Markdown
