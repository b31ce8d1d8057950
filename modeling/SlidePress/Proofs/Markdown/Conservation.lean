import SlidePress.Proofs.Markdown.Fence
import SlidePress.Proofs.Text.Lines

/-!
# `SlidePress.Proofs.Markdown.Conservation` — no authored text is lost

Each line has a part that belongs into the blocks: inside a fence the line itself, elsewhere what its form leaves of it,
and nothing of a blank line or a delimiter (`payload`). White space apart, the texts of the blocks are these parts, in
the order of the lines: none is lost, read twice or moved.

While the reader is on its way, text stands in three places: in blocks it has emitted, in the block that is pending, and
in the fence it is in. The last two are what the end of the text would emit (`Mode.close`). So one equation covers every
move between the three places: what a line emits, with what it leaves behind, is what was there before with the part
of the line (`shown_step`).
-/

namespace SlidePress.Markdown

open Text

/-- A text without its white space. -/
def visible (cs : List Char) : List Char := cs.filter (!isBlank ·)

/-- The texts of blocks, in order, without white space. -/
def shown (blocks : List Block) : List Char := visible (blocks.flatMap (·.text.toList))

/-- What a line of this form adds to the text of the blocks: the text that the form leaves of it; all of it where it is
plain; and nothing where it is blank or a delimiter. -/
def LineForm.payload (line : List Char) : LineForm → List Char
  | .codeFence | .mathFence | .blank => []
  | .formula text | .heading _ text | .bullet text | .numbered _ text | .quote text => text
  | .plain _ => line

/-- What a line adds to the text of the blocks, with a fence open before it or none. -/
def payload : Option Fence → List Char → List Char
  | some fence, line => if fence.closes line then [] else line
  | none, line => (LineForm.of (trimRight line)).payload line

/-- What each of some lines adds to the text of the blocks. -/
def payloads (open? : Option Fence) : List (List Char) → List (List Char)
  | [] => []
  | line :: lines => payload open? line :: payloads (fenceAfter open? line) lines

/-! ## Texts without white space -/

@[simp] theorem visible_nil : visible [] = [] := rfl

@[simp] theorem visible_append (a b : List Char) : visible (a ++ b) = visible a ++ visible b := List.filter_append a b

theorem visible_eq_nil {cs : List Char} (blank : ∀ c ∈ cs, isBlank c = true) : visible cs = [] := by
  rw [visible, List.filter_eq_nil_iff]
  intro c mem
  simp [blank c mem]

theorem visible_trimLeft (cs : List Char) : visible (trimLeft cs) = visible cs := by
  have cut : visible (cs.takeWhile isBlank) = [] := visible_eq_nil fun c mem => List.mem_takeWhile_imp mem
  conv => rhs; rw [← List.takeWhile_append_dropWhile (p := isBlank) (l := cs)]
  rw [visible_append, cut, List.nil_append]
  rfl

theorem visible_reverse (cs : List Char) : visible cs.reverse = (visible cs).reverse := List.filter_reverse

@[simp] theorem visible_trimRight (cs : List Char) : visible (trimRight cs) = visible cs := by
  show visible (trimLeft cs.reverse).reverse = visible cs
  rw [visible_reverse, visible_trimLeft, visible_reverse, List.reverse_reverse]

@[simp] theorem visible_trim (cs : List Char) : visible (trim cs) = visible cs := by
  rw [trim, visible_trimLeft, visible_trimRight]

@[simp] theorem visible_space : visible [' '] = [] := rfl

@[simp] theorem visible_newline : visible ['\n'] = [] := rfl

theorem visible_joinWith {sep : List Char} (blank : visible sep = []) (parts : List (List Char)) :
    visible (joinWith sep parts) = visible parts.flatten := by
  induction parts with
  | nil => rfl
  | cons part parts ih =>
      by_cases last : parts = []
      · rw [last, joinWith_singleton, List.flatten_singleton]
      · rw [joinWith_cons _ _ last, visible_append, visible_append, blank, ih, List.append_nil,
          List.flatten_cons, visible_append]

@[simp] theorem shown_nil : shown [] = [] := rfl

@[simp] theorem shown_append (a b : List Block) : shown (a ++ b) = shown a ++ shown b := by
  simp [shown]

@[simp] theorem shown_singleton (block : Block) : shown [block] = visible block.text.toList := by
  simp [shown]

/-! ## What is pending, and what stands in a fence -/

/-- A pending block shows its lines; the empty ones that it leaves out show nothing. -/
theorem shown_pending (pending : Pending) :
    visible pending.block.text.toList = visible pending.lines.reverse.flatten := by
  have parts : (pending.lines.reverse.filter fun line => !line.isEmpty).flatten = pending.lines.reverse.flatten :=
    List.flatten_filter_not_isEmpty
  rw [Pending.block, Block.text, String.toList_ofList, visible_joinWith visible_space, parts]

theorem shown_fenced (fence : Fence) (lines : List (List Char)) :
    visible (fencedBlock fence lines).text.toList = visible lines.reverse.flatten := by
  rw [fencedBlock, Block.text, String.toList_ofList, visible_joinWith visible_newline]

theorem shown_starting (kind : ContentKind) (text : List Char) (number : Nat) :
    shown (Mode.starting kind text number).close = visible text := by
  rw [Mode.starting, Mode.close, shown_singleton, shown_pending]
  simp

/-! ## One line -/

/-- Plain text is the whole line, but for the white space at its ends. -/
theorem eq_trim_of_plain {line text : List Char} (form : LineForm.of line = .plain text) : text = trim line := by
  have found := found_of line
  rw [form] at found
  exact found.1

/-- What a line is by itself, and what it leaves pending, shows the part of the line. -/
theorem shown_form {line : List Char} {form : LineForm} (found : LineForm.of (trimRight line) = form) :
    shown form.blocks ++ shown form.mode.close = visible (form.payload line) := by
  cases form with
  | codeFence => rfl
  | mathFence => rfl
  | blank => rfl
  | formula text => simp [LineForm.blocks, LineForm.mode, LineForm.payload, Mode.close, Block.text]
  | heading depth text =>
      have kept : (headingBlock depth (String.ofList text)).text = String.ofList text := by
        unfold headingBlock
        split <;> rfl
      simp [LineForm.blocks, LineForm.mode, LineForm.payload, Mode.close, kept]
  | plain text =>
      have whole : visible text = visible line := by
        rw [eq_trim_of_plain found, trim_trimRight, visible_trim]
      simp [LineForm.blocks, LineForm.mode, LineForm.payload, shown_starting, whole]
  | _ => simp [LineForm.blocks, LineForm.mode, LineForm.payload, shown_starting]

section

variable {mode next : Mode} {emitted : List Block} {line : List Char}

/-- **A line outside of fences** shows its part behind what was pending: it is pending itself then, or a block of its
own, or the block that was pending goes on with it. -/
theorem shown_stepForm (step : mode.stepForm (LineForm.of (trimRight line)) = .ok (next, emitted)) :
    shown emitted ++ shown next.close =
      shown mode.close ++ visible ((LineForm.of (trimRight line)).payload line) := by
  rcases stepForm_cases step with ⟨_, rfl, rfl⟩ | ⟨pending, text, rfl, _, form, rfl, rfl⟩
  · rw [shown_append, List.append_assoc, shown_form rfl]
  · have part : visible ((LineForm.of (trimRight line)).payload line) = visible text := by
      rcases form with plain | quote
      · rw [plain, LineForm.payload, eq_trim_of_plain plain, trim_trimRight, visible_trim]
      · rw [quote, LineForm.payload]
    rw [part]
    simp [Mode.close, shown_pending]

/-- **Every line** shows its part behind what was pending or stood in the fence. -/
theorem shown_step (step : mode.step line = .ok (next, emitted)) :
    shown emitted ++ shown next.close = shown mode.close ++ visible (payload mode.fence? line) := by
  cases mode with
  | idle =>
      rw [step_outside rfl] at step
      exact shown_stepForm step
  | pending block =>
      rw [step_outside rfl] at step
      exact shown_stepForm step
  | fenced fence seen =>
      rw [Mode.fence?, payload]
      rcases step_inside step with ⟨closes, rfl, rfl⟩ | ⟨stays, rfl, rfl⟩
      · rw [if_pos closes]
        simp [Mode.close]
      · rw [if_neg (by simp [stays])]
        simp [Mode.close, shown_fenced]

end

/-! ## A text -/

/-- **The blocks of some lines** show what was pending before, and then the parts of the lines. -/
theorem shown_blocksFrom {mode : Mode} {lines : List (List Char)} {blocks : List Block}
    (h : blocksFrom mode lines = .ok blocks) :
    shown blocks = shown mode.close ++ visible (payloads mode.fence? lines).flatten := by
  induction lines generalizing mode blocks with
  | nil =>
      cases h
      simp [payloads]
  | cons line lines ih =>
      obtain ⟨next, emitted, later, step, read, rfl⟩ := of_blocksFrom_cons h
      calc shown (emitted ++ later)
          = shown emitted ++ shown next.close ++ visible (payloads next.fence? lines).flatten := by
            rw [shown_append, ih read, List.append_assoc]
        _ = shown mode.close ++ visible (payload mode.fence? line) ++
              visible (payloads (fenceAfter mode.fence? line) lines).flatten := by
            rw [shown_step step, fence?_step step]
        _ = shown mode.close ++ visible (payloads mode.fence? (line :: lines)).flatten := by
            rw [payloads, List.flatten_cons, visible_append, List.append_assoc]

/-- **No authored text is lost, repeated or moved.** White space apart, the texts of the blocks of a text, in order, are
what its lines have for them, in order. -/
theorem read_shown {text : String} {blocks : List Block} (h : read text = .ok blocks) :
    visible (blocks.flatMap (·.text.toList)) = visible (payloads none (splitLines text.toList)).flatten := by
  rw [read_eq] at h
  exact shown_blocksFrom h

/-- Every form of a line: an item that goes on, a quote that goes on, a fence that is closed and one that never is. -/
theorem read_shown_of_every_form :
    let text := "## A b ##\n- item\n  more\n12) x\n> q\n>  r\n\n$$ a b $$\n  ```lean\n- kept  \n```\nplain #\n$$\n## open"
    let texts := ["A b", "item more", "x", "q  r", "a b", "- kept", "plain #", "## open"]
    ∃ blocks, read text = .ok blocks ∧ blocks.map Block.text = texts ∧
      visible (blocks.flatMap (·.text.toList)) = "Abitemmorexqrab-keptplain###open".toList := by
  intro text texts
  have reads : (read text).toOption.map (·.map Block.text) = some texts := by decide +kernel
  have parts : visible (payloads none (splitLines text.toList)).flatten =
      "Abitemmorexqrab-keptplain###open".toList := by decide +kernel
  cases outcome : read text with
  | ok blocks =>
      rw [outcome] at reads
      exact ⟨blocks, rfl, Option.some.inj reads, (read_shown outcome).trans parts⟩
  | error e =>
      rw [outcome] at reads
      cases reads

end SlidePress.Markdown
