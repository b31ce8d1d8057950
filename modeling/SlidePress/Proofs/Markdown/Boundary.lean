import SlidePress.Proofs.Markdown.Fence
import SlidePress.Proofs.Text.Lines

/-!
# `SlidePress.Proofs.Markdown.Boundary` — texts put together at a boundary

Two texts with a blank line between them are read like the one and then the other, unless the first leaves a fence open.
Where the second begins with a line that ends whatever is pending, no blank line is needed.

At such a boundary the reader is in some mode outside of fences, and all that the mode holds is the block that is
pending. Every line but plain text and quotes emits that block and then does what it does between blocks
(`stepForm_of_interrupts`), so nothing of the first text reaches the second. What stands between the lines of the two
texts is at most an empty line more than they have themselves, whatever line breaks they end and begin with.
-/

namespace SlidePress.Markdown

open Text

/-- Whether a line of this form ends what is pending, whatever it is: only plain text and quotes do not. -/
def LineForm.interrupts : LineForm → Bool
  | .quote _ | .plain _ => false
  | _ => true

/-- The blocks of two texts that are read one after the other. -/
def readBoth (a b : String) : Except NumeralTooLong (List Block) := do
  let before ← read a
  let behind ← read b
  return before ++ behind

/-! ## A boundary -/

/-- **A line that interrupts** emits what is pending, and then does what it does between blocks. -/
theorem stepForm_of_interrupts {form : LineForm} (h : form.interrupts = true) (mode : Mode) :
    mode.stepForm form = (Mode.idle.stepForm form).map fun out => (out.1, mode.close ++ out.2) := by
  cases form with
  | numbered digits text =>
      rw [Mode.stepForm, Mode.stepForm]
      cases numeral digits with
      | error e => rfl
      | ok n => simp [Mode.close, Except.map]
  | quote text => cases h
  | plain text => cases h
  | _ => simp [Mode.stepForm, Mode.close, Except.map]

section

variable {mode : Mode} {lines : List (List Char)}

/-- **From a line that interrupts on**, what is pending stands in front, and the rest is read from between blocks. -/
theorem blocksFrom_of_interrupts (outside : mode.fence? = none) {line : List Char}
    (h : (LineForm.of (trimRight line)).interrupts = true) (rest : List (List Char)) :
    blocksFrom mode (line :: rest) = (blocksFrom .idle (line :: rest)).map (mode.close ++ ·) := by
  have idle : Mode.idle.fence? = none := rfl
  rw [blocksFrom, blocksFrom, step_outside outside, step_outside idle, stepForm_of_interrupts h mode]
  cases Mode.idle.stepForm (LineForm.of (trimRight line)) with
  | error e => rfl
  | ok out =>
      obtain ⟨next, emitted⟩ := out
      simp only [Except.map]
      cases blocksFrom next rest with
      | error e => rfl
      | ok blocks => simp

theorem blocksFrom_blank (lines : List (List Char)) : blocksFrom .idle ([] :: lines) = blocksFrom .idle lines := by
  rw [blocksFrom, step_blank rfl]
  simp only
  cases blocksFrom .idle lines <;> rfl

theorem blocksFrom_append_error {e : NumeralTooLong} (h : mode.run lines = .error e) (rest : List (List Char)) :
    blocksFrom mode (lines ++ rest) = .error e := by
  induction lines generalizing mode with
  | nil => cases h
  | cons line lines ih =>
      rw [Mode.run] at h
      rw [List.cons_append, blocksFrom]
      cases step : mode.step line with
      | error e' =>
          rw [step] at h
          cases h
          rfl
      | ok out =>
          obtain ⟨next, emitted⟩ := out
          simp only [step] at h ⊢
          cases run : next.run lines with
          | error e' =>
              rw [run] at h
              cases h
              rw [ih run]
              rfl
          | ok out => rw [run] at h; cases h

/-- **The lines of two texts**, with an empty line between them or without one. They are read one after the other if the
first lines leave no fence open, and there is an empty line between them or the second ones begin with a line that
interrupts. -/
theorem blocksFrom_boundary (closed : lines.foldl fenceAfter none = none) {gap behind : List (List Char)}
    (empty : gap = [] ∨ gap = [[]])
    (boundary : gap = [] → ∀ line ∈ behind.head?, (LineForm.of (trimRight line)).interrupts = true) :
    blocksFrom .idle (lines ++ gap ++ behind) = do
      let before ← blocksFrom .idle lines
      let later ← blocksFrom .idle behind
      return before ++ later := by
  rw [List.append_assoc]
  cases run : Mode.idle.run lines with
  | error e =>
      have refused := blocksFrom_append_error run []
      rw [List.append_nil] at refused
      rw [blocksFrom_append_error run, refused]
      rfl
  | ok out =>
      obtain ⟨last, emitted⟩ := out
      have outside : last.fence? = none := (fence?_run run).trans closed
      have first : blocksFrom .idle lines = .ok (emitted ++ last.close) := by
        have whole := blocksFrom_append run []
        rwa [List.append_nil] at whole
      -- the first line behind, empty or not, emits what the first lines left pending
      have resumed : blocksFrom last (gap ++ behind) = (blocksFrom .idle behind).map (last.close ++ ·) := by
        rcases empty with rfl | rfl
        · cases behind with
          | nil => simp [blocksFrom, Mode.close, Except.map]
          | cons line rest => exact blocksFrom_of_interrupts outside (boundary rfl line rfl) rest
        · rw [List.singleton_append, blocksFrom, step_blank (by rw [isFenced_eq_isSome, outside]; rfl)]
      rw [blocksFrom_append run, resumed, first]
      cases blocksFrom .idle behind with
      | error e => rfl
      | ok later => exact congrArg Except.ok (List.append_assoc _ _ _).symm

end

/-! ## Two texts -/

/-- **Texts can be put together at a boundary.** If the first leaves no fence open, the two with a blank line between
them are read like the one and then the other: both have to be accepted, and the blocks of the first come before those
of the second. One line feed is enough where the second text begins with a line that interrupts. -/
theorem read_append {a : String} (closed : fenceAtEnd a = none) (b : String) :
    read (a ++ "\n\n" ++ b) = readBoth a b ∧
      ((∀ line ∈ (splitLines b.toList).head?, (LineForm.of (trimRight line)).interrupts = true) →
        read (a ++ "\n" ++ b) = readBoth a b) := by
  obtain ⟨gap, empty, lines⟩ := exists_splitLines_append_feed a.toList
  have blank : ∀ line ∈ ([] :: splitLines b.toList).head?, (LineForm.of (trimRight line)).interrupts = true := by
    rintro line ⟨rfl⟩
    rfl
  rw [readBoth, read_eq a, read_eq b]
  constructor
  · have text : (a ++ "\n\n" ++ b).toList = a.toList ++ '\n' :: '\n' :: b.toList := by simp
    rw [read_eq, text, lines, splitLines_feed, ← blocksFrom_blank (splitLines b.toList)]
    exact blocksFrom_boundary closed empty fun _ => blank
  · intro boundary
    have text : (a ++ "\n" ++ b).toList = a.toList ++ '\n' :: b.toList := by simp
    rw [read_eq, text, lines]
    exact blocksFrom_boundary closed empty fun _ => boundary

/-- The first text leaves a list item pending behind a closed fence, and ends in a carriage return; the second begins
with a number. -/
theorem read_append_of_list :
    let a := "```\n### no\n  ```x\n- item\r"
    let b := "2) next\n> quote"
    fenceAtEnd a = none ∧ (∀ line ∈ (splitLines b.toList).head?, (LineForm.of (trimRight line)).interrupts = true) ∧
      read (a ++ "\n\n" ++ b) = readBoth a b ∧ read (a ++ "\n" ++ b) = readBoth a b := by
  intro a b
  have closed : fenceAtEnd a = none := by decide
  have boundary : ∀ line ∈ (splitLines b.toList).head?, (LineForm.of (trimRight line)).interrupts = true := by
    decide
  obtain ⟨blankLine, lineFeed⟩ := read_append closed b
  exact ⟨closed, boundary, blankLine, lineFeed boundary⟩

end SlidePress.Markdown
