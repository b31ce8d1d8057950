import SlidePress.Proofs.Markdown.Reuse

/-!
# `SlidePress.Proofs.Markdown.Run` — reading line by line

`blocksFrom` reads lines to the end of the text and closes what is pending there. To speak about the lines in the middle
of a text, `Mode.run` keeps the mode instead: reading a text is a run over its first lines and then reading the rest
from the mode that the run ends in (`blocksFrom_append`). Outside of fences a blank line ends what is pending, whatever
it is (`step_blank`), so lines that read as one block can be followed by a blank line and anything else.
-/

namespace SlidePress.Markdown

open Text

/-- Several lines: the mode after them and the blocks they emit. -/
def Mode.run (mode : Mode) : List (List Char) → Except NumeralTooLong (Mode × List Block)
  | [] => .ok (mode, [])
  | line :: lines =>
    match mode.step line with
    | .error e => .error e
    | .ok (next, emitted) => (next.run lines).map fun out => (out.1, emitted ++ out.2)

theorem run_cons {mode next : Mode} {line : List Char} {emitted : List Block} (h : mode.step line = .ok (next, emitted))
    (lines : List (List Char)) :
    mode.run (line :: lines) = (next.run lines).map fun out => (out.1, emitted ++ out.2) := by
  rw [Mode.run, h]

/-- A run over a line and more is a step and a run over the rest. -/
theorem of_run_cons {mode last : Mode} {line : List Char} {lines : List (List Char)} {emitted : List Block}
    (h : mode.run (line :: lines) = .ok (last, emitted)) :
    ∃ next first later, mode.step line = .ok (next, first) ∧ next.run lines = .ok (last, later) ∧
      emitted = first ++ later := by
  rw [Mode.run] at h
  cases step : mode.step line with
  | error e => simp [step] at h
  | ok out =>
      obtain ⟨next, first⟩ := out
      cases run : next.run lines with
      | error e => simp [step, run, Except.map] at h
      | ok out =>
          obtain ⟨end_, later⟩ := out
          simp only [step, run, Except.map, Except.ok.injEq, Prod.mk.injEq] at h
          obtain ⟨rfl, rfl⟩ := h
          exact ⟨next, first, later, rfl, run, rfl⟩

/-- Reading a line and more is a step and reading the rest. -/
theorem of_blocksFrom_cons {mode : Mode} {line : List Char} {lines : List (List Char)} {blocks : List Block}
    (h : blocksFrom mode (line :: lines) = .ok blocks) :
    ∃ next emitted later, mode.step line = .ok (next, emitted) ∧ blocksFrom next lines = .ok later ∧
      blocks = emitted ++ later := by
  rw [blocksFrom] at h
  cases step : mode.step line with
  | error e => simp [step] at h
  | ok out =>
      obtain ⟨next, emitted⟩ := out
      cases read : blocksFrom next lines with
      | error e => simp [step, read, Except.map] at h
      | ok later =>
          simp only [step, read, Except.map, Except.ok.injEq] at h
          exact ⟨next, emitted, later, rfl, read, h.symm⟩

/-- **Reading on after a run** reads the rest from the mode that the run ends in. -/
theorem blocksFrom_append {mode last : Mode} {lines : List (List Char)} {emitted : List Block}
    (h : mode.run lines = .ok (last, emitted)) (rest : List (List Char)) :
    blocksFrom mode (lines ++ rest) = (blocksFrom last rest).map (emitted ++ ·) := by
  induction lines generalizing mode emitted with
  | nil =>
    obtain ⟨rfl, rfl⟩ := Prod.mk.inj (Except.ok.inj h)
    rw [List.nil_append]
    cases blocksFrom mode rest <;> rfl
  | cons line lines ih =>
    obtain ⟨next, first, later, step, run, rfl⟩ := of_run_cons h
    rw [List.cons_append, blocksFrom, step]
    simp only [ih run]
    cases blocksFrom last rest <;> simp [Except.map]

/-! ## Lines outside of fences -/

/-- Whether the reader stands in a fence. -/
def Mode.isFenced : Mode → Bool
  | .fenced .. => true
  | _ => false

/-- The blocks that a form is by itself. -/
def LineForm.blocks : LineForm → List Block
  | .formula text => [.content .math (String.ofList text) 0]
  | .heading depth text => [headingBlock depth (String.ofList text)]
  | _ => []

/-- The mode that a form leads into where it continues nothing. -/
def LineForm.mode : LineForm → Mode
  | .codeFence => .fenced .code []
  | .mathFence => .fenced .math []
  | .formula _ | .heading .. | .blank => .idle
  | .bullet text => .starting .bullet text
  | .numbered digits text => .starting .numbered text (numeralValue digits)
  | .quote text => .starting .quote text
  | .plain text => .starting .paragraph text

/-- Whether a line of this form continues what is pending: plain text does, and a quoted line continues a quote. -/
def LineForm.continues : LineForm → Pending → Bool
  | .plain _, _ => true
  | .quote _, pending => pending.kind = .quote
  | _, _ => false

/-- **What a line outside of fences can do**: end what is pending and lead into the mode of its form, or continue what
is pending and emit nothing. -/
theorem stepForm_cases {mode next : Mode} {form : LineForm} {emitted : List Block}
    (step : mode.stepForm form = .ok (next, emitted)) :
    ((∀ pending, mode = .pending pending → form.continues pending = false) ∧ next = form.mode ∧
        emitted = mode.close ++ form.blocks) ∨
      ∃ pending text, mode = .pending pending ∧ form.continues pending = true ∧
        (form = .plain text ∨ form = .quote text) ∧
        next = .pending { pending with lines := text :: pending.lines } ∧ emitted = [] := by
  cases form with
  | codeFence => cases step; exact Or.inl ⟨fun _ _ => rfl, rfl, (List.append_nil _).symm⟩
  | mathFence => cases step; exact Or.inl ⟨fun _ _ => rfl, rfl, (List.append_nil _).symm⟩
  | formula text => cases step; exact Or.inl ⟨fun _ _ => rfl, rfl, rfl⟩
  | heading depth text => cases step; exact Or.inl ⟨fun _ _ => rfl, rfl, rfl⟩
  | blank => cases step; exact Or.inl ⟨fun _ _ => rfl, rfl, (List.append_nil _).symm⟩
  | bullet text => cases step; exact Or.inl ⟨fun _ _ => rfl, rfl, (List.append_nil _).symm⟩
  | numbered digits text =>
      rw [Mode.stepForm, numeral] at step
      split at step
      · cases step; exact Or.inl ⟨fun _ _ => rfl, rfl, (List.append_nil _).symm⟩
      · cases step
  | quote text =>
      cases mode with
      | pending block =>
          rw [Mode.stepForm] at step
          split at step
          · next quote =>
              cases step
              exact Or.inr ⟨block, text, rfl, decide_eq_true quote, Or.inr rfl, rfl, rfl⟩
          · next other =>
              cases step
              refine Or.inl ⟨?_, rfl, rfl⟩
              rintro _ ⟨rfl⟩
              exact decide_eq_false other
      | idle =>
          cases step
          refine Or.inl ⟨?_, rfl, rfl⟩
          intro pending same
          cases same
      | fenced fence lines =>
          cases step
          refine Or.inl ⟨?_, rfl, rfl⟩
          intro pending same
          cases same
  | plain text =>
      cases mode with
      | pending block => cases step; exact Or.inr ⟨block, text, rfl, rfl, Or.inl rfl, rfl, rfl⟩
      | idle =>
          cases step
          refine Or.inl ⟨?_, rfl, rfl⟩
          intro pending same
          cases same
      | fenced fence lines =>
          cases step
          refine Or.inl ⟨?_, rfl, rfl⟩
          intro pending same
          cases same

/-- **A blank line ends what is pending**, outside of fences. -/
theorem step_blank {mode : Mode} (h : mode.isFenced = false) : mode.step [] = .ok (.idle, mode.close) := by
  cases mode with
  | idle => rfl
  | pending block => rfl
  | fenced fence lines => exact absurd h (by simp [Mode.isFenced])

/-! ## Blocks between blank lines -/

/-- The lines, read from between blocks, make one block and leave no fence open. -/
def ReadsAs (lines : List (List Char)) (block : Block) : Prop :=
  ∃ mode emitted, Mode.idle.run lines = .ok (mode, emitted) ∧ mode.isFenced = false ∧ emitted ++ mode.close = [block]

theorem ReadsAs.alone {lines : List (List Char)} {block : Block} (h : ReadsAs lines block) :
    blocksFrom .idle lines = .ok [block] := by
  obtain ⟨mode, emitted, run, _, blocks⟩ := h
  have reading := blocksFrom_append run []
  rw [List.append_nil] at reading
  rw [reading, blocksFrom, ← blocks]
  rfl

theorem ReadsAs.before {lines : List (List Char)} {block : Block} (h : ReadsAs lines block)
    (rest : List (List Char)) :
    blocksFrom .idle (lines ++ [] :: rest) = (blocksFrom .idle rest).map (block :: ·) := by
  obtain ⟨mode, emitted, run, outside, blocks⟩ := h
  rw [blocksFrom_append run, blocksFrom, step_blank outside]
  simp only
  cases blocksFrom .idle rest with
  | error e => rfl
  | ok later =>
      show Except.ok (emitted ++ (mode.close ++ later)) = Except.ok (block :: later)
      rw [← List.append_assoc, blocks]
      rfl

end SlidePress.Markdown
