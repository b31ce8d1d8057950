import SlidePress.Proofs.Markdown.Heading

/-!
# `SlidePress.Proofs.Markdown.Fence` — which fence stands open

Where a fence stands open depends on the lines alone: outside of fences a line opens the fence that it begins with, and
inside only a line with the same delimiter closes it (`fenceAfter`). The reader keeps the fence in its mode together
with everything else, and the two agree after every line that is read (`fence?_step`), so also after a whole run.
-/

namespace SlidePress.Markdown

open Text

/-- The fence that stands open after a line, when this one stood open before it. -/
def fenceAfter : Option Fence → List Char → Option Fence
  | none, line => opens? line
  | some fence, line => if fence.closes line then none else some fence

/-- The fence that a text ends in, if it is never closed. -/
def fenceAtEnd (text : String) : Option Fence := (splitLines text.toList).foldl fenceAfter none

/-- The fence that the reader stands in. -/
def Mode.fence? : Mode → Option Fence
  | .fenced fence _ => some fence
  | _ => none

theorem isFenced_eq_isSome (mode : Mode) : mode.isFenced = mode.fence?.isSome := by
  cases mode <;> rfl

theorem exists_of_fence? {mode : Mode} {fence : Fence} (h : mode.fence? = some fence) :
    ∃ seen, mode = .fenced fence seen := by
  cases mode with
  | fenced f seen => cases h; exact ⟨seen, rfl⟩
  | _ => cases h

/-- **What a line inside a fence can do**: close it and emit its block, or be one more line of it. -/
theorem step_inside {fence : Fence} {seen : List (List Char)} {line : List Char} {next : Mode} {emitted : List Block}
    (step : (Mode.fenced fence seen).step line = .ok (next, emitted)) :
    (fence.closes line = true ∧ next = .idle ∧ emitted = [fencedBlock fence seen]) ∨
      (fence.closes line = false ∧ next = .fenced fence (trimRight line :: seen) ∧ emitted = []) := by
  unfold Mode.step at step
  simp only [trim_trimRight] at step
  split at step
  · next closes =>
      cases step
      exact Or.inl ⟨closes, rfl, rfl⟩
  · next stays =>
      cases step
      exact Or.inr ⟨Bool.eq_false_iff.mpr stays, rfl, rfl⟩

/-- Outside of fences the form of a line decides, whatever white space is at its end. -/
theorem step_outside {mode : Mode} (outside : mode.fence? = none) (line : List Char) :
    mode.step line = mode.stepForm (LineForm.of (trimRight line)) := by
  rw [← step_trimRight, step_eq_stepForm _ (trimRight_trimRight line)]
  rw [isFenced_eq_isSome, outside]
  rfl

/-- The fence that a line opens does not depend on the white space at its end. -/
theorem opens?_trimRight (line : List Char) : opens? (trimRight line) = opens? line := by
  rw [opens?, opens?, trim_trimRight]

/-- Outside of fences the mode that a form leads into stands in the fence that the form opens. -/
theorem fence?_mode (form : LineForm) : form.mode.fence? = form.fence? := by
  cases form <;> rfl

section

variable {mode next : Mode} {emitted : List Block}

/-- **Each line moves the fence** that the reader stands in as it moves the one that stands open. -/
theorem fence?_step {line : List Char} (step : mode.step line = .ok (next, emitted)) :
    next.fence? = fenceAfter mode.fence? line := by
  cases open_ : mode.fence? with
  | some fence =>
      obtain ⟨seen, rfl⟩ := exists_of_fence? open_
      rw [fenceAfter]
      rcases step_inside step with ⟨closes, rfl, -⟩ | ⟨stays, rfl, -⟩
      · rw [if_pos closes]
        rfl
      · rw [if_neg (by simp [stays])]
        rfl
  | none =>
      rw [step_outside open_] at step
      rw [fenceAfter, ← opens?_trimRight, ← fence?_form]
      rcases stepForm_cases step with ⟨_, rfl, _⟩ | ⟨_, _, _, _, form, rfl, _⟩
      · exact fence?_mode _
      · -- what continues a pending block opens nothing
        rcases form with form | form <;> rw [form] <;> rfl

theorem fence?_run {lines : List (List Char)} (run : mode.run lines = .ok (next, emitted)) :
    next.fence? = lines.foldl fenceAfter mode.fence? := by
  induction lines generalizing mode emitted with
  | nil =>
      obtain ⟨rfl, rfl⟩ := Prod.mk.inj (Except.ok.inj run)
      rfl
  | cons line lines ih =>
      obtain ⟨middle, first, later, step, rest, rfl⟩ := of_run_cons run
      rw [List.foldl_cons, ← fence?_step step]
      exact ih rest

end

/-! ## A whole fence -/

/-- A line that opens a fence ends what is pending, whatever white space is at its end. -/
theorem step_opening {mode : Mode} (outside : mode.fence? = none) {fence : Fence} {line : List Char}
    (opened : opens? line = some fence) : mode.step line = .ok (.fenced fence [], mode.close) := by
  have unfenced : mode.isFenced = false := by rw [isFenced_eq_isSome, outside]; rfl
  rw [← step_trimRight]
  exact step_of_opens unfenced (trimRight_trimRight line) ((opens?_trimRight line).trans opened)

theorem closes_of_mem_take {fence : Fence} {lines : List (List Char)} {line : List Char}
    (mem : line ∈ (lines.dropWhile fun l => !fence.closes l).take 1) : fence.closes line = true := by
  have stops := List.head?_dropWhile_not (fun l => !fence.closes l) lines
  cases behind : lines.dropWhile fun l => !fence.closes l with
  | nil => simp [behind] at mem
  | cons last later =>
      rw [behind] at mem stops
      obtain rfl : line = last := by simpa using mem
      simpa using stops

/-- **A fence is read to its end**: one block of the lines up to the one that closes it, without the white space at
their ends, and what follows that line is read from between blocks. -/
theorem blocksFrom_fenced_eq (fence : Fence) (seen lines : List (List Char)) :
    blocksFrom (.fenced fence seen) lines =
      (blocksFrom .idle ((lines.dropWhile fun l => !fence.closes l).drop 1)).map
        (fencedBlock fence (((lines.takeWhile fun l => !fence.closes l).map trimRight).reverse ++ seen) :: ·) := by
  induction lines generalizing seen with
  | nil => rfl
  | cons line lines ih =>
      rw [blocksFrom, Mode.step]
      simp only [trim_trimRight]
      by_cases closes : fence.closes line = true
      · have ends : fence.delimiter.isPrefixOf (trim line) = true := closes
        rw [if_pos ends, List.dropWhile_cons_of_neg (by simp [closes]), List.takeWhile_cons_of_neg (by simp [closes])]
        rfl
      · have stays : ¬ fence.delimiter.isPrefixOf (trim line) = true := closes
        rw [if_neg stays, List.dropWhile_cons_of_pos (by simp [closes]), List.takeWhile_cons_of_pos (by simp [closes])]
        simp only [ih]
        cases blocksFrom .idle ((lines.dropWhile fun l => !fence.closes l).drop 1) with
        | error e => rfl
        | ok blocks => simp [Except.map]

end SlidePress.Markdown
