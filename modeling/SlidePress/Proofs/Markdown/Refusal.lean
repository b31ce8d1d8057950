import SlidePress.Proofs.Markdown.Fence

/-!
# `SlidePress.Proofs.Markdown.Refusal` — the texts that are refused

A text is refused for one reason only: outside of fences it has a list item whose number has more digits than a number
may have. Such an item is described by its characters (`OverlongItem`), and no reading of the line is needed for it:
white space, the digits, a point or a bracket, white space, and some text.

Both directions have an obstacle. Another form could be tried before the numbered item and take the line; none does,
because they all begin with a sign that is no digit (`of_eq_numbered`). And something else could fail; but numbers are
the only thing that a line of any form reads (`step_error_iff`), and inside a fence nothing is read at all, so a fence
is passed over as a whole. The number that is reported is that of the first such line.
-/

namespace SlidePress.Markdown

open Text

/-- **A list item whose number is too long**: perhaps white space, more digits than a number may have, a point or a
closing bracket, white space, and some text. -/
def OverlongItem (line : List Char) (count : Nat) : Prop :=
  ∃ indent digits sign gap text,
    line = indent ++ digits ++ sign :: (gap ++ text) ∧
      (∀ c ∈ indent, isBlank c = true) ∧
      (∀ c ∈ digits, isDigit c = true) ∧ digits.length = count ∧ maxDigits < count ∧
      (sign = '.' ∨ sign = ')') ∧
      gap ≠ [] ∧ (∀ c ∈ gap, isBlank c = true) ∧
      ∃ c ∈ text, isBlank c = false

/-- One digit too many, of another script. -/
example : OverlongItem ('\t' :: (List.replicate 4301 '٣' ++ ") x".toList)) 4301 := by
  have tab : ∀ c ∈ ['\t'], isBlank c = true := List.forall_mem_singleton.mpr rfl
  have space : ∀ c ∈ [' '], isBlank c = true := List.forall_mem_singleton.mpr rfl
  refine ⟨['\t'], List.replicate 4301 '٣', ')', [' '], ['x'], rfl, tab, ?_, List.length_replicate, by decide, Or.inr rfl,
    by decide, space, 'x', by decide, rfl⟩
  intro c mem
  rw [List.eq_of_mem_replicate mem]
  rfl

/-! ## Numbered items -/

/-- A digit is none of the signs that other forms begin with. -/
theorem not_sign_of_isDigit {c : Char} (h : isDigit c = true) : c ∉ ['`', '$', '#', '-', '*', '+'] :=
  digit_of_script (P := fun c => c ∉ ['`', '$', '#', '-', '*', '+']) (by decide +kernel) h

/-- **No other form comes before a numbered item**: what it begins with is none of their signs. -/
theorem of_eq_numbered {line digits text : List Char} (right : trimRight line = line)
    (found : numbered? line = some (digits, text)) : LineForm.of line = .numbered digits text := by
  obtain ⟨sign, gap, rest, body, ne, all, -⟩ := numbered?_eq_some_iff.mp found
  obtain ⟨d, more, rfl⟩ := List.exists_cons_of_ne_nil ne
  have other := not_sign_of_isDigit (all d List.mem_cons_self)
  simp only [List.mem_cons, List.not_mem_nil, or_false, not_or] at other
  obtain ⟨code, math, hash, minus, star, plus⟩ := other
  rw [List.cons_append] at body
  have trimmed : trim line = d :: (more ++ sign :: gap :: rest) := by rw [trim, right, body]
  have noCode : codeDelimiter.isPrefixOf (trim line) = false := by
    simp only [trimmed, codeDelimiter, List.isPrefixOf, beq_eq_false_iff_ne.mpr (Ne.symm code), Bool.false_and]
  have noMath : trim line ≠ mathDelimiter := fun same => math (List.cons.inj (trimmed.symm.trans same)).1
  have noFormula : formula? (trim line) = none := by rw [trimmed, formula?_of_ne math]
  have noHeading : heading? line = none := by
    cases line with
    | nil => rfl
    | cons c cs =>
        -- a heading is not indented, so it would be the hash that the digits begin with
        refine heading?_of_ne ?_ cs
        rintro rfl
        rw [trimLeft_cons_of_not_blank (by decide)] at body
        exact hash (List.cons.inj body).1.symm
  have noBullet : bullet? line = none := by simp [bullet?, body, minus, star, plus]
  simp only [LineForm.of, noCode, noMath, noFormula, noHeading, noBullet, found, if_false, Bool.false_eq_true]
  rw [trimmed]
  rfl

theorem numbered?_of_form {line digits text : List Char} (form : LineForm.of line = .numbered digits text) :
    numbered? line = some (digits, text) := by
  have found := found_of line
  rwa [form] at found

/-! ## Why a line is refused -/

/-- Why a line is refused outside of fences: it is a list item, and its number is too long. -/
def refusal? (line : List Char) : Option NumeralTooLong :=
  match LineForm.of (trimRight line) with
  | .numbered digits _ => if digits.length ≤ maxDigits then none else some ⟨digits.length⟩
  | _ => none

/-- What ends in something else than white space has something else behind a blank. -/
theorem exists_not_blank_of_trimRight {a rest : List Char} {gap : Char} (blank : isBlank gap = true)
    (right : trimRight (a ++ gap :: rest) = a ++ gap :: rest) : ∃ c ∈ rest, isBlank c = false := by
  have last := trimRight_eq_self_iff.mp right
  cases rest with
  | nil =>
      rw [List.getLast?_concat] at last
      exact absurd blank (by simp [last gap rfl])
  | cons c rest =>
      rw [List.append_cons, List.getLast?_append_of_ne_nil _ (List.cons_ne_nil c rest)] at last
      have ends := List.getLast?_eq_some_getLast (List.cons_ne_nil c rest)
      exact ⟨_, List.getLast_mem (List.cons_ne_nil c rest), last _ ends⟩

/-- **A line is refused exactly if it is a list item whose number is too long**, and for that number. -/
theorem refusal?_eq_some_iff {line : List Char} {e : NumeralTooLong} :
    refusal? line = some e ↔ OverlongItem line e.digits := by
  constructor
  · intro refused
    unfold refusal? at refused
    split at refused
    · next digits text form =>
        split at refused
        · cases refused
        · next long =>
            cases refused
            obtain ⟨sign, gap, rest, body, -, all, signed, blank, -⟩ := numbered?_eq_some_iff.mp (numbered?_of_form form)
            obtain ⟨indent, blanks, cut⟩ := exists_append_trimLeft (trimRight line)
            obtain ⟨tail, whole⟩ := exists_trimRight_append line
            have regroup : indent ++ (digits ++ sign :: gap :: rest) = (indent ++ digits ++ [sign]) ++ gap :: rest := by
              simp
            rw [body, regroup] at cut
            have right := trimRight_trimRight line
            rw [cut] at right
            obtain ⟨c, mem, other⟩ := exists_not_blank_of_trimRight blank right
            refine ⟨indent, digits, sign, [gap], rest ++ tail, ?_, blanks, all, rfl, Nat.lt_of_not_le long, signed,
              List.cons_ne_nil _ _, by simpa using blank, c, List.mem_append_left _ mem, other⟩
            rw [whole, cut]
            simp
    · cases refused
  · rintro ⟨indent, digits, sign, gap, text, rfl, blanks, all, length, long, signed, ne, gaps, some_⟩
    obtain ⟨first, more, rfl⟩ := List.exists_cons_of_ne_nil ne
    have ne : digits ≠ [] := by
      rintro rfl
      exact absurd long (by simp [← length])
    have right : trimRight (indent ++ digits ++ sign :: (first :: more ++ text)) =
        indent ++ (digits ++ sign :: first :: (more ++ trimRight text)) := by
      have regroup : indent ++ digits ++ sign :: (first :: more ++ text) =
          (indent ++ digits ++ sign :: first :: more) ++ text := by simp
      rw [regroup, trimRight_append _ some_]
      simp
    have body : trimLeft (indent ++ (digits ++ sign :: first :: (more ++ trimRight text))) =
        digits ++ sign :: first :: (more ++ trimRight text) := by
      obtain ⟨d, ds, rfl⟩ := List.exists_cons_of_ne_nil ne
      rw [trimLeft_append_of_blank blanks]
      exact trimLeft_cons_of_not_blank (isBlank_of_isDigit (all d List.mem_cons_self)) _
    have found := numbered?_eq_some_iff.mpr
      ⟨sign, first, more ++ trimRight text, body, ne, all, signed, gaps first List.mem_cons_self, rfl⟩
    rw [← right] at found
    rw [refusal?, of_eq_numbered (trimRight_trimRight _) found]
    simp only [length, if_neg (Nat.not_le_of_lt long)]

theorem refusal?_of_delimiter {fence : Fence} {line : List Char} (h : fence.delimiter <+: trim line) :
    refusal? line = none := by
  unfold refusal?
  split
  · next digits text form =>
      obtain ⟨sign, gap, rest, body, ne, all, -⟩ := numbered?_eq_some_iff.mp (numbered?_of_form form)
      obtain ⟨d, more, rfl⟩ := List.exists_cons_of_ne_nil ne
      have other := not_sign_of_isDigit (all d List.mem_cons_self)
      have same : trim line = d :: (more ++ sign :: gap :: rest) := body
      rw [same] at h
      cases fence with
      | code =>
          obtain rfl := (List.cons_prefix_cons.mp h).1
          exact absurd List.mem_cons_self other
      | math =>
          obtain rfl := (List.cons_prefix_cons.mp h).1
          exact absurd (List.mem_cons_of_mem _ List.mem_cons_self) other
  · rfl

/-! ## Lines -/

section

variable {mode : Mode}

theorem stepForm_error_iff {form : LineForm} {e : NumeralTooLong} :
    mode.stepForm form = .error e ↔ ∃ digits text, form = .numbered digits text ∧ numeral digits = .error e := by
  constructor
  · intro refused
    cases form with
    | numbered digits text =>
        rw [Mode.stepForm] at refused
        cases value : numeral digits with
        | error e' =>
            rw [value] at refused
            cases refused
            exact ⟨digits, text, rfl, value⟩
        | ok n => rw [value] at refused; cases refused
    | quote text =>
        unfold Mode.stepForm at refused
        dsimp only at refused
        split at refused
        · split at refused <;> cases refused
        · cases refused
    | plain text =>
        unfold Mode.stepForm at refused
        dsimp only at refused
        split at refused <;> cases refused
    | _ => cases refused
  · rintro ⟨digits, text, rfl, long⟩
    rw [Mode.stepForm, long]
    rfl

/-- **A line outside of fences** is refused for its own sake, in whatever mode it is read. -/
theorem step_error_iff (outside : mode.fence? = none) {line : List Char} {e : NumeralTooLong} :
    mode.step line = .error e ↔ refusal? line = some e := by
  rw [step_outside outside, stepForm_error_iff, refusal?]
  constructor
  · rintro ⟨digits, text, form, long⟩
    rw [numeral] at long
    split at long
    · cases long
    · next many =>
        simp only [form, if_neg many, Option.some.injEq]
        exact Except.error.inj long
  · intro refused
    split at refused
    · next digits text form =>
        split at refused
        · cases refused
        · next many =>
            refine ⟨digits, text, form, ?_⟩
            rw [numeral, if_neg many, Option.some.inj refused]
    · cases refused

/-- **Lines are refused for the first one** outside of fences that is. -/
theorem blocksFrom_error_iff (outside : mode.fence? = none) {lines : List (List Char)} {e : NumeralTooLong} :
    blocksFrom mode lines = .error e ↔ (unfenced lines).findSome? refusal? = some e := by
  -- a fence is passed over as a whole, so the induction is on the number of lines
  induction n : lines.length using Nat.strongRecOn generalizing mode lines with
  | ind n ih =>
    subst n
    cases lines with
    | nil =>
        rw [unfenced]
        simp [blocksFrom]
    | cons line lines =>
        rw [blocksFrom]
        cases opened : opens? line with
        | none =>
            have rest : unfenced (line :: lines) = line :: unfenced lines := by rw [unfenced, opened]
            rw [rest, List.findSome?_cons]
            cases step : mode.step line with
            | error e' =>
                rw [(step_error_iff outside).mp step]
                simp
            | ok out =>
                obtain ⟨next, emitted⟩ := out
                have outside' : next.fence? = none := by rw [fence?_step step, outside]; exact opened
                have accepted : refusal? line = none := by
                  cases refused : refusal? line with
                  | none => rfl
                  | some e' => rw [(step_error_iff outside).mpr refused] at step; cases step
                rw [accepted]
                simp only
                rw [← ih lines.length (Nat.lt_succ_self _) outside' rfl]
                cases blocksFrom next lines <;> simp [Except.map]
        | some fence =>
            have rest : unfenced (line :: lines) = line :: (lines.dropWhile fun l => !fence.closes l).take 1 ++
                unfenced ((lines.dropWhile fun l => !fence.closes l).drop 1) := by
              rw [unfenced, opened]
            -- neither the line that opens the fence nor the one that closes it is refused
            have opening : refusal? line = none := refusal?_of_delimiter (prefix_of_opens opened)
            have closing : ((lines.dropWhile fun l => !fence.closes l).take 1).findSome? refusal? = none := by
              rw [List.findSome?_eq_none_iff]
              intro l mem
              exact refusal?_of_delimiter (List.isPrefixOf_iff_prefix.mp (closes_of_mem_take mem))
            have shorter : ((lines.dropWhile fun l => !fence.closes l).drop 1).length < (line :: lines).length := by
              have atMost := (List.dropWhile_suffix (fun l => !fence.closes l) (l := lines)).length_le
              rw [List.length_drop, List.length_cons]
              omega
            rw [step_opening outside opened, rest, List.cons_append, List.findSome?_cons, opening, List.findSome?_append,
              closing]
            simp only [blocksFrom_fenced_eq, Option.none_or]
            have idle : Mode.idle.fence? = none := rfl
            rw [← ih _ shorter idle rfl]
            cases blocksFrom .idle ((lines.dropWhile fun l => !fence.closes l).drop 1) <;> simp [Except.map]

end

/-! ## A text -/

/-- **A text is refused exactly if a list item of it has a number that is too long**, outside of its fences; every other
text has blocks. What is reported is the number of digits of the first such item. -/
theorem read_refused_iff (text : String) :
    let lines := unfenced (splitLines text.toList)
    ((∃ e, read text = .error e) ↔ ∃ line ∈ lines, ∃ count, OverlongItem line count) ∧
      ((∃ blocks, read text = .ok blocks) ↔ ∀ line ∈ lines, ∀ count, ¬ OverlongItem line count) ∧
      ∀ count, read text = .error ⟨count⟩ ↔
        ∃ before line after, lines = before ++ line :: after ∧ OverlongItem line count ∧
          ∀ earlier ∈ before, ∀ n, ¬ OverlongItem earlier n := by
  intro lines
  have error_iff : ∀ e, read text = .error e ↔ lines.findSome? refusal? = some e := by
    intro e
    rw [read_eq]
    exact blocksFrom_error_iff rfl
  have none_iff : ∀ line, refusal? line = none ↔ ∀ count, ¬ OverlongItem line count := by
    intro line
    rw [Option.eq_none_iff_forall_not_mem]
    constructor
    · exact fun accepted count overlong => accepted ⟨count⟩ (refusal?_eq_some_iff.mpr overlong)
    · exact fun accepted e refused => accepted e.digits (refusal?_eq_some_iff.mp refused)
  have ok_iff : (∃ blocks, read text = .ok blocks) ↔ ∀ line ∈ lines, ∀ count, ¬ OverlongItem line count := by
    simp only [← none_iff]
    rw [← List.findSome?_eq_none_iff]
    cases outcome : read text with
    | error e => simp [(error_iff e).mp outcome]
    | ok blocks =>
        refine iff_of_true ⟨blocks, rfl⟩ ?_
        rw [Option.eq_none_iff_forall_not_mem]
        intro e refused
        cases outcome.symm.trans ((error_iff e).mpr refused)
  refine ⟨?_, ok_iff, ?_⟩
  · have dichotomy : (∃ e, read text = .error e) ↔ ¬ ∃ blocks, read text = .ok blocks := by
      cases read text <;> simp
    rw [dichotomy, ok_iff]
    push Not
    rfl
  · intro count
    rw [error_iff, List.findSome?_eq_some_iff]
    simp only [none_iff, refusal?_eq_some_iff]

end SlidePress.Markdown
