import SlidePress.Markdown.Line
import SlidePress.Proofs.Text.Numeral
import SlidePress.Proofs.Text.Trim

/-!
# `SlidePress.Proofs.Markdown.Form` — lines of a known form

The forms of a line are tried in a fixed order, and each looks first at how the line begins. A line that begins with
none of the backtick, the dollar sign and the hash is past the first four forms (`of_plainStart`); what it begins with
then decides between a list item, a quote and plain text. A heading is read back from its hashes and its text, whatever
the text itself ends in, because only the last hashes of the line close it (`closedHeading_closed`).

The reader takes the form of a line without its trailing white space, so the forms are stated for `trimRight line`.
-/

namespace SlidePress.Markdown

open Text

/-! ## A run and what stops it -/

section

variable {α : Type} {p : α → Bool} {run : List α} {stop : α}

theorem takeWhile_run (all : ∀ c ∈ run, p c = true) (other : p stop = false) (rest : List α) :
    (run ++ stop :: rest).takeWhile p = run := by
  rw [List.takeWhile_append_of_pos all, List.takeWhile_cons_of_neg (by simp [other]), List.append_nil]

theorem dropWhile_run (all : ∀ c ∈ run, p c = true) (other : p stop = false) (rest : List α) :
    (run ++ stop :: rest).dropWhile p = stop :: rest := by
  rw [List.dropWhile_append_of_pos all, List.dropWhile_cons_of_neg (by simp [other])]

end

theorem eq_hash_of_mem {n : Nat} : ∀ c ∈ List.replicate n '#', decide (c = '#') = true := fun _ hc =>
  decide_eq_true (List.eq_of_mem_replicate hc)

/-! ## What a form says -/

/-- What the form of a line says about the line. -/
def LineForm.Found (line : List Char) : LineForm → Prop
  | .codeFence => codeDelimiter.isPrefixOf (trim line) = true
  | .mathFence => trim line = mathDelimiter
  | .formula text => formula? (trim line) = some text
  | .heading depth text => heading? line = some (depth, text)
  | .blank => trim line = []
  | .bullet text => bullet? line = some text
  | .numbered digits text => numbered? line = some (digits, text)
  | .quote text => quote? line = some text
  | .plain text => text = trim line ∧ text ≠ []

/-- **The form of a line is found in it**, whichever forms were tried before. -/
theorem found_of (line : List Char) : (LineForm.of line).Found line := by
  unfold LineForm.of
  dsimp only
  split
  · next code => exact code
  split
  · next math => exact math
  split
  · next formula => exact formula
  split
  · next heading => exact heading
  split
  · next blank => exact List.isEmpty_iff.mp blank
  next some_ =>
    split
    · next bullet => exact bullet
    split
    · next numbered => exact numbered
    split
    · next quote => exact quote
    · exact ⟨rfl, by simpa using some_⟩

/-! ## Lines that begin with none of the first signs -/

theorem formula?_of_ne {c : Char} (h : c ≠ '$') (rest : List Char) : formula? (c :: rest) = none := by
  unfold formula?
  split
  · next eq => exact absurd (List.cons.inj eq).1 h
  · rfl

theorem heading?_of_ne {c : Char} (h : c ≠ '#') (rest : List Char) : heading? (c :: rest) = none := by
  simp [heading?, h]

/-- A line that begins with no white space and none of the first signs is a list item, a quote or plain. -/
theorem of_plainStart {c : Char} {rest : List Char} (left : isBlank c = false)
    (right : trimRight (c :: rest) = c :: rest) (code : c ≠ '`') (math : c ≠ '$') (hash : c ≠ '#') :
    LineForm.of (c :: rest) =
      (((bullet? (c :: rest)).map LineForm.bullet).or
        (((numbered? (c :: rest)).map fun found => .numbered found.1 found.2).or
          ((quote? (c :: rest)).map .quote))).getD (.plain (c :: rest)) := by
  have noCode : codeDelimiter.isPrefixOf (c :: rest) = false := by
    simp only [codeDelimiter, List.isPrefixOf, beq_eq_false_iff_ne.mpr (Ne.symm code), Bool.false_and]
  have noMath : c :: rest ≠ mathDelimiter := fun eq => math (List.cons.inj eq).1
  simp only [LineForm.of, trim_eq_self left right, noCode, noMath, formula?_of_ne math, heading?_of_ne hash,
    List.isEmpty_cons, if_false, Bool.false_eq_true]
  cases bullet? (c :: rest) with
  | some text => rfl
  | none =>
      cases numbered? (c :: rest) with
      | some found => rfl
      | none => cases quote? (c :: rest) <;> rfl

theorem bullet?_of_ne {c : Char} {rest : List Char} (left : isBlank c = false) (sign : c ≠ '-' ∧ c ≠ '*' ∧ c ≠ '+') :
    bullet? (c :: rest) = none := by
  obtain ⟨minus, star, plus⟩ := sign
  simp [bullet?, trimLeft_cons_of_not_blank left, minus, star, plus]

theorem numbered?_of_not_digit {c : Char} {rest : List Char} (left : isBlank c = false) (digit : isDigit c = false) :
    numbered? (c :: rest) = none := by
  simp [numbered?, trimLeft_cons_of_not_blank left, digit]

theorem quote?_of_ne {c : Char} {rest : List Char} (left : isBlank c = false) (sign : c ≠ '>') :
    quote? (c :: rest) = none := by
  unfold quote?
  rw [trimLeft_cons_of_not_blank left]
  split
  · next eq => exact absurd (List.cons.inj eq).1 sign
  · next eq => exact absurd (List.cons.inj eq).1 sign
  · rfl

/-- **A list item with a sign.** -/
theorem of_bullet {text : List Char} (h : trim text = text) (ne : text ≠ []) :
    LineForm.of (trimRight ('-' :: ' ' :: text)) = .bullet text := by
  have right : trimRight ('-' :: ' ' :: text) = '-' :: ' ' :: text :=
    trimRight_append_eq_self ['-', ' '] ne (trimRight_eq_self h)
  have found : bullet? ('-' :: ' ' :: text) = some text := by
    rw [bullet?, trimLeft_cons_of_not_blank (by decide)]
    simp only [if_true, true_or]
    rw [afterSign?, if_pos (by decide), trimLeft_eq_self h]
  rw [right, of_plainStart (by decide) right (by decide) (by decide) (by decide), found]
  rfl

/-- **A numbered list item**, written with ASCII digits. -/
theorem of_numbered {digits text : List Char} (hd : ∀ c ∈ digits, c.isDigit = true) (ned : digits ≠ [])
    (h : trim text = text) (ne : text ≠ []) :
    LineForm.of (trimRight (digits ++ '.' :: ' ' :: text)) = .numbered digits text := by
  have allDigits : ∀ c ∈ digits, isDigit c = true := fun c hc => isDigit_of_isDigit (hd c hc)
  have first : ∀ c ∈ digits, isBlank c = false ∧ c ≠ '`' ∧ c ≠ '$' ∧ c ≠ '#' ∧ c ≠ '-' ∧ c ≠ '*' ∧ c ≠ '+' :=
    fun c hc => ascii_digit (P := fun c => isBlank c = false ∧ c ≠ '`' ∧ c ≠ '$' ∧ c ≠ '#' ∧ c ≠ '-' ∧ c ≠ '*' ∧
      c ≠ '+') (by decide) (hd c hc)
  have found : numbered? (digits ++ '.' :: ' ' :: text) = some (digits, text) := by
    have body : trimLeft (digits ++ '.' :: ' ' :: text) = digits ++ '.' :: ' ' :: text := by
      obtain ⟨c, more, rfl⟩ := List.exists_cons_of_ne_nil ned
      exact trimLeft_cons_of_not_blank (first c List.mem_cons_self).1 _
    have point : isDigit '.' = false := by decide
    simp only [numbered?, body, takeWhile_run allDigits point, dropWhile_run allDigits point]
    rw [if_pos (by simpa using ned), afterSign?, if_pos (by decide), trimLeft_eq_self h]
    rfl
  obtain ⟨c, more, rfl⟩ := List.exists_cons_of_ne_nil ned
  obtain ⟨left, code, math, hash, sign⟩ := first c List.mem_cons_self
  have right : trimRight (c :: more ++ '.' :: ' ' :: text) = c :: more ++ '.' :: ' ' :: text :=
    trimRight_append_eq_self (c :: more) (List.cons_ne_nil _ _)
      (trimRight_append_eq_self ['.', ' '] ne (trimRight_eq_self h))
  rw [right]
  rw [List.cons_append] at found right ⊢
  rw [of_plainStart left right code math hash, bullet?_of_ne left sign, found]
  rfl

/-- What a numbered list item is, its indentation left out. -/
theorem numbered?_eq_some_iff {line digits text : List Char} :
    numbered? line = some (digits, text) ↔
      ∃ sign gap rest, trimLeft line = digits ++ sign :: gap :: rest ∧ digits ≠ [] ∧
        (∀ d ∈ digits, isDigit d = true) ∧ (sign = '.' ∨ sign = ')') ∧ isBlank gap = true ∧ text = trimLeft rest := by
  constructor
  · intro found
    unfold numbered? at found
    dsimp only at found
    split at found
    · next sign rest behind =>
        split at found
        · next item =>
            obtain ⟨ne, signed⟩ := item
            obtain ⟨after, gapped, same⟩ := Option.map_eq_some_iff.mp found
            obtain ⟨rfl, rfl⟩ := Prod.mk.inj same
            cases rest with
            | nil => cases gapped
            | cons gap rest =>
                rw [afterSign?] at gapped
                split at gapped
                · next blank =>
                    refine ⟨sign, gap, rest, ?_, by simpa using ne, fun d mem => List.mem_takeWhile_imp mem, signed,
                      blank, (Option.some.inj gapped).symm⟩
                    rw [← behind, List.takeWhile_append_dropWhile]
                · cases gapped
        · cases found
    · cases found
  · rintro ⟨sign, gap, rest, body, ne, all, signed, blank, rfl⟩
    have stop : isDigit sign = false := by
      rcases signed with rfl | rfl <;> decide
    simp only [numbered?, body, takeWhile_run all stop, dropWhile_run all stop]
    rw [if_pos ⟨by simpa using ne, signed⟩, afterSign?, if_pos blank]
    rfl

/-- **A quoted line.** Without a text nothing but the sign is left of it. -/
theorem of_quote {text : List Char} (h : trim text = text) :
    LineForm.of (trimRight ('>' :: ' ' :: text)) = .quote text := by
  by_cases ne : text = []
  · subst ne
    decide
  have right : trimRight ('>' :: ' ' :: text) = '>' :: ' ' :: text :=
    trimRight_append_eq_self ['>', ' '] ne (trimRight_eq_self h)
  have found : quote? ('>' :: ' ' :: text) = some text := by
    rw [quote?, trimLeft_cons_of_not_blank (by decide)]
    simp only [show isBlank ' ' = true by decide, if_true]
  rw [right, of_plainStart (by decide) right (by decide) (by decide) (by decide), found,
    bullet?_of_ne (by decide) (by decide), numbered?_of_not_digit (by decide) (by decide)]
  rfl

/-- **Plain text.** -/
theorem of_plain {c : Char} {rest : List Char} (h : trim (c :: rest) = c :: rest) (digit : isDigit c = false)
    (signs : c ∉ ['`', '$', '#', '-', '*', '+', '>']) : LineForm.of (trimRight (c :: rest)) = .plain (c :: rest) := by
  have left := isBlank_head_of_trim h
  simp only [List.mem_cons, List.not_mem_nil, or_false, not_or] at signs
  obtain ⟨code, math, hash, minus, star, plus, quote⟩ := signs
  rw [trimRight_eq_self h, of_plainStart left (trimRight_eq_self h) code math hash, bullet?_of_ne left ⟨minus, star, plus⟩,
    numbered?_of_not_digit left digit, quote?_of_ne left quote]
  rfl

/-! ## Headings -/

theorem trimRight_replicate {c : Char} (h : isBlank c = false) (n : Nat) :
    trimRight (List.replicate n c) = List.replicate n c := by
  rw [trimRight_eq_rdropWhile, List.rdropWhile_eq_self_iff]
  intro _
  simp [h]

/-- White space is no hash. -/
theorem ne_hash_of_blank {c : Char} (blank : isBlank c = true) : decide (c = '#') = false := by
  apply decide_eq_false
  rintro rfl
  exact absurd blank (by decide)

/-- **Closing hashes go with the white space before them**, and only the last run of them. -/
theorem closedHeading_closed {before : List Char} {gap : Char} (blank : isBlank gap = true) {closing : Nat}
    (pos : 0 < closing) : closedHeading (before ++ gap :: List.replicate closing '#') = trimRight before := by
  have backwards : (before ++ gap :: List.replicate closing '#').reverse =
      List.replicate closing '#' ++ gap :: before.reverse := by
    simp
  have stop := ne_hash_of_blank blank
  -- seen from the right, the line is a run of hashes that the blank stops
  have hashes : (before ++ gap :: List.replicate closing '#').reverse.takeWhile (· = '#') =
      List.replicate closing '#' := by
    rw [backwards, takeWhile_run eq_hash_of_mem stop]
  have rest : ((before ++ gap :: List.replicate closing '#').reverse.dropWhile (· = '#')).reverse = before ++ [gap] := by
    rw [backwards, dropWhile_run eq_hash_of_mem stop]
    simp
  have closes : (List.replicate closing '#').isEmpty = false := by
    simp [Nat.pos_iff_ne_zero.mp pos]
  simp only [closedHeading, hashes, rest, closes]
  rw [if_neg (by simp [blank]), trimRight_concat_of_blank blank]

theorem of_heading {rest : List Char} {depth : Nat} {text : List Char}
    (right : trimRight ('#' :: rest) = '#' :: rest) (found : heading? ('#' :: rest) = some (depth, text)) :
    LineForm.of ('#' :: rest) = .heading depth text := by
  have noCode : codeDelimiter.isPrefixOf ('#' :: rest) = false := rfl
  have noMath : '#' :: rest ≠ mathDelimiter := fun eq => absurd (List.cons.inj eq).1 (by decide)
  have noFormula : formula? ('#' :: rest) = none := formula?_of_ne (by decide) rest
  simp only [LineForm.of, trim_eq_self (show isBlank '#' = false by decide) right, noCode, noMath, noFormula, found,
    if_false, Bool.false_eq_true]

/-- **A heading without a text** is its hashes alone. -/
theorem of_hashes {depth : Nat} (low : 1 ≤ depth) (high : depth ≤ 6) :
    LineForm.of (trimRight (List.replicate depth '#')) = .heading depth [] := by
  have found : heading? (List.replicate depth '#') = some (depth, []) := by
    have hashes : (List.replicate depth '#').takeWhile (· = '#') = List.replicate depth '#' := by simp
    have after : (List.replicate depth '#').dropWhile (· = '#') = [] := by simp
    simp only [heading?, hashes, after, List.length_replicate]
    rw [if_pos ⟨low, high⟩]
  obtain ⟨more, rfl⟩ := Nat.exists_eq_add_of_le' low
  have right := trimRight_replicate (show isBlank '#' = false by decide) (more + 1)
  rw [right]
  rw [List.replicate_succ] at found right ⊢
  exact of_heading right found

/-- **A closed heading** has the text between its hashes. -/
theorem of_closedHeading {depth closing : Nat} {text : List Char} (low : 1 ≤ depth) (high : depth ≤ 6)
    (h : trim text = text) (ne : text ≠ []) (pos : 0 < closing) :
    LineForm.of (trimRight (List.replicate depth '#' ++ ' ' :: (text ++ ' ' :: List.replicate closing '#'))) =
      .heading depth text := by
  have left : trimLeft (text ++ ' ' :: List.replicate closing '#') = text ++ ' ' :: List.replicate closing '#' := by
    obtain ⟨c, more, rfl⟩ := List.exists_cons_of_ne_nil ne
    exact trimLeft_cons_of_not_blank (isBlank_head_of_trim h) _
  have found : heading? (List.replicate depth '#' ++ ' ' :: (text ++ ' ' :: List.replicate closing '#')) =
      some (depth, text) := by
    have blank : decide (' ' = '#') = false := by decide
    simp only [heading?, takeWhile_run eq_hash_of_mem blank, dropWhile_run eq_hash_of_mem blank,
      List.length_replicate]
    rw [if_pos ⟨low, high, by decide⟩, left, closedHeading_closed (by decide) pos, trimRight_eq_self h]
  have right : trimRight (List.replicate depth '#' ++ ' ' :: (text ++ ' ' :: List.replicate closing '#')) =
      List.replicate depth '#' ++ ' ' :: (text ++ ' ' :: List.replicate closing '#') := by
    have last : List.replicate closing '#' ≠ [] := by simpa using Nat.pos_iff_ne_zero.mp pos
    have hashes := trimRight_replicate (show isBlank '#' = false by decide) closing
    have tail := trimRight_append_eq_self (' ' :: text ++ [' ']) last hashes
    simp only [List.append_assoc, List.cons_append, List.nil_append] at tail
    exact trimRight_append_eq_self _ (List.cons_ne_nil _ _) tail
  obtain ⟨more, rfl⟩ := Nat.exists_eq_add_of_le' low
  rw [right]
  rw [List.replicate_succ, List.cons_append] at found right ⊢
  exact of_heading right found

end SlidePress.Markdown
