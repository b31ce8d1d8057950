import SlidePress.Proofs.Inline.Emphasis
import SlidePress.Proofs.Text.Trim

/-!
# `SlidePress.Proofs.Inline.Found` — what a rule finds, and what it passes over

A rule looks for its mark, takes what stands behind it up to the next one, and has conditions on the characters beside
the marks. Where the text between two marks has no marks of its own and no white space at its ends, all of this comes
down to what stands around the marks, and the rule finds exactly that text. Text without the mark of a rule is passed
over. Both are stated for the text that the rules see, in which what the author wrote is escaped: escaping keeps a
text free of marks, and it keeps its ends free of white space.
-/

namespace SlidePress.Inline

open Text

/-! ## Escaped text -/

/-- What is in no entity is in an escaped text only if it was before. -/
theorem mem_of_mem_escape {c : Char} (h : c ∉ markupAlphabet) {cs : List Char} (mem : c ∈ escape cs) : c ∈ cs := by
  rw [escape_eq_flatMap] at mem
  obtain ⟨d, hd, inside⟩ := List.mem_flatMap.mp mem
  rwa [← Part.char.inj (Part.eq_of_mem (p := .char d) h inside)]

/-- What a character is written as begins and ends with white space only if the character is white space. -/
theorem isBlank_of_mem_escapeChar {c d : Char} (other : isBlank c = false) (mem : d ∈ escapeChar c) :
    isBlank d = false := by
  rcases escapeChar_cases c with ⟨-, single⟩ | entity
  · rw [single, List.mem_singleton] at mem
    rwa [mem]
  · have letters : ∀ w ∈ [ampEntity, ltEntity, gtEntity], w ⊆ markupAlphabet := by decide
    have noBlank : ∀ d ∈ markupAlphabet, isBlank d = false := List.all_iff_forall_prop.mp (by decide)
    exact noBlank d (letters _ entity mem)

/-- **Escaping keeps a text trimmed.** -/
theorem trim_escape {cs : List Char} (h : trim cs = cs) : trim (escape cs) = escape cs := by
  obtain ⟨left, right⟩ := trim_eq_self_iff.mp h
  rw [escape_eq_flatMap, trim_eq_self_iff]
  constructor
  · intro d first
    cases cs with
    | nil => cases first
    | cons c cs =>
        rw [List.flatMap_cons] at first
        obtain ⟨e, rest, chars⟩ := (Part.char c).exists_chars_eq_cons
        have chars : escapeChar c = e :: rest := chars
        rw [chars] at first
        obtain rfl : e = d := Option.some.inj first
        exact isBlank_of_mem_escapeChar (left c rfl) (by simp [chars])
  · intro d last
    rcases List.eq_nil_or_concat' cs with rfl | ⟨front, c, rfl⟩
    · cases last
    · obtain ⟨e, rest, chars⟩ := (Part.char c).exists_chars_eq_cons
      have chars : escapeChar c = e :: rest := chars
      rw [List.flatMap_append, List.flatMap_singleton, List.getLast?_append_of_ne_nil _ (by simp [chars])] at last
      exact isBlank_of_mem_escapeChar (right c List.getLast?_concat) (List.mem_of_getLast? last)

/-! ## Between marks -/

/-- A text that can stand between marks: something on one line, with no mark in it and no white space at its ends. -/
structure Unmarked (inner : List Char) : Prop where
  ne_nil : inner ≠ []
  other : ∀ c ∈ inner, c ≠ '*' ∧ c ≠ '_' ∧ c ≠ '\n'
  trimmed : trim inner = inner

/-- **Escaping keeps a text free of marks.** -/
theorem Unmarked.escape {inner : List Char} (h : Unmarked inner) : Unmarked (escape inner) where
  ne_nil := by
    rw [← written_map_char]
    intro none_
    exact h.ne_nil (List.map_eq_nil_iff.mp (eq_nil_of_written_eq_nil none_))
  other c mem := by
    by_cases letter : c ∈ markupAlphabet
    · have noMark : ∀ c ∈ markupAlphabet, c ≠ '*' ∧ c ≠ '_' ∧ c ≠ '\n' := List.all_iff_forall_prop.mp (by decide)
      exact noMark c letter
    · exact h.other c (mem_of_mem_escape letter mem)
  trimmed := trim_escape h.trimmed

/-- Two asterisks are looked for up to the first that come. -/
theorem upToStars?_append {inner : List Char} (ne : inner ≠ []) (other : ∀ c ∈ inner, c ≠ '*' ∧ c ≠ '\n')
    (after : List Char) : upToStars? (inner ++ '*' :: '*' :: after) = some (inner, after) := by
  induction inner with
  | nil => exact absurd rfl ne
  | cons c inner ih =>
      obtain ⟨here, later⟩ := List.forall_mem_cons.mp other
      cases inner with
      | nil => rw [List.singleton_append, upToStars?, if_neg here.2]
      | cons d inner =>
          have next : d ≠ '*' := (later d List.mem_cons_self).1
          rw [List.cons_append, upToStars?, if_neg here.2, ih (List.cons_ne_nil d inner) later]
          · rfl
          · intro _ same
            exact next (List.cons.inj same).1

/-- One asterisk is looked for up to the first that comes, if there is no white space before it and no other asterisk
behind it. -/
theorem upToStar?_append {inner : List Char} (ne : inner ≠ []) (other : ∀ c ∈ inner, c ≠ '*' ∧ c ≠ '\n')
    (ends : ∀ c ∈ inner.getLast?, isBlank c = false) {after : List Char} (single : after.head? ≠ some '*') :
    upToStar? (inner ++ '*' :: after) = some (inner, after) := by
  induction inner with
  | nil => exact absurd rfl ne
  | cons c inner ih =>
      obtain ⟨here, later⟩ := List.forall_mem_cons.mp other
      cases inner with
      | nil =>
          have last : isBlank c = false := ends c rfl
          rw [List.singleton_append, upToStar?, if_neg here.2]
          simp only [last, single, Bool.false_eq_true, or_self, if_false]
      | cons d inner =>
          have next : d ≠ '*' := (later d List.mem_cons_self).1
          rw [List.getLast?_cons_cons] at ends
          rw [List.cons_append, upToStar?, if_neg here.2, ih (List.cons_ne_nil d inner) later ends]
          · rfl
          · intro _ same
            exact next (List.cons.inj same).1

/-- A character is passed over where no two asterisks follow it. -/
theorem upToStars?_cons {c : Char} (line : c ≠ '\n') {rest : List Char} (h : ¬ ['*', '*'] <+: rest) :
    upToStars? (c :: rest) = (upToStars? rest).map fun found => (c :: found.1, found.2) := by
  rw [upToStars?, if_neg line]
  rintro after rfl
  exact h ⟨after, rfl⟩

/-- Text without asterisks is passed over where no two of them follow it. -/
theorem upToStars?_run {cs rest : List Char} (other : ∀ c ∈ cs, c ≠ '*' ∧ c ≠ '\n') (h : ¬ ['*', '*'] <+: rest) :
    upToStars? (cs ++ rest) = (upToStars? rest).map fun found => (cs ++ found.1, found.2) := by
  induction cs with
  | nil => simp
  | cons c cs ih =>
      obtain ⟨here, later⟩ := List.forall_mem_cons.mp other
      have follow : ¬ ['*', '*'] <+: cs ++ rest := by
        cases cs with
        | nil => exact h
        | cons d cs =>
            rintro ⟨after, same⟩
            exact (later d List.mem_cons_self).1 (List.cons.inj same).1.symm
      rw [List.cons_append, upToStars?_cons here.2 follow, ih later, Option.map_map]
      rfl

theorem find?_boldRule_single {before : Option Char} {rest : List Char} (h : rest.head? ≠ some '*') :
    boldRule.find? before ('*' :: rest) = none := by
  show findBold? before ('*' :: rest) = none
  unfold findBold?
  split
  · next same =>
      rw [(List.cons.inj same).2] at h
      exact absurd rfl h
  · rfl

section

variable {inner : List Char} (h : Unmarked inner) {before : Option Char} {after : List Char}

include h

/-- **Bold text** between two asterisks on each side, whatever stands around it. -/
theorem find?_boldRule : boldRule.find? before ('*' :: '*' :: (inner ++ '*' :: '*' :: after)) = some (inner, after) :=
  upToStars?_append h.ne_nil (fun c mem => ⟨(h.other c mem).1, (h.other c mem).2.2⟩) after

/-- **Italic text** between asterisks, with no other asterisk around it. -/
theorem find?_starRule (first : before ≠ some '*') (last : after.head? ≠ some '*') :
    starRule.find? before ('*' :: (inner ++ '*' :: after)) = some (inner, after) := by
  obtain ⟨left, right⟩ := trim_eq_self_iff.mp h.trimmed
  have begins : (((inner ++ '*' :: after).head?).map isBlank).getD false = false := by
    obtain ⟨c, cs, rfl⟩ := List.exists_cons_of_ne_nil h.ne_nil
    exact left c rfl
  show (if before = some '*' ∨ (((inner ++ '*' :: after).head?).map isBlank).getD false then none
    else upToStar? (inner ++ '*' :: after)) = some (inner, after)
  rw [if_neg (not_or.mpr ⟨first, by simp only [begins, Bool.false_eq_true, not_false_eq_true]⟩)]
  exact upToStar?_append h.ne_nil (fun c mem => ⟨(h.other c mem).1, (h.other c mem).2.2⟩) right last

/-- **Italic text** between underscores, with no word around it. -/
theorem find?_underscoreRule (first : (before.map isWordChar).getD false = false)
    (last : (after.head?.map isWordChar).getD false = false) :
    underscoreRule.find? before ('_' :: (inner ++ '_' :: after)) = some (inner, after) := by
  have all : ∀ c ∈ inner, decide (c ≠ '_') = true := fun c mem => decide_eq_true (h.other c mem).2.1
  have stop : decide ('_' ≠ '_') = false := by decide
  show findUnderscore? before ('_' :: (inner ++ '_' :: after)) = some (inner, after)
  rw [findUnderscore?, if_neg (by simp [first])]
  simp only [List.takeWhile_append_of_pos all, List.dropWhile_append_of_pos all]
  rw [List.takeWhile_cons_of_neg (by simp), List.dropWhile_cons_of_neg (by simp), List.append_nil]
  simp only [List.isEmpty_iff, h.ne_nil, last, Bool.false_eq_true, or_self, if_false]

end

/-! ## Passed over -/

/-- What comes last in a list, or before it if it is empty. -/
theorem getLast?_cons_or {α : Type} (x : α) (xs : List α) (before : Option α) :
    (x :: xs).getLast?.or before = xs.getLast?.or (some x) := by
  rw [List.getLast?_cons]
  cases xs.getLast? <;> rfl

namespace EmphasisRule

variable (rule : EmphasisRule)

theorem apply_nil (before : Option Char) : rule.apply before [] = [] := by
  rw [apply]

/-- The rule holds only where its mark begins. -/
theorem find?_eq_none_of_not_mem {before : Option Char} {c : Char} {rest : List Char} (h : c ∉ rule.mark) :
    rule.find? before (c :: rest) = none := by
  cases found : rule.find? before (c :: rest) with
  | none => rfl
  | some pair =>
      have cut := rule.find?_eq found
      obtain ⟨m, ms, mark⟩ := List.exists_cons_of_ne_nil rule.mark_ne_nil
      rw [mark] at h cut
      exact absurd ((List.cons.inj cut).1 ▸ List.mem_cons_self) h

/-- **Text without the mark of a rule** is passed over, and its last character stands before what follows it. -/
theorem apply_append_eq {cs : List Char} (h : ∀ c ∈ cs, c ∉ rule.mark) (before : Option Char) (rest : List Char) :
    rule.apply before (cs ++ rest) = cs ++ rule.apply (cs.getLast?.or before) rest := by
  induction cs generalizing before with
  | nil => rfl
  | cons c cs ih =>
      obtain ⟨here, later⟩ := List.forall_mem_cons.mp h
      rw [List.cons_append, apply_of_not_found rule (rule.find?_eq_none_of_not_mem here), ih later,
        getLast?_cons_or, List.cons_append]

/-- Text without the mark of a rule is passed over, whatever follows it. -/
theorem apply_append_of_unmarked {cs : List Char} (h : ∀ c ∈ cs, c ∉ rule.mark) (before : Option Char)
    (rest : List Char) : ∃ before', rule.apply before (cs ++ rest) = cs ++ rule.apply before' rest :=
  ⟨_, rule.apply_append_eq h before rest⟩

theorem apply_eq_self_of_unmarked {cs : List Char} (h : ∀ c ∈ cs, c ∉ rule.mark) (before : Option Char) :
    rule.apply before cs = cs := by
  have passed := rule.apply_append_eq h before []
  rwa [List.append_nil, apply_nil, List.append_nil] at passed

end EmphasisRule

end SlidePress.Inline
