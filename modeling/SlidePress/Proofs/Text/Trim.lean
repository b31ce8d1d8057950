import SlidePress.Text.Blank
import Mathlib.Data.List.DropRight
import Mathlib.Data.List.TakeWhile

/-!
# `SlidePress.Proofs.Text.Trim` — texts that trimming leaves alone

Trimming looks only at the two ends of a text. So a text stays as it is exactly if it has no white space at its ends,
and what stands in its middle does not matter: the lemmas here say this end by end, and for texts put together.
-/

namespace SlidePress.Text

/-! ## The left end -/

/-- Nothing is cut before a character that is not white space. -/
theorem trimLeft_cons_of_not_blank {c : Char} (h : isBlank c = false) (cs : List Char) :
    trimLeft (c :: cs) = c :: cs := by
  rw [trimLeft, List.dropWhile_cons_of_neg (by simp [h])]

theorem trimLeft_cons_of_blank {c : Char} (h : isBlank c = true) (cs : List Char) : trimLeft (c :: cs) = trimLeft cs :=
  List.dropWhile_cons_of_pos h

theorem trimLeft_append_of_blank {front : List Char} (blank : ∀ c ∈ front, isBlank c = true) (cs : List Char) :
    trimLeft (front ++ cs) = trimLeft cs :=
  List.dropWhile_append_of_pos blank

/-- **Nothing is cut from the left end** of a text exactly if it does not begin with white space. -/
theorem trimLeft_eq_self_iff {cs : List Char} : trimLeft cs = cs ↔ ∀ c ∈ cs.head?, isBlank c = false := by
  cases cs with
  | nil => simp [trimLeft]
  | cons c cs =>
      rw [trimLeft, List.dropWhile_eq_self_iff]
      simp

/-- A text is the white space at its left end and what is left of it. -/
theorem exists_append_trimLeft (cs : List Char) :
    ∃ front, (∀ c ∈ front, isBlank c = true) ∧ cs = front ++ trimLeft cs :=
  ⟨cs.takeWhile isBlank, fun _ mem => List.mem_takeWhile_imp mem, List.takeWhile_append_dropWhile.symm⟩

/-! ## The right end -/

theorem trimRight_eq_rdropWhile (cs : List Char) : trimRight cs = cs.rdropWhile isBlank := rfl

theorem trimRight_concat_of_blank {c : Char} (h : isBlank c = true) (cs : List Char) :
    trimRight (cs ++ [c]) = trimRight cs := by
  rw [trimRight_eq_rdropWhile, List.rdropWhile_concat_pos _ _ _ h]
  rfl

theorem trimRight_trimRight (cs : List Char) : trimRight (trimRight cs) = trimRight cs :=
  List.rdropWhile_idempotent isBlank cs

/-- The right end of two texts put together is that of the second, if nothing is cut from it. -/
theorem trimRight_append_eq_self {b : List Char} (a : List Char) (ne : b ≠ []) (h : trimRight b = b) :
    trimRight (a ++ b) = a ++ b := by
  rw [trimRight_eq_rdropWhile, List.rdropWhile_eq_self_iff] at h ⊢
  intro _
  rw [List.getLast_append_of_ne_nil _ ne]
  exact h ne

/-- **Nothing is cut from the right end** of a text exactly if it does not end in white space. -/
theorem trimRight_eq_self_iff {cs : List Char} : trimRight cs = cs ↔ ∀ c ∈ cs.getLast?, isBlank c = false := by
  rw [trimRight, List.reverse_eq_iff]
  have backwards := @trimLeft_eq_self_iff cs.reverse
  rw [List.head?_reverse] at backwards
  exact backwards

/-- The right end of two texts put together is that of the second, if not all of it is white space. -/
theorem trimRight_append {b : List Char} (a : List Char) (h : ∃ c ∈ b, isBlank c = false) :
    trimRight (a ++ b) = a ++ trimRight b := by
  have some_ : (b.reverse.dropWhile isBlank).isEmpty = false := by
    obtain ⟨c, mem, other⟩ := h
    rw [Bool.eq_false_iff]
    intro empty
    rw [List.isEmpty_iff, List.dropWhile_eq_nil_iff] at empty
    exact absurd (empty c (List.mem_reverse.mpr mem)) (by simp [other])
  rw [trimRight, List.reverse_append, List.dropWhile_append, some_, if_neg Bool.false_ne_true, List.reverse_append,
    List.reverse_reverse]
  rfl

theorem trimRight_subset (cs : List Char) : trimRight cs ⊆ cs := (List.rdropWhile_prefix isBlank (l := cs)).subset

/-- The end of a text has no white space at its right end if the text has none. -/
theorem trimRight_of_suffix {a b : List Char} (suffix : b <:+ a) (h : trimRight a = a) : trimRight b = b := by
  rw [trimRight_eq_self_iff] at h ⊢
  intro c last
  obtain ⟨front, rfl⟩ := suffix
  exact h c (by rw [List.getLast?_append, Option.mem_def.mp last, Option.some_or]; rfl)

/-- A text is what is left of it from the right and more behind that. -/
theorem exists_trimRight_append (cs : List Char) : ∃ tail, cs = trimRight cs ++ tail :=
  (List.rdropWhile_prefix isBlank (l := cs)).imp fun _ h => h.symm

/-! ## Both ends -/

theorem trimRight_eq_self {cs : List Char} (h : trim cs = cs) : trimRight cs = cs := by
  have shorter : (trimRight cs).length ≤ cs.length := (List.rdropWhile_prefix isBlank (l := cs)).length_le
  have longer : cs.length ≤ (trimRight cs).length := by
    have suffix := (List.dropWhile_suffix isBlank (l := trimRight cs)).length_le
    rwa [show (trimRight cs).dropWhile isBlank = cs from h] at suffix
  exact (List.rdropWhile_prefix isBlank (l := cs)).eq_of_length (Nat.le_antisymm shorter longer)

theorem trimLeft_eq_self {cs : List Char} (h : trim cs = cs) : trimLeft cs = cs := by
  have both : trimLeft (trimRight cs) = cs := h
  rwa [trimRight_eq_self h] at both

/-- White space cut from the right end is cut by trimming anyway. -/
theorem trim_trimRight (cs : List Char) : trim (trimRight cs) = trim cs := by
  rw [trim, trim, trimRight_trimRight]

/-- A trimmed text that is not empty begins with a character that is not white space. -/
theorem isBlank_head_of_trim {c : Char} {cs : List Char} (h : trim (c :: cs) = c :: cs) : isBlank c = false := by
  have left : (c :: cs).dropWhile isBlank = c :: cs := trimLeft_eq_self h
  have head := List.dropWhile_eq_self_iff.mp left (by simp)
  simpa using head

/-- A text is trimmed if nothing is cut from its right end and it begins with no white space. -/
theorem trim_eq_self {c : Char} {cs : List Char} (left : isBlank c = false)
    (right : trimRight (c :: cs) = c :: cs) : trim (c :: cs) = c :: cs := by
  rw [trim, right, trimLeft_cons_of_not_blank left]

/-- **A text is trimmed** exactly if it neither begins nor ends with white space. -/
theorem trim_eq_self_iff {cs : List Char} :
    trim cs = cs ↔ (∀ c ∈ cs.head?, isBlank c = false) ∧ ∀ c ∈ cs.getLast?, isBlank c = false := by
  rw [← trimLeft_eq_self_iff, ← trimRight_eq_self_iff]
  constructor
  · intro h
    exact ⟨trimLeft_eq_self h, trimRight_eq_self h⟩
  · rintro ⟨left, right⟩
    rw [trim, right, left]

theorem trim_subset (cs : List Char) : trim cs ⊆ cs :=
  List.Subset.trans (List.dropWhile_sublist isBlank).subset (trimRight_subset cs)

/-- **What is trimmed is trimmed.** -/
theorem trim_trim (cs : List Char) : trim (trim cs) = trim cs := by
  have right : trimRight (trim cs) = trim cs :=
    trimRight_of_suffix (List.dropWhile_suffix isBlank) (trimRight_trimRight cs)
  rw [trim, right, trim]
  exact List.dropWhile_idempotent isBlank _

/-- A text without white space at its right end is empty if trimming leaves nothing of it. -/
theorem eq_nil_of_trim_eq_nil {cs : List Char} (right : trimRight cs = cs) (h : trim cs = []) : cs = [] := by
  have blank : ∀ c ∈ cs, isBlank c = true := by
    rw [trim, right] at h
    exact List.dropWhile_eq_nil_iff.mp h
  by_contra ne
  have last := trimRight_eq_self_iff.mp right (cs.getLast ne) (List.getLast?_eq_some_getLast ne)
  exact absurd (blank _ (List.getLast_mem ne)) (by simp [last])

end SlidePress.Text
