import SlidePress.Proofs.Footer.Box
import SlidePress.Proofs.Text.Numeral
import Mathlib.Algebra.Order.Monoid.Unbundled.Basic

/-!
# `SlidePress.Proofs.Footer.LastLabel` — the widest label is the last one

The box of the page labels is as wide as the widest of them, and all labels are measured to find it. Where a text is as
wide as its characters together and all digits are of one width, the last label is the widest, whatever the number of
pages: the labels differ only in the digits of their page, and no page has more of them than the last.

Nothing but the order is used of the sum. Widths are added from the left, an addition that keeps the order is enough,
and it need not be associative, so sums that are rounded after every character are covered too.
-/

namespace SlidePress

/-- The sum of the widths of some characters, from the left, on top of what stands before them. -/
def sumFrom {α : Type} [Add α] (width : Char → α) (before : α) (cs : List Char) : α :=
  cs.foldl (fun sum c => sum + width c) before

/-- The width of a text that is as wide as its characters together. -/
def summedWidth {α : Type} [Add α] [Zero α] (width : Char → α) (text : String) : α := sumFrom width 0 text.toList

/-! ## Digits of numbers -/

/-- **A greater number has as many digits** or more. -/
theorem length_toDigits_mono {m n : Nat} (h : m ≤ n) : (Nat.toDigits 10 m).length ≤ (Nat.toDigits 10 n).length := by
  have some_ : 0 < (Nat.toDigits 10 n).length := List.length_pos_iff.mpr Nat.toDigits_ne_nil
  have bounded : n < 10 ^ (Nat.toDigits 10 n).length :=
    (Nat.length_toDigits_le_iff (by decide) some_).mp (Nat.le_refl _)
  exact (Nat.length_toDigits_le_iff (by decide) some_).mpr (Nat.lt_of_le_of_lt h bounded)

theorem toList_label (count : PageCount) (page : Nat) :
    (count.label page).toList = Nat.toDigits 10 page ++ '/' :: Nat.toDigits 10 count.total := by
  simp [PageCount.label, pageLabel, Decimal.wholeText, Decimal.wholeChars_natCast]

/-! ## Sums of widths -/

section

variable {α : Type} [AddZeroClass α] [LinearOrder α] {width : Char → α} {a b : α}

theorem sum_mono [AddRightMono α] (h : a ≤ b) (cs : List Char) : sumFrom width a cs ≤ sumFrom width b cs := by
  induction cs generalizing a b with
  | nil => exact h
  | cons c cs ih => exact ih (add_le_add_left h (width c))

variable [AddLeftMono α] (nonneg : 0 ≤ width '0') (alike : ∀ c : Char, c.isDigit = true → width c = width '0')

include nonneg alike in
theorem le_sum_digits {ds : List Char} (digits : ∀ d ∈ ds, d.isDigit = true) : a ≤ sumFrom width a ds := by
  induction ds generalizing a with
  | nil => exact le_refl a
  | cons d ds ih =>
      have wider : a ≤ a + width d := by
        rw [alike d (digits d List.mem_cons_self)]
        exact le_add_of_nonneg_right nonneg
      exact le_trans wider (ih fun d mem => digits d (List.mem_cons_of_mem _ mem))

include nonneg alike in
/-- **As many digits or more are as wide** or wider, whatever digits they are. -/
theorem sum_digits_le {cs ds : List Char} (hcs : ∀ c ∈ cs, c.isDigit = true) (hds : ∀ d ∈ ds, d.isDigit = true)
    (fewer : cs.length ≤ ds.length) : sumFrom width a cs ≤ sumFrom width a ds := by
  induction cs generalizing ds a with
  | nil => exact le_sum_digits nonneg alike hds
  | cons c cs ih =>
      cases ds with
      | nil => exact absurd fewer (Nat.not_succ_le_zero _)
      | cons d ds =>
          have same : width c = width d := by
            rw [alike c (hcs c List.mem_cons_self), alike d (hds d List.mem_cons_self)]
          calc sumFrom width a (c :: cs) = sumFrom width (a + width d) cs := by rw [← same]; rfl
            _ ≤ sumFrom width (a + width d) ds :=
              ih (fun c mem => hcs c (List.mem_cons_of_mem _ mem)) (fun d mem => hds d (List.mem_cons_of_mem _ mem))
                (Nat.le_of_succ_le_succ fewer)
            _ = sumFrom width a (d :: ds) := rfl

variable [AddRightMono α] {ε : Type}

include nonneg alike in
/-- **No label is wider than the last.** -/
theorem summedWidth_label_le {count : PageCount} {page : Nat} (inside : page ≤ count.total) :
    summedWidth width (count.label page) ≤ summedWidth width (count.label count.total) := by
  have fewer := length_toDigits_mono inside
  have digits : sumFrom width 0 (Nat.toDigits 10 page) ≤ sumFrom width 0 (Nat.toDigits 10 count.total) :=
    sum_digits_le nonneg alike (fun _ => Text.ascii_of_mem_toDigits) (fun _ => Text.ascii_of_mem_toDigits) fewer
  have label : ∀ page : Nat, summedWidth width (count.label page) =
      sumFrom width (sumFrom width 0 (Nat.toDigits 10 page)) ('/' :: Nat.toDigits 10 count.total) := by
    intro page
    rw [summedWidth, toList_label]
    exact List.foldl_append
  rw [label, label]
  exact sum_mono digits _

/-- **The widest label is the last**, `N/N`, for every number `N` of pages: where a text is as wide as its characters
together, and all digits have one width that is not negative, measuring every label gives what measuring the last one
does. The slash may have any width. -/
theorem maxLabelWidth_eq_last (count : PageCount) {measure : String → Except ε α}
    (additive : ∀ text, measure text = .ok (summedWidth width text)) (nonneg : 0 ≤ width '0')
    (alike : ∀ c : Char, c.isDigit = true → width c = width '0') :
    count.label count.total = toString count.total ++ "/" ++ toString count.total ∧
      maxLabelWidth count measure = measure (count.label count.total) := by
  refine ⟨label_eq count (Int.natCast_nonneg _), ?_⟩
  have measurable : ∀ label ∈ count.labels, ∃ width, measure label = .ok width := fun label _ => ⟨_, additive label⟩
  obtain ⟨boxWidth, found⟩ := exists_maxLabelWidth measurable
  obtain ⟨bounded, label, isLabel, measured⟩ := maxLabelWidth_bounds found
  have positive := count.positive
  have last : summedWidth width (count.label count.total) ≤ boxWidth := by
    obtain ⟨lastWidth, isWidth, narrower⟩ :=
      bounded _ (mem_labels.mpr ⟨count.total, by omega, Int.le_refl _, rfl⟩)
    rw [additive] at isWidth
    rw [Except.ok.inj isWidth]
    exact narrower
  have widest : boxWidth ≤ summedWidth width (count.label count.total) := by
    obtain ⟨page, first, inside, rfl⟩ := mem_labels.mp isLabel
    obtain ⟨page, rfl⟩ := Int.eq_ofNat_of_zero_le (show 0 ≤ page by omega)
    rw [additive] at measured
    rw [← Except.ok.inj measured]
    exact summedWidth_label_le nonneg alike (by omega)
  rw [found, additive, le_antisymm widest last]

end

/-- The widths of the characters of a label in thousandths, digits and a slash. -/
def labelGlyph (c : Char) : ℤ := if c.isDigit then 556 else 278

/-- A hundred pages, so that there are labels of three lengths. -/
theorem maxLabelWidth_eq_last_of_hundred :
    let measure : String → Except Unit ℤ := fun text => .ok (summedWidth labelGlyph text)
    let count : PageCount := ⟨100, by decide⟩
    (∀ text, measure text = .ok (summedWidth labelGlyph text)) ∧ 0 ≤ labelGlyph '0' ∧
      (∀ c : Char, c.isDigit = true → labelGlyph c = labelGlyph '0') ∧ count.label count.total = "100/100" ∧
        maxLabelWidth count measure = .ok 3614 := by
  intro measure count
  have additive : ∀ text, measure text = .ok (summedWidth labelGlyph text) := fun _ => rfl
  have nonneg : 0 ≤ labelGlyph '0' := by decide
  have alike : ∀ c : Char, c.isDigit = true → labelGlyph c = labelGlyph '0' := fun _ digit => if_pos digit
  obtain ⟨last, widest⟩ := maxLabelWidth_eq_last count additive nonneg alike
  have hundred : count.label count.total = "100/100" := last.trans (by decide +kernel)
  refine ⟨additive, nonneg, alike, hundred, ?_⟩
  rw [widest, hundred]
  decide +kernel

end SlidePress
