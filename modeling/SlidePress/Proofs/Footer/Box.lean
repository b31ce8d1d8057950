import SlidePress.Footer.Placement
import SlidePress.Proofs.Outcome
import Mathlib.Algebra.Order.Group.Basic
import Mathlib.Algebra.Order.Ring.Rat

/-!
# `SlidePress.Proofs.Footer.Box` — the box of the page labels

All labels of a document are set in boxes of one width. In exact arithmetic that width is right: every label fits into
its box, and one of them fills it. The box ends where the labels end, so it begins at the same place on every page, and
so does the date, which ends a gap before it.

Nothing is known about the measure, so the label that fills the box may stand on any page. It is enough that the width
is that of some label (`widest_mem`) and that no label is wider (`le_widest`); the order of the search does not matter.
-/

namespace SlidePress

/-! ## The greatest width -/

section

variable {α : Type} [LinearOrder α]

theorem widest_mem (best : α) (widths : List α) : widest best widths ∈ best :: widths := by
  induction widths generalizing best with
  | nil => exact List.mem_singleton_self best
  | cons width widths ih =>
      rw [widest]
      have found := ih (if best < width then width else best)
      split at found
      · next wider =>
          rw [if_pos wider]
          exact List.mem_cons_of_mem best found
      · next noWider =>
          rw [if_neg noWider]
          rcases List.mem_cons.mp found with same | later
          · rw [same]
            exact List.mem_cons_self
          · exact List.mem_cons_of_mem best (List.mem_cons_of_mem width later)

/-- **No width is greater** than the greatest. -/
theorem le_widest {best width : α} {widths : List α} (mem : width ∈ best :: widths) : width ≤ widest best widths := by
  induction widths generalizing best width with
  | nil => exact le_of_eq (List.mem_singleton.mp mem)
  | cons next widths ih =>
      rw [widest]
      -- the better of the first two is still looked at, and both are at most that
      have first : (if best < next then next else best) ≤ widest (if best < next then next else best) widths :=
        ih List.mem_cons_self
      have better : best ≤ (if best < next then next else best) ∧ next ≤ (if best < next then next else best) := by
        split
        · next wider => exact ⟨le_of_lt wider, le_refl next⟩
        · next noWider => exact ⟨le_refl best, not_lt.mp noWider⟩
      rcases List.mem_cons.mp mem with rfl | later
      · exact le_trans better.1 first
      · rcases List.mem_cons.mp later with rfl | behind
        · exact le_trans better.2 first
        · exact ih (List.mem_cons_of_mem _ behind)

end

/-! ## The labels of a document -/

/-- **The labels of a document** are those of its pages. -/
theorem mem_labels {count : PageCount} {label : String} :
    label ∈ count.labels ↔ ∃ page : Int, 1 ≤ page ∧ page ≤ count.total ∧ label = count.label page := by
  rw [PageCount.labels, List.mem_map]
  constructor
  · rintro ⟨i, inside, rfl⟩
    rw [List.mem_range] at inside
    exact ⟨(i : Int) + 1, by omega, by omega, rfl⟩
  · rintro ⟨page, first, last, rfl⟩
    refine ⟨(page - 1).toNat, ?_, ?_⟩
    · rw [List.mem_range]
      omega
    · rw [Int.toNat_of_nonneg (by omega), Int.sub_add_cancel]

/-- **The label of a page** is its number, a slash, and the number of all pages, both in decimal. -/
theorem label_eq (count : PageCount) {page : Int} (positive : 0 ≤ page) :
    count.label page = toString page ++ "/" ++ toString count.total := by
  obtain ⟨page, rfl⟩ := Int.eq_ofNat_of_zero_le positive
  rw [PageCount.label, pageLabel, Decimal.wholeText, Decimal.wholeText, Decimal.wholeChars_natCast,
    Decimal.wholeChars_natCast]
  rfl

theorem labels_eq_cons (count : PageCount) : count.labels = count.label 1 :: count.labels.drop 1 := by
  obtain ⟨n, positive⟩ := count
  obtain ⟨n, rfl⟩ : ∃ m, n = m + 1 := ⟨n - 1, by omega⟩
  rw [PageCount.labels, List.range_succ_eq_map]
  rfl

/-- Labels that can all be measured have a widest one, also in doubles, which are not ordered. -/
theorem exists_maxLabelWidth {ε α : Type} [LT α] [DecidableLT α] {count : PageCount} {measure : String → Except ε α}
    (measured : ∀ label ∈ count.labels, ∃ width, measure label = .ok width) :
    ∃ boxWidth, maxLabelWidth count measure = .ok boxWidth := by
  rw [labels_eq_cons] at measured
  obtain ⟨first, hfirst⟩ := measured _ List.mem_cons_self
  obtain ⟨others, hothers⟩ := exists_mapM_eq_ok fun label mem => measured label (List.mem_cons_of_mem _ mem)
  refine ⟨widest first others, ?_⟩
  rw [maxLabelWidth, hfirst]
  show ((count.labels.drop 1).mapM measure >>= _) = _
  rw [hothers]
  rfl

section

variable {ε α : Type} [LinearOrder α] {count : PageCount} {measure : String → Except ε α}

/-- **The width of the widest label** is at least that of every label, and that of some label. -/
theorem maxLabelWidth_bounds {boxWidth : α} (found : maxLabelWidth count measure = .ok boxWidth) :
    (∀ label ∈ count.labels, ∃ width, measure label = .ok width ∧ width ≤ boxWidth) ∧
      ∃ label ∈ count.labels, measure label = .ok boxWidth := by
  obtain ⟨widths, measured, rfl⟩ :
      ∃ widths : α × List α, count.labels.mapM measure = .ok (widths.1 :: widths.2) ∧
        boxWidth = widest widths.1 widths.2 := by
    rw [labels_eq_cons, List.mapM_cons]
    unfold maxLabelWidth at found
    cases first : measure (count.label 1) with
    | error e =>
        rw [first] at found
        cases found
    | ok width =>
        cases others : (count.labels.drop 1).mapM measure with
        | error e =>
            rw [first, others] at found
            cases found
        | ok widths =>
            rw [first, others] at found
            exact ⟨(width, widths), rfl, (Except.ok.inj found).symm⟩
  constructor
  · intro label mem
    obtain ⟨width, inside, isWidth⟩ := exists_result_of_mem measured mem
    exact ⟨width, isWidth, le_widest inside⟩
  · exact exists_of_mem_mapM measured (widest_mem _ _)

end

/-! ## The footers of a document -/

/-- **Where a footer stands** does not depend on its page: all footers with boxes of one width have their box and their
date at the same place. -/
theorem placeFooter_eq {ε α : Type} [Sub α] {pageWidth padding gap boxWidth dateX : α} {date : String}
    {measure : String → Except ε α}
    (dated : dateStart (FooterFrame.of pageWidth padding gap boxWidth) date measure = .ok dateX) (page : Int)
    (label : String) :
    placeFooter pageWidth padding gap boxWidth date measure page (some label) =
      .ok { page, label, boxWidth, labelX := pageWidth - padding - boxWidth, dateX } := by
  unfold placeFooter
  simp only [dated]
  rfl

/-- **The footers of a document are aligned**: the page label ends at the padding, and the box that it is set in begins
at `labelX` and the date at `dateX` on every page. -/
structure FooterAligned {ε α : Type} [AddGroup α] [LinearOrder α] (count : PageCount) (measure : String → Except ε α)
    (pageWidth padding gap : α) (date : String) (boxWidth labelX dateX : α) : Prop where
  /-- The label of every page is its number, a slash, and the number of all pages. -/
  labelled : ∀ page : Int, 1 ≤ page → page ≤ count.total →
    count.label page = toString page ++ "/" ++ toString count.total
  /-- The footer of every page stands at the same place. -/
  placed : ∀ page : Int, 1 ≤ page → page ≤ count.total →
    placeFooter pageWidth padding gap boxWidth date measure page (some (count.label page)) =
      .ok { page, label := count.label page, boxWidth, labelX, dateX }
  /-- The box ends where the labels end. -/
  boxEnds : labelX + boxWidth = pageWidth - padding
  /-- No label begins before the box. -/
  fits : ∀ page : Int, 1 ≤ page → page ≤ count.total →
    ∃ width, measure (count.label page) = .ok width ∧ labelX ≤ pageWidth - padding - width
  /-- Some label begins with the box. -/
  filled : ∃ page : Int, 1 ≤ page ∧ page ≤ count.total ∧
    ∃ width, measure (count.label page) = .ok width ∧ labelX = pageWidth - padding - width
  /-- The date ends a gap before the box. -/
  dateEnds : date.isEmpty = false → ∃ width, measure date = .ok width ∧ dateX + width = labelX - gap
  /-- The date ends before the label of any page begins. -/
  apart : date.isEmpty = false → ∀ page : Int, 1 ≤ page → page ≤ count.total →
    ∃ dateWidth width, measure date = .ok dateWidth ∧ measure (count.label page) = .ok width ∧
      dateX + dateWidth < pageWidth - padding - width

/-- **The footers of a document are aligned**, in exact arithmetic and whatever the measure: on every page the label fits
into its box, on some page it fills it, the box and the date stand at the same place on all pages, and the date ends a
gap before the box. Labels and date have to be measurable. -/
theorem exists_footerAligned {ε α : Type} [AddCommGroup α] [LinearOrder α] [IsOrderedAddMonoid α] (count : PageCount)
    {measure : String → Except ε α} (pageWidth padding : α) {gap : α} (positive : 0 < gap) {date : String}
    (labels : ∀ label ∈ count.labels, ∃ width, measure label = .ok width)
    (dated : date.isEmpty = false → ∃ width, measure date = .ok width) :
    ∃ metrics labelX dateX, FooterMetrics.ofCount count measure = .ok metrics ∧ metrics.count = count ∧
      FooterAligned count measure pageWidth padding gap date metrics.labelWidth labelX dateX := by
  obtain ⟨boxWidth, found⟩ := exists_maxLabelWidth labels
  obtain ⟨bounded, widestLabel, isLabel, widestWidth⟩ := maxLabelWidth_bounds found
  let labelX := pageWidth - padding - boxWidth
  have fits : ∀ page : Int, 1 ≤ page → page ≤ count.total →
      ∃ width, measure (count.label page) = .ok width ∧ labelX ≤ pageWidth - padding - width := by
    intro page first last
    obtain ⟨width, measured, narrower⟩ := bounded _ (mem_labels.mpr ⟨page, first, last, rfl⟩)
    exact ⟨width, measured, sub_le_sub_left narrower _⟩
  have filled : ∃ page : Int, 1 ≤ page ∧ page ≤ count.total ∧
      ∃ width, measure (count.label page) = .ok width ∧ labelX = pageWidth - padding - width := by
    obtain ⟨page, first, last, rfl⟩ := mem_labels.mp isLabel
    exact ⟨page, first, last, boxWidth, widestWidth, rfl⟩
  have labelled : ∀ page : Int, 1 ≤ page → page ≤ count.total →
      count.label page = toString page ++ "/" ++ toString count.total := fun page first _ =>
    label_eq count (by omega)
  have boxEnds : labelX + boxWidth = pageWidth - padding := sub_add_cancel _ _
  have metrics : FooterMetrics.ofCount count measure = .ok { count, labelWidth := boxWidth } := by
    rw [FooterMetrics.ofCount, found]
    rfl
  cases empty : date.isEmpty with
  | true =>
      have starts : dateStart (FooterFrame.of pageWidth padding gap boxWidth) date measure = .ok (labelX - gap) :=
        if_pos empty
      refine ⟨_, labelX, labelX - gap, metrics, rfl, labelled, fun page _ _ => placeFooter_eq starts page _, boxEnds,
        fits, filled, ?_, ?_⟩
      · intro shown
        rw [empty] at shown
        cases shown
      · intro shown
        rw [empty] at shown
        cases shown
  | false =>
      obtain ⟨dateWidth, dateMeasured⟩ := dated empty
      have starts : dateStart (FooterFrame.of pageWidth padding gap boxWidth) date measure =
          .ok (labelX - gap - dateWidth) := by
        rw [dateStart, if_neg (by rw [empty]; exact Bool.false_ne_true), dateMeasured]
        rfl
      have dateEnds : labelX - gap - dateWidth + dateWidth = labelX - gap := sub_add_cancel _ _
      refine ⟨_, labelX, labelX - gap - dateWidth, metrics, rfl, labelled, fun page _ _ => placeFooter_eq starts page _,
        boxEnds, fits, filled, fun _ => ⟨dateWidth, dateMeasured, dateEnds⟩, ?_⟩
      intro _ page first last
      obtain ⟨width, measured, inBox⟩ := fits page first last
      refine ⟨dateWidth, width, dateMeasured, measured, ?_⟩
      calc labelX - gap - dateWidth + dateWidth = labelX - gap := dateEnds
        _ < labelX := sub_lt_self labelX positive
        _ ≤ pageWidth - padding - width := inBox

/-- Widths in which a one is narrow, so that the last of eleven labels is not the widest, and no width for an empty
text. -/
def narrowOnes (text : String) : Except Unit ℚ :=
  if text.isEmpty then .error () else .ok (text.toList.map fun c => if c = '1' then 1 / 2 else 1).sum

/-- Eleven pages and a date, where the widest label is not that of the last page. -/
theorem exists_footerAligned_of_narrow_ones :
    let count : PageCount := ⟨11, by decide⟩
    (0 : ℚ) < 8 ∧ (∀ label ∈ count.labels, ∃ width, narrowOnes label = .ok width) ∧
      ("May 2024".isEmpty = false → ∃ width, narrowOnes "May 2024" = .ok width) ∧
      ∃ metrics labelX dateX, FooterMetrics.ofCount count narrowOnes = .ok metrics ∧ metrics.count = count ∧
        FooterAligned count narrowOnes 455 10 8 "May 2024" metrics.labelWidth labelX dateX := by
  intro count
  have positive : (0 : ℚ) < 8 := by decide
  have labels : ∀ label ∈ count.labels, ∃ width, narrowOnes label = .ok width := by
    intro label mem
    have shown : ∀ label ∈ count.labels, label.isEmpty = false := by decide +kernel
    exact ⟨_, if_neg (by rw [shown label mem]; exact Bool.false_ne_true)⟩
  have dated : "May 2024".isEmpty = false → ∃ width, narrowOnes "May 2024" = .ok width := fun shown =>
    ⟨_, if_neg (by rw [shown]; exact Bool.false_ne_true)⟩
  exact ⟨positive, labels, dated, exists_footerAligned count 455 10 positive labels dated⟩

end SlidePress
