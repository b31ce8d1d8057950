import SlidePress.Decimal.Whole

/-!
# `SlidePress.Footer.PageLabel` — page labels and the box they share

A page is labelled with its number and the number of all pages. All labels are set in boxes of one width, that of the
widest label, so that what stands beside the box stands at the same place on every page. The widest label is known
only once the number of pages is.
-/

namespace SlidePress

/-- The number of pages of a finished layout. -/
structure PageCount where
  total : Nat
  positive : 1 ≤ total
deriving DecidableEq, Repr

/-- A number that counts no pages. -/
structure NoPages where
  total : Int
deriving DecidableEq, Repr

/-- What is said of a number that counts no pages. -/
def NoPages.message (e : NoPages) : String := s!"page count must be positive, got {Decimal.wholeText e.total}"

/-- A number as a page count, if it is positive. -/
def PageCount.ofInt (n : Int) : Except NoPages PageCount :=
  if h : 1 ≤ n then .ok ⟨n.toNat, by omega⟩ else .error ⟨n⟩

/-- The label of a page: its number, a slash, and the number of all pages. -/
def pageLabel (current total : Int) : String := Decimal.wholeText current ++ "/" ++ Decimal.wholeText total

/-- The label of a page among as many as were counted. -/
def PageCount.label (count : PageCount) (current : Int) : String := pageLabel current count.total

/-- The labels of all pages, in order. -/
def PageCount.labels (count : PageCount) : List String :=
  (List.range count.total).map fun (i : Nat) => count.label ((i : Int) + 1)

/-- The greatest of a width and some others; of equal ones the first. -/
def widest {α : Type} [LT α] [DecidableLT α] (best : α) : List α → α
  | [] => best
  | w :: ws => widest (if best < w then w else best) ws

/-- The width of the widest label. The labels are measured in order, and the first that cannot be measured stops it. -/
def maxLabelWidth {ε α : Type} [LT α] [DecidableLT α] (count : PageCount) (measure : String → Except ε α) :
    Except ε α := do
  let first ← measure (count.label 1)
  let others ← (count.labels.drop 1).mapM measure
  return widest first others

/-- A page count and the width of the boxes that its labels are set in. -/
structure FooterMetrics (α : Type) where
  count : PageCount
  labelWidth : α

/-- The footer metrics for a page count. -/
def FooterMetrics.ofCount {ε α : Type} [LT α] [DecidableLT α] (count : PageCount)
    (measure : String → Except ε α) : Except ε (FooterMetrics α) :=
  (maxLabelWidth count measure).map fun labelWidth => { count, labelWidth }

/-- Accepting a number as a page count keeps the number. -/
theorem PageCount.ofInt_total {n : Int} {count : PageCount} (h : ofInt n = .ok count) : (count.total : Int) = n := by
  unfold ofInt at h
  split at h
  · cases h
    exact Int.toNat_of_nonneg (by omega)
  · simp at h

end SlidePress
