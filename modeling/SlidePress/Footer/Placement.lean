import SlidePress.Footer.PageLabel

/-!
# `SlidePress.Footer.Placement` — where the footer of a page stands

The page label stands at the right end of its box, whose right edge is the padding away from the edge of the page. The
date ends a gap before the box. The arithmetic is the same for doubles and for exact numbers.
-/

namespace SlidePress

/-- Where the footer of one page was drawn. -/
structure FooterPlacement (α : Type) where
  page : Int
  label : String
  /-- The width of the box of the page label. -/
  boxWidth : α
  /-- The left edge of that box. -/
  labelX : α
  /-- The left end of the date. -/
  dateX : α
deriving DecidableEq, Repr

/-- The edges that a footer is aligned to. -/
structure FooterFrame (α : Type) where
  /-- The right edge of the box, where the page label ends. -/
  right : α
  /-- The left edge of the box. -/
  labelX : α
  /-- Where the date ends. -/
  dateRight : α

/-- The edges for a page of some width, with a padding at its edge and a gap beside the box. -/
def FooterFrame.of {α : Type} [Sub α] (pageWidth padding gap boxWidth : α) : FooterFrame α :=
  let right := pageWidth - padding
  let labelX := right - boxWidth
  { right, labelX, dateRight := labelX - gap }

/-- Where the date begins: it ends at the edge, and without a date nothing is measured. -/
def dateStart {ε α : Type} [Sub α] (frame : FooterFrame α) (date : String) (measure : String → Except ε α) :
    Except ε α :=
  if date.isEmpty then .ok frame.dateRight else (measure date).map fun width => frame.dateRight - width

/-- The placement of a footer; a page without a label keeps its box. -/
def placeFooter {ε α : Type} [Sub α] (pageWidth padding gap boxWidth : α) (date : String)
    (measure : String → Except ε α) (page : Int) (label : Option String) : Except ε (FooterPlacement α) :=
  let frame := FooterFrame.of pageWidth padding gap boxWidth
  (dateStart frame date measure).map fun dateX =>
    { page, label := label.getD "", boxWidth, labelX := frame.labelX, dateX }

end SlidePress
