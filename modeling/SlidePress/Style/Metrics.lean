/-!
# `SlidePress.Style.Metrics` — the widths of the characters of the standard fonts

A text is as wide as its characters together. The standard fonts need no file, and the widths of their characters are
known for ASCII and for a few characters beyond; all other characters count as equally wide.
-/

namespace SlidePress

/-- The widths of the characters of a font, in thousandths of its size: the characters from the space to the tilde in
order, some others, and one width for all the rest. -/
structure Metrics where
  ascii : List Nat
  others : List (Char × Nat)
  rest : Nat
deriving DecidableEq, Repr

/-- The width of a character. -/
def Metrics.width (m : Metrics) (c : Char) : Nat :=
  match m.others.lookup c with
  | some w => w
  | none => if 32 ≤ c.toNat then (m.ascii[c.toNat - 32]?).getD m.rest else m.rest

/-- The width of a text: the widths of its characters, times the size. -/
def Metrics.textWidth (m : Metrics) (size : Float) (text : String) : Float :=
  let units : Nat := (text.toList.map m.width).foldl (· + ·) 0
  Float.ofNat units * 0.001 * size

/-- The characters beyond the tilde whose widths are known, with their widths. -/
def otherWidths (ws : List Nat) : List (Char × Nat) := ['·', '•', 'é', 'ñ', 'ü'].zip ws

/-- The widths of an upright sans-serif font. -/
def sansMetrics : Metrics where
  ascii :=
    [
      278, 278, 355, 556, 556, 889, 667, 191, 333, 333, 389, 584, 278, 333, 278, 278, 556, 556, 556, 556, 556, 556,
      556, 556, 556, 556, 278, 278, 584, 584, 584, 556, 1015, 667, 667, 722, 722, 667, 611, 778, 722, 278, 500, 667,
      556, 833, 722, 778, 667, 778, 722, 667, 611, 722, 667, 944, 667, 667, 611, 278, 278, 278, 469, 556, 333, 556,
      556, 500, 556, 556, 278, 556, 556, 222, 222, 500, 222, 833, 556, 556, 556, 556, 333, 500, 278, 556, 500, 722,
      500, 500, 500, 334, 260, 334, 584
    ]
  others := otherWidths [278, 350, 556, 556, 556]
  rest := 278

/-- The widths of a bold sans-serif font. -/
def boldSansMetrics : Metrics where
  ascii :=
    [
      278, 333, 474, 556, 556, 889, 722, 238, 333, 333, 389, 584, 278, 333, 278, 278, 556, 556, 556, 556, 556, 556,
      556, 556, 556, 556, 333, 333, 584, 584, 584, 611, 975, 722, 722, 722, 722, 667, 611, 778, 722, 278, 556, 722,
      611, 833, 722, 778, 667, 778, 722, 667, 611, 722, 667, 944, 667, 667, 611, 333, 278, 333, 584, 556, 333, 556,
      611, 556, 611, 556, 333, 611, 611, 278, 278, 556, 278, 889, 611, 611, 611, 611, 389, 556, 333, 611, 556, 778,
      556, 556, 500, 389, 280, 389, 584
    ]
  others := otherWidths [278, 350, 556, 611, 611]
  rest := 278

/-- The widths of an upright serif font. -/
def serifMetrics : Metrics where
  ascii :=
    [
      250, 333, 408, 500, 500, 833, 778, 180, 333, 333, 500, 564, 250, 333, 250, 278, 500, 500, 500, 500, 500, 500,
      500, 500, 500, 500, 278, 278, 564, 564, 564, 444, 921, 722, 667, 667, 722, 611, 556, 722, 722, 333, 389, 722,
      611, 889, 722, 722, 556, 722, 667, 556, 611, 722, 722, 944, 722, 722, 611, 333, 278, 333, 469, 500, 333, 444,
      500, 444, 500, 444, 333, 500, 500, 278, 278, 500, 278, 778, 500, 500, 500, 500, 333, 389, 278, 500, 500, 722,
      500, 500, 444, 480, 200, 480, 541
    ]
  others := otherWidths [250, 350, 444, 500, 500]
  rest := 250

/-- The widths of an italic serif font. -/
def italicSerifMetrics : Metrics where
  ascii :=
    [
      250, 333, 420, 500, 500, 833, 778, 214, 333, 333, 500, 675, 250, 333, 250, 278, 500, 500, 500, 500, 500, 500,
      500, 500, 500, 500, 333, 333, 675, 675, 675, 500, 920, 611, 611, 667, 722, 611, 611, 722, 722, 333, 444, 667,
      556, 833, 667, 722, 611, 722, 611, 500, 556, 722, 611, 833, 611, 556, 556, 389, 278, 389, 422, 500, 333, 500,
      500, 444, 500, 444, 278, 500, 500, 278, 278, 444, 278, 722, 500, 500, 500, 500, 389, 389, 278, 500, 444, 667,
      444, 444, 389, 400, 275, 400, 541
    ]
  others := otherWidths [250, 350, 444, 500, 500]
  rest := 250

/-- The widths of a font whose characters are all equally wide. -/
def monospaceMetrics : Metrics := ⟨[], [], 600⟩

/-- The fonts that need no file, with their widths. -/
def standardFonts : List (String × Metrics) :=
  [("Helvetica", sansMetrics), ("Helvetica-Bold", boldSansMetrics), ("Helvetica-Oblique", sansMetrics),
    ("Helvetica-BoldOblique", boldSansMetrics), ("Courier", monospaceMetrics), ("Courier-Bold", monospaceMetrics),
    ("Courier-Oblique", monospaceMetrics), ("Courier-BoldOblique", monospaceMetrics), ("Times-Roman", serifMetrics),
    ("Times-Bold", serifMetrics), ("Times-Italic", italicSerifMetrics), ("Times-BoldItalic", italicSerifMetrics),
    ("Symbol", monospaceMetrics), ("ZapfDingbats", monospaceMetrics)]

/-- Whether a font needs no file. -/
def isStandardFont (name : String) : Bool := standardFonts.any fun font => font.1 = name

/-- The font files that are always found. -/
def fontFiles : List String := ["Vera.ttf", "VeraBd.ttf"]

end SlidePress
