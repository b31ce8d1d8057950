import SlidePress.Proofs.Inline.Segment

/-!
# `SlidePress.Proofs.Inline.Nested` — emphasis in emphasis

Bold text is looked for first, and each time up to the nearest two asterisks. Where italic text stands in bold text, or
bold text in italic text, that is where the author ended it, unless the two end or begin together. There the author
writes three asterisks in a row, and the first two of them are taken for the bold text. That is right only where the
bold text is the inner one and ends first, or is the outer one and begins first. Otherwise the italic tags come to cross
the bold ones, and the text is kept as one whose emphasis overlaps.

To the rule for single asterisks all four cases are the same (`starRule_apply_solid`): two asterisks in solid text. They
differ in what the rule before it has made of the text.

## Contents
- `Solid`: texts without white space and without marks.
- `italicInBold`, `boldInItalic`: the two forms of emphasis in emphasis.
- `upToStars?_single`, `starRule_apply_solid`: past a single asterisk, and between two.
- `emphasize_italicInBold`, `emphasize_italicEndsBold`, `emphasize_boldInItalic`, `emphasize_boldBeginsItalic`: the four
  cases.
- `markup_of_noCode`: whether tags nest decides what becomes of a text without code.
- `markup_nested`: the markup of each case; `markup_not_nested`: not all nested emphasis is kept.
-/

namespace SlidePress.Inline

open Text

/-! ## Solid texts -/

/-- A text without white space, and without any character that means something in an authored text. -/
def Solid (cs : List Char) : Prop := ∀ c ∈ cs, c ∉ ['*', '_', '`', '\x00', '\n'] ∧ isBlank c = false

instance (cs : List Char) : Decidable (Solid cs) := List.decidableBAll _ cs

/-- Text between the tags of an emphasis. -/
def Emphasis.around (e : Emphasis) (cs : List Char) : List Char := e.openTag ++ cs ++ e.closeTag

theorem solid_nil : Solid [] := nofun

theorem solid_openTag (e : Emphasis) : Solid e.openTag := by
  cases e <;> decide

theorem solid_closeTag (e : Emphasis) : Solid e.closeTag := by
  cases e <;> decide

namespace Solid

variable {a b : List Char}

theorem append (ha : Solid a) (hb : Solid b) : Solid (a ++ b) := by
  intro c mem
  rcases List.mem_append.mp mem with left | right
  · exact ha c left
  · exact hb c right

theorem around (h : Solid a) (e : Emphasis) : Solid (e.around a) :=
  ((solid_openTag e).append h).append (solid_closeTag e)

theorem not_mem (h : Solid a) {c : Char} (sign : c ∈ ['*', '_', '`', '\x00', '\n']) : c ∉ a :=
  fun mem => (h c mem).1 sign

/-- **Escaping keeps a text solid.** -/
theorem escape (h : Solid a) : Solid (escape a) := by
  have letters : ∀ c ∈ markupAlphabet, c ∉ ['*', '_', '`', '\x00', '\n'] ∧ isBlank c = false :=
    List.all_iff_forall_prop.mp (by decide)
  intro c mem
  by_cases letter : c ∈ markupAlphabet
  · exact letters c letter
  · exact h c (mem_of_mem_escape letter mem)

theorem not_mem_mark (h : Solid a) {rule : EmphasisRule} (marks : rule.HasMarks) : ∀ c ∈ a, c ∉ rule.mark := by
  intro c mem mark
  rcases marks c mark with rfl | rfl
  · exact h.not_mem (by simp) mem
  · exact h.not_mem (by simp) mem

/-- A solid text can stand between marks, if there is any of it. -/
theorem unmarked (h : Solid a) (ne : a ≠ []) : Unmarked a where
  ne_nil := ne
  other c mem := by
    have solid := (h c mem).1
    simp only [List.mem_cons, List.not_mem_nil, or_false, not_or] at solid
    exact ⟨solid.1, solid.2.1, solid.2.2.2.2⟩
  trimmed := trim_eq_self_iff.mpr
    ⟨fun c first => (h c (List.mem_of_mem_head? first)).2, fun c last => (h c (List.mem_of_getLast? last)).2⟩

theorem head?_ne_star (h : Solid a) (ne : a ≠ []) (rest : List Char) : (a ++ rest).head? ≠ some '*' := by
  obtain ⟨c, cs, rfl⟩ := List.exists_cons_of_ne_nil ne
  intro same
  exact h.not_mem (c := '*') (by simp) (Option.some.inj same ▸ List.mem_cons_self)

end Solid

/-! ## Emphasis in emphasis, as it is written -/

/-- Italic text in bold text. -/
def italicInBold (x y z : List Char) : List Char := '*' :: '*' :: (x ++ '*' :: (y ++ '*' :: (z ++ ['*', '*'])))

/-- Bold text in italic text. -/
def boldInItalic (x y z : List Char) : List Char := '*' :: (x ++ '*' :: '*' :: (y ++ '*' :: '*' :: (z ++ ['*'])))

theorem escape_star (cs : List Char) : escape ('*' :: cs) = '*' :: escape cs := by
  rw [escape_eq_flatMap, escape_eq_flatMap]
  rfl

theorem escape_italicInBold (x y z : List Char) :
    escape (italicInBold x y z) = italicInBold (escape x) (escape y) (escape z) := by
  have nothing : escape [] = [] := rfl
  simp only [italicInBold, escape_append, escape_star, nothing]

theorem escape_boldInItalic (x y z : List Char) :
    escape (boldInItalic x y z) = boldInItalic (escape x) (escape y) (escape z) := by
  have nothing : escape [] = [] := rfl
  simp only [boldInItalic, escape_append, escape_star, nothing]

/-! ## One rule -/

section

variable {x y z : List Char} (hx : Solid x) (hy : Solid y) (hz : Solid z)

include hx hy in
/-- **Two asterisks are looked for past a single one** with solid text around it. -/
theorem upToStars?_single (ne : y ≠ []) (rest : List Char) :
    upToStars? (x ++ '*' :: (y ++ rest)) =
      (upToStars? (y ++ rest)).map fun found => (x ++ '*' :: found.1, found.2) := by
  have behind : ¬ ['*', '*'] <+: y ++ rest := by
    rintro ⟨after, same⟩
    exact hy.head?_ne_star ne rest (same ▸ rfl)
  have single : ¬ ['*', '*'] <+: '*' :: (y ++ rest) := by
    rintro ⟨after, same⟩
    exact hy.head?_ne_star ne rest ((List.cons.inj same).2 ▸ rfl)
  have passed : ∀ c ∈ x, c ≠ '*' ∧ c ≠ '\n' := by
    intro c mem
    constructor <;> (rintro rfl; exact hx.not_mem (by simp) mem)
  rw [upToStars?_run passed single, upToStars?_cons (by decide) behind, Option.map_map]
  rfl

include hx in
theorem upToStars?_solid (ne : x ≠ []) (after : List Char) :
    upToStars? (x ++ '*' :: '*' :: after) = some (x, after) :=
  upToStars?_append ne (fun c mem => ⟨((hx.unmarked ne).other c mem).1, ((hx.unmarked ne).other c mem).2.2⟩) after

include hx in
/-- A last asterisk behind solid text is left alone while two are looked for. -/
theorem boldRule_apply_last (before : Option Char) : boldRule.apply before (x ++ ['*']) = x ++ ['*'] := by
  have passed := hx.not_mem_mark boldRule_hasMarks
  rw [boldRule.apply_append_eq passed, boldRule.apply_of_not_found (find?_boldRule_single (by simp)), boldRule.apply_nil]

include hx hy hz in
/-- **Two single asterisks** in solid text, with something between them, are the marks of italic text. -/
theorem starRule_apply_solid (ne : y ≠ []) :
    starRule.apply none (x ++ '*' :: (y ++ '*' :: z)) = x ++ (Emphasis.italic.around y ++ z) := by
  have before : x.getLast?.or none ≠ some '*' := by
    rw [Option.or_none]
    intro last
    exact hx.not_mem (by simp) (List.mem_of_getLast? last)
  have behind : z.head? ≠ some '*' := by
    intro first
    exact hz.not_mem (by simp) (List.mem_of_mem_head? first)
  rw [starRule.apply_append_eq (hx.not_mem_mark starRule_hasMarks),
    starRule.apply_of_found (find?_starRule (hy.unmarked ne) before behind),
    starRule.apply_eq_self_of_unmarked (hz.not_mem_mark starRule_hasMarks)]
  rfl

include hx in
theorem underscoreRule_apply_solid : underscoreRule.apply none x = x :=
  underscoreRule.apply_eq_self_of_unmarked (hx.not_mem_mark underscoreRule_hasMarks) none

/-! ## The four cases -/

include hx hy hz in
/-- **Italic text in bold text**, with something behind it. -/
theorem emphasize_italicInBold (someY : y ≠ []) (someZ : z ≠ []) :
    emphasize (italicInBold x y z) = Emphasis.bold.around (x ++ (Emphasis.italic.around y ++ z)) := by
  have found : boldRule.find? none (italicInBold x y z) = some (x ++ '*' :: (y ++ '*' :: z), []) := by
    show upToStars? (x ++ '*' :: (y ++ '*' :: (z ++ ['*', '*']))) = _
    rw [upToStars?_single hx hy someY, upToStars?_single hy hz someZ, upToStars?_solid hz someZ]
    rfl
  have bold : boldRule.apply none (italicInBold x y z) =
      (Emphasis.bold.openTag ++ x) ++ '*' :: (y ++ '*' :: (z ++ Emphasis.bold.closeTag)) := by
    rw [boldRule.apply_of_found found, boldRule.apply_nil]
    simp [boldRule]
  have left := (solid_openTag .bold).append hx
  have right := hz.append (solid_closeTag .bold)
  rw [emphasize, bold, starRule_apply_solid left hy right someY,
    underscoreRule_apply_solid (left.append ((hy.around .italic).append right))]
  simp [Emphasis.around]

include hx hy in
/-- **Italic text at the end of bold text**: its mark is the last of three asterisks, and its tag comes behind that of
the bold text. -/
theorem emphasize_italicEndsBold (someY : y ≠ []) :
    emphasize (italicInBold x y []) =
      Emphasis.bold.openTag ++ x ++ Emphasis.italic.around (y ++ Emphasis.bold.closeTag) := by
  have found : boldRule.find? none (italicInBold x y []) = some (x ++ '*' :: y, ['*']) := by
    show upToStars? (x ++ '*' :: (y ++ ['*', '*', '*'])) = _
    rw [upToStars?_single hx hy someY, upToStars?_solid hy someY]
    rfl
  have bold : boldRule.apply none (italicInBold x y []) =
      (Emphasis.bold.openTag ++ x) ++ '*' :: ((y ++ Emphasis.bold.closeTag) ++ '*' :: []) := by
    rw [boldRule.apply_of_found found, ← List.nil_append ['*'], boldRule_apply_last solid_nil]
    simp [boldRule]
  have left := (solid_openTag .bold).append hx
  have inner := hy.append (solid_closeTag .bold)
  rw [emphasize, bold, starRule_apply_solid left inner solid_nil (by simp [someY]), List.append_nil,
    underscoreRule_apply_solid (left.append (inner.around .italic))]

include hx hy hz in
/-- **Bold text in italic text**, with something before it. -/
theorem emphasize_boldInItalic (someX : x ≠ []) (someY : y ≠ []) :
    emphasize (boldInItalic x y z) = Emphasis.italic.around (x ++ (Emphasis.bold.around y ++ z)) := by
  have opening : (x ++ '*' :: '*' :: (y ++ '*' :: '*' :: (z ++ ['*']))).head? ≠ some '*' := hx.head?_ne_star someX _
  have bold : boldRule.apply none (boldInItalic x y z) =
      [] ++ '*' :: ((x ++ (Emphasis.bold.around y ++ z)) ++ '*' :: []) := by
    rw [boldInItalic, boldRule.apply_of_not_found (find?_boldRule_single opening),
      boldRule.apply_append_eq (hx.not_mem_mark boldRule_hasMarks),
      boldRule.apply_of_found (find?_boldRule (hy.unmarked someY)), boldRule_apply_last hz]
    simp [boldRule, Emphasis.around]
  have inner := hx.append ((hy.around .bold).append hz)
  rw [emphasize, bold, starRule_apply_solid solid_nil inner solid_nil (by simp [someX]), List.nil_append, List.append_nil,
    underscoreRule_apply_solid (inner.around .italic)]

include hy hz in
/-- **Bold text at the beginning of italic text**: its mark is the first two of three asterisks, and its tag comes before
that of the italic text. -/
theorem emphasize_boldBeginsItalic (someY : y ≠ []) :
    emphasize (boldInItalic [] y z) =
      Emphasis.bold.openTag ++ Emphasis.italic.around (y ++ Emphasis.bold.closeTag ++ z) := by
  have found : boldRule.find? none (boldInItalic [] y z) = some ('*' :: y, z ++ ['*']) := by
    have single := upToStars?_single solid_nil hy someY ('*' :: '*' :: (z ++ ['*']))
    rw [upToStars?_solid hy someY] at single
    exact single
  have bold : boldRule.apply none (boldInItalic [] y z) =
      Emphasis.bold.openTag ++ '*' :: ((y ++ Emphasis.bold.closeTag ++ z) ++ '*' :: []) := by
    rw [boldRule.apply_of_found found, boldRule_apply_last hz]
    simp [boldRule]
  have inner := (hy.append (solid_closeTag .bold)).append hz
  rw [emphasize, bold, starRule_apply_solid (solid_openTag .bold) inner solid_nil (by simp [someY]), List.append_nil,
    underscoreRule_apply_solid ((solid_openTag .bold).append (inner.around .italic))]

end

/-! ## Tags that nest, and tags that cross -/

section

variable {x y z : List Char} (hx : '<' ∉ x) (hy : '<' ∉ y) (hz : '<' ∉ z)

theorem tags_openTag_append (e : Emphasis) (rest : List Char) : tags (e.openTag ++ rest) = .opening e :: tags rest :=
  tags_chars_append (.opening e) rest

theorem tags_closeTag_append (e : Emphasis) (rest : List Char) : tags (e.closeTag ++ rest) = .closing e :: tags rest :=
  tags_chars_append (.closing e) rest

theorem tags_closeTag (e : Emphasis) : tags e.closeTag = [.closing e] := by
  cases e <;> rfl

include hx hy hz in
/-- **Emphasis around emphasis** nests. -/
theorem isBalanced_around (outer inner : Emphasis) :
    isBalanced (outer.around (x ++ (inner.around y ++ z))) = true := by
  simp only [isBalanced, Emphasis.around, List.append_assoc, tags_openTag_append, tags_closeTag_append, tags_closeTag,
    tags_append_of_not_mem hx, tags_append_of_not_mem hy, tags_append_of_not_mem hz]
  cases outer <;> cases inner <;> rfl

include hx hy hz in
/-- **Italic text that begins in bold text and ends behind it** does not nest. -/
theorem isBalanced_crossing :
    isBalanced (Emphasis.bold.openTag ++ x ++ Emphasis.italic.around (y ++ Emphasis.bold.closeTag ++ z)) = false := by
  simp only [isBalanced, Emphasis.around, List.append_assoc, tags_openTag_append, tags_closeTag_append, tags_closeTag,
    tags_append_of_not_mem hx, tags_append_of_not_mem hy, tags_append_of_not_mem hz]
  rfl

end

/-! ## The markup -/

/-- **A text without code** has its emphasis as its markup if the tags nest, and itself if they do not. -/
theorem markup_of_noCode (font : String) {text : String} (noCode : ∀ c ∈ text.toList, c ≠ '\x00' ∧ c ≠ '`') :
    let made := emphasize (escape text.toList)
    (isBalanced made = true → overlaps text.toList = false ∧ markup font text = .ok (String.ofList made)) ∧
      (isBalanced made = false → overlaps text.toList = true ∧ markup font text = .ok (escapeText text)) := by
  intro made
  have noNul : '\x00' ∉ text.toList := fun mem => (noCode _ mem).1 rfl
  have noTick : '`' ∉ text.toList := fun mem => (noCode _ mem).2 rfl
  obtain ⟨plain, noSpans⟩ := plainMarkup_of_noTick noTick
  have marked := markup_eq_emphasizedMarkup font (plain_nul_not_mem_pieces noNul) noSpans
  have decided : overlaps text.toList = !isBalanced made := by rw [overlaps, plain]
  rw [marked, emphasizedMarkup, decided, plain]
  constructor
  · intro nested
    rw [nested]
    exact ⟨rfl, rfl⟩
  · intro crossing
    rw [crossing]
    exact ⟨rfl, rfl⟩

section

variable (font : String) {x y z : String} (hx : Solid x.toList) (hy : Solid y.toList) (hz : Solid z.toList)

include hx in
theorem escape_ne_nil (some_ : x ≠ "") : escape x.toList ≠ [] :=
  (hx.unmarked (by simpa using some_)).escape.ne_nil

include hx hy hz in
theorem noCode_nested :
    (∀ c ∈ italicInBold x.toList y.toList z.toList, c ≠ '\x00' ∧ c ≠ '`') ∧
      ∀ c ∈ boldInItalic x.toList y.toList z.toList, c ≠ '\x00' ∧ c ≠ '`' := by
  have solid : ∀ cs : List Char, Solid cs → ∀ c ∈ cs, c ≠ '\x00' ∧ c ≠ '`' := by
    intro cs h c mem
    constructor <;> (rintro rfl; exact h.not_mem (by simp) mem)
  have star : '*' ≠ '\x00' ∧ '*' ≠ '`' := by decide
  simp only [italicInBold, boldInItalic, List.mem_cons, List.mem_append, List.not_mem_nil, or_false]
  constructor <;> rintro c mem <;> grind

end

/-- **Emphasis in emphasis.** Italic text in bold text is kept if something stands behind it in the bold text, and bold
text in italic text if something stands before it in the italic text, whatever stands on the other side. Otherwise the
text stays as it was written: its emphasis is taken to overlap. -/
theorem markup_nested (font : String) {x y z : String} (hx : Solid x.toList) (hy : Solid y.toList)
    (hz : Solid z.toList) (someY : y ≠ "") :
    let inBold := "**" ++ x ++ "*" ++ y ++ "*" ++ z ++ "**"
    let inItalic := "*" ++ x ++ "**" ++ y ++ "**" ++ z ++ "*"
    (z ≠ "" → overlaps inBold.toList = false ∧ markup font inBold =
        .ok ("<b>" ++ escapeText x ++ "<i>" ++ escapeText y ++ "</i>" ++ escapeText z ++ "</b>")) ∧
      (z = "" → overlaps inBold.toList = true ∧ markup font inBold = .ok (escapeText inBold)) ∧
      (x ≠ "" → overlaps inItalic.toList = false ∧ markup font inItalic =
        .ok ("<i>" ++ escapeText x ++ "<b>" ++ escapeText y ++ "</b>" ++ escapeText z ++ "</i>")) ∧
      (x = "" → overlaps inItalic.toList = true ∧ markup font inItalic = .ok (escapeText inItalic)) := by
  intro inBold inItalic
  have boldText : inBold.toList = italicInBold x.toList y.toList z.toList := by simp [inBold, italicInBold]
  have italicText : inItalic.toList = boldInItalic x.toList y.toList z.toList := by simp [inItalic, boldInItalic]
  obtain ⟨noCodeBold, noCodeItalic⟩ := noCode_nested hx hy hz
  rw [← boldText] at noCodeBold
  rw [← italicText] at noCodeItalic
  obtain ⟨boldNests, boldCrosses⟩ := markup_of_noCode font noCodeBold
  obtain ⟨italicNests, italicCrosses⟩ := markup_of_noCode font noCodeItalic
  have boldEscaped := escape_italicInBold x.toList y.toList z.toList
  have italicEscaped := escape_boldInItalic x.toList y.toList z.toList
  rw [← boldText] at boldEscaped
  rw [← italicText] at italicEscaped
  rw [boldEscaped] at boldNests boldCrosses
  rw [italicEscaped] at italicNests italicCrosses
  have lt : ∀ cs : String, '<' ∉ escape cs.toList := fun cs => lt_not_mem_escape cs.toList
  have nothing : escape "".toList = [] := rfl
  refine ⟨?_, ?_, ?_, ?_⟩
  · intro someZ
    have emphasized :=
      emphasize_italicInBold hx.escape hy.escape hz.escape (escape_ne_nil hy someY) (escape_ne_nil hz someZ)
    rw [emphasized] at boldNests
    obtain ⟨kept, made⟩ := boldNests (isBalanced_around (lt x) (lt y) (lt z) .bold .italic)
    refine ⟨kept, made.trans (congrArg Except.ok ?_)⟩
    simp [← String.toList_inj, Emphasis.around, Emphasis.openTag, Emphasis.closeTag, Emphasis.letter, escapeText]
  · rintro rfl
    rw [nothing, emphasize_italicEndsBold hx.escape hy.escape (escape_ne_nil hy someY)] at boldCrosses
    have crossing := isBalanced_crossing (lt x) (lt y) (z := []) List.not_mem_nil
    rw [List.append_nil] at crossing
    exact boldCrosses crossing
  · intro someX
    have emphasized :=
      emphasize_boldInItalic hx.escape hy.escape hz.escape (escape_ne_nil hx someX) (escape_ne_nil hy someY)
    rw [emphasized] at italicNests
    obtain ⟨kept, made⟩ := italicNests (isBalanced_around (lt x) (lt y) (lt z) .italic .bold)
    refine ⟨kept, made.trans (congrArg Except.ok ?_)⟩
    simp [← String.toList_inj, Emphasis.around, Emphasis.openTag, Emphasis.closeTag, Emphasis.letter, escapeText]
  · rintro rfl
    rw [nothing, emphasize_boldBeginsItalic hy.escape hz.escape (escape_ne_nil hy someY)] at italicCrosses
    have crossing := isBalanced_crossing (x := []) List.not_mem_nil (lt y) (lt z)
    rw [List.append_nil] at crossing
    exact italicCrosses crossing

/-- Signs of markup around and between the marks, and both kinds of text at both ends. -/
theorem markup_nested_at_both_ends :
    (Solid "a&".toList ∧ Solid "".toList ∧ Solid "<b>".toList ∧ "<b>" ≠ "") ∧
      markup "Courier" "***<b>*a&**" = .ok "<b><i>&lt;b&gt;</i>a&amp;</b>" ∧
      markup "Courier" "**a&*<b>***" = .ok "**a&amp;*&lt;b&gt;***" ∧
      markup "Courier" "*a&**<b>***" = .ok "<i>a&amp;<b>&lt;b&gt;</b></i>" ∧
      markup "Courier" "***<b>**a&*" = .ok "***&lt;b&gt;**a&amp;*" := by
  have solid : Solid "a&".toList := by decide
  have none_ : Solid "".toList := by decide
  have inner : Solid "<b>".toList := by decide
  have some_ : "<b>" ≠ "" := by decide
  obtain ⟨inBold, -, -, beginsItalic⟩ := markup_nested "Courier" none_ inner solid some_
  obtain ⟨-, endsBold, inItalic, -⟩ := markup_nested "Courier" solid inner none_ some_
  exact ⟨⟨solid, none_, inner, some_⟩, (inBold (by decide)).2, (endsBold rfl).2, (inItalic (by decide)).2,
    (beginsItalic rfl).2⟩

/-- Not all nested emphasis is kept: not what ends in three asterisks, the last of them for the italic text. -/
theorem markup_not_nested :
    ¬ ∀ font x y z : String, Solid x.toList → Solid y.toList → Solid z.toList → y ≠ "" → (x ≠ "" ∨ z ≠ "") →
      markup font ("**" ++ x ++ "*" ++ y ++ "*" ++ z ++ "**") =
        .ok ("<b>" ++ escapeText x ++ "<i>" ++ escapeText y ++ "</i>" ++ escapeText z ++ "</b>") ∧
      markup font ("*" ++ x ++ "**" ++ y ++ "**" ++ z ++ "*") =
        .ok ("<i>" ++ escapeText x ++ "<b>" ++ escapeText y ++ "</b>" ++ escapeText z ++ "</i>") := by
  intro nested
  have kept : (markup "Courier" "**a*b***").toOption = some "**a*b***" := by decide +kernel
  have claimed := (nested "Courier" "a" "b" "" (by decide) (by decide) (by decide) (by decide) (Or.inl (by decide))).1
  have same : ("**" ++ "a" ++ "*" ++ "b" ++ "*" ++ "" ++ "**" : String) = "**a*b***" := by decide
  rw [same] at claimed
  rw [claimed] at kept
  exact absurd kept (by decide +kernel)

end SlidePress.Inline
