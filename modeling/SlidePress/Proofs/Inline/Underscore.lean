import SlidePress.Proofs.Inline.Segment
import Mathlib.Algebra.Group.Nat.Defs
import Mathlib.Data.List.Count

/-!
# `SlidePress.Proofs.Inline.Underscore` — underscores of identifiers

An underscore opens italic text only where no word character stands before it and no other underscore behind it. In an
identifier one of the two does, and an underscore counts as a word character itself, so that a run of them opens nothing
either (`Bound`). By the time the underscores are looked at the text has been through a lot: it is escaped, its code is
set aside, and what stood between asterisks stands between tags. None of that unbinds an underscore. What is put next to
one is a character of an entity, a NUL or a tag, which are no word characters, and nothing is taken away from between
two characters but asterisks (`Bound.rewrites`). So the rule for underscores finds nothing (`Bound.apply_written`), and
all of them are still there when the code is put back.

## Contents
- `Piece.isWord`, `InIdentifiers`: the underscores of a text, outside of its code.
- `Bound`, `bound_append`: the same among parts, as far as the rule looks.
- `bound_withPlaceholders`, `Bound.rewrites`: the parts of a text, and what the rules before make of them.
- `Bound.apply_written`: the rule for underscores.
- `count_emphasizedMarkup`: the underscores of emphasized text.
- `markup_keeps_underscores`: every markup.
-/

namespace SlidePress.Inline

open Text

/-! ## Underscores in identifiers -/

/-- Whether a piece of a text is a word character. -/
def Piece.isWord : Piece → Bool
  | .plain c => isWordChar c
  | .code _ => false

/-- **Underscores in identifiers**: outside of code, each stands next to another one, or has a word character on both
sides. -/
def InIdentifiers (ps : List Piece) : Prop :=
  ∀ before after, ps = before ++ .plain '_' :: after →
    before.getLast? = some (.plain '_') ∨ after.head? = some (.plain '_') ∨
      (before.getLast?.any Piece.isWord ∧ after.head?.any Piece.isWord)

/-- What is said of every place of a list where a value stands is said of its positions. -/
theorem forall_places_iff {α : Type} {x : α} {xs : List α} {P : List α → List α → Prop} :
    (∀ before after, xs = before ++ x :: after → P before after) ↔
      ∀ i < xs.length, xs[i]? = some x → P (xs.take i) (xs.drop (i + 1)) := by
  constructor
  · intro places i _ here
    obtain ⟨inside, rfl⟩ := List.getElem?_eq_some_iff.mp here
    exact places _ _ (by rw [← List.drop_eq_getElem_cons inside, List.take_append_drop])
  · rintro positions before after rfl
    have here := positions before.length (by simp) (by simp)
    simpa using here

instance (ps : List Piece) : Decidable (InIdentifiers ps) :=
  decidable_of_iff _ forall_places_iff.symm

/-! ## Bound underscores -/

/-- Whether a part ends in a word character. -/
def Part.endsWord : Part → Bool
  | .char c => isWordChar c
  | .tag _ => false

/-- **Bound underscores** among parts: each has a word character before it or an underscore behind it, given whether a
word character stands before them all. -/
def Bound : Bool → List Part → Prop
  | _, [] => True
  | word, p :: parts =>
    (p = .char '_' → word = true ∨ parts.head? = some (.char '_')) ∧ Bound p.endsWord parts

/-- A part that is neither an underscore nor the end of a word. -/
structure Part.Separates (p : Part) : Prop where
  other : p ≠ .char '_'
  noWord : p.endsWord = false

theorem separates_tag (t : Tag) : (Part.tag t).Separates :=
  ⟨nofun, rfl⟩

theorem separates_star : (Part.char '*').Separates :=
  ⟨by decide, rfl⟩

theorem separates_nul : (Part.char '\x00').Separates :=
  ⟨by decide, rfl⟩

theorem bound_of_not_mem {parts : List Part} (h : .char '_' ∉ parts) (word : Bool) : Bound word parts := by
  induction parts generalizing word with
  | nil => exact trivial
  | cons p parts ih =>
      obtain ⟨first, later⟩ := List.ne_and_not_mem_of_not_mem_cons h
      exact ⟨fun same => absurd same.symm first, ih later _⟩

/-- **What stands around a separator** has its underscores bound on its own. -/
theorem bound_append {p : Part} (separates : p.Separates) {word : Bool} {a b : List Part} :
    Bound word (a ++ p :: b) ↔ Bound word a ∧ Bound false b := by
  induction a generalizing word with
  | nil => simp [Bound, separates.other, separates.noWord]
  | cons q a ih =>
      have head : (a ++ p :: b).head? = some (.char '_') ↔ a.head? = some (.char '_') := by
        cases a with
        | nil => simp [separates.other]
        | cons r a => rfl
      rw [List.cons_append, Bound, Bound, ih, head, and_assoc]

theorem bound_append_all {seps : List Part} (ne : seps ≠ []) (separate : ∀ p ∈ seps, p.Separates) {word : Bool}
    {a b : List Part} : Bound word (a ++ seps ++ b) ↔ Bound word a ∧ Bound false b := by
  induction seps generalizing word a with
  | nil => exact absurd rfl ne
  | cons p seps ih =>
      obtain ⟨here, later⟩ := List.forall_mem_cons.mp separate
      rw [List.append_assoc, List.cons_append, bound_append here]
      cases seps with
      | nil => rw [List.nil_append]
      | cons q seps =>
          have rest : Bound false ([] ++ q :: seps ++ b) ↔ Bound false [] ∧ Bound false b :=
            ih (List.cons_ne_nil q seps) later
          rw [← List.nil_append (q :: seps), rest]
          exact and_congr_right fun _ => and_iff_right trivial

/-! ## The parts of a text -/

/-- A placeholder is a NUL, digits and a NUL, none of them an underscore. -/
theorem underscore_not_mem_placeholder (number : Nat) : '_' ∉ placeholder number :=
  fun mem => not_isMark_of_mem_placeholder mem (Or.inr rfl)

/-- **The underscores of a text are bound** before any emphasis, given the piece before it. -/
theorem bound_withPlaceholders {ps : List Piece} (previous : Option Piece)
    (h : ∀ before after, ps = before ++ .plain '_' :: after →
      (before.getLast?.or previous).any Piece.isWord ∨ after.head? = some (.plain '_'))
    (number : Nat) : Bound (previous.any Piece.isWord) ((withPlaceholders number ps).map .char) := by
  induction ps generalizing previous number with
  | nil => exact trivial
  | cons p ps ih =>
      have later : ∀ before after, ps = before ++ .plain '_' :: after →
          (before.getLast?.or (some p)).any Piece.isWord ∨ after.head? = some (.plain '_') := by
        rintro before after rfl
        have here := h (p :: before) after rfl
        rwa [getLast?_cons_or] at here
      cases p with
      | plain c =>
          refine ⟨?_, ih _ later number⟩
          rintro ⟨rfl⟩
          rcases h [] ps rfl with word | next
          · exact Or.inl word
          · obtain ⟨rest, rfl⟩ := List.head?_eq_some_iff.mp next
            exact Or.inr rfl
      | code content =>
          have none_ : Part.char '_' ∉ ('\x00' :: Nat.toDigits 10 number).map Part.char := by
            intro mem
            obtain ⟨c, inside, ⟨rfl⟩⟩ := List.mem_map.mp mem
            exact underscore_not_mem_placeholder number (List.mem_append_left _ inside)
          have rest : Bound false ((withPlaceholders (number + 1) ps).map .char) := ih _ later (number + 1)
          rw [withPlaceholders, placeholder, List.append_assoc, List.map_append]
          exact (bound_append separates_nul).mpr ⟨bound_of_not_mem none_ _, rest⟩

/-- **In identifiers** all underscores are bound. -/
theorem InIdentifiers.bound {ps : List Piece} (h : InIdentifiers ps) :
    Bound false ((withPlaceholders 0 ps).map .char) := by
  refine bound_withPlaceholders none ?_ 0
  rintro before after rfl
  rw [Option.or_none]
  have underscore : isWordChar '_' = true := by decide
  rcases h before after rfl with same | next | ⟨word, -⟩
  · rw [same]
    exact Or.inl underscore
  · exact Or.inr next
  · exact Or.inl word

/-! ## Under the rules -/

section

variable {rule : EmphasisRule} (stars : ∀ m ∈ rule.mark, m = '*') {parts parts' : List Part}

include stars

theorem separates_mark : ∀ p ∈ rule.mark.map Part.char, p.Separates := by
  intro p mem
  obtain ⟨m, inside, rfl⟩ := List.mem_map.mp mem
  rw [stars m inside]
  exact separates_star

theorem Rewrites.head?_underscore (h : Rewrites rule parts parts') (first : parts.head? = some (.char '_')) :
    parts'.head? = some (.char '_') := by
  cases h with
  | nil => exact first
  | keep p _ => exact first
  | wrap inner _ =>
      obtain ⟨m, ms, mark⟩ := List.exists_cons_of_ne_nil rule.mark_ne_nil
      rw [mark] at first
      have star := stars m (by simp [mark])
      rw [star] at first
      exact absurd first (by simp)

/-- **Emphasis between asterisks binds what it finds bound**: its tags stand where asterisks have stood. -/
theorem Bound.rewrites (h : Rewrites rule parts parts') {word : Bool} (bound : Bound word parts) :
    Bound word parts' := by
  induction h generalizing word with
  | nil => exact bound
  | keep p later ih => exact ⟨fun same => (bound.1 same).imp_right (later.head?_underscore stars), ih bound.2⟩
  | @wrap inner parts parts' _ ih =>
      have ne : rule.mark.map Part.char ≠ [] := by simpa using rule.mark_ne_nil
      have marks := separates_mark stars
      rw [bound_append_all ne marks, ← List.nil_append (rule.mark.map Part.char), bound_append_all ne marks] at bound
      obtain ⟨⟨before, inside⟩, behind⟩ := bound
      exact (bound_append (a := []) (separates_tag _)).mpr
        ⟨before, (bound_append (separates_tag _)).mpr ⟨inside, ih behind⟩⟩

theorem Rewrites.count_underscore (h : Rewrites rule parts parts') :
    parts'.count (.char '_') = parts.count (.char '_') := by
  have none_ : (rule.mark.map Part.char).count (.char '_') = 0 :=
    List.count_eq_zero_of_not_mem fun mem => (separates_mark stars _ mem).other rfl
  induction h with
  | nil => rfl
  | keep p _ ih => rw [List.count_cons, List.count_cons, ih]
  | wrap inner _ ih => simp [List.count_append, none_, ih]

end

theorem Part.isWordChar_getLast? (p : Part) (before : Option Char) :
    ((p.chars.getLast?.or before).map isWordChar).getD false = p.endsWord := by
  cases p with
  | char c =>
      have signs : ∀ d ∈ ['&', '<', '>'], isWordChar d = false ∧
          (((escapeChar d).getLast?.or before).map isWordChar).getD false = false := by
        intro d mem
        simp only [List.mem_cons, List.not_mem_nil, or_false] at mem
        rcases mem with rfl | rfl | rfl <;> exact ⟨rfl, rfl⟩
      by_cases sign : c ∈ ['&', '<', '>']
      · exact (signs c sign).2.trans (signs c sign).1.symm
      · simp only [List.mem_cons, List.not_mem_nil, or_false, not_or] at sign
        rw [Part.chars, escapeChar_eq_singleton sign.1 sign.2.1 sign.2.2]
        rfl
  | tag t => rcases t with e | e <;> cases e <;> rfl

/-- **A bound underscore opens nothing.** -/
theorem find?_underscoreRule_bound {before : Option Char} {parts : List Part}
    (h : (before.map isWordChar).getD false = true ∨ parts.head? = some (.char '_')) :
    underscoreRule.find? before ('_' :: written parts) = none := by
  show findUnderscore? before ('_' :: written parts) = none
  rcases h with word | next
  · rw [findUnderscore?, if_pos word]
  · obtain ⟨rest, rfl⟩ := List.head?_eq_some_iff.mp next
    have same : written (.char '_' :: rest) = '_' :: written rest := rfl
    rw [same, findUnderscore?]
    split
    · rfl
    · simp

/-- **The rule for underscores** finds nothing among bound ones. -/
theorem Bound.apply_written (before : Option Char) {parts : List Part}
    (bound : Bound ((before.map isWordChar).getD false) parts) :
    underscoreRule.apply before (written parts) = written parts := by
  induction parts generalizing before with
  | nil => rw [written_nil, underscoreRule.apply_nil]
  | cons p parts ih =>
      obtain ⟨here, later⟩ := bound
      by_cases same : p = .char '_'
      · subst same
        have single : (Part.char '_').chars = ['_'] := rfl
        have behind : underscoreRule.apply (some '_') (written parts) = written parts := ih _ later
        rw [written_cons, single, List.singleton_append,
          underscoreRule.apply_of_not_found (find?_underscoreRule_bound (here rfl)), behind]
      · have noMark : ∀ c ∈ p.chars, c ∉ underscoreRule.mark := by
          intro c mem mark
          obtain rfl : c = '_' := by simpa [underscoreRule] using mark
          exact same (Part.eq_of_mem (by decide) mem)
        rw [← p.isWordChar_getLast? before] at later
        rw [written_cons, underscoreRule.apply_append_eq noMark, ih _ later]

/-- **Emphasis on bound underscores** leaves them all. -/
theorem Bound.emphasize_written {parts : List Part} (bound : Bound false parts) :
    ∃ parts', emphasize (written parts) = written parts' ∧ parts'.count (.char '_') = parts.count (.char '_') := by
  obtain ⟨bold, hbold, writtenBold⟩ := boldRule_hasMarks.apply_written none parts
  obtain ⟨star, hstar, writtenStar⟩ := starRule_hasMarks.apply_written none bold
  have boldStars : ∀ m ∈ boldRule.mark, m = '*' := by simp [boldRule]
  have starStars : ∀ m ∈ starRule.mark, m = '*' := by simp [starRule]
  have bound' : Bound false star := Bound.rewrites starStars hstar (Bound.rewrites boldStars hbold bound)
  refine ⟨star, ?_, ?_⟩
  · rw [emphasize, writtenBold, writtenStar]
    exact Bound.apply_written none bound'
  · rw [hstar.count_underscore starStars, hbold.count_underscore boldStars]

theorem Bound.emphasize_eq_self {parts : List Part} (bound : Bound false parts) (noStar : '*' ∉ written parts) :
    emphasize (written parts) = written parts := by
  have noBold : ∀ c ∈ written parts, c ∉ boldRule.mark := by
    intro c mem mark
    obtain rfl : c = '*' := by simpa [boldRule] using mark
    exact noStar mem
  have noItalic : ∀ c ∈ written parts, c ∉ starRule.mark := by
    intro c mem mark
    obtain rfl : c = '*' := by simpa [starRule] using mark
    exact noStar mem
  rw [emphasize, boldRule.apply_eq_self_of_unmarked noBold, starRule.apply_eq_self_of_unmarked noItalic]
  exact Bound.apply_written none bound

/-! ## Counted -/

/-- A character of no tag and no entity is written as often as it stands there. -/
theorem count_written {c : Char} (h : c ∉ markupAlphabet) (parts : List Part) :
    (written parts).count c = parts.count (.char c) := by
  induction parts with
  | nil => rfl
  | cons p parts ih =>
      rw [written_cons, List.count_append, ih]
      by_cases same : p = .char c
      · rw [same, Part.chars_eq_singleton h, List.count_singleton_self, List.count_cons_self, Nat.add_comm]
      · have none_ : p.chars.count c = 0 := List.count_eq_zero_of_not_mem fun mem => same (Part.eq_of_mem h mem)
        rw [none_, Nat.zero_add, List.count_cons_of_ne same]

/-- The underscores of a text are those outside of its code. -/
theorem count_withPlaceholders (number : Nat) (ps : List Piece) :
    (withPlaceholders number ps).count '_' = ps.count (.plain '_') := by
  induction ps generalizing number with
  | nil => rfl
  | cons p ps ih =>
      cases p with
      | plain c =>
          rw [withPlaceholders, List.count_cons, List.count_cons, ih]
          simp
      | code content =>
          have none_ : (placeholder number).count '_' = 0 :=
            List.count_eq_zero_of_not_mem (underscore_not_mem_placeholder number)
          rw [withPlaceholders, List.count_append, none_, ih, Nat.zero_add, List.count_cons_of_ne (by simp)]

/-- **The underscores of emphasized text**, whether its emphasis is kept or overlaps. -/
theorem count_emphasizedMarkup {text : List Char} (h : InIdentifiers (pieces text)) :
    (emphasizedMarkup text).count '_' = (pieces text).count (.plain '_') := by
  have other : '_' ∉ markupAlphabet := by decide
  have plain : plainMarkup text = written ((withPlaceholders 0 (pieces text)).map .char) := (written_map_char _).symm
  have counted : ((withPlaceholders 0 (pieces text)).map Part.char).count (.char '_') =
      (pieces text).count (.plain '_') := by
    rw [List.count_map_of_injective _ _ fun _ _ => Part.char.inj, count_withPlaceholders]
  unfold emphasizedMarkup
  split
  · rw [plain, count_written other, counted]
  · obtain ⟨parts, emphasized, kept⟩ := h.bound.emphasize_written
    rw [plain, emphasized, count_written other, kept, counted]

theorem InOrder.count_underscore {number : Nat} {contents : List (List Char)} {parts : List Part}
    {elements : List Element} (h : InOrder number contents parts elements) :
    (elements.filterMap Element.part?).count (.char '_') = parts.count (.char '_') := by
  induction h with
  | nil => rfl
  | @keep _ _ p _ _ _ _ ih =>
      have first : (Element.part p).part? = some p := rfl
      rw [List.filterMap_cons_some first, List.count_cons, List.count_cons, ih]
  | @span number content _ _ _ _ ih =>
      have none_ : ((placeholder number).map Part.char).count (.char '_') = 0 := by
        rw [List.count_map_of_injective _ _ fun _ _ => Part.char.inj]
        exact List.count_eq_zero_of_not_mem (underscore_not_mem_placeholder number)
      have first : (Element.code content).part? = none := rfl
      rw [List.filterMap_cons_none first, ih, List.count_append, none_, Nat.zero_add]

/-! ## Every markup -/

/-- **Underscores of identifiers are never emphasis.** In a text without a NUL outside of its code, whose underscores
stand in identifiers, every one of them is kept: the markup, which there is unless the text has more code spans than
numbers that can be read, has the code spans in font elements and as many underscores beside them as the text has
outside of its code. Where the text has neither asterisks nor backticks, its markup is the text, escaped. -/
theorem markup_keeps_underscores (font : String) {text : String} (noNul : Piece.plain '\x00' ∉ pieces text.toList)
    (inside : InIdentifiers (pieces text.toList)) :
    ((∃ out, markup font text = .ok out) ↔ (codeSpans (pieces text.toList)).length ≤ 10 ^ maxDigits) ∧
      (∀ out, markup font text = .ok out → ∃ elements, out.toList = composed font.toList elements ∧
        elements.filterMap Element.code? = codeSpans (pieces text.toList) ∧
        (written (elements.filterMap Element.part?)).count '_' = (pieces text.toList).count (.plain '_') ∧
        ('>' ∉ font.toList → besideFonts out.toList = written (elements.filterMap Element.part?))) ∧
      ('*' ∉ text.toList → '`' ∉ text.toList → markup font text = .ok (escapeText text)) := by
  obtain ⟨parts, elements, emphasized, ordered⟩ := emphasizedMarkup_inOrder noNul
  refine ⟨?_, ?_, ?_⟩
  · simp only [markup_eq_ok_iff_of_inOrder font emphasized ordered, exists_and_left, exists_eq, and_true]
  · intro out hout
    obtain ⟨-, rfl⟩ := (markup_eq_ok_iff_of_inOrder font emphasized ordered).mp hout
    have other : '_' ∉ markupAlphabet := by decide
    have counted := count_emphasizedMarkup inside
    rw [emphasized, count_written other] at counted
    rw [String.toList_ofList]
    refine ⟨elements, rfl, ordered.filterMap_code?, ?_, fun plainFont => besideFonts_composed plainFont elements⟩
    rw [count_written other, ordered.count_underscore, counted]
  · intro noStar noTick
    obtain ⟨plain, noCode⟩ := plainMarkup_of_noTick noTick
    have characters : plainMarkup text.toList = written ((withPlaceholders 0 (pieces text.toList)).map .char) :=
      (written_map_char _).symm
    have noStar' : '*' ∉ plainMarkup text.toList := by
      rw [plain]
      exact fun mem => noStar (mem_of_mem_escape (by decide) mem)
    rw [characters] at noStar'
    have same : emphasize (plainMarkup text.toList) = plainMarkup text.toList := by
      rw [characters]
      exact inside.bound.emphasize_eq_self noStar'
    rw [markup_eq_emphasizedMarkup font noNul noCode, emphasizedMarkup, same, ite_self, plain]
    rfl

/-- Names with underscores beside code and in emphasis between asterisks, and such a name alone. -/
theorem markup_keeps_underscores_of_names :
    let text := "**x.__dict__** `_a_` is *snake_case__* <é_1>"
    (Piece.plain '\x00' ∉ pieces text.toList ∧ InIdentifiers (pieces text.toList)) ∧
      (∃ out, markup "Courier" text = .ok out ∧ (besideFonts out.toList).count '_' = 8) ∧
      (Piece.plain '\x00' ∉ pieces "__init__ <a_b>".toList ∧ InIdentifiers (pieces "__init__ <a_b>".toList)) ∧
      markup "Courier" "__init__ <a_b>" = .ok "__init__ &lt;a_b&gt;" := by
  intro text
  have noNul : Piece.plain '\x00' ∉ pieces text.toList := by decide +kernel
  have inside : InIdentifiers (pieces text.toList) := by decide +kernel
  have noNul' : Piece.plain '\x00' ∉ pieces "__init__ <a_b>".toList := by decide +kernel
  have inside' : InIdentifiers (pieces "__init__ <a_b>".toList) := by decide +kernel
  have eight : (pieces text.toList).count (.plain '_') = 8 := by decide +kernel
  have few : (codeSpans (pieces text.toList)).length = 1 := by decide +kernel
  obtain ⟨made, kept, -⟩ := markup_keeps_underscores "Courier" noNul inside
  obtain ⟨-, -, untouched⟩ := markup_keeps_underscores "Courier" noNul' inside'
  obtain ⟨out, hout⟩ := made.mpr (few ▸ Nat.one_le_pow _ _ (by decide))
  obtain ⟨elements, -, -, count, beside⟩ := kept out hout
  refine ⟨⟨noNul, inside⟩, ⟨out, hout, ?_⟩, ⟨noNul', inside'⟩, untouched (by decide) (by decide)⟩
  rw [beside (by decide), count, eight]

end SlidePress.Inline
