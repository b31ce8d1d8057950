import SlidePress.Proofs.Inline.CodeSpan
import SlidePress.Proofs.Inline.Emphasis
import SlidePress.Proofs.Text.Numeral
import Mathlib.Algebra.Group.Nat.Defs

/-!
# `SlidePress.Proofs.Inline.Placeholder` — code spans while emphasis is rewritten

While the emphasis of a text is rewritten its code spans are set aside, and what stands in their place are characters
like any others: a NUL, digits and a NUL. If the text has no NUL of its own outside its spans, the placeholders are the
only ones (`SetAside`), and they stay whole: no mark stands in them, so a rule can only go around them
(`Rewrites.setAside`). Whatever the rules do, the elements that are set aside keep their order, and all of them but
marks and tags stay (`Element.isLasting`). Filling then puts every span back where it was taken from
(`SetAside.fill_written`).

The digits of a placeholder are read again when it is filled, and a number may have only so many. So filling is refused
where a text has more spans than such numbers, and nowhere else.

## Contents
- `SetAside`: parts with placeholders for the code spans among some elements.
- `setAside_pieces`: the parts of a text.
- `Rewrites.setAside`, `emphasizedMarkup_setAside`: one rule, and the emphasis of a text.
- `SetAside.fill_written`: the spans, put back.
-/

namespace SlidePress.Inline

open Text

/-- **The parts of elements whose code spans are set aside**: a placeholder with its number for each span, and no other
NUL. -/
inductive SetAside (spans : List (List Char)) : List Part → List Element → Prop where
  | nil : SetAside spans [] []
  | keep {p : Part} {parts : List Part} {elements : List Element} :
      p ≠ .char '\x00' → SetAside spans parts elements → SetAside spans (p :: parts) (.part p :: elements)
  | span {number : Nat} {content : List Char} {parts : List Part} {elements : List Element} :
      spans[number]? = some content → SetAside spans parts elements →
      SetAside spans ((placeholder number).map .char ++ parts) (.code content :: elements)

/-- The element that a piece of a text is, before any emphasis. -/
def Piece.element : Piece → Element
  | .plain c => .part (.char c)
  | .code content => .code content

/-- **The parts of a text**: its pieces, with the code spans set aside after those before. -/
theorem setAside_pieces {ps : List Piece} (noNul : Piece.plain '\x00' ∉ ps) (before : List (List Char)) :
    SetAside (before ++ codeSpans ps) ((withPlaceholders before.length ps).map .char) (ps.map Piece.element) := by
  induction ps generalizing before with
  | nil => exact .nil
  | cons p ps ih =>
      obtain ⟨first, later⟩ := List.ne_and_not_mem_of_not_mem_cons noNul
      cases p with
      | plain c =>
          refine .keep ?_ (ih later before)
          rintro ⟨rfl⟩
          exact first rfl
      | code content =>
          have rest := ih later (before ++ [content])
          rw [List.length_append, List.append_assoc] at rest
          have here : (before ++ codeSpans (.code content :: ps))[before.length]? = some content := by
            simp [codeSpans]
          rw [withPlaceholders, List.map_append]
          exact .span here rest

/-! ## Cut at marks -/

theorem not_isMark_of_mem_placeholder {number : Nat} {c : Char} (h : c ∈ placeholder number) : ¬ isMark c := by
  rw [placeholder, List.mem_append, List.mem_cons, List.mem_singleton] at h
  rcases h with (rfl | digit) | rfl
  · rintro (h | h) <;> exact absurd h (by decide)
  · have other : c ≠ '*' ∧ c ≠ '_' :=
      ascii_digit (P := fun c => c ≠ '*' ∧ c ≠ '_') (by decide) (ascii_of_mem_toDigits digit)
    rintro (h | h)
    · exact other.1 h
    · exact other.2 h
  · rintro (h | h) <;> exact absurd h (by decide)

namespace SetAside

variable {spans : List (List Char)} {elements : List Element}

theorem eq_nil (h : SetAside spans [] elements) : elements = [] := by
  generalize none_ : ([] : List Part) = parts at h
  cases h with
  | nil => rfl
  | keep => cases none_
  | span => simp [placeholder] at none_

theorem append {a b : List Part} {ea eb : List Element} (ha : SetAside spans a ea) (hb : SetAside spans b eb) :
    SetAside spans (a ++ b) (ea ++ eb) := by
  induction ha with
  | nil => exact hb
  | keep other _ ih => exact .keep other ih
  | span found _ ih =>
      rw [List.append_assoc]
      exact .span found ih

/-- **Parts cut at a mark** are cut between elements. -/
theorem of_append_mark {m : Char} (hm : isMark m) {a b : List Part}
    (h : SetAside spans (a ++ .char m :: b) elements) :
    ∃ ea eb, elements = ea ++ .part (.char m) :: eb ∧ SetAside spans a ea ∧ SetAside spans b eb := by
  generalize whole : a ++ .char m :: b = parts at h
  induction h generalizing a with
  | nil => simp at whole
  | @keep p parts elements other rest ih =>
      cases a with
      | nil =>
          obtain ⟨rfl, rfl⟩ := List.cons.inj whole
          exact ⟨[], elements, rfl, .nil, rest⟩
      | cons q a =>
          obtain ⟨rfl, behind⟩ := List.cons.inj whole
          obtain ⟨ea, eb, rfl, ha, hb⟩ := ih behind
          exact ⟨.part q :: ea, eb, rfl, .keep other ha, hb⟩
  | @span number content parts elements found rest ih =>
      rw [List.append_eq_append_iff] at whole
      -- the mark stands behind the placeholder, since it does not stand in it
      rcases whole with ⟨more, inside, mark⟩ | ⟨more, rfl, mark⟩
      · cases more with
        | nil =>
            rw [List.append_nil] at inside
            obtain ⟨ea, eb, rfl, ha, hb⟩ := ih (a := []) mark
            obtain rfl := ha.eq_nil
            exact ⟨[.code content], eb, rfl, by simpa [inside] using SetAside.span found .nil, hb⟩
        | cons q more =>
            obtain ⟨rfl, _⟩ := List.cons.inj mark
            have mem : Part.char m ∈ (placeholder number).map .char := by simp [inside]
            obtain ⟨c, stands, same⟩ := List.mem_map.mp mem
            cases same
            exact absurd hm (not_isMark_of_mem_placeholder stands)
      · obtain ⟨ea, eb, rfl, ha, hb⟩ := ih mark.symm
        exact ⟨.code content :: ea, eb, rfl, .span found ha, hb⟩

/-- **Parts cut at several marks in a row** are cut between elements. -/
theorem of_append_marks {marks : List Char} (ne : marks ≠ []) (hmarks : ∀ m ∈ marks, isMark m) {a b : List Part}
    (h : SetAside spans (a ++ marks.map .char ++ b) elements) :
    ∃ ea eb, elements = ea ++ marks.map (fun m => .part (.char m)) ++ eb ∧ SetAside spans a ea ∧
      SetAside spans b eb := by
  induction marks generalizing a elements with
  | nil => exact absurd rfl ne
  | cons m marks ih =>
      rw [List.map_cons, List.append_assoc, List.cons_append] at h
      obtain ⟨ea, behind, rfl, ha, hbehind⟩ := of_append_mark (hmarks m List.mem_cons_self) h
      by_cases last : marks = []
      · subst last
        exact ⟨ea, behind, by simp, ha, hbehind⟩
      · obtain ⟨none_, eb, rfl, hnone, hb⟩ :=
          ih last (fun m' mem => hmarks m' (List.mem_cons_of_mem m mem)) (a := []) hbehind
        obtain rfl := hnone.eq_nil
        exact ⟨ea, eb, by simp, ha, hb⟩

end SetAside

/-! ## Under the rules -/

/-- Whether emphasis leaves an element in its place: it writes tags, and uses up marks. -/
def Element.isLasting : Element → Bool
  | .part (.char c) => c ≠ '*' && c ≠ '_'
  | .part (.tag _) => false
  | .code _ => true

theorem filter_isLasting_marks {marks : List Char} (hmarks : ∀ m ∈ marks, isMark m) :
    (marks.map fun m => Element.part (.char m)).filter Element.isLasting = [] := by
  rw [List.filter_eq_nil_iff]
  intro element mem
  obtain ⟨m, hm, rfl⟩ := List.mem_map.mp mem
  rcases hmarks m hm with rfl | rfl <;> decide

/-- A rule keeps what stands in front, if there are no marks in it. -/
theorem Rewrites.of_append {rule : EmphasisRule} (marks : rule.HasMarks) {front : List Char}
    (noMarks : ∀ c ∈ front, ¬ isMark c) {parts out : List Part} (h : Rewrites rule (front.map .char ++ parts) out) :
    ∃ out', out = front.map .char ++ out' ∧ Rewrites rule parts out' := by
  induction front generalizing out with
  | nil => exact ⟨out, rfl, h⟩
  | cons c front ih =>
      generalize whole : (c :: front).map Part.char ++ parts = all at h
      cases h with
      | nil => simp at whole
      | keep p later =>
          obtain ⟨rfl, rfl⟩ := List.cons.inj whole
          obtain ⟨out', rfl, rest⟩ := ih (fun d mem => noMarks d (List.mem_cons_of_mem c mem)) later
          exact ⟨out', rfl, rest⟩
      | wrap inner later =>
          cases hmark : rule.mark with
          | nil => exact absurd hmark rule.mark_ne_nil
          | cons m ms =>
              have first : Part.char c = .char m := by
                rw [hmark] at whole
                exact (List.cons.inj whole).1
              cases first
              exact absurd (marks c (by simp [hmark])) (noMarks c List.mem_cons_self)

/-- **One rule** leaves placeholders whole and lasting elements in their order. -/
theorem Rewrites.setAside {rule : EmphasisRule} (marks : rule.HasMarks) {spans : List (List Char)}
    {parts parts' : List Part} (h : Rewrites rule parts parts') {elements : List Element}
    (aside : SetAside spans parts elements) :
    ∃ elements', SetAside spans parts' elements' ∧
      elements'.filter Element.isLasting = elements.filter Element.isLasting := by
  -- a placeholder and an emphasized stretch are several parts at once, so the induction is on the length
  induction n : parts.length using Nat.strongRecOn generalizing parts parts' elements with
  | ind n ih =>
    subst n
    cases h with
    | nil => exact ⟨elements, aside, rfl⟩
    | @keep p parts parts' later =>
        generalize whole : p :: parts = all at aside
        cases aside with
        | nil => cases whole
        | keep other rest =>
            obtain ⟨rfl, rfl⟩ := List.cons.inj whole
            obtain ⟨elements', aside', lasting⟩ := ih _ (Nat.lt_succ_self _) later rest rfl
            exact ⟨.part p :: elements', .keep other aside', by rw [List.filter_cons, List.filter_cons, lasting]⟩
        | @span number content rest elements found aside =>
            -- the placeholder has no marks, so the rule works on what follows it
            obtain ⟨more, hmore⟩ : ∃ more, placeholder number = '\x00' :: more := ⟨_, rfl⟩
            rw [hmore, List.map_cons, List.cons_append] at whole
            obtain ⟨rfl, rfl⟩ := List.cons.inj whole
            have noMarks : ∀ c ∈ more, ¬ isMark c := by
              intro c mem
              have inside : c ∈ placeholder number := by simp [hmore, mem]
              exact not_isMark_of_mem_placeholder inside
            obtain ⟨out, rfl, behind⟩ := Rewrites.of_append marks noMarks later
            have shorter : rest.length < (Part.char '\x00' :: (more.map Part.char ++ rest)).length := by
              rw [List.length_cons, List.length_append]
              omega
            obtain ⟨elements', aside', lasting⟩ := ih rest.length shorter behind aside rfl
            refine ⟨.code content :: elements', ?_, by rw [List.filter_cons, List.filter_cons, lasting]⟩
            have placed := SetAside.span found aside'
            rwa [hmore] at placed
    | @wrap inner rest rest' later =>
        rw [List.append_assoc, List.append_assoc, ← List.append_assoc inner] at aside
        obtain ⟨none_, behind, rfl, hnone, hbehind⟩ := SetAside.of_append_marks (a := []) rule.mark_ne_nil marks aside
        obtain rfl := hnone.eq_nil
        obtain ⟨einner, erest, rfl, hinner, hrest⟩ := SetAside.of_append_marks rule.mark_ne_nil marks hbehind
        have shorter : rest.length <
            (rule.mark.map Part.char ++ inner ++ rule.mark.map Part.char ++ rest).length := by
          have positive := List.length_pos_iff.mpr rule.mark_ne_nil
          simp only [List.length_append, List.length_map]
          omega
        obtain ⟨erest', aside', lasting⟩ := ih _ shorter later hrest rfl
        refine ⟨.part (.tag (.opening rule.emphasis)) :: (einner ++ .part (.tag (.closing rule.emphasis)) :: erest'),
          .keep (by simp) (hinner.append (.keep (by simp) aside')), ?_⟩
        simp [List.filter_append, filter_isLasting_marks marks, lasting, Element.isLasting]

/-- **The three rules** leave placeholders whole and lasting elements in their order. -/
theorem Emphasizes.setAside {spans : List (List Char)} {parts parts' : List Part} (h : Emphasizes parts parts')
    {elements : List Element} (aside : SetAside spans parts elements) :
    ∃ elements', SetAside spans parts' elements' ∧
      elements'.filter Element.isLasting = elements.filter Element.isLasting := by
  obtain ⟨bold, star, hbold, hstar, hunderscore⟩ := h
  obtain ⟨e₁, aside₁, lasting₁⟩ := hbold.setAside boldRule_hasMarks aside
  obtain ⟨e₂, aside₂, lasting₂⟩ := hstar.setAside starRule_hasMarks aside₁
  obtain ⟨e₃, aside₃, lasting₃⟩ := hunderscore.setAside underscoreRule_hasMarks aside₂
  exact ⟨e₃, aside₃, by rw [lasting₃, lasting₂, lasting₁]⟩

/-- **The emphasis of a text**, whether it is kept or overlaps: parts with the code spans of the text set aside, and its
lasting elements in their order. -/
theorem emphasizedMarkup_setAside {text : List Char} (noNul : Piece.plain '\x00' ∉ pieces text) :
    ∃ parts elements, emphasizedMarkup text = written parts ∧ SetAside (codeSpans (pieces text)) parts elements ∧
      elements.filter Element.isLasting = ((pieces text).map Piece.element).filter Element.isLasting := by
  have aside := setAside_pieces noNul []
  have plain : plainMarkup text = written ((withPlaceholders 0 (pieces text)).map .char) := (written_map_char _).symm
  unfold emphasizedMarkup
  split
  · exact ⟨_, _, plain, aside, rfl⟩
  · obtain ⟨parts, emphasizes, emphasized⟩ := emphasize_written ((withPlaceholders 0 (pieces text)).map .char)
    obtain ⟨elements, aside', lasting⟩ := emphasizes.setAside aside
    exact ⟨parts, elements, by rw [plain, emphasized], aside', lasting⟩

/-! ## Put back -/

/-- The characters between the NULs of a placeholder are digits. -/
theorem isDigit_of_mem_toDigits {number : Nat} : ∀ d ∈ Nat.toDigits 10 number, isDigit d = true := fun _ mem =>
  isDigit_of_isDigit (ascii_of_mem_toDigits mem)

theorem written_placeholder (number : Nat) : written ((placeholder number).map .char) = placeholder number := by
  rw [placeholder, List.map_append, List.map_cons, written_append, written_cons, written_digits isDigit_of_mem_toDigits]
  rfl

/-- Digits behind a NUL are kept until it is known what they are. -/
theorem fillFrom_digits {spans : List (List Char)} {digits : List Char} (h : ∀ d ∈ digits, isDigit d = true)
    (seen rest : List Char) :
    fillFrom spans (some seen) (digits ++ rest) = fillFrom spans (some (digits.reverse ++ seen)) rest := by
  induction digits generalizing seen with
  | nil => rfl
  | cons d digits ih =>
      have digit := h d List.mem_cons_self
      have nul : d ≠ '\x00' := by
        rintro rfl
        exact absurd digit (by decide)
      rw [List.cons_append, fillFrom, if_neg nul, if_pos digit, ih fun d' mem => h d' (List.mem_cons_of_mem d mem),
        List.reverse_cons, List.append_assoc]
      rfl

/-- **A placeholder** is replaced by what it stands for. -/
theorem fillFrom_placeholder (spans : List (List Char)) (number : Nat) (rest : List Char) :
    fillFrom spans none (placeholder number ++ rest) =
      (spanFor spans (Nat.toDigits 10 number)).bind fun span => (fillFrom spans none rest).map (span ++ ·) := by
  have some_ : (Nat.toDigits 10 number).reverse.isEmpty = false := by simp [Nat.toDigits_ne_nil]
  rw [placeholder, List.append_assoc, List.cons_append, fillFrom, if_pos rfl, fillFrom_digits isDigit_of_mem_toDigits,
    List.append_nil, List.singleton_append, fillFrom, if_pos rfl, some_, if_neg Bool.false_ne_true,
    List.reverse_reverse]
  cases spanFor spans (Nat.toDigits 10 number) <;> rfl

theorem spanFor_toDigits_error (spans : List (List Char)) {number : Nat} (large : 10 ^ maxDigits ≤ number) :
    ∃ e, spanFor spans (Nat.toDigits 10 number) = .error e := by
  have long : ¬ (Nat.toDigits 10 number).length ≤ maxDigits := by
    rw [Nat.length_toDigits_le_iff (by decide) (by decide)]
    exact Nat.not_lt_of_le large
  rw [spanFor, numeral, if_neg long]
  exact ⟨_, rfl⟩

/-- **The span of a number** is found, unless the number is too long to be read. -/
theorem spanFor_toDigits {spans : List (List Char)} {number : Nat} {span : List Char}
    (found : spans[number]? = some span) :
    spanFor spans (Nat.toDigits 10 number) = .ok span ∨
      10 ^ maxDigits < spans.length ∧ ∃ e, spanFor spans (Nat.toDigits 10 number) = .error e := by
  by_cases large : 10 ^ maxDigits ≤ number
  · have inside : number < spans.length := (List.getElem?_eq_some_iff.mp found).1
    exact Or.inr ⟨Nat.lt_of_le_of_lt large inside, spanFor_toDigits_error spans large⟩
  · have short : (Nat.toDigits 10 number).length ≤ maxDigits := by
      rw [Nat.length_toDigits_le_iff (by decide) (by decide)]
      exact Nat.lt_of_not_le large
    rw [spanFor, numeral_toDigits short]
    simp only [found, true_or]

/-- **The spans, put back.** Filling gives the elements that were set aside, unless there are more spans than numbers
that can be read. -/
theorem SetAside.fill_written {spans : List (List Char)} {parts : List Part} {elements : List Element}
    (h : SetAside spans parts elements) (font : List Char) :
    fill (spans.map (fontElement font)) (written parts) = .ok (composed font elements) ∨
      10 ^ maxDigits < spans.length ∧ ∃ e, fill (spans.map (fontElement font)) (written parts) = .error e := by
  unfold fill
  induction h with
  | nil => exact Or.inl rfl
  | @keep p parts elements other _ ih =>
      rw [written_cons, fillFrom_none_append (Part.nul_not_mem other)]
      rcases ih with filled | ⟨many, e, refused⟩
      · exact Or.inl (by rw [filled]; rfl)
      · exact Or.inr ⟨many, e, by rw [refused]; rfl⟩
  | @span number content parts elements found _ ih =>
      have inFont : (spans.map (fontElement font))[number]? = some (fontElement font content) := by
        rw [List.getElem?_map, found]
        rfl
      rw [written_append, written_placeholder, fillFrom_placeholder]
      rcases spanFor_toDigits inFont with placed | ⟨many, e, refused⟩
      · rw [placed]
        rcases ih with filled | ⟨many, e, refused⟩
        · exact Or.inl (by rw [filled]; rfl)
        · exact Or.inr ⟨many, e, by rw [refused]; rfl⟩
      · rw [List.length_map] at many
        exact Or.inr ⟨many, e, by rw [refused]; rfl⟩

end SlidePress.Inline
