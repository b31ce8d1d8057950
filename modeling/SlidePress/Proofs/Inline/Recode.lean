import SlidePress.Proofs.Inline.Authored
import SlidePress.Proofs.Outcome

/-!
# `SlidePress.Proofs.Inline.Recode` — the same text with other code

What stands in the code spans of a text has no part in its emphasis: the spans are set aside before the rules look at
the text, and a placeholder tells only their number. So a text can be given other code (`Piece.Recoded`), and everything
up to the filling stays the same, its overlaps included (`emphasizedMarkup_recoded`).

Among all the texts that differ in their code only there is one whose code is its own numbers (`numbered`). In that one
the spans are told apart by what they say, so that it shows where each number goes: the placeholders of emphasized text
still count up from zero (`InOrder`), and therefore they do in every text (`emphasizedMarkup_inOrder`).

## Contents
- `Piece.Recoded`, `pieces_recoded`: other code, and the text with it.
- `emphasizedMarkup_recoded`: the emphasis of a text with other code.
- `InOrder`, `InOrder.replace`: placeholders that count up, and other content for one of them.
- `emphasizedMarkup_inOrder`: the emphasis of a text.
- `InOrder.fill_written`, `InOrder.fill_error`: the spans, put back.
-/

namespace SlidePress.Inline

open Text

/-! ## Other code -/

/-- **A piece with other code**: the same character, or a code span with any content that a code span can have. -/
inductive Piece.Recoded : Piece → Piece → Prop where
  | plain (c : Char) : Piece.Recoded (.plain c) (.plain c)
  | code (content : List Char) {other : List Char} :
      other ≠ [] → '`' ∉ other → Piece.Recoded (.code content) (.code other)

theorem eq_of_recoded_plain {cs : List Char} {ps : List Piece}
    (h : List.Forall₂ Piece.Recoded (cs.map .plain) ps) : ps = cs.map .plain := by
  induction cs generalizing ps with
  | nil => exact List.forall₂_nil_left_iff.mp h
  | cons c cs ih =>
      obtain ⟨p, ps, recoded, later, rfl⟩ := List.forall₂_cons_left_iff.mp h
      cases recoded
      rw [ih later, List.map_cons]

/-- Characters behind a backtick are kept up to the next one. -/
theorem piecesFrom_some_append {cs : List Char} (h : '`' ∉ cs) (seen rest : List Char) :
    piecesFrom (some seen) (cs ++ rest) = piecesFrom (some (cs.reverse ++ seen)) rest := by
  induction cs generalizing seen with
  | nil => rfl
  | cons c cs ih =>
      obtain ⟨first, later⟩ := List.ne_and_not_mem_of_not_mem_cons h
      rw [List.cons_append, piecesFrom, if_neg (Ne.symm first), ih later, List.reverse_cons, List.append_assoc]
      rfl

/-- With other code, a piece that begins with a backtick still does. -/
theorem exists_backtick_of_recoded_cons {p : Piece} (tick : p.chars.head? = some '`') {ps qs : List Piece}
    (h : List.Forall₂ Piece.Recoded (p :: ps) qs) : ∃ rest, qs.flatMap Piece.chars = '`' :: rest := by
  obtain ⟨q, qs, recoded, _, rfl⟩ := List.forall₂_cons_left_iff.mp h
  cases recoded with
  | plain c =>
      obtain rfl := Option.some.inj tick
      exact ⟨_, rfl⟩
  | code content _ _ => exact ⟨_, rfl⟩

/-- With other code, a text behind a backtick still begins with one. -/
theorem exists_backtick_of_recoded {seen text : List Char} {ps : List Piece}
    (h : List.Forall₂ Piece.Recoded (piecesFrom (some seen) text) ps) :
    ∃ rest, ps.flatMap Piece.chars = '`' :: rest := by
  induction text generalizing seen with
  | nil => exact exists_backtick_of_recoded_cons rfl h
  | cons c text ih =>
      rw [piecesFrom] at h
      split at h
      · split at h
        · exact exists_backtick_of_recoded_cons rfl h
        · exact exists_backtick_of_recoded_cons rfl h
      · exact ih h

/-- The pieces of a text with other code, and of what was seen behind a backtick before it. -/
theorem piecesFrom_recoded {opened : Option (List Char)} {text : List Char} (noTick : ∀ seen ∈ opened, '`' ∉ seen)
    {ps : List Piece} (h : List.Forall₂ Piece.Recoded (piecesFrom opened text) ps) :
    pieces (ps.flatMap Piece.chars) = ps := by
  fun_induction piecesFrom opened text generalizing ps with
  | case1 =>
      rw [List.forall₂_nil_left_iff.mp h]
      rfl
  | case2 rest ih => exact ih (by simp) h
  | case3 c rest other ih =>
      obtain ⟨p, ps, recoded, later, rfl⟩ := List.forall₂_cons_left_iff.mp h
      cases recoded
      have behind : pieces (ps.flatMap Piece.chars) = ps := ih (by simp) later
      show piecesFrom none (c :: ps.flatMap Piece.chars) = _
      rw [piecesFrom, if_neg other]
      exact congrArg _ behind
  | case4 seen =>
      -- the backtick opened nothing, and what follows it has no other
      have tick : '`' ∉ seen.reverse := by simpa using noTick seen rfl
      obtain rfl : ps = ('`' :: seen.reverse).map .plain := eq_of_recoded_plain h
      rw [flatMap_chars_plain]
      have kept := piecesFrom_some_append tick [] []
      rw [List.reverse_reverse, List.append_nil, List.append_nil] at kept
      exact kept
  | case5 seen rest empty ih =>
      -- nothing stands between two backticks: the second one opens what comes
      obtain ⟨p, ps, recoded, later, rfl⟩ := List.forall₂_cons_left_iff.mp h
      cases recoded
      have behind : pieces (ps.flatMap Piece.chars) = ps := ih (by simp) later
      obtain ⟨more, opens⟩ := exists_backtick_of_recoded later
      rw [opens] at behind
      show pieces ('`' :: ps.flatMap Piece.chars) = _
      rw [opens]
      exact congrArg (Piece.plain '`' :: ·) behind
  | case6 seen rest some_ ih =>
      obtain ⟨p, ps, recoded, later, rfl⟩ := List.forall₂_cons_left_iff.mp h
      cases recoded with
      | @code _ other ne tick =>
          have behind : pieces (ps.flatMap Piece.chars) = ps := ih (by simp) later
          have filled : ¬ other.reverse.isEmpty = true := by simpa using ne
          calc pieces ((Piece.code other :: ps).flatMap Piece.chars)
              = piecesFrom (some []) (other ++ '`' :: ps.flatMap Piece.chars) := by simp [pieces, Piece.chars, piecesFrom]
            _ = piecesFrom (some other.reverse) ('`' :: ps.flatMap Piece.chars) := by
                rw [piecesFrom_some_append tick, List.append_nil]
            _ = .code other :: pieces (ps.flatMap Piece.chars) := by
                rw [piecesFrom, if_pos rfl, if_neg filled, List.reverse_reverse]
                rfl
            _ = .code other :: ps := by rw [behind]
  | case7 seen c rest other ih =>
      refine ih ?_ h
      rintro _ ⟨rfl⟩
      have first : '`' ≠ c := Ne.symm other
      exact List.not_mem_cons_of_ne_of_not_mem first (noTick seen rfl)

/-- **A text with other code** is cut into the pieces it was made of. -/
theorem pieces_recoded {text : List Char} {ps : List Piece} (h : List.Forall₂ Piece.Recoded (pieces text) ps) :
    pieces (ps.flatMap Piece.chars) = ps :=
  piecesFrom_recoded (by simp) h

/-- Other code has the placeholders of the code it stands for. -/
theorem withPlaceholders_recoded {ps qs : List Piece} (h : List.Forall₂ Piece.Recoded ps qs) (number : Nat) :
    withPlaceholders number qs = withPlaceholders number ps := by
  induction h generalizing number with
  | nil => rfl
  | cons recoded _ ih =>
      cases recoded with
      | plain c => exact congrArg (c :: ·) (ih number)
      | code content _ _ => exact congrArg (placeholder number ++ ·) (ih (number + 1))

section

variable {text other : List Char}

/-- The text without emphasis does not depend on its code. -/
theorem plainMarkup_recoded (h : List.Forall₂ Piece.Recoded (pieces text) (pieces other)) :
    plainMarkup other = plainMarkup text := by
  rw [plainMarkup, plainMarkup, withPlaceholders_recoded h]

/-- Whether the emphasis of a text overlaps does not depend on its code. -/
theorem overlaps_recoded (h : List.Forall₂ Piece.Recoded (pieces text) (pieces other)) :
    overlaps other = overlaps text := by
  rw [overlaps, overlaps, plainMarkup_recoded h]

/-- **The emphasis of a text does not depend on its code.** -/
theorem emphasizedMarkup_recoded (h : List.Forall₂ Piece.Recoded (pieces text) (pieces other)) :
    emphasizedMarkup other = emphasizedMarkup text := by
  rw [emphasizedMarkup, emphasizedMarkup, overlaps_recoded h, plainMarkup_recoded h]

end

/-- The code of a text has something in it, and no backtick. -/
theorem code_of_mem_piecesFrom {opened : Option (List Char)} {text : List Char}
    (noTick : ∀ seen ∈ opened, '`' ∉ seen) {content : List Char} (mem : .code content ∈ piecesFrom opened text) :
    content ≠ [] ∧ '`' ∉ content := by
  fun_induction piecesFrom opened text with
  | case1 => cases mem
  | case2 rest ih => exact ih (by simp) mem
  | case3 c rest _ ih => exact ih (by simp) (by simpa using mem)
  | case4 seen => simp at mem
  | case5 seen rest _ ih => exact ih (by simp) (by simpa using mem)
  | case6 seen rest some_ ih =>
      rcases List.mem_cons.mp mem with same | later
      · obtain rfl := Piece.code.inj same
        have tick := noTick seen rfl
        constructor
        · simpa using some_
        · simpa using tick
      · exact ih (by simp) later
  | case7 seen c rest other ih =>
      refine ih ?_ mem
      rintro _ ⟨rfl⟩
      exact List.not_mem_cons_of_ne_of_not_mem (Ne.symm other) (noTick seen rfl)

/-- **Other content for one code span** of a text. -/
theorem recoded_replace {text : List Char} {before after : List Piece} {content : List Char}
    (cut : pieces text = before ++ .code content :: after) {other : List Char} (some_ : other ≠ [])
    (noTick : '`' ∉ other) :
    List.Forall₂ Piece.Recoded (pieces text) (before ++ .code other :: after) := by
  have self : ∀ p ∈ pieces text, Piece.Recoded p p := by
    intro p mem
    cases p with
    | plain c => exact .plain c
    | code content =>
        obtain ⟨ne, tick⟩ := code_of_mem_piecesFrom (by simp) mem
        exact .code content ne tick
  rw [cut] at self ⊢
  have hbefore : List.Forall₂ Piece.Recoded before before :=
    List.forall₂_same.mpr fun p mem => self p (List.mem_append_left _ mem)
  have hafter : List.Forall₂ Piece.Recoded after after :=
    List.forall₂_same.mpr fun p mem => self p (List.mem_append_right _ (List.mem_cons_of_mem _ mem))
  exact List.rel_append hbefore (.cons (.code content some_ noTick) hafter)

theorem length_codeSpans_recoded {ps qs : List Piece} (h : List.Forall₂ Piece.Recoded ps qs) :
    (codeSpans qs).length = (codeSpans ps).length := by
  induction h with
  | nil => rfl
  | cons recoded _ ih =>
      cases recoded with
      | plain c => exact ih
      | code content _ _ => exact congrArg (· + 1) ih

/-! ## Numbers as code -/

/-- The pieces with their own numbers as code, from the given one up. -/
def numbered : Nat → List Piece → List Piece
  | _, [] => []
  | number, .plain c :: rest => .plain c :: numbered number rest
  | number, .code _ :: rest => .code (Nat.toDigits 10 number) :: numbered (number + 1) rest

theorem tick_not_mem_toDigits (number : Nat) : '`' ∉ Nat.toDigits 10 number := fun mem =>
  absurd (ascii_of_mem_toDigits mem) (by decide)

theorem recoded_numbered (ps : List Piece) (number : Nat) : List.Forall₂ Piece.Recoded ps (numbered number ps) := by
  induction ps generalizing number with
  | nil => exact .nil
  | cons p ps ih =>
      cases p with
      | plain c => exact .cons (.plain c) (ih number)
      | code content =>
          exact .cons (.code content Nat.toDigits_ne_nil (tick_not_mem_toDigits number)) (ih (number + 1))

/-- The code of numbered pieces are the numbers, in order. -/
theorem codeSpans_numbered (ps : List Piece) (number : Nat) :
    codeSpans (numbered number ps) = (List.range' number (codeSpans ps).length).map (Nat.toDigits 10) := by
  induction ps generalizing number with
  | nil => rfl
  | cons p ps ih =>
      cases p with
      | plain c => exact ih number
      | code content => exact congrArg (Nat.toDigits 10 number :: ·) (ih (number + 1))

/-! ## Placeholders in order -/

/-- **Parts whose placeholders count up** from a number, one for each of some contents, and the elements that they are
when the contents are put back. -/
inductive InOrder : Nat → List (List Char) → List Part → List Element → Prop where
  | nil (number : Nat) : InOrder number [] [] []
  | keep {number : Nat} {contents : List (List Char)} {p : Part} {parts : List Part} {elements : List Element} :
      p ≠ .char '\x00' → InOrder number contents parts elements →
      InOrder number contents (p :: parts) (.part p :: elements)
  | span {number : Nat} (content : List Char) {contents : List (List Char)} {parts : List Part}
      {elements : List Element} :
      InOrder (number + 1) contents parts elements →
      InOrder number (content :: contents) ((placeholder number).map .char ++ parts) (.code content :: elements)

namespace InOrder

variable {number : Nat} {contents : List (List Char)} {parts : List Part} {elements : List Element}

theorem filterMap_code? (h : InOrder number contents parts elements) : elements.filterMap Element.code? = contents := by
  induction h with
  | nil => rfl
  | keep _ _ ih => exact ih
  | span content _ ih => exact congrArg (content :: ·) ih

/-- The contents are set aside behind those with smaller numbers. -/
theorem setAside (h : InOrder number contents parts elements) (before : List (List Char))
    (length : before.length = number) : SetAside (before ++ contents) parts elements := by
  induction h generalizing before with
  | nil => exact .nil
  | keep other _ ih => exact .keep other (ih before length)
  | @span number content contents parts elements _ ih =>
      have rest : SetAside (before ++ [content] ++ contents) parts elements := ih _ (by simp [length])
      rw [List.append_assoc] at rest
      refine .span ?_ rest
      rw [← length, List.getElem?_append_right (Nat.le_refl _), Nat.sub_self]
      rfl

/-- **Other content for one placeholder** changes the one element that stands for it. -/
theorem replace {before after : List (List Char)} {content : List Char}
    (h : InOrder number (before ++ content :: after) parts elements) :
    ∃ left right, elements = left ++ .code content :: right ∧
      left.filterMap Element.code? = before ∧ right.filterMap Element.code? = after ∧
      ∀ other, InOrder number (before ++ other :: after) parts (left ++ .code other :: right) := by
  generalize whole : before ++ content :: after = contents at h
  induction h generalizing before with
  | nil => simp at whole
  | @keep number contents p parts elements other _ ih =>
      obtain ⟨left, right, rfl, hbefore, hafter, replaced⟩ := ih whole
      exact ⟨.part p :: left, right, rfl, hbefore, hafter, fun content' => .keep other (replaced content')⟩
  | @span number first contents parts elements rest ih =>
      cases before with
      | nil =>
          obtain ⟨rfl, rfl⟩ := List.cons.inj whole
          exact ⟨[], elements, rfl, rfl, rest.filterMap_code?, fun other => .span other rest⟩
      | cons b before =>
          obtain ⟨rfl, later⟩ := List.cons.inj whole
          obtain ⟨left, right, rfl, hbefore, hafter, replaced⟩ := ih later
          exact ⟨.code b :: left, right, rfl, congrArg (b :: ·) hbefore, hafter, fun other => .span b (replaced other)⟩

end InOrder

/-- **Numbers that stand in order are placeholders that count up.** Where each span says its own number, and the code
among the elements are the numbers in order, any contents can be put in their places. -/
theorem SetAside.inOrder {names : List (List Char)} (named : ∀ i name, names[i]? = some name → name = Nat.toDigits 10 i)
    {parts : List Part} {elements : List Element} (h : SetAside names parts elements) {number : Nat}
    {contents : List (List Char)}
    (order : elements.filterMap Element.code? = (List.range' number contents.length).map (Nat.toDigits 10)) :
    ∃ elements', InOrder number contents parts elements' := by
  induction h generalizing number contents with
  | nil =>
      have none_ : contents = [] := by simpa using order
      exact ⟨[], none_ ▸ .nil number⟩
  | @keep p parts elements other _ ih =>
      obtain ⟨elements', ordered⟩ := ih order
      exact ⟨.part p :: elements', .keep other ordered⟩
  | @span i name parts elements found _ ih =>
      cases contents with
      | nil => cases order
      | cons content contents =>
          obtain ⟨first, later⟩ := List.cons.inj order
          -- the span says the number of its placeholder, and it is the next in order
          have same : number = i := toDigits_injective (first.symm.trans (named i name found))
          obtain ⟨elements', ordered⟩ := ih later
          subst same
          exact ⟨.code content :: elements', .span content ordered⟩

/-! ## The emphasis of a text -/

/-- The code among the elements of a text, before any emphasis. -/
theorem filterMap_code?_pieces (ps : List Piece) :
    (ps.map Piece.element).filterMap Element.code? = codeSpans ps := by
  rw [List.filterMap_map]
  refine List.filterMap_congr ?_
  rintro (c | content) _ <;> rfl

theorem filterMap_code?_filter_isLasting (elements : List Element) :
    (elements.filter Element.isLasting).filterMap Element.code? = elements.filterMap Element.code? := by
  rw [List.filterMap_filter]
  refine List.filterMap_congr ?_
  rintro (p | content) _
  · simp [Element.code?]
  · rfl

/-- **Other content for one code span** of pieces: their elements change at that span only. -/
theorem InOrder.replace_code {ps before after : List Piece} {content : List Char} {parts : List Part}
    {elements : List Element} (h : InOrder 0 (codeSpans ps) parts elements)
    (cut : ps = before ++ .code content :: after) :
    ∃ left right, elements = left ++ .code content :: right ∧
      left.filterMap Element.code? = codeSpans before ∧ right.filterMap Element.code? = codeSpans after ∧
      ∀ other, InOrder 0 (codeSpans (before ++ .code other :: after)) parts (left ++ .code other :: right) := by
  have around : ∀ code, codeSpans (before ++ .code code :: after) = codeSpans before ++ code :: codeSpans after := by
    intro code
    exact List.filterMap_append
  rw [cut, around] at h
  simp only [around]
  exact h.replace

/-- What the code of a text says puts no plain character among its pieces. -/
theorem plain_mem_of_recoded {ps qs : List Piece} (h : List.Forall₂ Piece.Recoded ps qs) {c : Char}
    (mem : .plain c ∈ qs) : .plain c ∈ ps := by
  obtain ⟨p, inside, recoded⟩ := exists_left_of_forall₂ h mem
  cases recoded
  exact inside

/-- **The emphasis of a text**: parts whose placeholders count up from zero, one for each code span. -/
theorem emphasizedMarkup_inOrder {text : List Char} (noNul : Piece.plain '\x00' ∉ pieces text) :
    ∃ parts elements, emphasizedMarkup text = written parts ∧ InOrder 0 (codeSpans (pieces text)) parts elements := by
  have recoded := recoded_numbered (pieces text) 0
  have cut := pieces_recoded recoded
  have noNul' : Piece.plain '\x00' ∉ numbered 0 (pieces text) := fun mem => noNul (plain_mem_of_recoded recoded mem)
  rw [← cut] at recoded noNul'
  obtain ⟨parts, elements, emphasized, aside, lasting⟩ := emphasizedMarkup_setAside noNul'
  rw [emphasizedMarkup_recoded recoded] at emphasized
  have spans := codeSpans_numbered (pieces text) 0
  have order : elements.filterMap Element.code? =
      (List.range' 0 (codeSpans (pieces text)).length).map (Nat.toDigits 10) := by
    rw [← filterMap_code?_filter_isLasting, lasting, filterMap_code?_filter_isLasting, filterMap_code?_pieces, cut,
      spans]
  have named : ∀ i name, (codeSpans (numbered 0 (pieces text)))[i]? = some name → name = Nat.toDigits 10 i := by
    intro i name found
    rw [spans, List.getElem?_map] at found
    obtain ⟨number, inRange, rfl⟩ := Option.map_eq_some_iff.mp found
    obtain ⟨_, here⟩ := List.getElem?_eq_some_iff.mp inRange
    rw [← here, List.getElem_range', Nat.zero_add, Nat.one_mul]
  rw [cut] at aside
  obtain ⟨elements', ordered⟩ := aside.inOrder named order
  exact ⟨parts, elements', emphasized, ordered⟩

/-! ## Put back in order -/

/-- **More spans than numbers** that can be read cannot be put back. -/
theorem InOrder.fill_error {number : Nat} {contents : List (List Char)} {parts : List Part} {elements : List Element}
    (h : InOrder number contents parts elements) (small : number ≤ 10 ^ maxDigits)
    (many : 10 ^ maxDigits < number + contents.length) (spans : List (List Char)) :
    ∃ e, fill spans (written parts) = .error e := by
  unfold fill
  induction h with
  | nil => exact absurd many (Nat.not_lt_of_le small)
  | keep other _ ih =>
      obtain ⟨e, refused⟩ := ih small many
      exact ⟨e, by rw [written_cons, fillFrom_none_append (Part.nul_not_mem other), refused]; rfl⟩
  | @span number content contents parts elements _ ih =>
      rw [written_append, written_placeholder, fillFrom_placeholder]
      rcases Nat.lt_or_eq_of_le small with below | limit
      · have later : 10 ^ maxDigits < number + 1 + contents.length := by
          rw [List.length_cons] at many
          omega
        obtain ⟨e, refused⟩ := ih below later
        rw [refused]
        cases spanFor spans (Nat.toDigits 10 number) with
        | error e' => exact ⟨e', rfl⟩
        | ok span => exact ⟨e, rfl⟩
      · -- the first number with one digit too many
        obtain ⟨e, refused⟩ := spanFor_toDigits_error spans (Nat.le_of_eq limit.symm)
        rw [refused]
        exact ⟨e, rfl⟩

/-- **Spans put back in order** make the elements, where there are no more of them than numbers that can be read. -/
theorem InOrder.fill_written {contents : List (List Char)} {parts : List Part} {elements : List Element}
    (h : InOrder 0 contents parts elements) (few : contents.length ≤ 10 ^ maxDigits) (font : List Char) :
    fill (contents.map (fontElement font)) (written parts) = .ok (composed font elements) := by
  have aside : SetAside contents parts elements := h.setAside [] rfl
  rcases aside.fill_written font with filled | ⟨many, _⟩
  · exact filled
  · exact absurd few (Nat.not_le_of_lt many)

end SlidePress.Inline
