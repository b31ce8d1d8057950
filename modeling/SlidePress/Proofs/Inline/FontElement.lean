import SlidePress.Proofs.Inline.Recode

/-!
# `SlidePress.Proofs.Inline.FontElement` — code in markup

Who reads a markup finds code in its font elements: each from a font tag to the tag that ends it (`fontContents`). What
is read there are the code spans of the text, each in an element of its own, in their order, and as the author wrote
them. A span says nothing outside of its element: with other content in it the markup is the same before the element and
behind it, and so is the decision about overlapping emphasis.

## Contents
- `Token`, `tokens`: markup as tags and characters.
- `fontContents`, `fontContents_composed`: what stands in its font elements.
- `besideFonts`, `besideFonts_composed`: what stands outside of them.
- `markup_eq_of_inOrder`, `markup_eq_ok_iff_of_inOrder`: the markup of a text, from its parts;
  `markup_eq_emphasizedMarkup`: of a text without code.
- `markup_code_verbatim`: every markup.
-/

namespace SlidePress.Inline

open Text

/-! ## Markup as it is read -/

/-- What a reader of markup sees at a time. -/
inductive Token
  | char (c : Char)
  /-- What stands between a less-than sign and the next greater-than sign. -/
  | tag (name : List Char)
deriving DecidableEq, Repr

/-- The tokens of a text. After a less-than sign the characters since are kept until it is known whether a tag ends. -/
def tokensFrom : Option (List Char) → List Char → List Token
  | none, [] => []
  | none, c :: rest => if c = '<' then tokensFrom (some []) rest else .char c :: tokensFrom none rest
  | some seen, [] => .char '<' :: seen.reverse.map .char
  | some seen, c :: rest =>
    if c = '>' then .tag seen.reverse :: tokensFrom none rest else tokensFrom (some (c :: seen)) rest

/-- The tokens of a text. -/
def tokens (cs : List Char) : List Token := tokensFrom none cs

/-- What stands in the font elements among some tokens, in order. After the tag that opens an element the characters
since are kept until the tag that ends it. -/
def fontContentsFrom : Option (List Char) → List Token → List (List Char)
  | none, [] => []
  | none, .char _ :: rest => fontContentsFrom none rest
  | none, .tag name :: rest =>
    if "font ".toList.isPrefixOf name then fontContentsFrom (some []) rest else fontContentsFrom none rest
  | some _, [] => []
  | some seen, .char c :: rest => fontContentsFrom (some (c :: seen)) rest
  | some seen, .tag name :: rest =>
    if name = "/font".toList then seen.reverse :: fontContentsFrom none rest
    else fontContentsFrom (some ('>' :: name.reverse ++ '<' :: seen)) rest

/-- What stands in the font elements of a text, in order. -/
def fontContents (cs : List Char) : List (List Char) := fontContentsFrom none (tokens cs)

/-- What stands outside of the font elements among some tokens, given whether one is open. -/
def besideFontsFrom : Bool → List Token → List Char
  | _, [] => []
  | false, .char c :: rest => c :: besideFontsFrom false rest
  | false, .tag name :: rest =>
    if "font ".toList.isPrefixOf name then besideFontsFrom true rest
    else '<' :: (name ++ '>' :: besideFontsFrom false rest)
  | true, .char _ :: rest => besideFontsFrom true rest
  | true, .tag name :: rest => besideFontsFrom (name ≠ "/font".toList) rest

/-- What stands outside of the font elements of a text. -/
def besideFonts (cs : List Char) : List Char := besideFontsFrom false (tokens cs)

theorem tokens_append {cs : List Char} (h : '<' ∉ cs) (rest : List Char) :
    tokens (cs ++ rest) = cs.map .char ++ tokens rest := by
  induction cs with
  | nil => rfl
  | cons c cs ih =>
      obtain ⟨first, later⟩ := List.ne_and_not_mem_of_not_mem_cons h
      have here : tokens (c :: (cs ++ rest)) = .char c :: tokens (cs ++ rest) := if_neg (Ne.symm first)
      rw [List.cons_append, here, ih later]
      rfl

/-- The name of an open tag goes on up to its greater-than sign. -/
theorem tokensFrom_some_append {name : List Char} (h : '>' ∉ name) (seen rest : List Char) :
    tokensFrom (some seen) (name ++ '>' :: rest) = .tag (seen.reverse ++ name) :: tokens rest := by
  induction name generalizing seen with
  | nil =>
      rw [List.nil_append, List.append_nil, tokensFrom, if_pos rfl]
      rfl
  | cons c name ih =>
      obtain ⟨first, later⟩ := List.ne_and_not_mem_of_not_mem_cons h
      rw [List.cons_append, tokensFrom, if_neg (Ne.symm first), ih later, List.reverse_cons, List.append_assoc]
      rfl

/-- **A tag** is one token. -/
theorem tokens_tag {name : List Char} (h : '>' ∉ name) (rest : List Char) :
    tokens ('<' :: (name ++ '>' :: rest)) = .tag name :: tokens rest := by
  rw [tokens, tokensFrom, if_pos rfl, tokensFrom_some_append h]
  rfl

theorem fontContentsFrom_none_chars (cs : List Char) (rest : List Token) :
    fontContentsFrom none (cs.map .char ++ rest) = fontContentsFrom none rest := by
  induction cs with
  | nil => rfl
  | cons c cs ih => exact ih

theorem fontContentsFrom_some_chars (cs seen : List Char) (rest : List Token) :
    fontContentsFrom (some seen) (cs.map .char ++ rest) = fontContentsFrom (some (cs.reverse ++ seen)) rest := by
  induction cs generalizing seen with
  | nil => rfl
  | cons c cs ih =>
      rw [List.map_cons, List.cons_append, fontContentsFrom, ih, List.reverse_cons, List.append_assoc]
      rfl

/-! ## The font elements of a markup -/

theorem fontContents_fontElement_append {font : List Char} (gt : '>' ∉ font) (content rest : List Char) :
    fontContents (fontElement font content ++ rest) = escape content :: fontContents rest := by
  have opening : "font ".toList.isPrefixOf (fontTagName font) = true := rfl
  have closing : '>' ∉ "/font".toList := by decide
  rw [fontElement_append, fontContents, tokens_tag (gt_not_mem_fontTagName gt), fontContentsFrom, if_pos opening,
    tokens_append (lt_not_mem_escape content), fontContentsFrom_some_chars, tokens_tag closing, fontContentsFrom,
    if_pos rfl, List.append_nil, List.reverse_reverse]
  rfl

/-- An element is a font element if it is code, and none if it is not. -/
theorem fontContents_chars_append {font : List Char} (gt : '>' ∉ font) (element : Element) (rest : List Char) :
    fontContents (element.chars font ++ rest) = element.code?.toList.map escape ++ fontContents rest := by
  cases element with
  | part p =>
      cases p with
      | char c =>
          rw [Element.chars, Part.chars, escapeChar_eq_escape, fontContents, tokens_append (lt_not_mem_escape [c]),
            fontContentsFrom_none_chars]
          rfl
      | tag t => rcases t with e | e <;> cases e <;> rfl
  | code content => exact fontContents_fontElement_append gt content rest

/-- **The font elements of a markup** are its code, escaped. -/
theorem fontContents_composed {font : List Char} (gt : '>' ∉ font) (elements : List Element) :
    fontContents (composed font elements) = (elements.filterMap Element.code?).map escape := by
  induction elements with
  | nil => rfl
  | cons element elements ih =>
      rw [composed_cons, fontContents_chars_append gt, ih]
      cases element <;> rfl

/-- Read with entities as characters, they are the code itself. -/
theorem decoded_fontContents_composed {font : List Char} (gt : '>' ∉ font) (elements : List Element) :
    (fontContents (composed font elements)).map decoded = elements.filterMap Element.code? := by
  rw [fontContents_composed gt, List.map_map]
  have same : decoded ∘ escape = id := funext decoded_escape
  rw [same, List.map_id]

/-- Characters outside of font elements stand beside them. -/
theorem besideFontsFrom_false_chars (cs : List Char) (rest : List Token) :
    besideFontsFrom false (cs.map .char ++ rest) = cs ++ besideFontsFrom false rest := by
  induction cs with
  | nil => rfl
  | cons c cs ih => exact congrArg (c :: ·) ih

theorem besideFontsFrom_true_chars (cs : List Char) (rest : List Token) :
    besideFontsFrom true (cs.map .char ++ rest) = besideFontsFrom true rest := by
  induction cs with
  | nil => rfl
  | cons c cs ih => exact ih

/-- An element stands beside the font elements if it is a part, and is one of them if it is code. -/
theorem besideFonts_chars_append {font : List Char} (gt : '>' ∉ font) (element : Element) (rest : List Char) :
    besideFonts (element.chars font ++ rest) = written element.part?.toList ++ besideFonts rest := by
  cases element with
  | part p =>
      cases p with
      | char c =>
          rw [Element.chars, Part.chars, escapeChar_eq_escape, besideFonts, tokens_append (lt_not_mem_escape [c]),
            besideFontsFrom_false_chars]
          simp [Element.part?, Part.chars, escapeChar_eq_escape, besideFonts]
      | tag t => rcases t with e | e <;> cases e <;> rfl
  | code content =>
      have opening : "font ".toList.isPrefixOf (fontTagName font) = true := rfl
      have closing : '>' ∉ "/font".toList := by decide
      rw [Element.chars, fontElement_append, besideFonts, tokens_tag (gt_not_mem_fontTagName gt), besideFontsFrom,
        if_pos opening, tokens_append (lt_not_mem_escape content), besideFontsFrom_true_chars, tokens_tag closing]
      rfl

/-- **What stands beside the font elements of a markup** are its parts, written. -/
theorem besideFonts_composed {font : List Char} (gt : '>' ∉ font) (elements : List Element) :
    besideFonts (composed font elements) = written (elements.filterMap Element.part?) := by
  induction elements with
  | nil => rfl
  | cons element elements ih =>
      rw [composed_cons, besideFonts_chars_append gt, ih, ← written_append]
      cases element <;> rfl

/-! ## Every markup -/

/-- **The markup of a text**, from its parts: their elements with the code put back, unless there is more of it than
numbers that can be read. -/
theorem markup_eq_of_inOrder (font : String) {text : String} {parts : List Part} {elements : List Element}
    (emphasized : emphasizedMarkup text.toList = written parts)
    (ordered : InOrder 0 (codeSpans (pieces text.toList)) parts elements) :
    ((codeSpans (pieces text.toList)).length ≤ 10 ^ maxDigits →
        markup font text = .ok (String.ofList (composed font.toList elements))) ∧
      (10 ^ maxDigits < (codeSpans (pieces text.toList)).length → ∃ e, markup font text = .error e) := by
  rw [markup, markupChars, emphasized]
  constructor
  · intro few
    rw [ordered.fill_written few]
    rfl
  · intro many
    obtain ⟨e, refused⟩ := ordered.fill_error (Nat.zero_le _) (by rwa [Nat.zero_add]) _
    exact ⟨e, by rw [refused]; rfl⟩

/-- A markup that is made is its elements, and there is one if the numbers can be read. -/
theorem markup_eq_ok_iff_of_inOrder (font : String) {text out : String} {parts : List Part} {elements : List Element}
    (emphasized : emphasizedMarkup text.toList = written parts)
    (ordered : InOrder 0 (codeSpans (pieces text.toList)) parts elements) :
    markup font text = .ok out ↔ (codeSpans (pieces text.toList)).length ≤ 10 ^ maxDigits ∧
      out = String.ofList (composed font.toList elements) := by
  obtain ⟨made, refused⟩ := markup_eq_of_inOrder font emphasized ordered
  constructor
  · intro hout
    by_cases few : (codeSpans (pieces text.toList)).length ≤ 10 ^ maxDigits
    · exact ⟨few, Except.ok.inj (hout.symm.trans (made few))⟩
    · obtain ⟨e, error⟩ := refused (Nat.lt_of_not_le few)
      cases hout.symm.trans error
  · rintro ⟨few, rfl⟩
    exact made few

/-- Where there is no code, the elements of parts are the parts. -/
theorem InOrder.composed_eq_written {number : Nat} {parts : List Part} {elements : List Element}
    (h : InOrder number [] parts elements) (font : List Char) : composed font elements = written parts := by
  generalize none_ : ([] : List (List Char)) = contents at h
  induction h with
  | nil => rfl
  | keep _ _ ih => rw [composed_cons, written_cons, ih none_, Element.chars]
  | span => cases none_

/-- **The markup of a text without code** is its emphasis. -/
theorem markup_eq_emphasizedMarkup (font : String) {text : String} (noNul : Piece.plain '\x00' ∉ pieces text.toList)
    (noCode : codeSpans (pieces text.toList) = []) :
    markup font text = .ok (String.ofList (emphasizedMarkup text.toList)) := by
  obtain ⟨parts, elements, emphasized, ordered⟩ := emphasizedMarkup_inOrder noNul
  have made := (markup_eq_of_inOrder font emphasized ordered).1
  rw [noCode] at made ordered
  rw [made (Nat.zero_le _), ordered.composed_eq_written, emphasized]

theorem composed_append_code (font : List Char) (left right : List Element) (content : List Char) :
    composed font (left ++ .code content :: right) =
      composed font left ++ fontElement font content ++ composed font right := by
  rw [List.append_assoc]
  exact List.flatMap_append

/-- **Code is verbatim, in order and without effect on anything else.** A text without a NUL outside of its code spans
has a markup, unless there are more spans in it than numbers that can be read. The font elements of the markup, with
their entities as characters, are the code spans of the text in their order. And with other content in one of the spans
the text is cut into pieces as before, its emphasis overlaps as before, and its markup is the same up to the inside of
that one element. The name of the font must have no greater-than sign, which would end its tag. -/
theorem markup_code_verbatim {font text : String} (noNul : Piece.plain '\x00' ∉ pieces text.toList)
    (plainFont : '>' ∉ font.toList) :
    ((∃ out, markup font text = .ok out) ↔ (codeSpans (pieces text.toList)).length ≤ 10 ^ maxDigits) ∧
      ∀ out, markup font text = .ok out →
        (fontContents out.toList).map decoded = codeSpans (pieces text.toList) ∧
        ∀ before content after, pieces text.toList = before ++ .code content :: after →
          ∀ other, other ≠ [] → '`' ∉ other →
            let text' := String.ofList ((before ++ .code other :: after).flatMap Piece.chars)
            pieces text'.toList = before ++ .code other :: after ∧
              overlaps text'.toList = overlaps text.toList ∧
              ∃ left right, out.toList = left ++ fontElement font.toList content ++ right ∧
                markup font text' = .ok (String.ofList (left ++ fontElement font.toList other ++ right)) ∧
                (fontContents left).map decoded = codeSpans before ∧
                (fontContents right).map decoded = codeSpans after := by
  obtain ⟨parts, elements, emphasized, ordered⟩ := emphasizedMarkup_inOrder noNul
  obtain ⟨made, refused⟩ := markup_eq_of_inOrder font emphasized ordered
  have ok_iff : (∃ out, markup font text = .ok out) ↔
      (codeSpans (pieces text.toList)).length ≤ 10 ^ maxDigits := by
    constructor
    · rintro ⟨out, hout⟩
      by_contra many
      obtain ⟨e, error⟩ := refused (Nat.lt_of_not_le many)
      cases hout.symm.trans error
    · intro few
      exact ⟨_, made few⟩
  refine ⟨ok_iff, ?_⟩
  intro out hout
  have few := ok_iff.mp ⟨out, hout⟩
  obtain rfl := Except.ok.inj (hout.symm.trans (made few))
  rw [String.toList_ofList]
  constructor
  · rw [decoded_fontContents_composed plainFont, ordered.filterMap_code?]
  · intro before content after cut other some_ noTick text'
    obtain ⟨left, right, rfl, hbefore, hafter, replaced⟩ := ordered.replace_code cut
    have recoded := recoded_replace cut some_ noTick
    have chars : text'.toList = (before ++ .code other :: after).flatMap Piece.chars := String.toList_ofList
    have cut' : pieces text'.toList = before ++ .code other :: after := by rw [chars, pieces_recoded recoded]
    rw [← cut'] at recoded
    have ordered' : InOrder 0 (codeSpans (pieces text'.toList)) parts (left ++ .code other :: right) := by
      rw [cut']
      exact replaced other
    have few' : (codeSpans (pieces text'.toList)).length ≤ 10 ^ maxDigits := by
      rwa [length_codeSpans_recoded recoded]
    have made' := (markup_eq_of_inOrder font ((emphasizedMarkup_recoded recoded).trans emphasized) ordered').1
    have around := composed_append_code font.toList left right
    refine ⟨cut', overlaps_recoded recoded, composed font.toList left, composed font.toList right, around content, ?_, ?_,
      ?_⟩
    · rw [← around]
      exact made' few'
    · rw [decoded_fontContents_composed plainFont, hbefore]
    · rw [decoded_fontContents_composed plainFont, hafter]

/-- Code next to digits and in emphasis, and instead of one span what another text's placeholder would be; and code in
emphasis that overlaps. -/
theorem markup_code_verbatim_of_digits :
    let font := "Courier"
    let text := "**1`a*`2`<_`** _`0`_"
    let overlapping := "**a *`b*`** c*"
    Piece.plain '\x00' ∉ pieces text.toList ∧ '>' ∉ font.toList ∧ Piece.plain '\x00' ∉ pieces overlapping.toList ∧
      (∃ out, markup font text = .ok out ∧
        (fontContents out.toList).map decoded = ["a*".toList, "<_".toList, "0".toList] ∧
        ∃ left right, out.toList = left ++ fontElement font.toList "<_".toList ++ right ∧
          markup font "**1`a*`2`\x000\x00*`** _`0`_" =
            .ok (String.ofList (left ++ fontElement font.toList "\x000\x00*".toList ++ right))) ∧
      overlaps overlapping.toList = true ∧
        ∃ out, markup font overlapping = .ok out ∧ (fontContents out.toList).map decoded = ["b*".toList] := by
  intro font text overlapping
  have noNul : Piece.plain '\x00' ∉ pieces text.toList := by decide
  have noNul' : Piece.plain '\x00' ∉ pieces overlapping.toList := by decide
  have plainFont : '>' ∉ font.toList := by decide
  have code : codeSpans (pieces text.toList) = ["a*".toList, "<_".toList, "0".toList] := by decide +kernel
  have code' : codeSpans (pieces overlapping.toList) = ["b*".toList] := by decide +kernel
  have cut : pieces text.toList = ("**1".toList.map .plain ++ [.code "a*".toList, .plain '2']) ++
      .code "<_".toList :: ("** _".toList.map .plain ++ [.code "0".toList, .plain '_']) := by decide +kernel
  have made : (markup font text).toOption =
      some ("<b>1<font name=\"Courier\">a*</font>2<font name=\"Courier\">&lt;_</font></b> " ++
        "<i><font name=\"Courier\">0</font></i>") := by decide +kernel
  have kept : (markup font overlapping).toOption = some "**a *<font name=\"Courier\">b*</font>** c*" := by
    decide +kernel
  have overlap : overlaps overlapping.toList = true := by decide +kernel
  obtain ⟨spans, replaced⟩ := (markup_code_verbatim noNul plainFont).2 _ (ok_of_toOption made)
  obtain ⟨_, _, left, right, around, made', _⟩ := replaced _ _ _ cut "\x000\x00*".toList (by decide) (by decide)
  obtain ⟨spans', _⟩ := (markup_code_verbatim noNul' plainFont).2 _ (ok_of_toOption kept)
  rw [code] at spans
  rw [code'] at spans'
  exact ⟨noNul, plainFont, noNul', ⟨_, ok_of_toOption made, spans, left, right, around, made'⟩, overlap, _,
    ok_of_toOption kept, spans'⟩

end SlidePress.Inline
