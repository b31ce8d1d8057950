import SlidePress.Proofs.Inline.CodeSpan
import SlidePress.Proofs.Inline.Emphasis

/-!
# `SlidePress.Proofs.Inline.WellFormed` — markup that can be set

Markup is set by a parser that stops at the first tag it cannot match. What it accepts is a grammar (`WellFormed`), and
every markup that is made belongs to it: the emphasis of a text is kept only if its tags close each other, the last one
first, and a text whose emphasis overlaps has no such tags at all.

The balance check runs before the code spans are put back, so it sees the tags and nothing else. Along the elements of a
markup it is a stack of open emphasis, and what stands behind an element must close that stack (`Closes`). Read from the
back, every element keeps this up (`closes_composed`), and an empty stack is the grammar.
-/

namespace SlidePress.Inline

/-! ## The grammar -/

/-- The characters that mean something in markup. -/
def markupSigns : List Char := ['<', '>', '&']

/-- The three entities. -/
def entities : List (List Char) := ["&amp;".toList, "&lt;".toList, "&gt;".toList]

/-- The tag before a code span in some font. -/
def fontTag (font : List Char) : List Char := "<font name=\"".toList ++ font ++ "\">".toList

/-- All tags of markup with its code in some font. -/
def markupTags (font : List Char) : List (List Char) :=
  fontTag font :: ["</font>".toList, "<b>".toList, "</b>".toList, "<i>".toList, "</i>".toList]

/-- Characters and entities only. -/
inductive Verbatim : List Char → Prop where
  | nil : Verbatim []
  | char {c : Char} {rest : List Char} : c ∉ markupSigns → Verbatim rest → Verbatim (c :: rest)
  | entity {entity rest : List Char} : entity ∈ entities → Verbatim rest → Verbatim (entity ++ rest)

/-- **The grammar of markup**: characters, entities, bold and italic text with markup in it, and code in its font with
only characters and entities in it. -/
inductive WellFormed (font : List Char) : List Char → Prop where
  | nil : WellFormed font []
  | char {c : Char} {rest : List Char} : c ∉ markupSigns → WellFormed font rest → WellFormed font (c :: rest)
  | entity {entity rest : List Char} : entity ∈ entities → WellFormed font rest → WellFormed font (entity ++ rest)
  | bold {inner rest : List Char} : WellFormed font inner → WellFormed font rest →
      WellFormed font ("<b>".toList ++ inner ++ "</b>".toList ++ rest)
  | italic {inner rest : List Char} : WellFormed font inner → WellFormed font rest →
      WellFormed font ("<i>".toList ++ inner ++ "</i>".toList ++ rest)
  | code {content rest : List Char} : Verbatim content → WellFormed font rest →
      WellFormed font (fontTag font ++ content ++ "</font>".toList ++ rest)

/-- Wherever a character stands, one of the words begins. -/
def Introduces (c : Char) (words : List (List Char)) (text : List Char) : Prop :=
  ∀ before rest, text = before ++ c :: rest → ∃ word ∈ words, word <+: c :: rest

/-- **The signs of markup are used for markup only**: every less-than sign begins a tag, and every ampersand an
entity. -/
structure SignsUsed (font text : List Char) : Prop where
  lt : Introduces '<' (markupTags font) text
  amp : Introduces '&' entities text

/-! ## Where words begin -/

section

variable {c : Char} {words : List (List Char)}

theorem introduces_of_not_mem {text : List Char} (h : c ∉ text) : Introduces c words text := by
  rintro before rest rfl
  exact absurd (by simp) h

/-- One of the words, with the character only at its front. -/
theorem introduces_word {rest : List Char} (mem : c :: rest ∈ words) (h : c ∉ rest) :
    Introduces c words (c :: rest) := by
  intro before after same
  cases before with
  | nil => exact ⟨_, mem, by rw [same]; exact List.prefix_rfl⟩
  | cons d before =>
      have inside : rest = before ++ c :: after := (List.cons.inj same).2
      exact absurd (by simp [inside]) h

theorem Introduces.append {a b : List Char} (ha : Introduces c words a) (hb : Introduces c words b) :
    Introduces c words (a ++ b) := by
  intro before rest same
  rw [List.append_eq_append_iff] at same
  rcases same with ⟨more, rfl, same⟩ | ⟨more, rfl, same⟩
  · exact hb more rest same
  · cases more with
    | nil => exact hb [] rest same.symm
    | cons d more =>
        obtain ⟨rfl, rfl⟩ := List.cons.inj same
        obtain ⟨word, mem, front⟩ := ha before more rfl
        exact ⟨word, mem, front.trans (List.prefix_append (c :: more) b)⟩

end

theorem SignsUsed.append {font a b : List Char} (ha : SignsUsed font a) (hb : SignsUsed font b) :
    SignsUsed font (a ++ b) :=
  ⟨ha.lt.append hb.lt, ha.amp.append hb.amp⟩

theorem signsUsed_nil (font : List Char) : SignsUsed font [] :=
  ⟨introduces_of_not_mem List.not_mem_nil, introduces_of_not_mem List.not_mem_nil⟩

theorem signsUsed_char (font : List Char) {c : Char} (h : c ∉ markupSigns) : SignsUsed font [c] := by
  constructor <;> (refine introduces_of_not_mem ?_; rw [List.mem_singleton]; rintro rfl; exact h (by decide))

/-- An entity has its ampersand in front, and no less-than sign. -/
theorem signsUsed_entity (font : List Char) {entity : List Char} (mem : entity ∈ entities) : SignsUsed font entity := by
  have lt : ∀ entity ∈ entities, '<' ∉ entity := by decide
  refine ⟨introduces_of_not_mem (lt entity mem), ?_⟩
  have cut : ∃ rest, entity = '&' :: rest ∧ '&' ∉ rest := by
    simp only [entities, List.mem_cons, List.not_mem_nil, or_false] at mem
    rcases mem with rfl | rfl | rfl <;> exact ⟨_, rfl, by decide⟩
  obtain ⟨rest, rfl, amp⟩ := cut
  exact introduces_word mem amp

/-- A tag has its less-than sign in front, and no ampersand, if the font has neither. -/
theorem signsUsed_tag {font tag : List Char} (lt : '<' ∉ font) (amp : '&' ∉ font) (mem : tag ∈ markupTags font) :
    SignsUsed font tag := by
  have cut : ∃ rest, tag = '<' :: rest ∧ '<' ∉ rest ∧ '&' ∉ rest := by
    simp only [markupTags, List.mem_cons, List.not_mem_nil, or_false] at mem
    rcases mem with rfl | rfl | rfl | rfl | rfl | rfl
    · refine ⟨"font name=\"".toList ++ font ++ "\">".toList, rfl, ?_, ?_⟩
      · simp [lt]
      · simp [amp]
    all_goals exact ⟨_, rfl, by decide, by decide⟩
  obtain ⟨rest, rfl, noLt, noAmp⟩ := cut
  exact ⟨introduces_word mem noLt, introduces_of_not_mem (by simp [noAmp])⟩

theorem Verbatim.signsUsed (font : List Char) {text : List Char} (h : Verbatim text) : SignsUsed font text := by
  induction h with
  | nil => exact signsUsed_nil font
  | char other _ ih => exact (signsUsed_char font other).append ih
  | entity mem _ ih => exact (signsUsed_entity font mem).append ih

/-- **In well-formed markup the signs are used so**, if the font has none of them. -/
theorem WellFormed.signsUsed {font text : List Char} (lt : '<' ∉ font) (amp : '&' ∉ font) (h : WellFormed font text) :
    SignsUsed font text := by
  have tag : ∀ tag ∈ markupTags font, SignsUsed font tag := fun _ mem => signsUsed_tag lt amp mem
  induction h with
  | nil => exact signsUsed_nil font
  | char other _ ih => exact (signsUsed_char font other).append ih
  | entity mem _ ih => exact (signsUsed_entity font mem).append ih
  | bold _ _ inner rest =>
      exact (((tag _ (by simp [markupTags])).append inner).append (tag _ (by simp [markupTags]))).append rest
  | italic _ _ inner rest =>
      exact (((tag _ (by simp [markupTags])).append inner).append (tag _ (by simp [markupTags]))).append rest
  | code content _ rest =>
      have inner := content.signsUsed font
      exact (((tag _ (by simp [markupTags])).append inner).append (tag _ (by simp [markupTags]))).append rest

/-! ## The stack of open emphasis -/

theorem WellFormed.emphasis {font inner rest : List Char} (e : Emphasis) (hinner : WellFormed font inner)
    (hrest : WellFormed font rest) : WellFormed font (e.openTag ++ inner ++ e.closeTag ++ rest) := by
  cases e with
  | bold => exact .bold hinner hrest
  | italic => exact .italic hinner hrest

/-- Escaped text is characters and entities only. -/
theorem verbatim_escape (cs : List Char) : Verbatim (escape cs) := by
  rw [escape_eq_flatMap]
  induction cs with
  | nil => exact .nil
  | cons c cs ih =>
      rw [List.flatMap_cons]
      rcases escapeChar_cases c with ⟨other, single⟩ | entity
      · rw [single]
        exact .char other ih
      · exact .entity entity ih

/-- **Markup behind open emphasis**: it closes what is open, the innermost first, with well-formed markup before each
closing tag and at the end. -/
def Closes (font : List Char) : List Emphasis → List Char → Prop
  | [], text => WellFormed font text
  | e :: opened, text =>
    ∃ inner rest, text = inner ++ e.closeTag ++ rest ∧ WellFormed font inner ∧ Closes font opened rest

/-- What can stand before well-formed markup can stand before markup that closes open emphasis. -/
theorem Closes.append {font cs : List Char} (front : ∀ rest, WellFormed font rest → WellFormed font (cs ++ rest))
    {opened : List Emphasis} {text : List Char} (h : Closes font opened text) : Closes font opened (cs ++ text) := by
  cases opened with
  | nil => exact front text h
  | cons e opened =>
      obtain ⟨inner, rest, rfl, hinner, hrest⟩ := h
      exact ⟨cs ++ inner, rest, by simp, front inner hinner, hrest⟩

/-- **The stack.** Elements whose tags close what is open are markup that does. -/
theorem closes_composed {font : List Char} {elements : List Element} {opened : List Emphasis}
    (h : closesAll opened (elements.filterMap Element.tag?) = true) :
    Closes font opened (composed font elements) := by
  induction elements generalizing opened with
  | nil =>
      cases opened with
      | nil => exact .nil
      | cons e opened => simp [closesAll] at h
  | cons element elements ih =>
      cases element with
      | code content =>
          refine (ih h).append fun rest hrest => ?_
          exact .code (verbatim_escape content) hrest
      | part p =>
          cases p with
          | char c =>
              refine (ih h).append fun rest hrest => ?_
              rcases escapeChar_cases c with ⟨other, single⟩ | entity
              · rw [Element.chars, Part.chars, single]
                exact .char other hrest
              · exact .entity entity hrest
          | tag t =>
              cases t with
              | opening e =>
                  -- what closes `e` behind the tag makes an element of it, in front of what closes the others
                  have closed : Closes font (e :: opened) (composed font elements) := ih h
                  obtain ⟨inner, rest, same, hinner, hrest⟩ := closed
                  have emphasized := hrest.append fun rest hrest => WellFormed.emphasis e hinner hrest
                  rw [composed_cons, same]
                  simpa [Element.chars, Part.chars, Tag.chars] using emphasized
              | closing e =>
                  cases opened with
                  | nil => exact absurd h Bool.false_ne_true
                  | cons top opened =>
                      obtain ⟨rfl, hclosed⟩ : top = e ∧ closesAll opened (elements.filterMap Element.tag?) = true := by
                        simpa [closesAll, Element.tag?, Part.tag?] using h
                      exact ⟨[], _, rfl, .nil, ih hclosed⟩

/-! ## Every markup -/

/-- **The emphasis of a text** is written parts whose tags close each other: if the emphasis overlaps, there are none. -/
theorem exists_emphasizedMarkup_eq_written (text : List Char) :
    ∃ parts, emphasizedMarkup text = written parts ∧ closesAll [] (parts.filterMap Part.tag?) = true := by
  have plain : plainMarkup text = written ((withPlaceholders 0 (pieces text)).map .char) := (written_map_char _).symm
  unfold emphasizedMarkup
  split
  · refine ⟨_, plain, ?_⟩
    rw [List.filterMap_eq_nil_iff.mpr (by simp [Part.tag?])]
    rfl
  · next nested =>
      obtain ⟨parts, _, emphasized⟩ := emphasize_written ((withPlaceholders 0 (pieces text)).map .char)
      rw [← plain] at emphasized
      refine ⟨parts, emphasized, ?_⟩
      have balanced : isBalanced (emphasize (plainMarkup text)) = true := by simpa [overlaps] using nested
      rw [emphasized, isBalanced, tags_written] at balanced
      exact balanced

/-- **Every markup is well-formed**, whether the emphasis of the text is nested or overlaps, and uses the signs of
markup for its own tags and entities only. The name of the font must have none of them. -/
theorem markup_wellFormed {font text out : String} (plainFont : ∀ c ∈ font.toList, c ∉ '"' :: markupSigns)
    (h : markup font text = .ok out) : WellFormed font.toList out.toList ∧ SignsUsed font.toList out.toList := by
  obtain ⟨chars, hchars, rfl⟩ := exists_of_map_eq_ok h
  obtain ⟨parts, hparts, closed⟩ := exists_emphasizedMarkup_eq_written text.toList
  rw [markupChars, hparts] at hchars
  obtain ⟨elements, filled, rfl⟩ := fill_written hchars
  rw [← filled.filterMap_tag?] at closed
  have wellFormed : WellFormed font.toList (composed font.toList elements) := closes_composed closed
  rw [String.toList_ofList]
  have lt : '<' ∉ font.toList := fun mem => plainFont _ mem (by decide)
  have amp : '&' ∉ font.toList := fun mem => plainFont _ mem (by decide)
  exact ⟨wellFormed, wellFormed.signsUsed lt amp⟩

/-- Emphasis in emphasis around a code span with marks and signs in it, and emphasis that overlaps around one. -/
theorem markup_wellFormed_of_nested_and_overlapping :
    (∀ c ∈ "Courier".toList, c ∉ '"' :: markupSigns) ∧
      (∃ nested, markup "Courier" "**a *b* `**<`** & c" = .ok nested ∧ WellFormed "Courier".toList nested.toList ∧
        SignsUsed "Courier".toList nested.toList) ∧
      ∃ kept, markup "Courier" "**a *b** `**<`* & c" = .ok kept ∧ WellFormed "Courier".toList kept.toList ∧
        SignsUsed "Courier".toList kept.toList := by
  have plainFont : ∀ c ∈ "Courier".toList, c ∉ '"' :: markupSigns := List.all_iff_forall_prop.mp (by decide)
  have nested : (markup "Courier" "**a *b* `**<`** & c").toOption =
      some "<b>a <i>b</i> <font name=\"Courier\">**&lt;</font></b> &amp; c" := by decide +kernel
  have kept : (markup "Courier" "**a *b** `**<`* & c").toOption =
      some "**a *b** <font name=\"Courier\">**&lt;</font>* &amp; c" := by decide +kernel
  exact ⟨plainFont, ⟨_, ok_of_toOption nested, markup_wellFormed plainFont (ok_of_toOption nested)⟩,
    ⟨_, ok_of_toOption kept, markup_wellFormed plainFont (ok_of_toOption kept)⟩⟩

end SlidePress.Inline
