import SlidePress.Proofs.Inline.FontElement
import Mathlib.Algebra.Group.Nat.Defs

/-!
# `SlidePress.Proofs.Inline.Reference` — what is taken for a placeholder

A placeholder is told from other text by its NULs only, and an author can write a NUL. So there are two questions about
a markup: which digits between NULs are taken for a placeholder (`references`), and whether there is a code span of that
number (`spanFor`). Emphasis has no part in the first, since it puts nothing into a placeholder and takes nothing out of
one, wherever the NULs are from. The answer is therefore already in the text before any emphasis, and with the second it
says everything: there is a markup if every reference has a span, and its font elements are these spans.

A text in which no NUL of the author's is followed by digits and another NUL has its own placeholders as references, and
nothing else (`references_withPlaceholders`). In others the author's digits may be taken for the number of a span
(`markup_reads_authored`), and then a span is put where there was none, or there is no such span, and no markup.

## Contents
- `Breaks`, `exists_referencesFrom_append`: references of texts put together.
- `fillFrom_eq_error_iff`, `fontContents_fill`: what cannot be filled, and what is filled.
- `Rewrites.references_eq`, `exists_references_emphasizedMarkup`: references under the rules.
- `imitates`, `references_withPlaceholders`: texts that imitate no placeholder.
- `markup_references`: every markup; `markup_reads_authored`: not every text has one.
-/

namespace SlidePress.Inline

open Text

/-! ## References of texts put together -/

/-- A text that ends what is pending: neither NULs nor digits. -/
def Breaks (cs : List Char) : Prop := cs ≠ [] ∧ ∀ c ∈ cs, c ≠ '\x00' ∧ isDigit c = false

instance (cs : List Char) : Decidable (Breaks cs) := @instDecidableAnd _ _ inferInstance (List.decidableBAll _ cs)

theorem Breaks.referencesFrom_append {cs : List Char} (h : Breaks cs) (seen : Option (List Char)) (rest : List Char) :
    referencesFrom seen (cs ++ rest) = references rest := by
  have noNul : '\x00' ∉ cs := fun mem => (h.2 _ mem).1 rfl
  cases seen with
  | none => exact referencesFrom_none_append noNul rest
  | some seen =>
      obtain ⟨c, cs, rfl⟩ := List.exists_cons_of_ne_nil h.1
      obtain ⟨nul, digit⟩ := h.2 c List.mem_cons_self
      exact referencesFrom_some_append digit nul (fun mem => noNul (List.mem_cons_of_mem c mem)) rest

/-- **Texts put together** have the references of the first, and of the second behind what is pending then. -/
theorem exists_referencesFrom_append (seen : Option (List Char)) (cs : List Char) :
    ∃ seen', ∀ rest, referencesFrom seen (cs ++ rest) = referencesFrom seen cs ++ referencesFrom seen' rest := by
  fun_induction referencesFrom seen cs with
  | case1 => exact ⟨none, fun rest => rfl⟩
  | case2 cs ih => exact ih
  | case3 c cs other ih =>
      obtain ⟨seen', ih⟩ := ih
      exact ⟨seen', fun rest => by rw [List.cons_append, referencesFrom, if_neg other, ih]⟩
  | case4 seen => exact ⟨some seen, fun rest => rfl⟩
  | case5 seen cs empty ih =>
      obtain ⟨seen', ih⟩ := ih
      exact ⟨seen', fun rest => by rw [List.cons_append, referencesFrom, if_pos rfl, if_pos empty, ih]⟩
  | case6 seen cs some_ ih =>
      obtain ⟨seen', ih⟩ := ih
      exact ⟨seen', fun rest => by
        rw [List.cons_append, referencesFrom, if_pos rfl, if_neg some_, ih, List.cons_append]⟩
  | case7 seen c cs nul digit ih =>
      obtain ⟨seen', ih⟩ := ih
      exact ⟨seen', fun rest => by rw [List.cons_append, referencesFrom, if_neg nul, if_pos digit, ih]⟩
  | case8 seen c cs nul other ih =>
      obtain ⟨seen', ih⟩ := ih
      exact ⟨seen', fun rest => by rw [List.cons_append, referencesFrom, if_neg nul, if_neg other, ih]⟩

/-- The references around a break are those of either side. -/
theorem referencesFrom_append_break {w : List Char} (h : Breaks w) (seen : Option (List Char)) (cs rest : List Char) :
    referencesFrom seen (cs ++ (w ++ rest)) = referencesFrom seen cs ++ references rest := by
  obtain ⟨seen', append⟩ := exists_referencesFrom_append seen cs
  rw [append, h.referencesFrom_append]

/-- Texts with the same references have the same behind any other. -/
theorem referencesFrom_append_congr {a b : List Char} (same : ∀ seen, referencesFrom seen a = referencesFrom seen b)
    (seen : Option (List Char)) (cs : List Char) : referencesFrom seen (cs ++ a) = referencesFrom seen (cs ++ b) := by
  obtain ⟨seen', append⟩ := exists_referencesFrom_append seen cs
  rw [append, append, same]

/-! ## Filled -/

/-- What a reference stands for does not depend on how spans are written. -/
theorem spanFor_map (f : List Char → List Char) (spans : List (List Char)) (digits : List Char) :
    spanFor (spans.map f) digits = (spanFor spans digits).map f := by
  unfold spanFor
  cases numeral digits with
  | error long => rfl
  | ok number =>
      simp only [List.getElem?_map]
      cases spans[number]? <;> rfl

/-- **Filling fails** where a reference has no span, and with its error. -/
theorem fillFrom_eq_error_iff (f : List Char → List Char) {spans : List (List Char)} {seen : Option (List Char)}
    {cs : List Char} {e : FillError} :
    fillFrom (spans.map f) seen cs = .error e ↔ (referencesFrom seen cs).mapM (spanFor spans) = .error e := by
  fun_induction referencesFrom seen cs with
  | case1 =>
      constructor <;> intro h <;> cases h
  | case2 cs ih => exact ih
  | case3 c cs other ih => rw [fillFrom, if_neg other, map_eq_error_iff, ih]
  | case4 seen =>
      constructor <;> intro h <;> cases h
  | case5 seen cs empty ih => rw [fillFrom, if_pos rfl, if_pos empty, map_eq_error_iff, ih]
  | case6 seen cs some_ ih =>
      rw [fillFrom, if_pos rfl, if_neg some_, spanFor_map]
      cases found : spanFor spans seen.reverse with
      | error e' =>
          rw [List.mapM_cons, found]
          exact ⟨fun h => congrArg _ (Except.error.inj h), fun h => congrArg _ (Except.error.inj h)⟩
      | ok span =>
          rw [mapM_cons_eq_error_iff found, ← ih]
          exact map_eq_error_iff
  | case7 seen c cs nul digit ih => rw [fillFrom, if_neg nul, if_pos digit, ih]
  | case8 seen c cs nul other ih => rw [fillFrom, if_neg nul, if_neg other, map_eq_error_iff, ih]

/-- **The font elements of filled parts** are the spans that their references stand for. -/
theorem fontContents_fill {font : List Char} (gt : '>' ∉ font) (spans : List (List Char)) (parts : List Part) :
    (fill (spans.map (fontElement font)) (written parts)).map (fun out => (fontContents out).map decoded) =
      (references (written parts)).mapM (spanFor spans) := by
  cases filled : fill (spans.map (fontElement font)) (written parts) with
  | error e => exact ((fillFrom_eq_error_iff (fontElement font)).mp filled).symm
  | ok out =>
      obtain ⟨elements, -, found, rfl⟩ := fillFrom_written none (by simp) filled
      rw [references, found, Except.map, decoded_fontContents_composed gt]

/-! ## Under the rules -/

theorem referencesFrom_written_char (seen : Option (List Char)) (cs : List Char) :
    referencesFrom seen (written (cs.map .char)) = referencesFrom seen cs := by
  induction cs generalizing seen with
  | nil => rfl
  | cons c cs ih =>
      have signs : ∀ d ∈ ['&', '<', '>'], Breaks (escapeChar d) ∧ Breaks [d] := by
        simp only [List.forall_mem_cons]
        exact ⟨by decide, by decide, by decide, nofun⟩
      by_cases sign : c ∈ ['&', '<', '>']
      · obtain ⟨entity, single⟩ := signs c sign
        rw [List.map_cons, written_cons, Part.chars, entity.referencesFrom_append, ← List.singleton_append,
          single.referencesFrom_append, references, references, ih]
      · simp only [List.mem_cons, List.not_mem_nil, or_false, not_or] at sign
        rw [List.map_cons, written_cons, Part.chars, escapeChar_eq_singleton sign.1 sign.2.1 sign.2.2,
          referencesFrom_append_congr ih, List.singleton_append]

theorem EmphasisRule.HasMarks.breaks {rule : EmphasisRule} (marks : rule.HasMarks) :
    Breaks (written (rule.mark.map .char)) := by
  constructor
  · intro none_
    exact rule.mark_ne_nil (List.map_eq_nil_iff.mp (eq_nil_of_written_eq_nil none_))
  · intro c mem
    obtain ⟨p, inside, here⟩ := List.mem_flatMap.mp mem
    obtain ⟨m, hm, rfl⟩ := List.mem_map.mp inside
    rw [Part.chars_eq_singleton (marks m hm).not_mem_markupAlphabet, List.mem_singleton] at here
    rcases marks m hm with rfl | rfl <;> (subst here; decide)

theorem breaks_tag (t : Tag) : Breaks t.chars := by
  rcases t with e | e <;> cases e <;> decide

/-- **A rule leaves the references as they are.** -/
theorem Rewrites.references_eq {rule : EmphasisRule} (marks : rule.HasMarks) {parts parts' : List Part}
    (h : Rewrites rule parts parts') (seen : Option (List Char)) :
    referencesFrom seen (written parts') = referencesFrom seen (written parts) := by
  induction h generalizing seen with
  | nil => rfl
  | keep p _ ih => exact referencesFrom_append_congr ih seen p.chars
  | @wrap inner parts parts' _ ih =>
      simp only [written_cons, written_append, List.append_assoc, Part.chars]
      rw [marks.breaks.referencesFrom_append, references, referencesFrom_append_break marks.breaks,
        (breaks_tag _).referencesFrom_append, references, referencesFrom_append_break (breaks_tag _), references,
        references, ih]

/-- **The references of emphasized text** are those of the text before any emphasis. -/
theorem exists_references_emphasizedMarkup (text : List Char) :
    ∃ parts, emphasizedMarkup text = written parts ∧
      references (written parts) = references (withPlaceholders 0 (pieces text)) := by
  have plain : plainMarkup text = written ((withPlaceholders 0 (pieces text)).map .char) := (written_map_char _).symm
  have escaped : references (written ((withPlaceholders 0 (pieces text)).map .char)) =
      references (withPlaceholders 0 (pieces text)) := referencesFrom_written_char none _
  unfold emphasizedMarkup
  split
  · exact ⟨_, plain, escaped⟩
  · obtain ⟨parts, ⟨bold, star, hbold, hstar, hunderscore⟩, emphasized⟩ :=
      emphasize_written ((withPlaceholders 0 (pieces text)).map .char)
    refine ⟨parts, by rw [plain, emphasized], ?_⟩
    rw [references, hunderscore.references_eq underscoreRule_hasMarks, hstar.references_eq starRule_hasMarks,
      hbold.references_eq boldRule_hasMarks]
    exact escaped

/-! ## Imitated placeholders -/

/-- Whether a piece is a digit. -/
def Piece.isDigit : Piece → Bool
  | .plain c => Text.isDigit c
  | .code _ => false

/-- Whether a piece begins with a NUL once code is set aside. -/
def Piece.beginsWithNul : Piece → Bool
  | .plain c => c = '\x00'
  | .code _ => true

/-- Whether pieces go on with digits up to a NUL, at least one, given whether there was one before. -/
def closesReference : Bool → List Piece → Bool
  | _, [] => false
  | digits, p :: ps => if p.isDigit then closesReference true ps else digits && p.beginsWithNul

/-- **Whether the author imitates a placeholder**: with a NUL, one or more digits, and another NUL, which may be that of
a code span behind them. -/
def imitates : List Piece → Bool
  | [] => false
  | p :: ps => (p = .plain '\x00' && closesReference false ps) || imitates ps

/-- Digits behind a NUL are kept until it is known what they are. -/
theorem referencesFrom_digits {digits : List Char} (h : ∀ d ∈ digits, isDigit d = true) (seen rest : List Char) :
    referencesFrom (some seen) (digits ++ rest) = referencesFrom (some (digits.reverse ++ seen)) rest := by
  induction digits generalizing seen with
  | nil => rfl
  | cons d digits ih =>
      obtain ⟨digit, later⟩ := List.forall_mem_cons.mp h
      have nul : d ≠ '\x00' := by
        rintro rfl
        exact absurd digit (by decide)
      rw [List.cons_append, referencesFrom, if_neg nul, if_pos digit, ih later, List.reverse_cons, List.append_assoc]
      rfl

/-- **A placeholder** is a reference to its number. -/
theorem references_placeholder (number : Nat) (rest : List Char) :
    references (placeholder number ++ rest) = Nat.toDigits 10 number :: references rest := by
  have some_ : (Nat.toDigits 10 number).reverse.isEmpty = false := by simp [Nat.toDigits_ne_nil]
  rw [placeholder, List.append_assoc, List.cons_append, references, referencesFrom, if_pos rfl,
    referencesFrom_digits isDigit_of_mem_toDigits, List.append_nil, List.singleton_append, referencesFrom, if_pos rfl,
    some_, if_neg Bool.false_ne_true, List.reverse_reverse]
  rfl

/-- A NUL behind a NUL and no digits opens what a NUL alone does. -/
theorem referencesFrom_nul (seen : Option (List Char)) (empty : ∀ digits ∈ seen, digits = []) (rest : List Char) :
    referencesFrom seen ('\x00' :: rest) = referencesFrom (some []) rest := by
  cases seen with
  | none => rfl
  | some digits =>
      rw [empty digits rfl]
      rfl

theorem eq_nil_of_closesReference {digits : List Char} {p : Piece} {ps : List Piece} (nul : p.beginsWithNul = true)
    (noDigit : p.isDigit = false) (h : closesReference (!digits.isEmpty) (p :: ps) = false) : digits = [] := by
  rw [closesReference, noDigit, nul, if_neg Bool.false_ne_true, Bool.and_true, Bool.not_eq_false'] at h
  exact List.isEmpty_iff.mp h

/-- **Where nothing imitates a placeholder**, the references are the numbers of the code spans. -/
theorem references_withPlaceholders {ps : List Piece} (h : imitates ps = false) (seen : Option (List Char))
    (opened : ∀ digits ∈ seen, closesReference (!digits.isEmpty) ps = false) (number : Nat) :
    referencesFrom seen (withPlaceholders number ps) =
      (List.range' number (codeSpans ps).length).map (Nat.toDigits 10) := by
  induction ps generalizing seen number with
  | nil => cases seen <;> rfl
  | cons p ps ih =>
      obtain ⟨here, later⟩ := Bool.or_eq_false_iff.mp h
      cases p with
      | plain c =>
          have same : (codeSpans (.plain c :: ps)).length = (codeSpans ps).length := rfl
          rw [withPlaceholders, same]
          by_cases nul : c = '\x00'
          · subst nul
            have opens : closesReference false ps = false := by simpa using here
            rw [referencesFrom_nul _ fun digits mem => eq_nil_of_closesReference rfl rfl (opened digits mem)]
            exact ih later _ (by simpa using opens) number
          · cases seen with
            | none =>
                rw [referencesFrom, if_neg nul]
                exact ih later _ (by simp) number
            | some digits =>
                by_cases digit : isDigit c = true
                · have goesOn := opened digits rfl
                  have digitPiece : (Piece.plain c).isDigit = true := digit
                  rw [closesReference, if_pos digitPiece] at goesOn
                  rw [referencesFrom, if_neg nul, if_pos digit]
                  exact ih later _ (by simpa using goesOn) number
                · rw [referencesFrom, if_neg nul, if_neg digit]
                  exact ih later _ (by simp) number
      | code content =>
          have empty := fun digits mem => eq_nil_of_closesReference (p := .code content) rfl rfl (opened digits mem)
          have numbers : (List.range' number (codeSpans (.code content :: ps)).length).map (Nat.toDigits 10) =
              Nat.toDigits 10 number :: (List.range' (number + 1) (codeSpans ps).length).map (Nat.toDigits 10) := rfl
          have rest := ih later none (by simp) (number + 1)
          rw [withPlaceholders, numbers, ← rest]
          have placed := references_placeholder number (withPlaceholders (number + 1) ps)
          rw [placeholder, List.append_assoc, List.cons_append] at placed ⊢
          rw [referencesFrom_nul seen empty, ← referencesFrom_nul none (by simp)]
          exact placed

/-- The numbers of all spans stand for the spans, where they can be read, and for nothing where they cannot. -/
theorem mapM_spanFor_range (spans : List (List Char)) :
    (spans.length ≤ 10 ^ maxDigits →
        ((List.range' 0 spans.length).map (Nat.toDigits 10)).mapM (spanFor spans) = .ok spans) ∧
      (10 ^ maxDigits < spans.length →
        ∃ e, ((List.range' 0 spans.length).map (Nat.toDigits 10)).mapM (spanFor spans) = .error e) := by
  constructor
  · intro few
    rw [mapM_eq_ok_iff, List.forall₂_map_left_iff]
    refine List.forall₂_of_length_eq_of_get (by simp) fun number _ inside => ?_
    have found : spans[number]? = some spans[number] := List.getElem?_eq_getElem inside
    rcases spanFor_toDigits found with read | ⟨many, -⟩
    · simpa using read
    · exact absurd few (Nat.not_le_of_lt many)
  · intro many
    cases read : ((List.range' 0 spans.length).map (Nat.toDigits 10)).mapM (spanFor spans) with
    | error e => exact ⟨e, rfl⟩
    | ok results =>
        have mem : Nat.toDigits 10 (10 ^ maxDigits) ∈ (List.range' 0 spans.length).map (Nat.toDigits 10) :=
          List.mem_map.mpr ⟨_, by simpa using many, rfl⟩
        obtain ⟨result, -, found⟩ := exists_result_of_mem read mem
        obtain ⟨e, refused⟩ := spanFor_toDigits_error spans (Nat.le_refl (10 ^ maxDigits))
        cases found.symm.trans refused

/-! ## Every markup -/

/-- **Every markup.** The font elements of a markup, with their entities as characters, are the code spans that the
references of the text stand for, and where one of these stands for no span there is no markup, but its error. If
nothing in the text imitates a placeholder, there is a markup unless the text has more code spans than numbers that can
be read, and its font elements are the code spans of the text, each once and in order. The name of the font must have no
greater-than sign, which would end its tag. -/
theorem markup_references {font : String} (plainFont : '>' ∉ font.toList) (text : String) :
    (markup font text).map (fun out => (fontContents out.toList).map decoded) =
        (references (withPlaceholders 0 (pieces text.toList))).mapM (spanFor (codeSpans (pieces text.toList))) ∧
      (imitates (pieces text.toList) = false →
        ((∃ out, markup font text = .ok out) ↔ (codeSpans (pieces text.toList)).length ≤ 10 ^ maxDigits) ∧
        ∀ out, markup font text = .ok out → (fontContents out.toList).map decoded = codeSpans (pieces text.toList)) := by
  obtain ⟨parts, emphasized, same⟩ := exists_references_emphasizedMarkup text.toList
  have whole : (markup font text).map (fun out => (fontContents out.toList).map decoded) =
      (references (withPlaceholders 0 (pieces text.toList))).mapM (spanFor (codeSpans (pieces text.toList))) := by
    rw [← same, ← fontContents_fill plainFont, markup, markupChars, emphasized]
    cases fill ((codeSpans (pieces text.toList)).map (fontElement font.toList)) (written parts) with
    | error e => rfl
    | ok out => simp [Except.map]
  refine ⟨whole, fun noImitation => ?_⟩
  have numbers := references_withPlaceholders noImitation none (by simp) 0
  rw [references, numbers] at whole
  obtain ⟨placed, refused⟩ := mapM_spanFor_range (codeSpans (pieces text.toList))
  have contents : ∀ out, markup font text = .ok out →
      ((List.range' 0 (codeSpans (pieces text.toList)).length).map (Nat.toDigits 10)).mapM
        (spanFor (codeSpans (pieces text.toList))) = .ok ((fontContents out.toList).map decoded) := by
    intro out hout
    rw [← whole, hout]
    rfl
  by_cases few : (codeSpans (pieces text.toList)).length ≤ 10 ^ maxDigits
  · rw [placed few] at whole contents
    obtain ⟨out, hout, -⟩ := exists_of_map_eq_ok whole
    exact ⟨⟨fun _ => few, fun _ => ⟨out, hout⟩⟩, fun out hout => (Except.ok.inj (contents out hout)).symm⟩
  · obtain ⟨e, error⟩ := refused (Nat.lt_of_not_le few)
    rw [error] at contents
    refine ⟨⟨?_, fun few' => absurd few' few⟩, ?_⟩
    · rintro ⟨out, hout⟩
      cases contents out hout
    · intro out hout
      cases contents out hout

/-- NULs of the author's that imitate nothing, around two code spans; and a number between NULs, which stands for the
span of that number a second time. -/
theorem markup_references_of_nuls :
    let stray := "\x00 7`a`1\x00\x00`<`\x002"
    let twice := "`a`\x000\x00"
    '>' ∉ "Courier".toList ∧ imitates (pieces stray.toList) = false ∧
      (∃ out, markup "Courier" stray = .ok out ∧ (fontContents out.toList).map decoded = ["a".toList, "<".toList]) ∧
      (markup "Courier" twice).map (fun out => (fontContents out.toList).map decoded) = .ok ["a".toList, "a".toList] := by
  intro stray twice
  have plainFont : '>' ∉ "Courier".toList := by decide
  have noImitation : imitates (pieces stray.toList) = false := by decide +kernel
  have spans : codeSpans (pieces stray.toList) = ["a".toList, "<".toList] := by decide +kernel
  have few : ∀ limit, limit ≠ 0 → ["a".toList, "<".toList].length ≤ 10 ^ limit := fun limit some_ =>
    Nat.le_trans (by decide) (Nat.le_self_pow some_ 10)
  obtain ⟨made, contents⟩ := (markup_references plainFont stray).2 noImitation
  obtain ⟨out, hout⟩ := made.mpr (by rw [spans]; exact few maxDigits (by decide))
  refine ⟨plainFont, noImitation, ⟨out, hout, ?_⟩, ?_⟩
  · rw [contents out hout, spans]
  · rw [(markup_references plainFont twice).1]
    exact ok_of_toOption (by decide +kernel)

/-- Not every text has a markup, and not every markup has one font element for each code span: the author's digits are
taken for the number of a span, whether there is such a span or not. -/
theorem markup_reads_authored :
    (¬ ∀ font text : String, (∀ c ∈ font.toList, c ∉ ['<', '>', '&', '"']) → ∃ out, markup font text = .ok out) ∧
      ¬ ∀ font text out : String, (∀ c ∈ font.toList, c ∉ ['<', '>', '&', '"']) → markup font text = .ok out →
        (fontContents out.toList).length = (codeSpans (pieces text.toList)).length := by
  have plainFont : ∀ c ∈ "Courier".toList, c ∉ ['<', '>', '&', '"'] := List.all_iff_forall_prop.mp (by decide)
  constructor
  · intro total
    have refused : (markup "Courier" "\x005\x00").toOption = none := by decide +kernel
    obtain ⟨out, hout⟩ := total "Courier" "\x005\x00" plainFont
    rw [hout] at refused
    cases refused
  · intro single
    have made : (markup "Courier" "`a`\x000\x00").toOption =
        some "<font name=\"Courier\">a</font><font name=\"Courier\">a</font>" := by decide +kernel
    have same := single "Courier" "`a`\x000\x00" _ plainFont (ok_of_toOption made)
    exact absurd same (by decide +kernel)

end SlidePress.Inline
