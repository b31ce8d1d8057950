import SlidePress.Inline.Markup
import SlidePress.Proofs.Inline.Part
import SlidePress.Proofs.Outcome

/-!
# `SlidePress.Proofs.Inline.CodeSpan` — code spans put back between parts

Filling reads characters too: after a NUL it waits for digits and another NUL. On parts it puts code spans in the place
of placeholders and leaves every other part (`Filled`), because a NUL and a digit are written as themselves and the
other parts neither begin with a digit nor contain a NUL. The result is a list of elements, in which a code span is one
thing and no longer a run of characters.
-/

namespace SlidePress.Inline

open Text

/-- An element of markup: a part of emphasized text, or a code span. -/
inductive Element
  | part (p : Part)
  | code (content : List Char)
deriving DecidableEq, Repr

/-- The characters of an element, with code in the given font. -/
def Element.chars (font : List Char) : Element → List Char
  | .part p => p.chars
  | .code content => fontElement font content

/-- The tag that an element is. -/
def Element.tag? : Element → Option Tag
  | .part p => p.tag?
  | .code _ => none

/-- The part that an element is. -/
def Element.part? : Element → Option Part
  | .part p => some p
  | .code _ => none

/-- The content of a code span. -/
def Element.code? : Element → Option (List Char)
  | .part _ => none
  | .code content => some content

/-- The characters of a list of elements. -/
def composed (font : List Char) (elements : List Element) : List Char := elements.flatMap (Element.chars font)

@[simp] theorem composed_nil (font : List Char) : composed font [] = [] := rfl

@[simp] theorem composed_cons (font : List Char) (e : Element) (elements : List Element) :
    composed font (e :: elements) = e.chars font ++ composed font elements := rfl

/-- **What filling makes of parts**: code spans in the place of placeholders with their number, and all other parts as
they were. -/
inductive Filled (spans : List (List Char)) : List Part → List Element → Prop where
  | nil : Filled spans [] []
  | keep (p : Part) {parts : List Part} {elements : List Element} :
      Filled spans parts elements → Filled spans (p :: parts) (.part p :: elements)
  | span {digits content : List Char} {number : Nat} {parts : List Part} {elements : List Element} :
      digits ≠ [] → (∀ d ∈ digits, isDigit d) → numeral digits = .ok number → spans[number]? = some content →
      Filled spans parts elements →
      Filled spans (.char '\x00' :: digits.map .char ++ .char '\x00' :: parts) (.code content :: elements)

theorem Filled.filterMap_tag? {spans : List (List Char)} {parts : List Part} {elements : List Element}
    (h : Filled spans parts elements) : elements.filterMap Element.tag? = parts.filterMap Part.tag? := by
  induction h with
  | nil => rfl
  | keep p _ ih =>
      rw [List.filterMap_cons, List.filterMap_cons, ih]
      rfl
  | @span digits _ _ _ _ _ _ _ _ _ ih =>
      have noTags : (digits.map Part.char).filterMap Part.tag? = [] := by
        rw [List.filterMap_eq_nil_iff]
        simp [Part.tag?]
      rw [List.filterMap_cons, ih]
      simp [Element.tag?, Part.tag?, noTags, List.filterMap_append, List.filterMap_cons]

theorem Filled.keepAll {spans : List (List Char)} {parts : List Part} {elements : List Element}
    (h : Filled spans parts elements) (kept : List Part) :
    Filled spans (kept ++ parts) (kept.map .part ++ elements) := by
  induction kept with
  | nil => exact h
  | cons p kept ih => exact .keep p ih

theorem composed_append_part (font : List Char) (kept : List Part) (elements : List Element) :
    composed font (kept.map .part ++ elements) = written kept ++ composed font elements := by
  simp [composed, written, List.flatMap_map, Element.chars]

theorem filterMap_code?_append_part (kept : List Part) (elements : List Element) :
    (kept.map Element.part ++ elements).filterMap Element.code? = elements.filterMap Element.code? := by
  simp [List.filterMap_append, Element.code?]

/-! ## References -/

/-- The digits of what is taken for placeholders in a text, in order. After a NUL the digits since are kept until it is
known whether another NUL makes a placeholder of them. -/
def referencesFrom : Option (List Char) → List Char → List (List Char)
  | none, [] => []
  | none, c :: rest => if c = '\x00' then referencesFrom (some []) rest else referencesFrom none rest
  | some _, [] => []
  | some seen, c :: rest =>
    if c = '\x00' then
      if seen.isEmpty then referencesFrom (some []) rest else seen.reverse :: referencesFrom none rest
    else if isDigit c then referencesFrom (some (c :: seen)) rest
    else referencesFrom none rest

/-- **The references of a text**: the digits of what is taken for placeholders in it, in order. -/
def references (cs : List Char) : List (List Char) := referencesFrom none cs

theorem referencesFrom_none_append {cs : List Char} (h : '\x00' ∉ cs) (rest : List Char) :
    referencesFrom none (cs ++ rest) = references rest := by
  induction cs with
  | nil => rfl
  | cons c cs ih =>
      obtain ⟨first, later⟩ := List.ne_and_not_mem_of_not_mem_cons h
      rw [List.cons_append, referencesFrom, if_neg (Ne.symm first), ih later]

/-- Where text goes on with neither a NUL nor a digit, what is pending is no reference. -/
theorem referencesFrom_some_append {seen : List Char} {c : Char} {cs : List Char} (digit : isDigit c = false)
    (nul : c ≠ '\x00') (h : '\x00' ∉ cs) (rest : List Char) :
    referencesFrom (some seen) (c :: cs ++ rest) = references rest := by
  rw [List.cons_append, referencesFrom, if_neg nul, if_neg (by simp [digit]), referencesFrom_none_append h]

/-! ## One part -/

theorem digit_not_mem_markupAlphabet {d : Char} (h : isDigit d = true) : d ∉ markupAlphabet := by
  have none_ : ∀ c ∈ markupAlphabet, isDigit c = false := List.all_iff_forall_prop.mp (by decide)
  intro mem
  simp [none_ d mem] at h

theorem nul_not_mem_markupAlphabet : '\x00' ∉ markupAlphabet := by decide

theorem written_digits {digits : List Char} (h : ∀ d ∈ digits, isDigit d) : written (digits.map .char) = digits := by
  induction digits with
  | nil => rfl
  | cons d digits ih =>
      rw [List.map_cons, written_cons,
        Part.chars_eq_singleton (digit_not_mem_markupAlphabet (h d List.mem_cons_self)),
        ih fun d' mem => h d' (List.mem_cons_of_mem d mem), List.singleton_append]

theorem Part.nul_not_mem {p : Part} (h : p ≠ .char '\x00') : '\x00' ∉ p.chars :=
  fun mem => h (Part.eq_of_mem nul_not_mem_markupAlphabet mem)

theorem Part.digit_or_exists_chars_eq_cons (p : Part) :
    (∃ d, isDigit d = true ∧ p = .char d) ∨ ∃ c rest, p.chars = c :: rest ∧ isDigit c = false := by
  obtain ⟨c, rest, hp⟩ := p.exists_chars_eq_cons
  by_cases digit : isDigit c = true
  · exact Or.inl ⟨c, digit, Part.eq_of_mem (digit_not_mem_markupAlphabet digit) (by simp [hp])⟩
  · exact Or.inr ⟨c, rest, hp, by simpa using digit⟩

theorem fillFrom_none_append {spans : List (List Char)} {cs : List Char} (h : '\x00' ∉ cs) (rest : List Char) :
    fillFrom spans none (cs ++ rest) = (fillFrom spans none rest).map (cs ++ ·) := by
  induction cs with
  | nil =>
      rw [List.nil_append]
      cases fillFrom spans none rest <;> rfl
  | cons c cs ih =>
      obtain ⟨hc, hcs⟩ : '\x00' ≠ c ∧ '\x00' ∉ cs := by simpa using h
      rw [List.cons_append, fillFrom, if_neg (Ne.symm hc), ih hcs]
      cases fillFrom spans none rest <;> rfl

/-- Where text goes on with neither a NUL nor a digit, what is pending stays, and so does the text up to a NUL. -/
theorem fillFrom_some_append {spans : List (List Char)} {seen : List Char} {c : Char} {cs : List Char}
    (digit : isDigit c = false) (nul : c ≠ '\x00') (h : '\x00' ∉ cs) (rest : List Char) :
    fillFrom spans (some seen) (c :: cs ++ rest) =
      (fillFrom spans none rest).map ('\x00' :: seen.reverse ++ c :: cs ++ ·) := by
  rw [List.cons_append, fillFrom, if_neg nul, if_neg (by simp [digit]), fillFrom_none_append h]
  cases fillFrom spans none rest <;> simp [Except.map]

/-- Where a NUL completes a placeholder, its span stands there. -/
theorem fillFrom_nul_eq_ok {spans : List (List Char)} {seen rest out : List Char} (ne : seen ≠ [])
    (h : fillFrom spans (some seen) ('\x00' :: rest) = .ok out) :
    ∃ span more, spanFor spans seen.reverse = .ok span ∧ fillFrom spans none rest = .ok more ∧ out = span ++ more := by
  rw [fillFrom, if_pos rfl, if_neg (by simpa using ne)] at h
  split at h
  · cases h
  · next span found =>
      obtain ⟨more, hmore, rfl⟩ := exists_of_map_eq_ok h
      exact ⟨span, more, found, hmore, rfl⟩

/-! ## All parts -/

/-- The parts that are not decided on yet: a NUL and the digits behind it. -/
def pending : Option (List Char) → List Part
  | none => []
  | some seen => .char '\x00' :: seen.reverse.map .char

theorem written_pending {seen : List Char} (digits : ∀ d ∈ seen, isDigit d) :
    written (pending (some seen)) = '\x00' :: seen.reverse := by
  rw [pending, written_cons, written_digits fun d mem => digits d (List.mem_reverse.mp mem)]
  rfl

/-- **A span that a placeholder stands for** is the code span of its number, in its font. -/
theorem spanFor_eq_ok {font : List Char} {spans : List (List Char)} {digits span : List Char}
    (h : spanFor (spans.map (fontElement font)) digits = .ok span) :
    ∃ number content, numeral digits = .ok number ∧ spans[number]? = some content ∧ span = fontElement font content := by
  unfold spanFor at h
  split at h
  · cases h
  · next number value =>
      split at h
      · next found =>
          rw [List.getElem?_map] at found
          obtain ⟨content, hcontent, same⟩ := Option.map_eq_some_iff.mp found
          exact ⟨number, content, value, hcontent, by rw [same, Except.ok.inj h]⟩
      · cases h

/-- **Filling written parts** composes the elements that they are filled to, and the code among these is what their
references stand for. -/
theorem fillFrom_written {font : List Char} {spans : List (List Char)} {parts : List Part}
    (seen : Option (List Char)) (digits : ∀ d ∈ seen.getD [], isDigit d) {out : List Char}
    (h : fillFrom (spans.map (fontElement font)) seen (written parts) = .ok out) :
    ∃ elements, Filled spans (pending seen ++ parts) elements ∧
      (referencesFrom seen (written parts)).mapM (spanFor spans) = .ok (elements.filterMap Element.code?) ∧
      out = composed font elements := by
  induction parts generalizing seen out with
  | nil =>
      cases seen with
      | none => exact ⟨[], .nil, rfl, (Except.ok.inj h).symm⟩
      | some seen =>
          have digits : ∀ d ∈ seen, isDigit d = true := digits
          refine ⟨_, Filled.nil.keepAll (pending (some seen)), ?_, ?_⟩
          · rw [filterMap_code?_append_part]
            rfl
          · rw [composed_append_part, written_pending digits]
            simpa using (Except.ok.inj h).symm
  | cons p parts ih =>
      cases seen with
      | none =>
          by_cases nul : p = .char '\x00'
          · subst nul
            exact ih _ (by simp) h
          · have noNul := Part.nul_not_mem nul
            rw [written_cons, fillFrom_none_append noNul] at h
            obtain ⟨rest, hrest, rfl⟩ := exists_of_map_eq_ok h
            obtain ⟨elements, filled, found, rfl⟩ := ih _ (by simp) hrest
            refine ⟨_, .keep p filled, ?_, rfl⟩
            rw [written_cons, referencesFrom_none_append noNul]
            exact found
      | some seen =>
          have digits : ∀ d ∈ seen, isDigit d = true := digits
          by_cases nul : p = .char '\x00'
          · subst nul
            cases seen with
            | nil =>
                -- nothing stands between two NULs: the first is kept, and the second may begin a placeholder
                obtain ⟨rest, hrest, rfl⟩ := exists_of_map_eq_ok h
                obtain ⟨elements, filled, found, rfl⟩ := ih _ (by simp) hrest
                exact ⟨_, .keep _ filled, found, rfl⟩
            | cons last seen =>
                -- the digits between two NULs make a placeholder
                obtain ⟨span, more, hspan, hmore, rfl⟩ := fillFrom_nul_eq_ok (List.cons_ne_nil last seen) h
                obtain ⟨number, content, value, inside, rfl⟩ := spanFor_eq_ok hspan
                obtain ⟨elements, filled, found, rfl⟩ := ih _ (by simp) hmore
                have allDigits : ∀ d ∈ (last :: seen).reverse, isDigit d = true := fun d mem =>
                  digits d (List.mem_reverse.mp mem)
                have placed := Filled.span (by simp) allDigits value inside filled
                refine ⟨_, by simpa [pending] using placed, ?_, rfl⟩
                have here : spanFor spans (last :: seen).reverse = .ok content := by
                  rw [spanFor, value]
                  simp only [inside]
                have reads : referencesFrom (some (last :: seen)) (written (.char '\x00' :: parts)) =
                    (last :: seen).reverse :: referencesFrom none (written parts) := rfl
                rw [reads, List.mapM_cons, here, found]
                rfl
          · rcases p.digit_or_exists_chars_eq_cons with ⟨d, digit, rfl⟩ | ⟨c, rest, hp, other⟩
            · have noNul : d ≠ '\x00' := fun same => nul (by rw [same])
              have single := Part.chars_eq_singleton (digit_not_mem_markupAlphabet digit)
              rw [written_cons, single, List.singleton_append, fillFrom, if_neg noNul, if_pos digit] at h
              obtain ⟨elements, filled, found, rfl⟩ := ih _ (by simpa [digit] using digits) h
              refine ⟨elements, by simpa [pending] using filled, ?_, rfl⟩
              rw [written_cons, single, List.singleton_append, referencesFrom, if_neg noNul, if_pos digit]
              exact found
            · have noNul := Part.nul_not_mem nul
              rw [hp, List.mem_cons, not_or] at noNul
              rw [written_cons, hp, fillFrom_some_append other (Ne.symm noNul.1) noNul.2] at h
              obtain ⟨more, hmore, rfl⟩ := exists_of_map_eq_ok h
              obtain ⟨elements, filled, found, rfl⟩ := ih _ (by simp) hmore
              refine ⟨_, Filled.keepAll (.keep p filled) (pending (some seen)), ?_, ?_⟩
              · rw [written_cons, hp, referencesFrom_some_append other (Ne.symm noNul.1) noNul.2,
                  filterMap_code?_append_part]
                exact found
              · rw [composed_append_part, written_pending digits, composed_cons, Element.chars, hp]
                simp

/-- **Filling written parts** from the start. -/
theorem fill_written {font : List Char} {spans : List (List Char)} {parts : List Part} {out : List Char}
    (h : fill (spans.map (fontElement font)) (written parts) = .ok out) :
    ∃ elements, Filled spans parts elements ∧ out = composed font elements := by
  obtain ⟨elements, filled, -, same⟩ := fillFrom_written none (by simp) h
  exact ⟨elements, filled, same⟩

end SlidePress.Inline
