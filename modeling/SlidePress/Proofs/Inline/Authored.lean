import SlidePress.Proofs.Inline.Placeholder

/-!
# `SlidePress.Proofs.Inline.Authored` — what is left of an authored text

Markup shows a text: who takes its tags away and reads its entities as characters sees what the author has written, less
the delimiters of emphasis and code. Nothing else is lost, added or moved, and this holds of emphasis that is nested, of
emphasis that overlaps, and of code spans next to digits and entities.

The two sides meet at the elements of a markup. Without tags and entities their characters are what they show
(`decoded_withoutTags_composed`), and up to delimiters they show what the pieces of the text do, because emphasis keeps
all lasting elements (`undelimited_filter_isLasting`).
-/

namespace SlidePress.Inline

open Text

/-! ## Markup as it is seen -/

/-- The text without its tags, each from a less-than sign to the next greater-than sign. After a less-than sign the
characters since are kept until it is known whether a tag ends. -/
def withoutTagsFrom : Option (List Char) → List Char → List Char
  | none, [] => []
  | none, c :: rest => if c = '<' then withoutTagsFrom (some ['<']) rest else c :: withoutTagsFrom none rest
  | some seen, [] => seen.reverse
  | some seen, c :: rest => if c = '>' then withoutTagsFrom none rest else withoutTagsFrom (some (c :: seen)) rest

/-- The text without its tags. -/
def withoutTags (cs : List Char) : List Char := withoutTagsFrom none cs

/-- The text with its entities as characters, in one pass from the left. -/
def decoded : List Char → List Char
  | [] => []
  | '&' :: 'a' :: 'm' :: 'p' :: ';' :: rest => '&' :: decoded rest
  | '&' :: 'l' :: 't' :: ';' :: rest => '<' :: decoded rest
  | '&' :: 'g' :: 't' :: ';' :: rest => '>' :: decoded rest
  | c :: rest => c :: decoded rest

/-- Whether a character can delimit emphasis or code. -/
def isDelimiter (c : Char) : Bool := c = '*' || c = '_' || c = '`'

/-- The text without any delimiters. -/
def undelimited (cs : List Char) : List Char := cs.filter fun c => !isDelimiter c

@[simp] theorem undelimited_append (a b : List Char) : undelimited (a ++ b) = undelimited a ++ undelimited b :=
  List.filter_append a b

/-! ## Tags and entities -/

theorem withoutTags_append {cs : List Char} (h : '<' ∉ cs) (rest : List Char) :
    withoutTags (cs ++ rest) = cs ++ withoutTags rest := by
  induction cs with
  | nil => rfl
  | cons c cs ih =>
      obtain ⟨first, later⟩ := List.ne_and_not_mem_of_not_mem_cons h
      have here : withoutTags (c :: (cs ++ rest)) = c :: withoutTags (cs ++ rest) := if_neg (Ne.symm first)
      rw [List.cons_append, here, ih later, List.cons_append]

/-- The characters of an open tag are left out up to its greater-than sign. -/
theorem withoutTagsFrom_some_append {cs : List Char} (h : '>' ∉ cs) (seen rest : List Char) :
    withoutTagsFrom (some seen) (cs ++ '>' :: rest) = withoutTags rest := by
  induction cs generalizing seen with
  | nil => exact if_pos rfl
  | cons c cs ih =>
      obtain ⟨first, later⟩ := List.ne_and_not_mem_of_not_mem_cons h
      have here : withoutTagsFrom (some seen) (c :: (cs ++ '>' :: rest)) =
          withoutTagsFrom (some (c :: seen)) (cs ++ '>' :: rest) := if_neg (Ne.symm first)
      rw [List.cons_append, here, ih later]

/-- **A tag** is left out. -/
theorem withoutTags_tag {cs : List Char} (h : '>' ∉ cs) (rest : List Char) :
    withoutTags ('<' :: (cs ++ '>' :: rest)) = withoutTags rest :=
  withoutTagsFrom_some_append h ['<'] rest

theorem lt_not_mem_escape (cs : List Char) : '<' ∉ escape cs := by
  have entities : ∀ w ∈ [ampEntity, ltEntity, gtEntity], '<' ∉ w := by decide
  rw [escape_eq_flatMap, List.mem_flatMap]
  rintro ⟨c, _, inside⟩
  rcases escapeChar_cases c with ⟨other, single⟩ | entity
  · rw [single, List.mem_singleton] at inside
    subst inside
    exact other (by simp)
  · exact entities _ entity inside

theorem escapeChar_eq_escape (c : Char) : escapeChar c = escape [c] := by
  rw [escape_eq_flatMap, List.flatMap_singleton]

theorem decoded_cons {c : Char} (h : c ≠ '&') (rest : List Char) : decoded (c :: rest) = c :: decoded rest := by
  rw [decoded]
  all_goals (rintro _ rfl; exact absurd rfl h)

/-- **Escaped text is read as it was.** -/
theorem decoded_escape (cs : List Char) : decoded (escape cs) = cs := by
  rw [escape_eq_flatMap]
  induction cs with
  | nil => rfl
  | cons c cs ih =>
      rw [List.flatMap_cons, escapeChar]
      split
      · subst c
        exact congrArg _ ih
      · split
        · subst c
          exact congrArg _ ih
        · split
          · subst c
            exact congrArg _ ih
          · next amp _ _ => rw [List.singleton_append, decoded_cons amp, ih]

/-! ## What elements show -/

/-- What an element shows to a reader: a character or the content of a code span, and a tag shows nothing. -/
def Element.shown : Element → List Char
  | .part (.char c) => [c]
  | .part (.tag _) => []
  | .code content => content

/-- What stands in the tag before a code span. -/
def fontTagName (font : List Char) : List Char := "font name=\"".toList ++ font ++ ['"']

theorem gt_not_mem_fontTagName {font : List Char} (gt : '>' ∉ font) : '>' ∉ fontTagName font := by
  show '>' ∉ "font name=\"".toList ++ font ++ ['"']
  simp [gt]

/-- A code span in its font: a tag, the escaped content, and another tag. -/
theorem fontElement_append (font content rest : List Char) :
    fontElement font content ++ rest =
      '<' :: (fontTagName font ++ '>' :: (escape content ++ '<' :: ("/font".toList ++ '>' :: rest))) := by
  have first : "<font name=\"".toList = '<' :: "font name=\"".toList := rfl
  have last : "</font>".toList = '<' :: ("/font".toList ++ ['>']) := rfl
  show "<font name=\"".toList ++ font ++ "\">".toList ++ escape content ++ "</font>".toList ++ rest =
    '<' :: ("font name=\"".toList ++ font ++ ['"'] ++ '>' ::
      (escape content ++ '<' :: ("/font".toList ++ '>' :: rest)))
  rw [first, show "\">".toList = ['"', '>'] from rfl, last]
  simp only [List.append_assoc, List.cons_append, List.nil_append]

/-- Without its tags an element is the escaped text of what it shows, if the font does not end its tag. -/
theorem withoutTags_chars_append {font : List Char} (gt : '>' ∉ font) (element : Element) (rest : List Char) :
    withoutTags (element.chars font ++ rest) = escape element.shown ++ withoutTags rest := by
  cases element with
  | part p =>
      cases p with
      | char c =>
          rw [Element.chars, Part.chars, escapeChar_eq_escape]
          exact withoutTags_append (lt_not_mem_escape [c]) rest
      | tag t =>
          rcases t with e | e <;> cases e <;> rfl
  | code content =>
      have opening : '>' ∉ fontTagName font := gt_not_mem_fontTagName gt
      have closing : '>' ∉ "/font".toList := by decide
      rw [Element.chars, fontElement_append, withoutTags_tag opening, withoutTags_append (lt_not_mem_escape content),
        withoutTags_tag closing]
      rfl

/-- **Without tags and entities a markup is what its elements show.** -/
theorem decoded_withoutTags_composed {font : List Char} (gt : '>' ∉ font) (elements : List Element) :
    decoded (withoutTags (composed font elements)) = elements.flatMap Element.shown := by
  have escaped : withoutTags (composed font elements) = escape (elements.flatMap Element.shown) := by
    induction elements with
    | nil => rfl
    | cons element elements ih =>
        rw [composed_cons, withoutTags_chars_append gt, ih, List.flatMap_cons, escape_append]
  rw [escaped, decoded_escape]

/-- Up to delimiters, elements show what the lasting ones among them show. -/
theorem undelimited_filter_isLasting (elements : List Element) :
    undelimited ((elements.filter Element.isLasting).flatMap Element.shown) =
      undelimited (elements.flatMap Element.shown) := by
  induction elements with
  | nil => rfl
  | cons element elements ih =>
      rw [List.filter_cons, List.flatMap_cons, undelimited_append, ← ih]
      split
      · rw [List.flatMap_cons, undelimited_append]
      · next passing =>
          -- what does not last is a tag, which shows nothing, or a mark, which is a delimiter
          have nothing : undelimited element.shown = [] := by
            rcases element with (c | t) | content
            · simp only [Element.isLasting, ne_eq, Bool.and_eq_true, decide_eq_true_eq, not_and, not_not] at passing
              by_cases star : c = '*'
              · subst c; rfl
              · rw [passing star]; rfl
            · rfl
            · exact absurd rfl passing
          rw [nothing, List.nil_append]

/-! ## The pieces of a text -/

/-- The characters of a piece in the text, with the backticks of a code span. -/
def Piece.chars : Piece → List Char
  | .plain c => [c]
  | .code content => '`' :: content ++ ['`']

theorem flatMap_chars_plain (cs : List Char) : (cs.map Piece.plain).flatMap Piece.chars = cs := by
  induction cs with
  | nil => rfl
  | cons c cs ih => exact congrArg (c :: ·) ih

/-- The pieces of a text, and of what was seen behind a backtick before it. -/
theorem flatMap_chars_piecesFrom (opened : Option (List Char)) (text : List Char) :
    (piecesFrom opened text).flatMap Piece.chars = (opened.map fun seen => '`' :: seen.reverse).getD [] ++ text := by
  fun_induction piecesFrom opened text with
  | case1 => rfl
  | case2 rest ih => exact ih
  | case3 c rest _ ih => exact congrArg (c :: ·) ih
  | case4 seen =>
      -- the backtick opened nothing
      rw [List.flatMap_cons, flatMap_chars_plain]
      simp [Piece.chars]
  | case5 seen rest empty ih =>
      rw [List.flatMap_cons, ih, List.isEmpty_iff.mp empty]
      rfl
  | case6 seen rest _ ih =>
      rw [List.flatMap_cons, ih]
      simp [Piece.chars]
  | case7 seen c rest _ ih =>
      rw [ih]
      simp

/-- **The pieces of a text are the text.** -/
theorem flatMap_chars_pieces (text : List Char) : (pieces text).flatMap Piece.chars = text :=
  flatMap_chars_piecesFrom none text

theorem mem_of_plain_mem_pieces {text : List Char} {c : Char} (h : Piece.plain c ∈ pieces text) : c ∈ text := by
  rw [← flatMap_chars_pieces text]
  exact List.mem_flatMap.mpr ⟨_, h, List.mem_singleton_self c⟩

/-- **The pieces of a text show it**, up to the backticks of its code spans. -/
theorem undelimited_shown_pieces (text : List Char) :
    undelimited (((pieces text).map Piece.element).flatMap Element.shown) = undelimited text := by
  have each : ∀ p : Piece, undelimited p.element.shown = undelimited p.chars := by
    intro p
    cases p with
    | plain c => rfl
    | code content =>
        show undelimited content = undelimited (['`'] ++ content ++ ['`'])
        rw [undelimited_append, undelimited_append, show undelimited ['`'] = [] from rfl, List.nil_append,
          List.append_nil]
  conv => rhs; rw [← flatMap_chars_pieces text]
  induction pieces text with
  | nil => rfl
  | cons p ps ih =>
      rw [List.map_cons, List.flatMap_cons, List.flatMap_cons, undelimited_append, undelimited_append, ih, each]

/-! ## Every markup -/

theorem plain_nul_not_mem_pieces {text : List Char} (h : '\x00' ∉ text) : Piece.plain '\x00' ∉ pieces text :=
  fun mem => h (mem_of_plain_mem_pieces mem)

/-- **Every markup shows its text.** A text without a NUL has a markup, unless there are more code spans in it than
numbers that can be read; and the characters of a markup, without its tags and with its entities as characters, are
those of the text in their order, up to asterisks, underscores and backticks. The name of the font must have no
greater-than sign, which would end its tag. -/
theorem markup_shows {font text : String} (noNul : '\x00' ∉ text.toList) (plainFont : '>' ∉ font.toList) :
    ((codeSpans (pieces text.toList)).length ≤ 10 ^ maxDigits → ∃ out, markup font text = .ok out) ∧
      ∀ out, markup font text = .ok out →
        undelimited (decoded (withoutTags out.toList)) = undelimited text.toList := by
  obtain ⟨parts, elements, hparts, aside, lasting⟩ := emphasizedMarkup_setAside (plain_nul_not_mem_pieces noNul)
  have filled := aside.fill_written font.toList
  rw [← hparts] at filled
  constructor
  · intro few
    rcases filled with filled | ⟨many, _⟩
    · refine ⟨String.ofList (composed font.toList elements), ?_⟩
      rw [markup, markupChars, filled]
      rfl
    · exact absurd few (Nat.not_le_of_lt many)
  · intro out made
    obtain ⟨chars, hchars, rfl⟩ := exists_of_map_eq_ok made
    rcases filled with filled | ⟨_, e, refused⟩
    · obtain rfl := Except.ok.inj (hchars.symm.trans filled)
      rw [String.toList_ofList, decoded_withoutTags_composed plainFont, ← undelimited_filter_isLasting, lasting,
        undelimited_filter_isLasting, undelimited_shown_pieces]
    · cases hchars.symm.trans refused

/-- Digits next to code spans, entities that the author wrote, marks in code, and emphasis that overlaps. -/
theorem markup_shows_of_digits_and_entities :
    let font := "Courier"
    let text := "1`a*`2 &*lt;* `&_<`**b *c** d*"
    '\x00' ∉ text.toList ∧ '>' ∉ font.toList ∧
      ∃ out, markup font text = .ok out ∧
        undelimited (decoded (withoutTags out.toList)) = undelimited text.toList := by
  intro font text
  have noNul : '\x00' ∉ text.toList := by decide
  have plainFont : '>' ∉ font.toList := by decide
  have few : (codeSpans (pieces text.toList)).length ≤ 10 ^ maxDigits := by
    have two : (codeSpans (pieces text.toList)).length ≤ 10 := by decide
    exact Nat.le_trans two (Nat.le_self_pow (by decide) 10)
  obtain ⟨out, made⟩ := (markup_shows noNul plainFont).1 few
  exact ⟨noNul, plainFont, out, made, (markup_shows noNul plainFont).2 out made⟩

end SlidePress.Inline
