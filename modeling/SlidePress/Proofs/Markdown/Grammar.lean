import SlidePress.Proofs.Markdown.Form

/-!
# `SlidePress.Proofs.Markdown.Grammar` — how a line of each form is written

The reader finds the form of a line by running along the line: it takes characters while they are hashes or digits, and
turns a heading around to see how it ends. Here each form is said by the parts that such a line is put together from
(`LineForm.Written`), with no search in it. Several forms can fit one line: `$$ a $$` is also plain text. The form of a
line is then the first of those that fit (`of_eq_iff`), and no line fits none.

A heading fits in one way only, although hashes may stand in its text: those that close it are the whole run at its end,
and white space comes before them (`closedHeading_eq_iff`).
-/

namespace SlidePress.Markdown

open Text

/-- What the text of a heading is, for what stands behind its first hashes: where that ends in hashes behind white
space, it is what stands before them, and it is all of it elsewhere. -/
def HeadingText (body text : List Char) : Prop :=
  (∃ before gap closing, isBlank gap = true ∧ 0 < closing ∧
      body = before ++ gap :: List.replicate closing '#' ∧ text = trimRight before) ∨
    (text = body ∧ ∀ before gap closing, 0 < closing →
      body = before ++ gap :: List.replicate closing '#' → isBlank gap = false)

/-- How a line of a form is written. -/
def LineForm.Written (line : List Char) : LineForm → Prop
  | .codeFence => ∃ rest, trim line = codeDelimiter ++ rest
  | .mathFence => trim line = mathDelimiter
  | .formula text =>
      ∃ inner, trim line = mathDelimiter ++ (inner ++ mathDelimiter) ∧ inner ≠ [] ∧ text = trim inner
  | .heading depth text =>
      (1 ≤ depth ∧ depth ≤ 6) ∧ (line = List.replicate depth '#' ∧ text = [] ∨
        ∃ gap body, line = List.replicate depth '#' ++ gap :: body ∧ isBlank gap = true ∧
          HeadingText (trimLeft body) text)
  | .blank => trim line = []
  | .bullet text =>
      ∃ sign gap rest, trimLeft line = sign :: gap :: rest ∧ (sign = '-' ∨ sign = '*' ∨ sign = '+') ∧
        isBlank gap = true ∧ text = trimLeft rest
  | .numbered digits text =>
      ∃ sign gap rest, trimLeft line = digits ++ sign :: gap :: rest ∧ digits ≠ [] ∧
        (∀ d ∈ digits, isDigit d = true) ∧ (sign = '.' ∨ sign = ')') ∧ isBlank gap = true ∧ text = trimLeft rest
  | .quote text =>
      trimLeft line = '>' :: text ∧ (∀ c ∈ text.head?, isBlank c = false) ∨
        ∃ gap, trimLeft line = '>' :: gap :: text ∧ isBlank gap = true
  | .plain text => text = trim line ∧ text ≠ []

/-- The place of a form in the order in which the forms are tried. -/
def LineForm.rank : LineForm → Nat
  | .codeFence => 0
  | .mathFence => 1
  | .formula _ => 2
  | .heading _ _ => 3
  | .blank => 4
  | .bullet _ => 5
  | .numbered _ _ => 6
  | .quote _ => 7
  | .plain _ => 8

/-! ## Headings -/

/-- The hashes at the start of a text are so many hashes. -/
theorem takeWhile_hashes (cs : List Char) :
    cs.takeWhile (· = '#') = List.replicate (cs.takeWhile (· = '#')).length '#' := by
  apply List.eq_replicate_of_mem
  intro c mem
  simpa using List.mem_takeWhile_imp mem

/-- Without closing hashes, or with no white space before them, nothing is left out of a heading. -/
theorem closedHeading_eq_self {body : List Char}
    (opened : ∀ before gap closing, 0 < closing → body = before ++ gap :: List.replicate closing '#' →
      isBlank gap = false) : closedHeading body = body := by
  unfold closedHeading
  dsimp only
  split
  · rfl
  · next closes =>
      -- the run of hashes at the end has white space before it, which is what there is none of
      simp only [Bool.or_eq_true, Bool.not_eq_true', not_or, Bool.not_eq_false, List.isEmpty_iff] at closes
      obtain ⟨⟨some_, _⟩, blank⟩ := closes
      obtain ⟨gap, last, gapBlank⟩ : ∃ gap, (body.reverse.dropWhile (· = '#')).reverse.getLast? = some gap ∧
          isBlank gap = true := by
        cases last : (body.reverse.dropWhile (· = '#')).reverse.getLast? with
        | none => rw [last] at blank; cases blank
        | some gap => rw [last] at blank; exact ⟨gap, rfl, blank⟩
      obtain ⟨before, split⟩ := List.getLast?_eq_some_iff.mp last
      have parts : body = before ++ gap :: List.replicate (body.reverse.takeWhile (· = '#')).length '#' := by
        calc body = (body.reverse.takeWhile (· = '#') ++ body.reverse.dropWhile (· = '#')).reverse := by
              rw [List.takeWhile_append_dropWhile, List.reverse_reverse]
          _ = before ++ [gap] ++ (body.reverse.takeWhile (· = '#')).reverse := by
              rw [List.reverse_append, split]
          _ = _ := by
              rw [takeWhile_hashes, List.reverse_replicate, List.length_replicate, List.append_assoc,
                List.singleton_append]
      have none_ := opened before gap _ (List.length_pos_iff.mpr some_) parts
      rw [gapBlank] at none_
      cases none_

/-- **The text of a heading** is what stands before its closing hashes, if white space comes between. -/
theorem closedHeading_eq_iff {body text : List Char} : closedHeading body = text ↔ HeadingText body text := by
  constructor
  · rintro rfl
    by_cases closed : ∃ before gap closing, isBlank gap = true ∧ 0 < closing ∧
        body = before ++ gap :: List.replicate closing '#'
    · obtain ⟨before, gap, closing, blank, pos, rfl⟩ := closed
      exact .inl ⟨before, gap, closing, blank, pos, rfl, closedHeading_closed blank pos⟩
    · have opened : ∀ before gap closing, 0 < closing →
          body = before ++ gap :: List.replicate closing '#' → isBlank gap = false := by
        intro before gap closing pos parts
        rw [← Bool.not_eq_true]
        exact fun blank => closed ⟨before, gap, closing, blank, pos, parts⟩
      exact .inr ⟨closedHeading_eq_self opened, opened⟩
  · rintro (⟨before, gap, closing, blank, pos, rfl, rfl⟩ | ⟨rfl, opened⟩)
    · exact closedHeading_closed blank pos
    · exact closedHeading_eq_self opened

/-- **A heading by its parts**: its hashes, and behind white space what has its text. -/
theorem heading?_eq_some_iff {line text : List Char} {depth : Nat} :
    heading? line = some (depth, text) ↔ (LineForm.heading depth text).Written line := by
  constructor
  · intro found
    have parts : line = List.replicate (line.takeWhile (· = '#')).length '#' ++ line.dropWhile (· = '#') := by
      rw [← takeWhile_hashes, List.takeWhile_append_dropWhile]
    unfold heading? at found
    dsimp only at found
    split at found
    · next behind =>
        split at found
        · next known =>
            cases found
            rw [behind, List.append_nil] at parts
            exact ⟨known, .inl ⟨parts, rfl⟩⟩
        · cases found
    · next gap body behind =>
        split at found
        · next known =>
            cases found
            rw [behind] at parts
            exact ⟨⟨known.1, known.2.1⟩, .inr ⟨gap, body, parts, known.2.2, closedHeading_eq_iff.mp rfl⟩⟩
        · cases found
  · rintro ⟨known, ⟨rfl, rfl⟩ | ⟨gap, body, rfl, blank, isText⟩⟩
    · have hashes : (List.replicate depth '#').takeWhile (· = '#') = List.replicate depth '#' := by simp
      have behind : (List.replicate depth '#').dropWhile (· = '#') = [] := by simp
      simp only [heading?, hashes, behind, List.length_replicate]
      exact if_pos known
    · have stop := ne_hash_of_blank blank
      simp only [heading?, takeWhile_run eq_hash_of_mem stop, dropWhile_run eq_hash_of_mem stop,
        List.length_replicate]
      rw [if_pos ⟨known.1, known.2, blank⟩, closedHeading_eq_iff.mpr isText]

/-! ## The other forms -/

/-- **A formula by its parts.** -/
theorem formula?_eq_some_iff {line text : List Char} :
    formula? line = some text ↔
      ∃ inner, line = mathDelimiter ++ (inner ++ mathDelimiter) ∧ inner ≠ [] ∧ text = trim inner := by
  constructor
  · intro found
    unfold formula? at found
    split at found
    · next rest =>
        split at found
        · next inner backwards =>
            split at found
            · cases found
            · next some_ =>
                have forwards : rest = inner.reverse ++ mathDelimiter := by
                  rw [← List.reverse_reverse rest, backwards]
                  simp [mathDelimiter]
                exact ⟨inner.reverse, congrArg (mathDelimiter ++ ·) forwards, by simpa using some_,
                  (Option.some.inj found).symm⟩
        · cases found
    · cases found
  · rintro ⟨inner, rfl, ne, rfl⟩
    have backwards : (inner ++ mathDelimiter).reverse = '$' :: '$' :: inner.reverse := by
      simp [mathDelimiter]
    show formula? ('$' :: '$' :: (inner ++ mathDelimiter)) = _
    simp only [formula?, backwards]
    rw [if_neg (by simpa using ne), List.reverse_reverse]

/-- What stands behind a sign: white space and the text. -/
theorem afterSign?_eq_some_iff {cs text : List Char} :
    afterSign? cs = some text ↔ ∃ gap rest, cs = gap :: rest ∧ isBlank gap = true ∧ text = trimLeft rest := by
  constructor
  · intro found
    unfold afterSign? at found
    split at found
    · next gap rest =>
        split at found
        · next blank => exact ⟨gap, rest, rfl, blank, (Option.some.inj found).symm⟩
        · cases found
    · cases found
  · rintro ⟨gap, rest, rfl, blank, rfl⟩
    exact if_pos blank

/-- **A list item by its parts.** -/
theorem bullet?_eq_some_iff {line text : List Char} :
    bullet? line = some text ↔ (LineForm.bullet text).Written line := by
  constructor
  · intro found
    unfold bullet? at found
    split at found
    · next sign cs behind =>
        split at found
        · next signed =>
            obtain ⟨gap, rest, rfl, blank, text⟩ := afterSign?_eq_some_iff.mp found
            exact ⟨sign, gap, rest, behind, signed, blank, text⟩
        · cases found
    · cases found
  · rintro ⟨sign, gap, rest, behind, signed, blank, text⟩
    simp only [bullet?, behind]
    rw [if_pos signed]
    exact afterSign?_eq_some_iff.mpr ⟨gap, rest, rfl, blank, text⟩

/-- **A quoted line by its parts.** -/
theorem quote?_eq_some_iff {line text : List Char} :
    quote? line = some text ↔ (LineForm.quote text).Written line := by
  constructor
  · intro found
    unfold quote? at found
    split at found
    · next c rest behind =>
        by_cases blank : isBlank c = true
        · rw [if_pos blank] at found
          cases found
          exact .inr ⟨c, behind, blank⟩
        · rw [if_neg blank] at found
          cases found
          exact .inl ⟨behind, fun d head => by cases head; exact Bool.eq_false_iff.mpr blank⟩
    · next behind =>
        cases found
        exact .inl ⟨behind, nofun⟩
    · cases found
  · rintro (⟨behind, other⟩ | ⟨gap, behind, blank⟩)
    · cases text with
      | nil => simp only [quote?, behind]
      | cons c rest =>
          simp only [quote?, behind]
          rw [if_neg (by rw [other c rfl]; exact Bool.false_ne_true)]
    · simp only [quote?, behind]
      rw [if_pos blank]

/-! ## The first form that fits -/

/-- **What the reader looks for in a line is what a line of the form is written as.** -/
theorem found_iff_written {line : List Char} {form : LineForm} : form.Found line ↔ form.Written line := by
  cases form with
  | codeFence =>
      show codeDelimiter.isPrefixOf (trim line) = true ↔ ∃ rest, trim line = codeDelimiter ++ rest
      rw [List.isPrefixOf_iff_prefix]
      exact ⟨fun ⟨rest, eq⟩ => ⟨rest, eq.symm⟩, fun ⟨rest, eq⟩ => ⟨rest, eq.symm⟩⟩
  | mathFence => exact Iff.rfl
  | formula text => exact formula?_eq_some_iff
  | heading depth text => exact heading?_eq_some_iff
  | blank => exact Iff.rfl
  | bullet text => exact bullet?_eq_some_iff
  | numbered digits text => exact numbered?_eq_some_iff
  | quote text => exact quote?_eq_some_iff
  | plain text => exact Iff.rfl

/-- Forms of one place in the order that are found in one line are the same. -/
theorem LineForm.Found.unique {line : List Char} {form other : LineForm} (found : form.Found line)
    (found' : other.Found line) (same : form.rank = other.rank) : form = other := by
  cases form with
  | codeFence => cases other <;> first | rfl | cases same
  | mathFence => cases other <;> first | rfl | cases same
  | blank => cases other <;> first | rfl | cases same
  | formula text =>
      cases other with
      | formula text' => rw [Option.some.inj (found.symm.trans found')]
      | _ => cases same
  | heading depth text =>
      cases other with
      | heading depth' text' =>
          obtain ⟨rfl, rfl⟩ := Prod.mk.inj (Option.some.inj (found.symm.trans found'))
          rfl
      | _ => cases same
  | bullet text =>
      cases other with
      | bullet text' => rw [Option.some.inj (found.symm.trans found')]
      | _ => cases same
  | numbered digits text =>
      cases other with
      | numbered digits' text' =>
          obtain ⟨rfl, rfl⟩ := Prod.mk.inj (Option.some.inj (found.symm.trans found'))
          rfl
      | _ => cases same
  | quote text =>
      cases other with
      | quote text' => rw [Option.some.inj (found.symm.trans found')]
      | _ => cases same
  | plain text =>
      cases other with
      | plain text' => rw [found.1, found'.1]
      | _ => cases same

/-- No form that is found in a line comes before the form of the line. -/
theorem rank_of_le {line : List Char} {other : LineForm} (found : other.Found line) :
    (LineForm.of line).rank ≤ other.rank := by
  unfold LineForm.of
  dsimp only
  -- a form of the line is reached where those before it were looked for in vain
  cases other <;> simp only [LineForm.Found] at found <;> repeat' split
  all_goals simp_all [LineForm.rank]

/-- **The form of a line is the first that fits it**, in the order in which the forms are tried. -/
theorem of_eq_iff {line : List Char} {form : LineForm} :
    LineForm.of line = form ↔
      form.Written line ∧ ∀ other : LineForm, other.Written line → form.rank ≤ other.rank := by
  constructor
  · rintro rfl
    exact ⟨found_iff_written.mp (found_of line), fun _ written => rank_of_le (found_iff_written.mpr written)⟩
  · rintro ⟨written, first⟩
    have found : form.Found line := found_iff_written.mpr written
    have before : form.rank ≤ (LineForm.of line).rank := first _ (found_iff_written.mp (found_of line))
    exact (found_of line).unique found (Nat.le_antisymm (rank_of_le found) before)

example : LineForm.of "## a # b #c ##".toList = .heading 2 "a # b #c".toList := by decide

end SlidePress.Markdown
