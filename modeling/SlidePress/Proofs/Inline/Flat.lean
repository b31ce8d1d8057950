import SlidePress.Proofs.Inline.Segment
import Mathlib.Algebra.Group.Nat.Defs

/-!
# `SlidePress.Proofs.Inline.Flat` — the markup of flat text

In a flat text every mark pairs with the one it was written with, and the markup is what the author has in mind
(`markup_flat`). What makes it so is the blank. Each rule goes over the whole text, and where it comes to a segment, the
character before is a blank or none, and so is the one behind; that settles every condition that a rule has on what
stands beside its marks.

Each rule takes the text one turn further, segment by segment (`Marks.apply_segment`). It finds the segments with its
marks and passes over the others. The one case in between is italic text between asterisks while two of them are looked
for: the rule stops at each of its marks and finds nothing there.

## Contents
- `Marks.apply_other`, `Marks.find?_own`, `boldRule_apply_star`, `Marks.apply_segment`: one rule and one segment.
- `Marks.apply_flat`, `emphasize_flat`: the rules, on the whole text.
- `isBalanced_flat`, `emphasizedMarkup_flat`: its tags nest.
- `Segment.elements`, `inOrder_flat`, `composed_flat`: its code comes back.
- `markup_flat`: its markup.
-/

namespace SlidePress.Inline

open Text

/-! ## One rule -/

/-- **A rule passes over** a segment that has its tags already, or other marks. -/
theorem Marks.apply_other (marks : Marks) {segment : Segment} (number : Nat)
    (other : ∀ ms text, segment = .emphasized ms text →
      ms.turn < marks.turn ∨ ms ≠ marks ∧ ∀ c ∈ ms.rule.mark, c ∉ marks.rule.mark)
    (before : Option Char) (rest : List Char) :
    ∃ before', marks.rule.apply before (written (segment.parts marks.turn number) ++ rest) =
      written (segment.parts (marks.turn + 1) number) ++ marks.rule.apply before' rest := by
  have same : segment.parts (marks.turn + 1) number = segment.parts marks.turn number := by
    cases segment with
    | plain text => rfl
    | code text => rfl
    | emphasized ms text =>
        have turns : ms.turn < marks.turn + 1 ↔ ms.turn < marks.turn := by
          rcases other ms text rfl with tagged | ⟨apart, -⟩
          · omega
          · have turn : ms.turn ≠ marks.turn := fun turn => apart (turn_injective turn)
            omega
        simp only [Segment.parts, turns]
  rw [same]
  refine marks.rule.apply_append_of_unmarked ?_ before rest
  intro c mem mark
  obtain ⟨ms, text, written_, later, left⟩ := Segment.of_mark_mem (marks.hasMarks c mark) mem
  rcases other ms text written_ with tagged | ⟨-, apart⟩
  · exact absurd tagged (Nat.not_lt_of_le later)
  · exact apart c left mark

/-- **Two asterisks are not found** around text between single ones. -/
theorem boldRule_apply_star (before : Option Char) {rest : List Char} (hrest : ∀ c ∈ rest.head?, c = ' ')
    (text : FlatText) :
    ∃ before', boldRule.apply before ('*' :: (escape text.chars ++ '*' :: rest)) =
      '*' :: (escape text.chars ++ '*' :: boldRule.apply before' rest) := by
  have inner : Unmarked (escape text.chars) := text.unmarked.escape
  have opening : (escape text.chars ++ '*' :: rest).head? ≠ some '*' := by
    obtain ⟨c, cs, chars⟩ := List.exists_cons_of_ne_nil inner.ne_nil
    rw [chars]
    intro same
    exact (inner.other c (by simp [chars])).1 (Option.some.inj same)
  have closing : rest.head? ≠ some '*' := by
    intro same
    exact absurd (hrest '*' same) (by decide)
  have passed : ∀ c ∈ escape text.chars, c ∉ boldRule.mark := by
    intro c mem
    have other := (inner.other c mem).1
    simp [boldRule, other]
  obtain ⟨before', inside⟩ := boldRule.apply_append_of_unmarked passed (some '*') ('*' :: rest)
  refine ⟨some '*', ?_⟩
  rw [boldRule.apply_of_not_found (find?_boldRule_single opening), inside,
    boldRule.apply_of_not_found (find?_boldRule_single closing)]

section

variable {before : Option Char} (hbefore : ∀ c ∈ before, c = ' ') {rest : List Char}
  (hrest : ∀ c ∈ rest.head?, c = ' ')

include hbefore hrest

/-- **A rule finds its own segment**, with nothing but blanks beside it. -/
theorem Marks.find?_own (marks : Marks) (text : FlatText) :
    marks.rule.find? before (marks.rule.mark ++ escape text.chars ++ marks.rule.mark ++ rest) =
      some (escape text.chars, rest) := by
  have inner : Unmarked (escape text.chars) := text.unmarked.escape
  have noStar : ∀ c : Option Char, (∀ d ∈ c, d = ' ') → c ≠ some '*' := by
    rintro _ blank rfl
    exact absurd (blank '*' rfl) (by decide)
  have noWord : ∀ c : Option Char, (∀ d ∈ c, d = ' ') → (c.map isWordChar).getD false = false := by
    rintro (_ | c) blank
    · rfl
    · rw [blank c rfl]
      rfl
  have found : marks.rule.find? before (marks.rule.mark ++ (escape text.chars ++ (marks.rule.mark ++ rest))) =
      some (escape text.chars, rest) := by
    cases marks with
    | stars => exact find?_boldRule inner
    | star => exact find?_starRule inner (noStar before hbefore) (noStar rest.head? hrest)
    | underscore => exact find?_underscoreRule inner (noWord before hbefore) (noWord rest.head? hrest)
  rwa [List.append_assoc, List.append_assoc]

/-- **One segment under one rule**: it has its tags from then on if its marks are those of the rule. -/
theorem Marks.apply_segment (marks : Marks) (segment : Segment) (number : Nat) :
    ∃ before', marks.rule.apply before (written (segment.parts marks.turn number) ++ rest) =
      written (segment.parts (marks.turn + 1) number) ++ marks.rule.apply before' rest := by
  by_cases own : ∃ text, segment = .emphasized marks text
  · obtain ⟨text, rfl⟩ := own
    refine ⟨marks.rule.mark.getLast?, ?_⟩
    rw [Segment.written_marked (Nat.le_refl _), Segment.written_tagged (Nat.lt_succ_self _),
      marks.rule.apply_of_found (marks.find?_own hbefore hrest text)]
  · by_cases beside : marks = .stars ∧ ∃ text, segment = .emphasized .star text
    · obtain ⟨rfl, text, rfl⟩ := beside
      obtain ⟨before', passed⟩ := boldRule_apply_star before hrest text
      refine ⟨before', ?_⟩
      have marked : ∀ turn, turn ≤ 1 → written ((Segment.emphasized .star text).parts turn number) =
          '*' :: (escape text.chars ++ ['*']) := fun turn early => by
        rw [Segment.written_marked early, List.append_assoc]
        rfl
      rw [marked _ (by decide), marked _ (by decide), List.cons_append, List.cons_append, List.append_assoc,
        List.append_assoc]
      exact passed
    · refine marks.apply_other number ?_ before rest
      rintro ms text rfl
      have differ : ms ≠ marks := by
        rintro rfl
        exact own ⟨text, rfl⟩
      have other : marks = .stars → ms ≠ .star := by
        rintro rfl rfl
        exact beside ⟨rfl, text, rfl⟩
      exact (Marks.apart differ other).imp_right fun apart => ⟨differ, apart⟩

end

/-! ## The whole text -/

/-- Spaced segments begin with a blank, if there are any. -/
theorem head?_spacedParts (turn number : Nat) (segments : List Segment) :
    ∀ c ∈ (written (spacedParts turn number segments)).head?, c = ' ' := by
  intro c first
  cases segments with
  | nil => cases first
  | cons segment segments => exact (Option.some.inj first).symm

/-- **One rule on spaced segments**, whatever stands before them. -/
theorem Marks.apply_spaced (marks : Marks) (segments : List Segment) (number : Nat) (before : Option Char) :
    marks.rule.apply before (written (spacedParts marks.turn number segments)) =
      written (spacedParts (marks.turn + 1) number segments) := by
  induction segments generalizing number before with
  | nil => exact marks.rule.apply_nil before
  | cons segment segments ih =>
      have single : (Part.char ' ').chars = [' '] := rfl
      have noMark : ' ' ∉ marks.rule.mark := by cases marks <;> decide
      have behind : ∀ c ∈ some ' ', c = ' ' := by simp
      obtain ⟨before', own⟩ := marks.apply_segment behind
        (head?_spacedParts marks.turn (segment.nextNumber number) segments) segment number
      rw [spacedParts, spacedParts, written_cons, written_cons, single, written_append, written_append,
        List.singleton_append, marks.rule.apply_of_not_found (marks.rule.find?_eq_none_of_not_mem noMark), own,
        ih (segment.nextNumber number) before', List.singleton_append]

/-- **One rule on a flat text.** -/
theorem Marks.apply_flat (marks : Marks) (segments : List Segment) :
    marks.rule.apply none (written (flatParts marks.turn segments)) =
      written (flatParts (marks.turn + 1) segments) := by
  cases segments with
  | nil => exact marks.rule.apply_nil none
  | cons segment segments =>
      have nothing : ∀ c ∈ (none : Option Char), c = ' ' := nofun
      obtain ⟨before', own⟩ := marks.apply_segment nothing
        (head?_spacedParts marks.turn (segment.nextNumber 0) segments) segment 0
      rw [flatParts, flatParts, written_append, written_append, own, marks.apply_spaced]

/-- **All rules on a flat text.** -/
theorem emphasize_flat (segments : List Segment) :
    emphasize (written (flatParts 0 segments)) = written (flatParts 3 segments) := by
  have stars := Marks.stars.apply_flat segments
  have star := Marks.star.apply_flat segments
  have underscore := Marks.underscore.apply_flat segments
  calc emphasize (written (flatParts 0 segments))
      = underscoreRule.apply none (starRule.apply none (written (flatParts 1 segments))) :=
        congrArg (fun cs => underscoreRule.apply none (starRule.apply none cs)) stars
    _ = underscoreRule.apply none (written (flatParts 2 segments)) := congrArg (underscoreRule.apply none ·) star
    _ = written (flatParts 3 segments) := underscore

/-! ## Tags that nest -/

theorem filterMap_tag?_chars (cs : List Char) : (cs.map Part.char).filterMap Part.tag? = [] := by
  rw [List.filterMap_eq_nil_iff]
  intro p mem
  obtain ⟨c, -, rfl⟩ := List.mem_map.mp mem
  rfl

/-- The tags of a segment are one that opens and one that closes it, or none. -/
theorem closesAll_segment (segment : Segment) (number : Nat) (opened : List Emphasis) (rest : List Tag) :
    closesAll opened ((segment.parts 3 number).filterMap Part.tag? ++ rest) = closesAll opened rest := by
  cases segment with
  | plain text => rw [Segment.parts, filterMap_tag?_chars, List.nil_append]
  | code text => rw [Segment.parts, filterMap_tag?_chars, List.nil_append]
  | emphasized marks text =>
      have tags : ((Segment.emphasized marks text).parts 3 number).filterMap Part.tag? =
          [.opening marks.rule.emphasis, .closing marks.rule.emphasis] := by
        rw [Segment.parts, if_pos marks.turn_lt]
        simp [Part.tag?]
      rw [tags]
      simp [closesAll]

theorem closesAll_spaced (segments : List Segment) (number : Nat) :
    closesAll [] ((spacedParts 3 number segments).filterMap Part.tag?) = true := by
  induction segments generalizing number with
  | nil => rfl
  | cons segment segments ih =>
      rw [spacedParts, List.filterMap_cons_none rfl, List.filterMap_append, closesAll_segment]
      exact ih (segment.nextNumber number)

/-- **The tags of a flat text nest.** -/
theorem isBalanced_flat (segments : List Segment) : isBalanced (written (flatParts 3 segments)) = true := by
  rw [isBalanced, tags_written]
  cases segments with
  | nil => rfl
  | cons segment segments =>
      rw [flatParts, List.filterMap_append, closesAll_segment]
      exact closesAll_spaced segments (segment.nextNumber 0)

/-- **The emphasis of a flat text** does not overlap, and gives all segments their tags. -/
theorem emphasizedMarkup_flat (segments : List Segment) :
    overlaps (joinWith [' '] (segments.map Segment.authored)) = false ∧
      emphasizedMarkup (joinWith [' '] (segments.map Segment.authored)) = written (flatParts 3 segments) := by
  have plain := (plainMarkup_flat segments).1
  have nested : overlaps (joinWith [' '] (segments.map Segment.authored)) = false := by
    rw [overlaps, plain, emphasize_flat, isBalanced_flat]
    rfl
  refine ⟨nested, ?_⟩
  rw [emphasizedMarkup, nested, if_neg Bool.false_ne_true, plain, emphasize_flat]

/-! ## Code put back -/

/-- The elements of a segment with its tags. -/
def Segment.elements : Segment → List Element
  | .code text => [.code text.chars]
  | .plain text => ((Segment.plain text).parts 3 0).map .part
  | .emphasized marks text => ((Segment.emphasized marks text).parts 3 0).map .part

/-- The elements of a flat text. -/
def flatElements : List Segment → List Element
  | [] => []
  | segment :: segments => segment.elements ++ segments.flatMap fun s => .part (.char ' ') :: s.elements

theorem InOrder.keepAll {number : Nat} {contents : List (List Char)} {parts : List Part} {elements : List Element}
    (h : InOrder number contents parts elements) {kept : List Part} (other : ∀ p ∈ kept, p ≠ .char '\x00') :
    InOrder number contents (kept ++ parts) (kept.map .part ++ elements) := by
  induction kept with
  | nil => exact h
  | cons p kept ih =>
      obtain ⟨here, later⟩ := List.forall_mem_cons.mp other
      exact .keep here (ih later)

theorem FlatText.noNul (text : FlatText) : ∀ p ∈ text.chars.map Part.char, p ≠ .char '\x00' := by
  rintro p mem rfl
  obtain ⟨c, inside, same⟩ := List.mem_map.mp mem
  exact text.flat c inside (by rw [Part.char.inj same]; simp)

/-- **The code of one segment** comes back to its place. -/
theorem inOrder_segment (segment : Segment) {number : Nat} {contents : List (List Char)} {parts : List Part}
    {elements : List Element} (h : InOrder (segment.nextNumber number) contents parts elements) :
    InOrder number (segment.code?.toList ++ contents) (segment.parts 3 number ++ parts)
      (segment.elements ++ elements) := by
  cases segment with
  | code text => exact .span text.chars h
  | plain text => exact h.keepAll text.noNul
  | emphasized marks text =>
      have other : ∀ p ∈ (Segment.emphasized marks text).parts 3 0, p ≠ .char '\x00' := by
        rw [Segment.parts, if_pos marks.turn_lt]
        intro p mem
        simp only [List.mem_cons, List.mem_append, List.not_mem_nil, or_false] at mem
        rcases mem with rfl | inside | rfl
        · simp
        · exact text.noNul p inside
        · simp
      exact h.keepAll other

/-- The code of spaced segments comes back to its places. -/
theorem inOrder_spaced (segments : List Segment) (number : Nat) :
    InOrder number (segments.filterMap Segment.code?) (spacedParts 3 number segments)
      (segments.flatMap fun s => .part (.char ' ') :: s.elements) := by
  induction segments generalizing number with
  | nil => exact .nil number
  | cons segment segments ih =>
      have own := inOrder_segment segment (ih (segment.nextNumber number))
      rw [filterMap_code?_cons]
      exact .keep (by decide) own

/-- **The code of a flat text** comes back to its places. -/
theorem inOrder_flat (segments : List Segment) :
    InOrder 0 (segments.filterMap Segment.code?) (flatParts 3 segments) (flatElements segments) := by
  cases segments with
  | nil => exact .nil 0
  | cons segment segments =>
      have own := inOrder_segment segment (inOrder_spaced segments (segment.nextNumber 0))
      rw [filterMap_code?_cons]
      exact own

theorem composed_segment (font : List Char) (segment : Segment) (rest : List Element) :
    composed font (segment.elements ++ rest) = segment.rendered font ++ composed font rest := by
  cases segment with
  | code text => rfl
  | plain text =>
      rw [Segment.elements, composed_append_part, Segment.parts, written_map_char]
      rfl
  | emphasized marks text =>
      rw [Segment.elements, composed_append_part, Segment.written_tagged marks.turn_lt]
      rfl

/-- The elements of spaced segments are what is made of them, with a blank before each. -/
theorem composed_spaced (font : List Char) (segments : List Segment) :
    composed font (segments.flatMap fun s => .part (.char ' ') :: s.elements) =
      (segments.map (Segment.rendered font)).flatMap ([' '] ++ ·) := by
  induction segments with
  | nil => rfl
  | cons segment segments ih =>
      rw [List.flatMap_cons, List.cons_append, composed_cons, composed_segment, ih]
      rfl

/-- **The elements of a flat text** are what is made of its segments. -/
theorem composed_flat (font : List Char) (segments : List Segment) :
    composed font (flatElements segments) = joinWith [' '] (segments.map (Segment.rendered font)) := by
  cases segments with
  | nil => rfl
  | cons segment segments =>
      rw [flatElements, composed_segment, composed_spaced, List.map_cons, joinWith_cons_flatMap]

/-! ## The markup -/

/-- **The markup of a flat text.** Segments with single blanks between them, each plain, bold, italic in asterisks,
italic in underscores or code, become segments with single blanks between them: escaped text, in bold or italic tags
where it was emphasized, and font elements for code. Nothing is reported. The one limit is that there may be no more
code than numbers that can be read. -/
theorem markup_flat (font : String) (segments : List Segment) :
    let text := String.ofList (joinWith [' '] (segments.map Segment.authored))
    let code := segments.filterMap Segment.code?
    (code.length ≤ 10 ^ maxDigits →
        markup font text = .ok (String.ofList (joinWith [' '] (segments.map (Segment.rendered font.toList))))) ∧
      (10 ^ maxDigits < code.length → ∃ e, markup font text = .error e) ∧
      markupJournal text = [] := by
  intro text code
  have chars : text.toList = joinWith [' '] (segments.map Segment.authored) := String.toList_ofList
  obtain ⟨nested, emphasized⟩ := emphasizedMarkup_flat segments
  have spans := (plainMarkup_flat segments).2
  have ordered := inOrder_flat segments
  rw [← chars] at nested emphasized spans
  rw [← spans] at ordered
  obtain ⟨made, refused⟩ := markup_eq_of_inOrder font emphasized ordered
  rw [spans] at made refused
  rw [composed_flat] at made
  refine ⟨made, refused, ?_⟩
  rw [markupJournal, nested]
  rfl

/-- Every kind of segment, two kinds again, and code with the marks of the others in it. -/
theorem markup_flat_of_every_kind :
    let text := "a & b **c  d** *<e>* _f\tg_ `h*_<` **i** *j*"
    let made := "a &amp; b <b>c  d</b> <i>&lt;e&gt;</i> <i>f\tg</i> " ++
      "<font name=\"Courier\">h*_&lt;</font> <b>i</b> <i>j</i>"
    markup "Courier" text = .ok made ∧ markupJournal text = [] := by
  intro text made
  let segments : List Segment :=
    [.plain ⟨"a & b".toList, by decide, List.all_iff_forall_prop.mp (by decide), by decide⟩,
      .emphasized .stars ⟨"c  d".toList, by decide, List.all_iff_forall_prop.mp (by decide), by decide⟩,
      .emphasized .star ⟨"<e>".toList, by decide, List.all_iff_forall_prop.mp (by decide), by decide⟩,
      .emphasized .underscore ⟨"f\tg".toList, by decide, List.all_iff_forall_prop.mp (by decide), by decide⟩,
      .code ⟨"h*_<".toList, by decide, by decide⟩,
      .emphasized .stars ⟨['i'], by decide, List.all_iff_forall_prop.mp (by decide), by decide⟩,
      .emphasized .star ⟨['j'], by decide, List.all_iff_forall_prop.mp (by decide), by decide⟩]
  have authored : String.ofList (joinWith [' '] (segments.map Segment.authored)) = text := by decide +kernel
  have rendered : String.ofList (joinWith [' '] (segments.map (Segment.rendered "Courier".toList))) = made := by
    decide +kernel
  have single : (segments.filterMap Segment.code?).length ≤ 10 ^ maxDigits := Nat.pow_pos (by decide)
  obtain ⟨marked, -, silent⟩ := markup_flat "Courier" segments
  rw [authored] at marked silent
  rw [rendered] at marked
  exact ⟨marked single, silent⟩

end SlidePress.Inline
