import SlidePress.Proofs.Inline.FontElement
import SlidePress.Proofs.Inline.Found
import SlidePress.Proofs.Text.Lines

/-!
# `SlidePress.Proofs.Inline.Segment` — the segments of a flat text

A flat text is written segment by segment: plain text, text between the marks of one rule, or code, with a single blank
between one segment and the next, and none of them inside another. The segments carry what makes the text flat: what
stands in them has no sign of its own (`FlatText`), or no backtick (`CodeText`).

The rules for emphasis come one after another, so between two of them the segments of the rules before have tags and the
others their marks (`Segment.parts`). Before the first of them all have their marks, and that is the text itself,
escaped and with placeholders for its code (`plainMarkup_flat`).
-/

namespace SlidePress.Inline

open Text

/-! ## Flat texts -/

/-- A text on one line without anything that means something, and without white space at its ends. -/
structure FlatText where
  chars : List Char
  ne_nil : chars ≠ []
  flat : ∀ c ∈ chars, c ∉ ['*', '_', '`', '\x00', '\n']
  trimmed : trim chars = chars

/-- What can stand between two backticks: anything but a backtick. -/
structure CodeText where
  chars : List Char
  ne_nil : chars ≠ []
  noTick : '`' ∉ chars

/-- The marks of emphasized text. -/
inductive Marks
  | stars
  | star
  | underscore
deriving DecidableEq

/-- The rule that looks for these marks. -/
def Marks.rule : Marks → EmphasisRule
  | .stars => boldRule
  | .star => starRule
  | .underscore => underscoreRule

/-- Which of the rules it is, in the order in which they are applied. -/
def Marks.turn : Marks → Nat
  | .stars => 0
  | .star => 1
  | .underscore => 2

/-- A segment of a flat text. -/
inductive Segment
  | plain (text : FlatText)
  | emphasized (marks : Marks) (text : FlatText)
  | code (text : CodeText)

/-- A segment as the author writes it. -/
def Segment.authored : Segment → List Char
  | .plain text => text.chars
  | .emphasized marks text => marks.rule.mark ++ text.chars ++ marks.rule.mark
  | .code text => '`' :: text.chars ++ ['`']

/-- The markup that is made of a segment, with code in the given font. -/
def Segment.rendered (font : List Char) : Segment → List Char
  | .plain text => escape text.chars
  | .emphasized marks text => marks.rule.emphasis.openTag ++ escape text.chars ++ marks.rule.emphasis.closeTag
  | .code text => fontElement font text.chars

/-- The code that a segment is. -/
def Segment.code? : Segment → Option (List Char)
  | .code text => some text.chars
  | _ => none

theorem FlatText.unmarked (text : FlatText) : Unmarked text.chars where
  ne_nil := text.ne_nil
  other c mem := by
    have flat := text.flat c mem
    simp only [List.mem_cons, List.not_mem_nil, or_false, not_or] at flat
    exact ⟨flat.1, flat.2.1, flat.2.2.2.2⟩
  trimmed := text.trimmed

theorem Marks.hasMarks (marks : Marks) : marks.rule.HasMarks := by
  cases marks with
  | stars => exact boldRule_hasMarks
  | star => exact starRule_hasMarks
  | underscore => exact underscoreRule_hasMarks

theorem Marks.turn_lt (marks : Marks) : marks.turn < 3 := by
  cases marks <;> decide

theorem Marks.turn_injective {a b : Marks} (h : a.turn = b.turn) : a = b := by
  cases a <;> cases b <;> first | rfl | cases h

/-- **Rules whose marks do not meet**: all but the first with the marks of the second. -/
theorem Marks.apart {marks ms : Marks} (differ : ms ≠ marks) (other : marks = .stars → ms ≠ .star) :
    ms.turn < marks.turn ∨ ∀ c ∈ ms.rule.mark, c ∉ marks.rule.mark := by
  cases marks with
  | stars =>
      cases ms with
      | stars => exact absurd rfl differ
      | star => exact absurd rfl (other rfl)
      | underscore => exact Or.inr (List.all_iff_forall_prop.mp (by decide))
  | star =>
      cases ms with
      | stars => exact Or.inl (by decide)
      | star => exact absurd rfl differ
      | underscore => exact Or.inr (List.all_iff_forall_prop.mp (by decide))
  | underscore =>
      cases ms with
      | underscore => exact absurd rfl differ
      | _ => exact Or.inl (by decide)

/-! ## On the way -/

/-- The parts of a segment when the rules before a turn have been applied: tags where its marks were, if theirs was one
of them. Code is a placeholder with the given number. -/
def Segment.parts (turn number : Nat) : Segment → List Part
  | .plain text => text.chars.map .char
  | .emphasized marks text =>
    if marks.turn < turn then
      .tag (.opening marks.rule.emphasis) :: (text.chars.map .char ++ [.tag (.closing marks.rule.emphasis)])
    else marks.rule.mark.map .char ++ text.chars.map .char ++ marks.rule.mark.map .char
  | .code _ => (placeholder number).map .char

/-- The number for the code behind a segment. -/
def Segment.nextNumber (number : Nat) : Segment → Nat
  | .code _ => number + 1
  | _ => number

theorem filterMap_code?_cons (segment : Segment) (segments : List Segment) :
    (segment :: segments).filterMap Segment.code? = segment.code?.toList ++ segments.filterMap Segment.code? := by
  cases segment <;> rfl

/-- The parts of segments, with a blank before each. -/
def spacedParts (turn : Nat) : Nat → List Segment → List Part
  | _, [] => []
  | number, segment :: segments =>
    .char ' ' :: (segment.parts turn number ++ spacedParts turn (segment.nextNumber number) segments)

/-- The parts of a flat text. -/
def flatParts (turn : Nat) : List Segment → List Part
  | [] => []
  | segment :: segments => segment.parts turn 0 ++ spacedParts turn (segment.nextNumber 0) segments

/-! ## A segment, written -/

theorem Marks.written_mark (marks : Marks) : written (marks.rule.mark.map .char) = marks.rule.mark := by
  cases marks <;> rfl

theorem Segment.written_marked {turn : Nat} {marks : Marks} (later : turn ≤ marks.turn) (text : FlatText)
    (number : Nat) :
    written ((Segment.emphasized marks text).parts turn number) =
      marks.rule.mark ++ escape text.chars ++ marks.rule.mark := by
  rw [parts, if_neg (Nat.not_lt_of_le later), written_append, written_append, marks.written_mark, written_map_char]

theorem Segment.written_tagged {turn : Nat} {marks : Marks} (earlier : marks.turn < turn) (text : FlatText)
    (number : Nat) :
    written ((Segment.emphasized marks text).parts turn number) =
      marks.rule.emphasis.openTag ++ escape text.chars ++ marks.rule.emphasis.closeTag := by
  rw [parts, if_pos earlier, written_cons, written_append, written_map_char, List.append_assoc, written_cons,
    written_nil, List.append_nil]
  rfl

/-- **The marks that are left** in a segment are those that it was written with, and their turn is yet to come. -/
theorem Segment.of_mark_mem {segment : Segment} {turn number : Nat} {c : Char} (hc : isMark c)
    (mem : c ∈ written (segment.parts turn number)) :
    ∃ marks text, segment = .emphasized marks text ∧ turn ≤ marks.turn ∧ c ∈ marks.rule.mark := by
  have unmarked : ∀ text : FlatText, c ∉ written (text.chars.map .char) := by
    intro text inside
    rw [written_map_char] at inside
    have other := text.unmarked.other c (mem_of_mem_escape hc.not_mem_markupAlphabet inside)
    rcases hc with rfl | rfl
    · exact other.1 rfl
    · exact other.2.1 rfl
  cases segment with
  | plain text => exact absurd mem (unmarked text)
  | code text =>
      rw [parts, written_placeholder] at mem
      exact absurd hc (not_isMark_of_mem_placeholder mem)
  | emphasized marks text =>
      have untagged : ∀ t : Tag, c ∉ (Part.tag t).chars := by
        intro t inside
        have part : Part.tag t = .char c := Part.eq_of_mem hc.not_mem_markupAlphabet inside
        cases part
      rw [parts] at mem
      split at mem
      · rw [written_cons, written_append, List.mem_append, List.mem_append] at mem
        rcases mem with opening | inside | closing
        · exact absurd opening (untagged _)
        · exact absurd inside (unmarked text)
        · simp only [written_cons, written_nil, List.append_nil] at closing
          exact absurd closing (untagged _)
      · next later =>
          refine ⟨marks, text, rfl, Nat.le_of_not_lt later, ?_⟩
          simp only [written_append, List.mem_append, marks.written_mark] at mem
          rcases mem with (here | inside) | here
          · exact here
          · exact absurd inside (unmarked text)
          · exact here

/-! ## Into parts -/

theorem pieces_append {cs : List Char} (h : '`' ∉ cs) (rest : List Char) :
    pieces (cs ++ rest) = cs.map .plain ++ pieces rest := by
  induction cs with
  | nil => rfl
  | cons c cs ih =>
      obtain ⟨first, later⟩ := List.ne_and_not_mem_of_not_mem_cons h
      have here : pieces (c :: (cs ++ rest)) = .plain c :: pieces (cs ++ rest) := if_neg (Ne.symm first)
      rw [List.cons_append, here, ih later]
      rfl

theorem pieces_code {code : List Char} (ne : code ≠ []) (h : '`' ∉ code) (rest : List Char) :
    pieces ('`' :: code ++ ['`'] ++ rest) = .code code :: pieces rest := by
  have some_ : ¬ code.reverse.isEmpty = true := by simpa using ne
  rw [List.append_assoc, List.cons_append, List.singleton_append, pieces, piecesFrom, if_pos rfl,
    piecesFrom_some_append h, List.append_nil, piecesFrom, if_pos rfl, if_neg some_, List.reverse_reverse]
  rfl

theorem withPlaceholders_append (cs : List Char) (ps : List Piece) (number : Nat) :
    withPlaceholders number (cs.map .plain ++ ps) = cs ++ withPlaceholders number ps := by
  induction cs with
  | nil => rfl
  | cons c cs ih => exact congrArg (c :: ·) ih

theorem codeSpans_append (cs : List Char) (ps : List Piece) : codeSpans (cs.map .plain ++ ps) = codeSpans ps := by
  induction cs with
  | nil => rfl
  | cons c cs ih => exact ih

/-- **A text without a backtick** has no code, and is escaped as it stands. -/
theorem plainMarkup_of_noTick {cs : List Char} (h : '`' ∉ cs) :
    plainMarkup cs = escape cs ∧ codeSpans (pieces cs) = [] := by
  have plain : pieces cs = cs.map .plain ++ [] := by
    have whole := pieces_append h []
    rwa [List.append_nil] at whole
  constructor
  · rw [plainMarkup, plain, withPlaceholders_append, withPlaceholders, List.append_nil]
  · rw [plain, codeSpans_append]
    rfl

theorem Marks.noTick (marks : Marks) : '`' ∉ marks.rule.mark := by
  cases marks <;> decide

theorem FlatText.noTick (text : FlatText) : '`' ∉ text.chars := fun mem =>
  text.flat _ mem (by simp)

/-- **A segment of a text**, escaped and with a placeholder for its code. -/
theorem escape_segment (segment : Segment) (number : Nat) (rest : List Char) :
    escape (withPlaceholders number (pieces (segment.authored ++ rest))) =
      written (segment.parts 0 number) ++ escape (withPlaceholders (segment.nextNumber number) (pieces rest)) ∧
    codeSpans (pieces (segment.authored ++ rest)) = segment.code?.toList ++ codeSpans (pieces rest) := by
  have characters : ∀ cs : List Char, '`' ∉ cs →
      escape (withPlaceholders number (pieces (cs ++ rest))) =
          written (cs.map .char) ++ escape (withPlaceholders number (pieces rest)) ∧
        codeSpans (pieces (cs ++ rest)) = codeSpans (pieces rest) := by
    intro cs noTick
    rw [pieces_append noTick, withPlaceholders_append, escape_append, written_map_char, codeSpans_append]
    exact ⟨rfl, rfl⟩
  cases segment with
  | plain text => exact characters text.chars text.noTick
  | emphasized marks text =>
      have noTick : '`' ∉ (Segment.emphasized marks text).authored := by
        simp only [Segment.authored, List.mem_append, not_or]
        exact ⟨⟨marks.noTick, text.noTick⟩, marks.noTick⟩
      have parts : (Segment.emphasized marks text).parts 0 number =
          (Segment.emphasized marks text).authored.map .char := by
        simp [Segment.parts, Segment.authored]
      rw [parts]
      exact characters _ noTick
  | code text =>
      rw [Segment.authored, pieces_code text.ne_nil text.noTick]
      constructor
      · show escape (placeholder number ++ withPlaceholders (number + 1) (pieces rest)) = _
        rw [escape_append, Segment.parts, written_map_char]
        rfl
      · rfl

/-- Segments with a blank before each, escaped and with placeholders for their code. -/
theorem escape_spaced (segments : List Segment) (number : Nat) :
    escape (withPlaceholders number (pieces (segments.flatMap fun s => ' ' :: s.authored))) =
      written (spacedParts 0 number segments) ∧
    codeSpans (pieces (segments.flatMap fun s => ' ' :: s.authored)) = segments.filterMap Segment.code? := by
  induction segments generalizing number with
  | nil => exact ⟨rfl, rfl⟩
  | cons segment segments ih =>
      obtain ⟨parts, code⟩ := escape_segment segment number (segments.flatMap fun s => ' ' :: s.authored)
      obtain ⟨later, codeLater⟩ := ih (segment.nextNumber number)
      have noTick : '`' ∉ [' '] := by decide
      have blank : ∀ rest, pieces (' ' :: rest) = .plain ' ' :: pieces rest := pieces_append noTick
      have single : (Part.char ' ').chars = [' '] := rfl
      rw [List.flatMap_cons, List.cons_append, blank]
      constructor
      · show escape ([' '] ++ withPlaceholders number (pieces _)) = _
        rw [escape_append, parts, later, spacedParts, written_cons, written_append, single]
        rfl
      · show codeSpans (pieces _) = _
        rw [code, codeLater, filterMap_code?_cons]

/-- **A flat text**, escaped and with placeholders for its code. -/
theorem plainMarkup_flat (segments : List Segment) :
    plainMarkup (joinWith [' '] (segments.map Segment.authored)) = written (flatParts 0 segments) ∧
      codeSpans (pieces (joinWith [' '] (segments.map Segment.authored))) = segments.filterMap Segment.code? := by
  cases segments with
  | nil => exact ⟨rfl, rfl⟩
  | cons segment segments =>
      obtain ⟨parts, code⟩ := escape_segment segment 0 (segments.flatMap fun s => ' ' :: s.authored)
      obtain ⟨later, codeLater⟩ := escape_spaced segments (segment.nextNumber 0)
      have joined : joinWith [' '] ((segment :: segments).map Segment.authored) =
          segment.authored ++ segments.flatMap fun s => ' ' :: s.authored := by
        rw [List.map_cons, joinWith_cons_flatMap, List.flatMap_map]
        rfl
      rw [joined]
      constructor
      · rw [plainMarkup, parts, later, flatParts, written_append]
      · rw [code, codeLater, filterMap_code?_cons]

end SlidePress.Inline
