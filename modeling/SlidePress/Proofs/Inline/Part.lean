import SlidePress.Inline.Escape
import SlidePress.Inline.Nesting
import Mathlib.Data.Bool.AllAny

/-!
# `SlidePress.Proofs.Inline.Part` — emphasized text as characters and tags

The text that the emphasis rules rewrite is a plain list of characters, in which an entity is four or five of them and
a tag three or four. Here it is read as a list of parts, each an authored character or a tag, and `written` goes back.
A rule looks only for marks, and no mark stands in an entity or a tag, so where it cuts the characters it cuts between
parts (`written_eq_append_marks`). The tags that the balance check finds are the tags among the parts (`tags_written`).
-/

namespace SlidePress.Inline

/-! ## Escaping one character at a time -/

/-- A character as markup: an entity if it means something there. -/
def escapeChar (c : Char) : List Char :=
  if c = '&' then ampEntity else if c = '<' then ltEntity else if c = '>' then gtEntity else [c]

/-- **Escaping goes character by character.** The three replacements do not get in each other's way: the ampersand goes
first, and the other two write none of the characters that are still to be replaced. -/
theorem escape_eq_flatMap (cs : List Char) : escape cs = cs.flatMap escapeChar := by
  induction cs with
  | nil => rfl
  | cons c cs ih =>
      have one : escape [c] = escapeChar c := by
        unfold escapeChar
        split
        · subst c; rfl
        · split
          · subst c; rfl
          · split
            · subst c; rfl
            · simp [escape, substitute, *]
      rw [← List.singleton_append, escape_append, one, ih, List.flatMap_append]
      simp

/-- A character that is none of the three stays as it is. -/
theorem escapeChar_eq_singleton {c : Char} (amp : c ≠ '&') (lt : c ≠ '<') (gt : c ≠ '>') : escapeChar c = [c] := by
  rw [escapeChar, if_neg amp, if_neg lt, if_neg gt]

/-- **What a character is written as**: itself, if it is none of the three, or one of the three entities. -/
theorem escapeChar_cases (c : Char) :
    (c ∉ ['<', '>', '&'] ∧ escapeChar c = [c]) ∨ escapeChar c ∈ [ampEntity, ltEntity, gtEntity] := by
  unfold escapeChar
  split
  · exact Or.inr (by simp)
  · split
    · exact Or.inr (by simp)
    · split
      · exact Or.inr (by simp)
      · exact Or.inl ⟨by simp [*], rfl⟩

/-! ## Parts -/

/-- The characters of a tag. -/
def Tag.chars : Tag → List Char
  | .opening e => e.openTag
  | .closing e => e.closeTag

/-- A part of emphasized text: an authored character, or a tag. -/
inductive Part
  | char (c : Char)
  | tag (t : Tag)
deriving DecidableEq, Repr

/-- The characters of a part. -/
def Part.chars : Part → List Char
  | .char c => escapeChar c
  | .tag t => t.chars

/-- The tag that a part is. -/
def Part.tag? : Part → Option Tag
  | .char _ => none
  | .tag t => some t

/-- The characters of a list of parts. -/
def written (parts : List Part) : List Char := parts.flatMap Part.chars

@[simp] theorem written_nil : written [] = [] := rfl

@[simp] theorem written_cons (p : Part) (parts : List Part) : written (p :: parts) = p.chars ++ written parts := rfl

@[simp] theorem written_append (a b : List Part) : written (a ++ b) = written a ++ written b :=
  List.flatMap_append

theorem written_map_char (cs : List Char) : written (cs.map .char) = escape cs := by
  rw [escape_eq_flatMap, written, List.flatMap_map]
  rfl

theorem Part.exists_chars_eq_cons (p : Part) : ∃ c rest, p.chars = c :: rest := by
  cases p with
  | char c =>
      rcases escapeChar_cases c with ⟨_, h⟩ | h
      · exact ⟨c, [], h⟩
      · simp only [List.mem_cons, List.not_mem_nil, or_false] at h
        rcases h with h | h | h <;> exact ⟨_, _, h⟩
  | tag t => cases t <;> exact ⟨_, _, rfl⟩

theorem eq_nil_of_written_eq_nil {parts : List Part} (h : written parts = []) : parts = [] := by
  cases parts with
  | nil => rfl
  | cons p parts =>
      obtain ⟨c, rest, hp⟩ := p.exists_chars_eq_cons
      simp [hp] at h

/-! ## Characters that stay alone -/

/-- The characters that tags and entities are made of. -/
def markupAlphabet : List Char := ['<', '/', 'b', 'i', '>', '&', 'a', 'm', 'p', 'l', 'g', 't', ';']

/-- A character of no tag and no entity is written as itself. -/
theorem Part.chars_eq_singleton {c : Char} (h : c ∉ markupAlphabet) : (Part.char c).chars = [c] := by
  refine escapeChar_eq_singleton ?_ ?_ ?_ <;> rintro rfl <;> exact h (by decide)

/-- **Such a character stands inside no part**: a part with it is that character. -/
theorem Part.eq_of_mem {p : Part} {c : Char} (h : c ∉ markupAlphabet) (mem : c ∈ p.chars) : p = .char c := by
  have entities : ∀ w ∈ [ampEntity, ltEntity, gtEntity], w ⊆ markupAlphabet := by decide
  have tags : ∀ t : Tag, t.chars ⊆ markupAlphabet := by
    rintro (e | e) <;> cases e <;> decide
  cases p with
  | char d =>
      rcases escapeChar_cases d with ⟨_, single⟩ | entity
      · rw [Part.chars, single, List.mem_singleton] at mem
        rw [mem]
      · exact absurd (entities _ entity mem) h
  | tag t => exact absurd (tags t mem) h

/-! ## Cut at marks -/

/-- Whether a character can be part of the mark of a rule. -/
def isMark (c : Char) : Prop := c = '*' ∨ c = '_'

theorem isMark.not_mem_markupAlphabet {m : Char} (h : isMark m) : m ∉ markupAlphabet := by
  rcases h with rfl | rfl <;> decide

/-- **A text cut at a mark** is cut between parts. -/
theorem written_eq_append_mark {m : Char} (hm : isMark m) {parts : List Part} {a b : List Char}
    (h : written parts = a ++ m :: b) :
    ∃ p q, parts = p ++ .char m :: q ∧ written p = a ∧ written q = b := by
  induction parts generalizing a with
  | nil => simp at h
  | cons part parts ih =>
      rw [written_cons, List.append_eq_append_iff] at h
      -- the mark stands behind the first part, right behind it, or in it
      rcases h with ⟨a', rfl, hrest⟩ | ⟨c', hpart, hrest⟩
      · obtain ⟨p, q, rfl, rfl, rfl⟩ := ih hrest
        exact ⟨part :: p, q, rfl, rfl, rfl⟩
      · cases c' with
        | nil =>
            obtain ⟨p, q, rfl, hp, rfl⟩ := ih (a := []) hrest.symm
            exact ⟨part :: p, q, rfl, by simp [hp, hpart], rfl⟩
        | cons d c' =>
            obtain ⟨rfl, hb⟩ := List.cons.inj hrest
            have same : part = .char m := Part.eq_of_mem hm.not_mem_markupAlphabet (by simp [hpart])
            rw [same, Part.chars_eq_singleton hm.not_mem_markupAlphabet] at hpart
            obtain ⟨rfl, rfl⟩ : a = [] ∧ c' = [] := by
              cases a with
              | nil => simpa using hpart
              | cons => simp at hpart
            exact ⟨[], parts, by rw [same]; rfl, rfl, hb.symm⟩

/-- A text that begins with marks begins with them as parts. -/
theorem written_eq_marks_append {marks : List Char} (hmarks : ∀ m ∈ marks, isMark m) {parts : List Part}
    {b : List Char} (h : written parts = marks ++ b) : ∃ q, parts = marks.map .char ++ q ∧ written q = b := by
  induction marks generalizing parts with
  | nil => exact ⟨parts, rfl, h⟩
  | cons m marks ih =>
      obtain ⟨p, q, rfl, hp, hq⟩ := written_eq_append_mark (a := []) (hmarks m List.mem_cons_self) h
      obtain rfl := eq_nil_of_written_eq_nil hp
      obtain ⟨r, rfl, hr⟩ := ih (fun m' mem => hmarks m' (List.mem_cons_of_mem m mem)) hq
      exact ⟨r, rfl, hr⟩

/-- **A text cut at several marks in a row** is cut between parts. -/
theorem written_eq_append_marks {marks : List Char} (ne : marks ≠ []) (hmarks : ∀ m ∈ marks, isMark m)
    {parts : List Part} {a b : List Char} (h : written parts = a ++ marks ++ b) :
    ∃ p q, parts = p ++ marks.map .char ++ q ∧ written p = a ∧ written q = b := by
  cases marks with
  | nil => exact absurd rfl ne
  | cons m marks =>
      rw [List.append_assoc, List.cons_append] at h
      obtain ⟨p, q, rfl, hp, hq⟩ := written_eq_append_mark (hmarks m List.mem_cons_self) h
      obtain ⟨r, rfl, hr⟩ := written_eq_marks_append (fun m' mem => hmarks m' (List.mem_cons_of_mem m mem)) hq
      exact ⟨p, r, by simp, hp, hr⟩

/-! ## Tags -/

theorem tags_append_of_not_mem {cs : List Char} (h : '<' ∉ cs) (rest : List Char) : tags (cs ++ rest) = tags rest := by
  induction cs with
  | nil => rfl
  | cons c cs ih =>
      obtain ⟨hc, hcs⟩ : '<' ≠ c ∧ '<' ∉ cs := by simpa using h
      rw [List.cons_append, tags.eq_6, ih hcs]
      all_goals (rintro _ rfl; exact absurd rfl hc)

theorem tags_chars_append (t : Tag) (rest : List Char) : tags (t.chars ++ rest) = t :: tags rest := by
  rcases t with e | e <;> cases e <;> rfl

/-- **The tags of a text** are those among its parts. -/
theorem tags_written (parts : List Part) : tags (written parts) = parts.filterMap Part.tag? := by
  induction parts with
  | nil => rfl
  | cons p parts ih =>
      cases p with
      | char c =>
          have text : '<' ∉ escapeChar c := by
            rcases escapeChar_cases c with ⟨other, single⟩ | entity
            · rw [single, List.mem_singleton]
              rintro rfl
              exact other (by simp)
            · revert entity
              generalize escapeChar c = w
              revert w
              decide
          rw [written_cons, Part.chars, tags_append_of_not_mem text, ih]
          rfl
      | tag t => rw [written_cons, Part.chars, tags_chars_append, ih]; rfl

end SlidePress.Inline
