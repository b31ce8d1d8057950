import SlidePress.Proofs.Inline.Part
import Mathlib.Data.List.Infix

/-!
# `SlidePress.Proofs.Inline.Balance` — which tags close in order

Whether markup keeps its emphasis is decided by a stack: an opening tag is put on it, and a closing tag has to be that
of the emphasis on top. The stack decides exactly a grammar (`NestedTags`): the tags of a text are nothing, or an
opening tag and the closing tag of the same emphasis with nested tags between them and behind them.

In one direction nested tags leave any stack as they found it (`closesAll_append`), by induction on the grammar. In the
other the tags that empty a stack are cut at the closing tags of what is on it, with nested tags before each of them
(`Completes`), by induction on the tags; an empty stack is the grammar itself.

The check passes over all other text. No tag has a less-than sign behind its first character, so two of them never
overlap, and the tags that are found from left to right are those that occur at any place (`tags_eq_occurring`).
-/

namespace SlidePress.Inline

/-! ## The grammar -/

/-- **Tags that nest**: none, or an emphasis that is opened and closed, with nested tags inside of it and behind it. -/
inductive NestedTags : List Tag → Prop where
  | nil : NestedTags []
  | element (e : Emphasis) {inner rest : List Tag} : NestedTags inner → NestedTags rest →
      NestedTags (.opening e :: (inner ++ .closing e :: rest))

/-! ## Tags by their places -/

/-- The emphasis tags. -/
def emphasisTags : List Tag := [.opening .bold, .opening .italic, .closing .bold, .closing .italic]

/-- The tag that a text begins with. -/
def frontTag? (text : List Char) : Option Tag := emphasisTags.find? fun t => t.chars.isPrefixOf text

/-- The tags that occur in a text, at any place, from left to right. -/
def occurring (text : List Char) : List Tag := text.tails.filterMap frontTag?

/-- A text begins with one tag at most, so this is the tag that stands at its front. -/
theorem frontTag?_eq_some_iff {text : List Char} {t : Tag} : frontTag? text = some t ↔ t.chars <+: text := by
  constructor
  · intro found
    unfold frontTag? at found
    have front := List.find?_some found
    exact List.isPrefixOf_iff_prefix.mp front
  · rintro ⟨rest, rfl⟩
    rcases t with e | e <;> cases e <;> rfl

/-- **The tags of a text** are those that occur in it. -/
theorem tags_eq_occurring (text : List Char) : tags text = occurring text := by
  unfold occurring
  fun_induction tags text with
  | case1 => rfl
  | case2 rest ih | case3 rest ih | case4 rest ih | case5 rest ih =>
      -- nothing begins inside of a tag, whose first character is its only less-than sign
      rw [ih]
      rfl
  | case6 c rest noBold noItalic noBoldEnd noItalicEnd ih =>
      have nothing : frontTag? (c :: rest) = none := by
        rw [Option.eq_none_iff_forall_ne_some]
        intro t found
        obtain ⟨behind, same⟩ := frontTag?_eq_some_iff.mp found
        rcases t with e | e <;> cases e <;> obtain ⟨rfl, rfl⟩ := List.cons.inj same
        · exact noBold _ rfl rfl
        · exact noItalic _ rfl rfl
        · exact noBoldEnd _ rfl rfl
        · exact noItalicEnd _ rfl rfl
      rw [ih, List.tails_cons, List.filterMap_cons_none nothing]

/-! ## The stack -/

/-- **Nested tags leave the stack** as they found it. -/
theorem closesAll_append {nested : List Tag} (h : NestedTags nested) (opened : List Emphasis) (rest : List Tag) :
    closesAll opened (nested ++ rest) = closesAll opened rest := by
  induction h generalizing opened rest with
  | nil => rfl
  | @element e inner behind _ _ ihInner ihBehind =>
      calc closesAll opened (.opening e :: (inner ++ .closing e :: behind) ++ rest)
          = closesAll (e :: opened) (inner ++ (.closing e :: (behind ++ rest))) := by
            rw [List.cons_append, List.append_assoc, List.cons_append, closesAll]
        _ = closesAll (e :: opened) (.closing e :: (behind ++ rest)) := ihInner _ _
        _ = closesAll opened (behind ++ rest) := by simp [closesAll]
        _ = closesAll opened rest := ihBehind _ _

/-- **Tags that complete open emphasis**: they close what is open, the innermost first, with nested tags before each
closing tag and at the end. -/
def Completes : List Emphasis → List Tag → Prop
  | [], ts => NestedTags ts
  | e :: opened, ts => ∃ inner rest, ts = inner ++ .closing e :: rest ∧ NestedTags inner ∧ Completes opened rest

/-- An element can stand in front of tags that complete open emphasis. -/
theorem Completes.element (e : Emphasis) {opened : List Emphasis} {inner rest : List Tag} (hinner : NestedTags inner)
    (hrest : Completes opened rest) : Completes opened (.opening e :: (inner ++ .closing e :: rest)) := by
  cases opened with
  | nil => exact NestedTags.element e hinner hrest
  | cons f opened =>
      obtain ⟨before, after, rfl, hbefore, hafter⟩ := hrest
      exact ⟨.opening e :: (inner ++ .closing e :: before), after, by simp, NestedTags.element e hinner hbefore, hafter⟩

/-- **Tags that empty the stack** complete what is on it. -/
theorem completes_of_closesAll {opened : List Emphasis} {ts : List Tag} (h : closesAll opened ts = true) :
    Completes opened ts := by
  induction ts generalizing opened with
  | nil =>
      cases opened with
      | nil => exact .nil
      | cons e opened => exact absurd h Bool.false_ne_true
  | cons t ts ih =>
      cases t with
      | opening e =>
          -- what closes `e` makes an element of it, in front of what closes the others
          have completes : Completes (e :: opened) ts := ih h
          obtain ⟨inner, rest, rfl, hinner, hrest⟩ := completes
          exact hrest.element e hinner
      | closing e =>
          cases opened with
          | nil => exact absurd h Bool.false_ne_true
          | cons top opened =>
              obtain ⟨rfl, closed⟩ : top = e ∧ closesAll opened ts = true := by
                simpa [closesAll] using h
              exact ⟨[], ts, rfl, .nil, ih closed⟩

/-- **The stack decides the grammar.** -/
theorem closesAll_iff_nested {ts : List Tag} : closesAll [] ts = true ↔ NestedTags ts := by
  constructor
  · exact completes_of_closesAll
  · intro nested
    have emptied := closesAll_append nested [] []
    rw [List.append_nil] at emptied
    exact emptied

/-! ## Every text -/

theorem tags_flatMap_chars (ts : List Tag) : tags (ts.flatMap Tag.chars) = ts := by
  induction ts with
  | nil => rfl
  | cons t ts ih => rw [List.flatMap_cons, tags_chars_append, ih]

/-- **A text is balanced** exactly if the tags that occur in it nest, each of them opened and closed in the order of the
grammar. Nothing else in the text has any influence: without all of it the answer is the same. -/
theorem isBalancedText_iff_nested (markup : String) :
    (isBalancedText markup = true ↔ NestedTags (occurring markup.toList)) ∧
      isBalancedText (String.ofList ((occurring markup.toList).flatMap Tag.chars)) = isBalancedText markup := by
  have same : isBalancedText markup = closesAll [] (occurring markup.toList) := by
    rw [isBalancedText, isBalanced, tags_eq_occurring]
  constructor
  · rw [same]
    exact closesAll_iff_nested
  · rw [isBalancedText, isBalanced, String.toList_ofList, tags_flatMap_chars, same]

end SlidePress.Inline
