import SlidePress.Text.Blank
import SlidePress.Text.Word

/-!
# `SlidePress.Inline.Emphasis` — bold and italic text

Emphasized text stands between two equal marks. There are three kinds of marks, each with its own rule for where it
opens and closes, and each rule is applied to the whole text from left to right.
-/

namespace SlidePress.Inline

open Text

/-- The two kinds of emphasis. -/
inductive Emphasis
  | bold
  | italic
deriving DecidableEq, Repr

/-- The letter in the tags of an emphasis. -/
def Emphasis.letter : Emphasis → Char
  | .bold => 'b'
  | .italic => 'i'

/-- The tag before emphasized text. -/
def Emphasis.openTag (e : Emphasis) : List Char := ['<', e.letter, '>']

/-- The tag after emphasized text. -/
def Emphasis.closeTag (e : Emphasis) : List Char := ['<', '/', e.letter, '>']

/-- A rule for emphasis. -/
structure EmphasisRule where
  emphasis : Emphasis
  /-- The mark before and after the emphasized text. -/
  mark : List Char
  /-- The emphasized text at the front of a text, and what follows its closing mark, given the character before. -/
  find? : Option Char → List Char → Option (List Char × List Char)
  /-- Nothing is lost: the text is the two marks, what they enclose, and the rest. -/
  find?_eq : ∀ {before cs inner after}, find? before cs = some (inner, after) → cs = mark ++ inner ++ mark ++ after
  mark_ne_nil : mark ≠ []

/-- What follows an emphasized text is shorter than the text it was found at. -/
theorem EmphasisRule.length_lt (rule : EmphasisRule) {before : Option Char} {cs inner after : List Char}
    (h : rule.find? before cs = some (inner, after)) : after.length < cs.length := by
  have positive : 0 < rule.mark.length := List.length_pos_iff.mpr rule.mark_ne_nil
  rw [rule.find?_eq h]
  simp
  omega

/-- The text with tags instead of marks wherever the rule holds, from left to right. -/
def EmphasisRule.apply (rule : EmphasisRule) (before : Option Char) (cs : List Char) : List Char :=
  match cs with
  | [] => []
  | c :: rest =>
    match _found : rule.find? before (c :: rest) with
    | some (inner, after) =>
      rule.emphasis.openTag ++ inner ++ rule.emphasis.closeTag ++ rule.apply rule.mark.getLast? after
    | none => c :: rule.apply (some c) rest
termination_by cs.length
decreasing_by
  · exact rule.length_lt _found
  · simp

/-! ## Two asterisks -/

/-- The text up to the next two asterisks, at least one character and no line feed, and what follows them. -/
def upToStars? : List Char → Option (List Char × List Char)
  | [] => none
  | c :: rest =>
    if c = '\n' then none
    else match rest with
      | '*' :: '*' :: after => some ([c], after)
      | rest => (upToStars? rest).map fun found => (c :: found.1, found.2)

theorem upToStars?_eq {cs inner after : List Char} (h : upToStars? cs = some (inner, after)) :
    cs = inner ++ ['*', '*'] ++ after := by
  fun_induction upToStars? cs generalizing inner with
  | case1 => simp at h
  | case2 => simp at h
  | case3 =>
    simp only [Option.some.injEq, Prod.mk.injEq] at h
    obtain ⟨rfl, rfl⟩ := h
    simp
  | case4 c _ rest _ ih =>
    obtain ⟨found, hf, he⟩ := Option.map_eq_some_iff.mp h
    simp only [Prod.mk.injEq] at he
    obtain ⟨rfl, rfl⟩ := he
    simp [ih hf]

/-- Bold text at the front of a text. -/
def findBold? (_before : Option Char) (cs : List Char) : Option (List Char × List Char) :=
  match cs with
  | '*' :: '*' :: rest => upToStars? rest
  | _ => none

/-- Bold text between two asterisks on each side: the shortest, on one line. -/
def boldRule : EmphasisRule where
  emphasis := .bold
  mark := ['*', '*']
  find? := findBold?
  find?_eq := by
    intro before cs inner after h
    unfold findBold? at h
    split at h
    · simp [upToStars?_eq h]
    · simp at h
  mark_ne_nil := by simp

/-! ## One asterisk -/

/-- The text up to the next asterisk that has no white space before it and no asterisk after it, at least one
character and no line feed, and what follows the asterisk. -/
def upToStar? : List Char → Option (List Char × List Char)
  | [] => none
  | c :: rest =>
    if c = '\n' then none
    else match rest with
      | '*' :: after =>
        if isBlank c ∨ after.head? = some '*' then
          (upToStar? ('*' :: after)).map fun found => (c :: found.1, found.2)
        else some ([c], after)
      | rest => (upToStar? rest).map fun found => (c :: found.1, found.2)

theorem upToStar?_eq {cs inner after : List Char} (h : upToStar? cs = some (inner, after)) :
    cs = inner ++ ['*'] ++ after := by
  fun_induction upToStar? cs generalizing inner with
  | case1 => simp at h
  | case2 => simp at h
  | case3 c _ rest _ ih =>
    obtain ⟨found, hf, he⟩ := Option.map_eq_some_iff.mp h
    simp only [Prod.mk.injEq] at he
    obtain ⟨rfl, rfl⟩ := he
    simp [ih hf]
  | case4 =>
    simp only [Option.some.injEq, Prod.mk.injEq] at h
    obtain ⟨rfl, rfl⟩ := h
    simp
  | case5 c _ rest _ ih =>
    obtain ⟨found, hf, he⟩ := Option.map_eq_some_iff.mp h
    simp only [Prod.mk.injEq] at he
    obtain ⟨rfl, rfl⟩ := he
    simp [ih hf]

/-- Italic text between asterisks at the front of a text. -/
def findStar? (before : Option Char) (cs : List Char) : Option (List Char × List Char) :=
  match cs with
  | '*' :: rest =>
    if before = some '*' ∨ (rest.head?.map isBlank).getD false then none else upToStar? rest
  | _ => none

/-- Italic text between asterisks: the shortest, on one line, neither asterisk next to another one, and no white space
inside next to them. -/
def starRule : EmphasisRule where
  emphasis := .italic
  mark := ['*']
  find? := findStar?
  find?_eq := by
    intro before cs inner after h
    unfold findStar? at h
    split at h
    · split at h
      · simp at h
      · simp [upToStar?_eq h]
    · simp at h
  mark_ne_nil := by simp

/-! ## Underscores -/

/-- Italic text between underscores at the front of a text. -/
def findUnderscore? (before : Option Char) (cs : List Char) : Option (List Char × List Char) :=
  match cs with
  | '_' :: rest =>
    if (before.map isWordChar).getD false then none
    else
      let inner := rest.takeWhile (· ≠ '_')
      match rest.dropWhile (· ≠ '_') with
      | '_' :: after =>
        if inner.isEmpty ∨ (after.head?.map isWordChar).getD false then none else some (inner, after)
      | _ => none
  | _ => none

/-- Italic text between underscores: up to the next underscore, and with no word character before or after. -/
def underscoreRule : EmphasisRule where
  emphasis := .italic
  mark := ['_']
  find? := findUnderscore?
  find?_eq := by
    intro before cs inner after h
    unfold findUnderscore? at h
    split at h
    · next rest =>
      split at h
      · simp at h
      · dsimp only at h
        split at h
        · next found hd =>
          split at h
          · simp at h
          · simp only [Option.some.injEq, Prod.mk.injEq] at h
            obtain ⟨rfl, rfl⟩ := h
            have whole := List.takeWhile_append_dropWhile (p := fun c => decide (c ≠ '_')) (l := rest)
            rw [hd] at whole
            simp only [List.cons_append, List.nil_append, List.append_assoc]
            rw [whole]
        · simp at h
    · simp at h
  mark_ne_nil := by simp

/-! ## All three -/

/-- The text with tags for bold text, then for italic text between asterisks, then between underscores. -/
def emphasize (cs : List Char) : List Char :=
  underscoreRule.apply none (starRule.apply none (boldRule.apply none cs))

end SlidePress.Inline
