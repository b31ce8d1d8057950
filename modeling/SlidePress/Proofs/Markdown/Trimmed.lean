import SlidePress.Proofs.Markdown.Fence
import SlidePress.Proofs.Outcome
import SlidePress.Proofs.Text.Lines
import Mathlib.Data.List.Chain

/-!
# `SlidePress.Proofs.Markdown.Trimmed` — the text of a block is one trimmed line

A paragraph, list item or quote may stand on many lines, and its block has one: the parts that these lines have for it,
those left out that are empty, with single spaces between them. The parts come to the block on different ways. What a
block begins with is trimmed, and so is plain text that continues it; a line that continues a quote loses one character
of white space behind its sign and keeps the rest. So in a quote, and only there, a part may begin with white space.

In the middle of the quote this is only a wider gap. But the text of the block begins with such a part if all parts
before it are empty, and then these are lines with nothing but the sign, and the last of them stands right before it.
Where no such line is followed by an indented quoted line, every quote is trimmed at both ends (`read_trimmed`).

## Contents
- `heading?_trimmed`, `suffix_of_bullet?`, `suffix_of_numbered?`, `suffix_of_quote?`: what a line leaves to its block.
- `isIndentedQuote`, `trim_eq_of_quote?_nil`: quoted lines that begin with white space, and those that are empty.
- `isLine_joinWith`, `trimRight_joinWith`, `trimLeft_joinWith`: parts that are joined.
- `Tidy`, `Pending.Tidy`, `Mode.Tidy`: blocks as they are to be, and what is pending.
- `tidy_block`, `tidy_starting`, `Pending.Tidy.continued`, `tidy_step`: a pending block, and one line.
- `tidy_blocksFrom`, `IndentsBehindText`, `read_trimmed`: a text.
- `read_quote_untrimmed`: a quote that begins with white space.
-/

namespace SlidePress.Markdown

open Text

/-! ## What a line leaves to its block -/

section

variable {line text : List Char}

/-- The text of a heading is a part of what stands behind its hashes. -/
theorem closedHeading_subset (body : List Char) : closedHeading body ⊆ body := by
  unfold closedHeading
  dsimp only
  split
  · exact List.Subset.refl body
  · intro c mem
    have before := List.mem_reverse.mp (trimRight_subset _ mem)
    exact List.mem_reverse.mp ((List.dropWhile_sublist _).subset before)

/-- Without the hashes that close it, a heading is trimmed if it was with them. -/
theorem trim_closedHeading {body : List Char} (h : trim body = body) :
    trim (closedHeading body) = closedHeading body := by
  unfold closedHeading
  dsimp only
  split
  · exact h
  · -- what is cut stands at the right end, so the first character stays, if any does
    obtain ⟨tail, cut⟩ := exists_trimRight_append (body.reverse.dropWhile (· = '#')).reverse
    rw [trim, trimRight_trimRight, trimLeft_eq_self_iff]
    intro c first
    refine trimLeft_eq_self_iff.mp (trimLeft_eq_self h) c ?_
    have whole : body = trimRight (body.reverse.dropWhile (· = '#')).reverse ++
        (tail ++ (body.reverse.takeWhile (· = '#')).reverse) := by
      rw [← List.append_assoc, ← cut, ← List.reverse_append, List.takeWhile_append_dropWhile, List.reverse_reverse]
    rw [whole, List.head?_append, Option.mem_def.mp first]
    rfl

/-- **The text of a heading** is a trimmed part of the line. -/
theorem heading?_trimmed {depth : Nat} (right : trimRight line = line) (found : heading? line = some (depth, text)) :
    text ⊆ line ∧ trim text = text := by
  unfold heading? at found
  dsimp only at found
  split at found
  · split at found
    · cases found
      exact ⟨List.nil_subset line, rfl⟩
    · cases found
  · next c rest behind =>
      split at found
      · cases found
        have suffix : trimLeft rest <:+ line :=
          ((List.dropWhile_suffix isBlank).trans (List.suffix_cons c rest)).trans (behind ▸ List.dropWhile_suffix _)
        have trimmed : trim (trimLeft rest) = trimLeft rest := by
          rw [trim, trimRight_of_suffix suffix right]
          exact List.dropWhile_idempotent isBlank _
        exact ⟨List.Subset.trans (closedHeading_subset _) suffix.subset, trim_closedHeading trimmed⟩
      · cases found

theorem suffix_of_afterSign? {rest : List Char} (found : afterSign? rest = some text) : text <:+ rest := by
  cases rest with
  | nil => cases found
  | cons c rest =>
      rw [afterSign?] at found
      split at found
      · cases found
        exact (List.dropWhile_suffix isBlank).trans (List.suffix_cons c rest)
      · cases found

theorem suffix_of_bullet? (found : bullet? line = some text) : text <:+ line := by
  unfold bullet? at found
  split at found
  · next c rest behind =>
      split at found
      · have body : c :: rest <:+ line := behind ▸ List.dropWhile_suffix isBlank
        exact (suffix_of_afterSign? found).trans ((List.suffix_cons c rest).trans body)
      · cases found
  · cases found

theorem suffix_of_numbered? {digits : List Char} (found : numbered? line = some (digits, text)) : text <:+ line := by
  obtain ⟨sign, gap, rest, body, -, -, -, -, rfl⟩ := numbered?_eq_some_iff.mp found
  have behind : rest <:+ trimLeft line := ⟨digits ++ [sign, gap], by simp [body]⟩
  exact ((List.dropWhile_suffix isBlank).trans behind).trans (List.dropWhile_suffix isBlank)

theorem suffix_of_quote? (found : quote? line = some text) : text <:+ line := by
  have body : trimLeft line <:+ line := List.dropWhile_suffix isBlank
  unfold quote? at found
  split at found
  · next c rest behind =>
      rw [behind] at body
      cases found
      split
      · exact ((List.suffix_cons c rest).trans (List.suffix_cons '>' _)).trans body
      · exact (List.suffix_cons '>' _).trans body
  · cases found
    exact List.nil_suffix
  · cases found

/-- A quoted line with more white space before its text than the one character that belongs to the sign. -/
def isIndentedQuote (line : List Char) : Bool :=
  match trim line with
  | '>' :: c :: d :: _ => isBlank c && isBlank d
  | _ => false

/-- **A quoted line begins with white space** only if it is indented. -/
theorem isIndentedQuote_of_quote? {c : Char} {rest : List Char} (right : trimRight line = line)
    (found : quote? line = some (c :: rest)) (blank : isBlank c = true) : isIndentedQuote line = true := by
  rw [isIndentedQuote, trim, right]
  unfold quote? at found
  split at found
  · next gap body behind =>
      rw [behind]
      split at found
      · next gapped =>
          cases found
          simp [gapped, blank]
      · next other =>
          cases found
          exact absurd blank other
  · cases found
  · cases found

/-- **A quoted line is empty** only if it has nothing but the sign. -/
theorem trim_eq_of_quote?_nil (right : trimRight line = line) (found : quote? line = some []) : trim line = ['>'] := by
  rw [trim, right]
  unfold quote? at found
  split at found
  · next c rest behind =>
      have blank : isBlank c = true ∧ rest = [] := by
        split at found
        · next blank => exact ⟨blank, Option.some.inj found⟩
        · cases found
      obtain ⟨blank, rfl⟩ := blank
      -- the line would end in the white space behind the sign
      have suffix : [c] <:+ line :=
        (List.suffix_cons '>' [c]).trans (behind ▸ List.dropWhile_suffix isBlank)
      have last := trimRight_eq_self_iff.mp (trimRight_of_suffix suffix right) c rfl
      exact absurd blank (by simp [last])
  · next behind => exact behind
  · cases found

end

/-! ## Parts with single spaces between them -/

section

variable {parts : List (List Char)}

theorem isLine_joinWith (isLine : ∀ part ∈ parts, IsLine part) : IsLine (joinWith [' '] parts) := by
  intro c mem
  rcases mem_of_mem_joinWith mem with between | ⟨part, hpart, inside⟩
  · rw [List.mem_singleton.mp between]
    rfl
  · exact isLine part hpart c inside

theorem trimRight_joinWith (ne : ∀ part ∈ parts, part ≠ []) (right : ∀ part ∈ parts, trimRight part = part) :
    trimRight (joinWith [' '] parts) = joinWith [' '] parts := by
  rw [trimRight_eq_self_iff, getLast?_joinWith ne]
  intro c last
  obtain ⟨part, hpart, ends⟩ := Option.mem_bind_iff.mp last
  exact trimRight_eq_self_iff.mp (right part (List.mem_of_getLast? hpart)) c ends

theorem trimLeft_joinWith (ne : ∀ part ∈ parts, part ≠ []) (left : ∀ part ∈ parts.head?, trimLeft part = part) :
    trimLeft (joinWith [' '] parts) = joinWith [' '] parts := by
  cases parts with
  | nil => rfl
  | cons part later =>
      rw [trimLeft_eq_self_iff, head?_joinWith (ne part List.mem_cons_self)]
      exact trimLeft_eq_self_iff.mp (left part rfl)

end

/-! ## Blocks as they are to be -/

/-- The parts of the text that a pending block makes. -/
def Pending.parts (pending : Pending) : List (List Char) := pending.lines.reverse.filter fun line => !line.isEmpty

/-- Content has a number only if it is numbered. Other than code and mathematics, it is one line, with no white space at
its right end; and none at its left end either, but in a quote, where `indented` may allow for some. -/
def Tidy (indented : Prop) : Block → Prop
  | .content kind text number =>
    (kind ≠ .numbered → number = 0) ∧
      (kind ≠ .code → kind ≠ .math →
        IsLine text.toList ∧ trimRight text.toList = text.toList ∧
          ((kind = .quote → ¬ indented) → trim text.toList = text.toList))
  | _ => True

/-- What is pending makes such a block: its lines have no white space at their right ends. In a quote some may begin
with white space, but not the first one that is not empty, unless `indented` allows for it; and if all are empty, the
last line was a sign alone, which is what `sign` says. -/
structure Pending.Tidy (indented sign : Prop) (pending : Pending) : Prop where
  number : pending.kind ≠ .numbered → pending.number = 0
  isLine : ∀ part ∈ pending.lines, IsLine part
  right : ∀ part ∈ pending.lines, trimRight part = part
  left : pending.kind ≠ .quote → ∀ part ∈ pending.lines, trimLeft part = part
  first : pending.kind = .quote → ¬ indented → ∀ part ∈ pending.parts.head?, trimLeft part = part
  empty : pending.kind = .quote → pending.parts = [] → sign

/-- What is pending, if anything is, makes such a block. -/
def Mode.Tidy (indented sign : Prop) : Mode → Prop
  | .pending block => block.Tidy indented sign
  | _ => True

theorem Pending.mem_of_mem_parts {pending : Pending} {part : List Char} (mem : part ∈ pending.parts) :
    part ∈ pending.lines ∧ part ≠ [] :=
  ⟨List.mem_reverse.mp (List.mem_of_mem_filter mem), by simpa using List.of_mem_filter mem⟩

section

variable {indented sign : Prop}

/-- The first part begins with no white space: none does, or it is the first of a quote. -/
theorem Pending.Tidy.begins {pending : Pending} (h : pending.Tidy indented sign)
    (quote : pending.kind = .quote → ¬ indented) : ∀ part ∈ pending.parts.head?, trimLeft part = part := by
  by_cases kind : pending.kind = .quote
  · exact h.first kind (quote kind)
  · intro part first
    exact h.left kind part (mem_of_mem_parts (List.mem_of_mem_head? first)).1

/-- **What is pending makes a tidy block.** -/
theorem tidy_block {pending : Pending} (h : pending.Tidy indented sign) : Tidy indented pending.block := by
  refine ⟨fun other => congrArg (fun n : Nat => Number.int n) (h.number other), fun _ _ => ?_⟩
  have ne : ∀ part ∈ pending.parts, part ≠ [] := fun part mem => (Pending.mem_of_mem_parts mem).2
  have isLine : IsLine (joinWith [' '] pending.parts) :=
    isLine_joinWith fun part mem => h.isLine part (Pending.mem_of_mem_parts mem).1
  have right : trimRight (joinWith [' '] pending.parts) = joinWith [' '] pending.parts :=
    trimRight_joinWith ne fun part mem => h.right part (Pending.mem_of_mem_parts mem).1
  have left (quote : pending.kind = .quote → ¬ indented) :
      trim (joinWith [' '] pending.parts) = joinWith [' '] pending.parts := by
    rw [trim, right, trimLeft_joinWith ne (h.begins quote)]
  rw [String.toList_ofList]
  exact ⟨isLine, right, left⟩

/-- What ends a text is tidy if what is pending is; a fence keeps its lines and has no number. -/
theorem tidy_close {mode : Mode} (h : mode.Tidy indented sign) : ∀ block ∈ mode.close, Tidy indented block := by
  cases mode with
  | idle => exact nofun
  | pending block =>
      intro made mem
      rw [List.mem_singleton.mp mem]
      exact tidy_block h
  | fenced fence lines =>
      intro made mem
      rw [List.mem_singleton.mp mem]
      refine ⟨fun _ => rfl, fun code math => ?_⟩
      cases fence with
      | code => exact absurd rfl code
      | math => exact absurd rfl math

/-! ## One line -/

/-- **What begins with a line is tidy**: the line is trimmed. -/
theorem tidy_starting {kind : ContentKind} {text : List Char} {number : Nat} (isLine : IsLine text)
    (unnumbered : kind ≠ .numbered → number = 0) (quote : kind = .quote → trim text = [] → sign) :
    (Mode.starting kind text number).Tidy indented sign := by
  have trimmed : ∀ part ∈ [trim text], part = trim text := fun part mem => List.mem_singleton.mp mem
  refine ⟨unnumbered, ?_, ?_, ?_, ?_, ?_⟩
  · intro part mem
    rw [trimmed part mem]
    exact isLine_of_subset (trim_subset text) isLine
  · intro part mem
    rw [trimmed part mem]
    exact trimRight_eq_self (trim_trim text)
  · intro _ part mem
    rw [trimmed part mem]
    exact trimLeft_eq_self (trim_trim text)
  · intro _ _ part first
    rw [trimmed part (Pending.mem_of_mem_parts (List.mem_of_mem_head? first)).1]
    exact trimLeft_eq_self (trim_trim text)
  · intro hkind none_
    refine quote hkind ?_
    by_contra ne
    simp [Pending.parts, ne] at none_

section

variable {line : List Char} (hline : IsLine line) (right : trimRight line = line)

include hline right

theorem tidy_mode : (LineForm.of line).mode.Tidy indented (trim line = ['>']) := by
  have found := found_of line
  cases form : LineForm.of line with
  | bullet text =>
      rw [form] at found
      exact tidy_starting (isLine_of_subset (suffix_of_bullet? found).subset hline) (fun _ => rfl) nofun
  | numbered digits text =>
      rw [form] at found
      exact tidy_starting (isLine_of_subset (suffix_of_numbered? found).subset hline) (fun other => absurd rfl other)
        nofun
  | quote text =>
      rw [form] at found
      have suffix := suffix_of_quote? found
      refine tidy_starting (isLine_of_subset suffix.subset hline) (fun _ => rfl) fun _ none_ => ?_
      rw [eq_nil_of_trim_eq_nil (trimRight_of_suffix suffix right) none_] at found
      exact trim_eq_of_quote?_nil right found
  | plain text =>
      rw [form] at found
      have inLine : text ⊆ line := found.1 ▸ trim_subset line
      exact tidy_starting (isLine_of_subset inLine hline) (fun _ => rfl) nofun
  | _ => trivial

theorem tidy_blocks : ∀ block ∈ (LineForm.of line).blocks, Tidy indented block := by
  have found := found_of line
  cases form : LineForm.of line with
  | formula text =>
      intro block mem
      rw [List.mem_singleton.mp mem]
      exact ⟨fun _ => rfl, fun _ math => absurd rfl math⟩
  | heading depth text =>
      rw [form] at found
      obtain ⟨inLine, trimmed⟩ := heading?_trimmed right found
      intro block mem
      rw [List.mem_singleton.mp mem]
      unfold headingBlock
      split
      iterate 4 trivial
      refine ⟨fun _ => rfl, fun _ _ => ?_⟩
      rw [String.toList_ofList]
      exact ⟨isLine_of_subset inLine hline, trimRight_eq_self trimmed, fun _ => trimmed⟩
  | _ => exact nofun

/-- What a line continues a block with: plain text is trimmed; a quoted line may be empty, and may begin with white
space if it is indented. -/
theorem continuation {text : List Char} (form : LineForm.of line = .plain text ∨ LineForm.of line = .quote text) :
    IsLine text ∧ trimRight text = text ∧
      (trimLeft text = text ∨ LineForm.of line = .quote text ∧ isIndentedQuote line = true) ∧
      (text = [] → trim line = ['>']) := by
  have found := found_of line
  rcases form with plain | quote
  · rw [plain] at found
    obtain ⟨rfl, ne⟩ : text = trim line ∧ text ≠ [] := found
    exact ⟨isLine_of_subset (trim_subset line) hline, trimRight_eq_self (trim_trim line),
      Or.inl (trimLeft_eq_self (trim_trim line)), fun none_ => absurd none_ ne⟩
  · rw [quote] at found
    have suffix := suffix_of_quote? found
    refine ⟨isLine_of_subset suffix.subset hline, trimRight_of_suffix suffix right, ?_, ?_⟩
    · cases text with
      | nil => exact Or.inl rfl
      | cons c rest =>
          by_cases blank : isBlank c = true
          · exact Or.inr ⟨quote, isIndentedQuote_of_quote? right found blank⟩
          · exact Or.inl (trimLeft_cons_of_not_blank (by simpa using blank) rest)
    · rintro rfl
      exact trim_eq_of_quote?_nil right found

/-- **A line that continues a block leaves it tidy**, an indented quoted line behind a sign alone only if `indented`
allows for it. -/
theorem Pending.Tidy.continued {pending : Pending} (h : pending.Tidy indented sign)
    (beside : sign → isIndentedQuote line = true → indented) {text : List Char}
    (form : LineForm.of line = .plain text ∨ LineForm.of line = .quote text)
    (continues : (LineForm.of line).continues pending = true) :
    Pending.Tidy indented (trim line = ['>']) { pending with lines := text :: pending.lines } := by
  obtain ⟨isLine, trimmed, begins, empty⟩ := continuation hline right form
  have parts : Pending.parts { pending with lines := text :: pending.lines } =
      pending.parts ++ [text].filter fun line => !line.isEmpty := by
    simp only [Pending.parts, List.reverse_cons, List.filter_append]
  refine ⟨h.number, ?_, ?_, ?_, ?_, ?_⟩
  · exact List.forall_mem_cons.mpr ⟨isLine, h.isLine⟩
  · exact List.forall_mem_cons.mpr ⟨trimmed, h.right⟩
  · intro other
    refine List.forall_mem_cons.mpr ⟨?_, h.left other⟩
    rcases begins with left | ⟨quote, -⟩
    · exact left
    · rw [quote] at continues
      exact absurd (of_decide_eq_true continues) other
  · intro quote strict part first
    rw [parts] at first
    cases before : pending.parts with
    | cons earlier later =>
        rw [before] at first
        exact h.first quote strict part (before ▸ first)
    | nil =>
        -- all parts before are empty, so the line before was a sign alone, and this one is not indented
        rw [before, List.nil_append] at first
        obtain rfl : part = text := List.mem_singleton.mp (List.mem_of_mem_filter (List.mem_of_mem_head? first))
        rcases begins with left | ⟨-, indent⟩
        · exact left
        · exact absurd (beside (h.empty quote before) indent) strict
  · intro quote none_
    refine empty ?_
    rw [parts] at none_
    by_contra ne
    simp [ne] at none_

end

/-- **Every line** keeps what is pending tidy and emits tidy blocks. -/
theorem tidy_step {mode next : Mode} {line : List Char} {emitted : List Block} (hline : IsLine line)
    (beside : sign → isIndentedQuote line = true → indented) (tidy : mode.Tidy indented sign)
    (step : mode.step line = .ok (next, emitted)) :
    next.Tidy indented (trim line = ['>']) ∧ ∀ block ∈ emitted, Tidy indented block := by
  cases open_ : mode.fence? with
  | some fence =>
      obtain ⟨seen, rfl⟩ := exists_of_fence? open_
      rcases step_inside step with ⟨-, rfl, rfl⟩ | ⟨-, rfl, rfl⟩
      · exact ⟨trivial, tidy_close tidy⟩
      · exact ⟨trivial, nofun⟩
  | none =>
      rw [step_outside open_] at step
      have isLine : IsLine (trimRight line) := isLine_of_subset (trimRight_subset line) hline
      have right := trimRight_trimRight line
      have same : trim (trimRight line) = trim line := trim_trimRight line
      rcases stepForm_cases step with ⟨-, rfl, rfl⟩ | ⟨pending, text, rfl, continues, form, rfl, rfl⟩
      · refine ⟨same ▸ tidy_mode isLine right, fun block mem => ?_⟩
        rcases List.mem_append.mp mem with before | here
        · exact tidy_close tidy block before
        · exact tidy_blocks isLine right block here
      · have beside' : sign → isIndentedQuote (trimRight line) = true → indented := by
          rwa [isIndentedQuote, same]
        exact ⟨same ▸ tidy.continued isLine right beside' form continues, nofun⟩

/-! ## A text -/

/-- **All blocks of some lines are tidy** if what is pending before them is. -/
theorem tidy_blocksFrom {mode : Mode} {lines : List (List Char)} {blocks : List Block}
    (tidy : mode.Tidy indented sign) (isLine : ∀ line ∈ lines, IsLine line)
    (beside : ∀ line ∈ lines.head?, sign → isIndentedQuote line = true → indented)
    (chain : lines.IsChain fun a b => trim a = ['>'] → isIndentedQuote b = true → indented)
    (h : blocksFrom mode lines = .ok blocks) : ∀ block ∈ blocks, Tidy indented block := by
  induction lines generalizing mode sign blocks with
  | nil =>
      cases h
      exact tidy_close tidy
  | cons line lines ih =>
      obtain ⟨next, emitted, later, step, read, rfl⟩ := of_blocksFrom_cons h
      obtain ⟨hline, isLine⟩ := List.forall_mem_cons.mp isLine
      obtain ⟨behind, chain⟩ := List.isChain_cons.mp chain
      obtain ⟨kept, made⟩ := tidy_step hline (beside line rfl) tidy step
      intro block mem
      rcases List.mem_append.mp mem with first | rest
      · exact made block first
      · exact ih kept isLine behind chain read block rest

end

/-- No quote sign alone is followed by a quoted line that is indented. -/
def IndentsBehindText (lines : List (List Char)) : Prop :=
  lines.IsChain fun a b => trim a = ['>'] → isIndentedQuote b = false

instance (lines : List (List Char)) : Decidable (IndentsBehindText lines) :=
  inferInstanceAs (Decidable (lines.IsChain fun a b => trim a = ['>'] → isIndentedQuote b = false))

/-- **The texts of content are trimmed lines.** Whatever a text is, content that is not numbered has no number, and a
paragraph, list item or quote has a text without line breaks and without white space at its right end. It has none at
its left end either, if it is no quote, or if no quote sign alone is followed by a quoted line that is indented. -/
theorem read_trimmed {text : String} {blocks : List Block} (h : read text = .ok blocks) {kind : ContentKind}
    {content : String} {number : Number} (mem : Block.content kind content number ∈ blocks) :
    (kind ≠ .numbered → number = 0) ∧
      (kind ≠ .code → kind ≠ .math →
        IsLine content.toList ∧ trimRight content.toList = content.toList ∧
          ((kind = .quote → IndentsBehindText (splitLines text.toList)) → trim content.toList = content.toList)) := by
  rw [read_eq] at h
  have lines : ∀ line ∈ splitLines text.toList, IsLine line := fun line => isLine_of_mem_splitLines
  have chain : (splitLines text.toList).IsChain fun a b =>
      trim a = ['>'] → isIndentedQuote b = true → ¬ IndentsBehindText (splitLines text.toList) := by
    rw [List.isChain_iff_forall_rel_of_append_cons_cons]
    intro a b front rest cut sign indented behindText
    have flush := List.isChain_iff_forall_rel_of_append_cons_cons.mp behindText cut sign
    exact absurd indented (by simp [flush])
  have idle : Mode.idle.Tidy (¬ IndentsBehindText (splitLines text.toList)) False := trivial
  obtain ⟨unnumbered, tidy⟩ := tidy_blocksFrom idle lines (fun _ _ => nofun) chain h _ mem
  refine ⟨unnumbered, fun code math => ?_⟩
  obtain ⟨isLine, right, left⟩ := tidy code math
  exact ⟨isLine, right, fun quote => left fun hkind => not_not_intro (quote hkind)⟩

/-- A quote that begins with a sign alone, with a line after it that is not indented and one that is. Before it are a
list item with a number and a heading that is a paragraph. -/
theorem read_trimmed_of_indented_quote :
    let text := "7)  a\u2003\n    b \n##### c ##\n> \n> d\n>   e\n\tf"
    (read text).toOption = some [.content .numbered "a b" 7, .content .paragraph "c" 0, .content .quote "d   e f" 0] ∧
      trim "d   e f".toList = "d   e f".toList := by
  intro text
  have reads : (read text).toOption =
      some [.content .numbered "a b" 7, .content .paragraph "c" 0, .content .quote "d   e f" 0] := by decide +kernel
  have outcome := ok_of_toOption reads
  have behindText : IndentsBehindText (splitLines text.toList) := by decide
  have quote := (read_trimmed outcome (List.mem_cons_of_mem _ (List.mem_cons_of_mem _ List.mem_cons_self))).2
    nofun nofun
  exact ⟨reads, quote.2.2 fun _ => behindText⟩

/-- A quote may begin with white space, behind a line that is a quote sign alone. -/
theorem read_quote_untrimmed :
    ¬ ∀ (text : String) (blocks : List Block), read text = .ok blocks →
      ∀ kind content number, Block.content kind content number ∈ blocks → kind ≠ .code → kind ≠ .math →
        trim content.toList = content.toList := by
  intro trimmed
  have reads : (read ">\n>  x").toOption = some [.content .quote " x" 0] := by decide +kernel
  have kept := trimmed _ _ (ok_of_toOption reads) .quote " x" 0 List.mem_cons_self nofun nofun
  exact absurd kept (by decide)

end SlidePress.Markdown
