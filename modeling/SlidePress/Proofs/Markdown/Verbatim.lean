import SlidePress.Proofs.Markdown.Fence
import SlidePress.Proofs.Outcome
import SlidePress.Proofs.Text.Lines

/-!
# `SlidePress.Proofs.Markdown.Verbatim` — what a fence keeps of its lines

A fence is meant to keep its lines as they are, and it keeps all of a line but two things. White space at the end of a
line is cut before the reader knows where the line stands. And the text is cut into lines at every kind of line break,
so a line with another break than a line feed in it becomes two. Nothing else is lost: a fenced text is verbatim exactly
if its lines have neither (`read_fenced`).

The block of a fence is made of the lines of the text in between, whatever the author took for lines
(`blocksFrom_opening`). So where the block is the authored text, that text can have no other breaks in it, because the
lines of a text have none (`isLine_of_content`).
-/

namespace SlidePress.Markdown

open Text

/-- Lines between a line that opens a fence and one that closes it, and an end of the text. -/
def fencedText (opening : List Char) (lines : List (List Char)) (closing ending : List Char) : List Char :=
  ended (opening :: lines) ++ closing ++ ending

section

variable {fence : Fence} {opening closing ending : List Char} {lines : List (List Char)}

theorem ne_nil_of_closes (closes : fence.closes closing = true) : closing ≠ [] := by
  rintro rfl
  cases fence <;> exact absurd closes (by decide)

/-- **The lines of a fenced text**: those of the text in between, with the first and the last line around them. -/
theorem splitLines_fencedText (hopening : IsLine opening) (hclosing : IsLine closing) (ne : closing ≠ [])
    (hending : ending = [] ∨ ending = ['\n']) :
    splitLines (fencedText opening lines closing ending) = opening :: splitLines (ended lines) ++ [closing] := by
  have last : splitLines (closing ++ ending) = [closing] := by
    rcases hending with rfl | rfl
    · rw [List.append_nil, splitLines_line hclosing ne]
    · rw [splitLines_append hclosing]
      rfl
  rw [fencedText, List.append_assoc, ended_cons, List.append_assoc, List.cons_append, splitLines_append hopening,
    splitLines_ended_append, last, List.cons_append]

/-- **The block of a fence** is made of the lines up to the first one that closes it, without the white space at their
ends. -/
theorem blocksFrom_opening (opens : opens? opening = some fence) (inside : List (List Char)) :
    blocksFrom .idle (opening :: inside) =
      (blocksFrom .idle ((inside.dropWhile fun l => !fence.closes l).drop 1)).map
        (.content fence.kind
          (String.ofList (joinWith ['\n'] ((inside.takeWhile fun l => !fence.closes l).map trimRight))) 0 :: ·) := by
  rw [blocksFrom, step_opening rfl opens]
  simp only [Mode.close, blocksFrom_fenced_eq, fencedBlock, List.append_nil, List.reverse_reverse]
  cases blocksFrom .idle ((inside.dropWhile fun l => !fence.closes l).drop 1) <;> rfl

/-- Lines of which none closes a fence are all of its block. -/
theorem blocksFrom_whole_fence (opens : opens? opening = some fence) (closes : fence.closes closing = true)
    {between : List (List Char)} (stays : ∀ line ∈ between, fence.closes line = false) :
    blocksFrom .idle (opening :: between ++ [closing]) =
      .ok [.content fence.kind (String.ofList (joinWith ['\n'] (between.map trimRight))) 0] := by
  have passed : ∀ line ∈ between, (!fence.closes line) = true := by
    intro line mem
    rw [stays line mem]
    rfl
  have stops : (!fence.closes closing) = false := by rw [closes]; rfl
  rw [List.cons_append, blocksFrom_opening opens, takeWhile_run passed stops, dropWhile_run passed stops]
  rfl

/-- **Where a block is the joined lines of an author**, they have no other breaks than the line feeds between them: a
block is made of lines of the text, and these have none. -/
theorem isLine_of_content (opens : opens? opening = some fence) {inside : List (List Char)}
    (hinside : ∀ line ∈ inside, IsLine line) (whole : ∀ line ∈ lines, '\n' ∉ line)
    (content : blocksFrom .idle (opening :: inside) =
      .ok [.content fence.kind (String.ofList (joinWith ['\n'] lines)) 0]) :
    ∀ line ∈ lines, IsLine line := by
  rw [blocksFrom_opening opens] at content
  obtain ⟨later, -, blocks⟩ := exists_of_map_eq_ok content
  have same : joinWith ['\n'] ((inside.takeWhile fun l => !fence.closes l).map trimRight) = joinWith ['\n'] lines := by
    have texts := congrArg (·.map fun block => block.text.toList) blocks
    simpa [Block.text] using (List.cons.inj texts).1
  intro line mem c hc
  have joined : c ∈ joinWith ['\n'] lines := mem_joinWith_of_mem hc mem ['\n']
  rw [← same] at joined
  rcases mem_of_mem_joinWith joined with feed | ⟨part, hpart, inPart⟩
  · rw [List.mem_singleton.mp feed] at hc
    exact absurd hc (whole line mem)
  · obtain ⟨l, hl, rfl⟩ := List.mem_map.mp hpart
    exact hinside l (List.takeWhile_subset _ hl) c (trimRight_subset l inPart)

theorem eq_of_joinWith_eq {a b : List (List Char)} (ha : ∀ line ∈ a, IsLine line) (hb : ∀ line ∈ b, IsLine line)
    (length : a.length = b.length) (h : joinWith ['\n'] a = joinWith ['\n'] b) : a = b := by
  by_cases none_ : a = []
  · subst none_
    exact (List.eq_nil_of_length_eq_zero length.symm).symm
  · have some_ : b ≠ [] := by
      rintro rfl
      exact none_ (List.eq_nil_of_length_eq_zero length)
    have cut := splitLines_joinWith_append ha none_ []
    rw [h, splitLines_joinWith_append hb some_ []] at cut
    simpa [splitLines] using cut.symm

/-- Lines have no white space at their ends if cutting it changes nothing of the joined text. -/
theorem trimRight_of_joinWith (isLine : ∀ line ∈ lines, IsLine line)
    (h : joinWith ['\n'] lines = joinWith ['\n'] (lines.map trimRight)) : ∀ line ∈ lines, trimRight line = line := by
  have shortened : ∀ line ∈ lines.map trimRight, IsLine line := by
    intro line mem
    obtain ⟨l, hl, rfl⟩ := List.mem_map.mp mem
    exact isLine_of_subset (trimRight_subset l) (isLine l hl)
  have same : lines.map trimRight = lines.map id := by
    rw [List.map_id]
    exact (eq_of_joinWith_eq isLine shortened (by simp) h).symm
  exact List.map_inj_left.mp same

end

/-- **What a fence keeps.** Lines between one that opens a fence and one that closes it, none of them with a line feed or
closing it itself, are read as one block of these very lines exactly if they have no white space at their ends and no
other line break in them. Where they have, the block has the lines that all line breaks make of them, without the white
space at the end of each, as long as none of these closes the fence. -/
theorem read_fenced {fence : Fence} {opening closing ending : List Char} {lines : List (List Char)}
    (opens : opens? opening = some fence) (closes : fence.closes closing = true)
    (hopening : IsLine opening) (hclosing : IsLine closing) (hending : ending = [] ∨ ending = ['\n'])
    (whole : ∀ line ∈ lines, '\n' ∉ line) (stays : ∀ line ∈ lines, fence.closes line = false) :
    let text := String.ofList (fencedText opening lines closing ending)
    (read text = .ok [.content fence.kind (String.ofList (joinWith ['\n'] lines)) 0] ↔
        ∀ line ∈ lines, trimRight line = line ∧ IsLine line) ∧
      ((∀ line ∈ splitLines (ended lines), fence.closes line = false) →
        read text = .ok [.content fence.kind
          (String.ofList (joinWith ['\n'] ((splitLines (ended lines)).map trimRight))) 0]) := by
  intro text
  have between : read text = blocksFrom .idle (opening :: splitLines (ended lines) ++ [closing]) := by
    rw [read_eq, String.toList_ofList, splitLines_fencedText hopening hclosing (ne_nil_of_closes closes) hending]
  have made : (∀ line ∈ lines, IsLine line) →
      read text = .ok [.content fence.kind (String.ofList (joinWith ['\n'] (lines.map trimRight))) 0] := by
    intro isLine
    rw [between, splitLines_ended isLine, blocksFrom_whole_fence opens closes stays]
  refine ⟨⟨?_, ?_⟩, ?_⟩
  · intro verbatim
    have isLines : ∀ line ∈ splitLines (ended lines) ++ [closing], IsLine line := by
      intro line mem
      rcases List.mem_append.mp mem with inside | last
      · exact isLine_of_mem_splitLines inside
      · rw [List.mem_singleton.mp last]
        exact hclosing
    have isLine : ∀ line ∈ lines, IsLine line := isLine_of_content opens isLines whole (between ▸ verbatim)
    -- the lines are those of the text then, and nothing was cut from them
    have content := verbatim.symm.trans (made isLine)
    have joined : joinWith ['\n'] lines = joinWith ['\n'] (lines.map trimRight) := by
      have texts : String.ofList (joinWith ['\n'] lines) = String.ofList (joinWith ['\n'] (lines.map trimRight)) := by
        simpa using content
      simpa using congrArg String.toList texts
    intro line mem
    exact ⟨trimRight_of_joinWith isLine joined line mem, isLine line mem⟩
  · intro kept
    have same : lines.map trimRight = lines := by
      rw [List.map_congr_left fun line mem => (kept line mem).1, List.map_id']
    rw [made fun line mem => (kept line mem).2, same]
  · intro open_
    rw [between, blocksFrom_whole_fence opens closes open_]

/-- Two lines that are kept, one with white space at its end, and one with another break in it, between a fence with a
name behind its delimiter and an indented one. -/
theorem read_fenced_of_line_tabulation :
    let opening := "```lean".toList
    let lines := ["# no heading".toList, "  indented".toList, "blank ".toList, "one\x0btwo".toList]
    let closing := "  ```".toList
    let text := String.ofList (fencedText opening lines closing ['\n'])
    (opens? opening = some .code ∧ Fence.code.closes closing = true ∧ IsLine opening ∧ IsLine closing ∧
        (∀ line ∈ lines, '\n' ∉ line) ∧ ∀ line ∈ lines, Fence.code.closes line = false) ∧
      read text ≠ .ok [.content .code (String.ofList (joinWith ['\n'] lines)) 0] ∧
      read text = .ok [.content .code "# no heading\n  indented\nblank\none\ntwo" 0] := by
  intro opening lines closing text
  have opens : opens? opening = some .code := by decide
  have closes : Fence.code.closes closing = true := by decide
  have hopening : IsLine opening := by decide
  have hclosing : IsLine closing := by decide
  have whole : ∀ line ∈ lines, '\n' ∉ line := by decide
  have stays : ∀ line ∈ lines, Fence.code.closes line = false := by decide
  obtain ⟨verbatim_iff, made⟩ := read_fenced opens closes hopening hclosing (Or.inr rfl) whole stays
  refine ⟨⟨opens, closes, hopening, hclosing, whole, stays⟩, ?_, ?_⟩
  · intro verbatim
    have kept := verbatim_iff.mp verbatim "blank ".toList (by decide)
    exact absurd kept.1 (by decide)
  · have open_ : ∀ line ∈ splitLines (ended lines), Fence.code.closes line = false := by decide
    have text_ : joinWith ['\n'] ((splitLines (ended lines)).map trimRight) =
        "# no heading\n  indented\nblank\none\ntwo".toList := by decide
    rw [made open_, text_, String.ofList_toList]
    rfl

/-- A fence need not be verbatim: the blank at the end of a line is lost. -/
theorem read_code_cut :
    ¬ ∀ lines : List (List Char), (∀ line ∈ lines, '\n' ∉ line) → (∀ line ∈ lines, ¬ codeDelimiter <+: trim line) →
      read (String.ofList (fencedText codeDelimiter lines codeDelimiter [])) =
        .ok [.content .code (String.ofList (joinWith ['\n'] lines)) 0] := by
  intro verbatim
  have whole : ∀ line ∈ ["a ".toList], '\n' ∉ line := by decide
  have stays : ∀ line ∈ ["a ".toList], ¬ codeDelimiter <+: trim line := by decide
  have kept := verbatim ["a ".toList] whole stays
  have cut : (read (String.ofList (fencedText codeDelimiter ["a ".toList] codeDelimiter []))).toOption =
      some [.content .code "a" 0] := by decide +kernel
  rw [kept] at cut
  exact absurd cut (by decide)

end SlidePress.Markdown
