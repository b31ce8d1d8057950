import SlidePress.Text.Lines

/-!
# `SlidePress.Proofs.Text.Lines` — cutting a text into lines and joining them

Cutting a text at its line breaks undoes joining lines with line feeds, as long as no line has a break of its own. The
one loss is an empty line at the very end, which no break announces; the lemmas are therefore stated with a line feed
and a rest after the line, and once for the last line.
-/

namespace SlidePress.Text

/-- A text without a line break of its own. -/
def IsLine (cs : List Char) : Prop := ∀ c ∈ cs, isLineBreak c = false

instance (cs : List Char) : Decidable (IsLine cs) := List.decidableBAll (isLineBreak · = false) cs

theorem isLine_append {a b : List Char} (ha : IsLine a) (hb : IsLine b) : IsLine (a ++ b) := by
  intro c hc
  rcases List.mem_append.mp hc with h | h
  · exact ha c h
  · exact hb c h

theorem isLine_cons {c : Char} {cs : List Char} (hc : isLineBreak c = false) (h : IsLine cs) : IsLine (c :: cs) := by
  intro d hd
  rcases List.mem_cons.mp hd with rfl | hd
  · exact hc
  · exact h d hd

theorem isLine_of_subset {a b : List Char} (subset : b ⊆ a) (h : IsLine a) : IsLine b := fun c mem => h c (subset mem)

theorem isLine_replicate {c : Char} (n : Nat) (hc : isLineBreak c = false) : IsLine (List.replicate n c) := by
  intro d hd
  rw [List.eq_of_mem_replicate hd]
  exact hc

/-! ## Joining -/

@[simp] theorem joinWith_nil (sep : List Char) : joinWith sep [] = [] := rfl

@[simp] theorem joinWith_singleton (sep part : List Char) : joinWith sep [part] = part := rfl

theorem joinWith_cons (sep part : List Char) {parts : List (List Char)} (ne : parts ≠ []) :
    joinWith sep (part :: parts) = part ++ sep ++ joinWith sep parts := by
  cases parts with
  | nil => exact absurd rfl ne
  | cons next parts => rfl

/-- A joined text is its first part, and the others with a blank before each. -/
theorem joinWith_cons_flatMap (sep part : List Char) (parts : List (List Char)) :
    joinWith sep (part :: parts) = part ++ parts.flatMap (sep ++ ·) := by
  induction parts generalizing part with
  | nil => simp
  | cons next parts ih =>
      rw [joinWith_cons _ _ (List.cons_ne_nil next parts), ih, List.flatMap_cons, List.append_assoc, List.append_assoc]

theorem mem_joinWith_of_mem {c : Char} {part : List Char} {parts : List (List Char)} (inside : c ∈ part)
    (mem : part ∈ parts) (sep : List Char) : c ∈ joinWith sep parts := by
  induction parts with
  | nil => cases mem
  | cons first parts ih =>
    by_cases last : parts = []
    · subst last
      rw [List.mem_singleton.mp mem] at inside
      exact inside
    · rw [joinWith_cons _ _ last]
      rcases List.mem_cons.mp mem with rfl | later
      · simp [inside]
      · exact List.mem_append_right _ (ih later)

/-- The characters of a joined text are in a part or in what stands between two parts. -/
theorem mem_of_mem_joinWith {c : Char} {sep : List Char} {parts : List (List Char)} (h : c ∈ joinWith sep parts) :
    c ∈ sep ∨ ∃ part ∈ parts, c ∈ part := by
  induction parts with
  | nil => cases h
  | cons first parts ih =>
    by_cases last : parts = []
    · subst last
      exact Or.inr ⟨first, List.mem_cons_self, h⟩
    · rw [joinWith_cons _ _ last, List.mem_append, List.mem_append] at h
      rcases h with (here | between) | later
      · exact Or.inr ⟨first, List.mem_cons_self, here⟩
      · exact Or.inl between
      · rcases ih later with between | ⟨part, mem, inside⟩
        · exact Or.inl between
        · exact Or.inr ⟨part, List.mem_cons_of_mem first mem, inside⟩

theorem head?_joinWith {first : List Char} (ne : first ≠ []) (sep : List Char) (parts : List (List Char)) :
    (joinWith sep (first :: parts)).head? = first.head? := by
  obtain ⟨c, cs, rfl⟩ := List.exists_cons_of_ne_nil ne
  by_cases last : parts = []
  · rw [last, joinWith_singleton]
  · rw [joinWith_cons _ _ last, List.cons_append, List.cons_append, List.head?_cons, List.head?_cons]

theorem getLast?_joinWith {parts : List (List Char)} (ne : ∀ part ∈ parts, part ≠ []) (sep : List Char) :
    (joinWith sep parts).getLast? = parts.getLast?.bind List.getLast? := by
  induction parts with
  | nil => rfl
  | cons first parts ih =>
    have later := ih fun part mem => ne part (List.mem_cons_of_mem first mem)
    cases parts with
    | nil => rfl
    | cons next parts =>
      have some_ : joinWith sep (next :: parts) ≠ [] := by
        intro none_
        have head := head?_joinWith (ne next (by simp)) sep parts
        rw [none_] at head
        exact ne next (by simp) (List.head?_eq_none_iff.mp head.symm)
      have ends := List.getLast?_eq_some_getLast some_
      rw [joinWith_cons _ _ (List.cons_ne_nil _ _), List.getLast?_append, ends, Option.some_or, ← ends, later,
        List.getLast?_cons_cons]

/-! ## Cutting -/

/-- A character that is no break belongs to the first line of what follows. -/
theorem splitLines_cons {c : Char} (hc : isLineBreak c = false) (rest : List Char) :
    splitLines (c :: rest) = match splitLines rest with
      | [] => [[c]]
      | line :: lines => (c :: line) :: lines := by
  have ret : c ≠ '\r' := by
    rintro rfl
    exact absurd hc (by decide)
  rw [splitLines]
  · refine (if_neg (by simp [hc])).trans ?_
    cases splitLines rest <;> rfl
  · rintro _ rfl
    exact absurd rfl ret

/-- A line break ends an empty line, if it is not the first half of one. -/
theorem splitLines_break {c : Char} {rest : List Char} (hc : isLineBreak c = true)
    (whole : ∀ more, c = '\r' → rest = '\n' :: more → False) : splitLines (c :: rest) = [] :: splitLines rest := by
  rw [splitLines]
  · rw [if_pos hc]
  · exact whole

theorem splitLines_feed (rest : List Char) : splitLines ('\n' :: rest) = [] :: splitLines rest :=
  splitLines_break (by decide) fun _ h => absurd h (by decide)

/-- **A line with a line feed after it** is the first line. -/
theorem splitLines_append {line : List Char} (h : IsLine line) (rest : List Char) :
    splitLines (line ++ '\n' :: rest) = line :: splitLines rest := by
  induction line with
  | nil => exact splitLines_feed rest
  | cons c line ih =>
    rw [List.cons_append, splitLines_cons (h c List.mem_cons_self), ih fun d hd => h d (List.mem_cons_of_mem c hd)]

/-- **The last line**, if it is not empty. -/
theorem splitLines_line {line : List Char} (h : IsLine line) (ne : line ≠ []) : splitLines line = [line] := by
  induction line with
  | nil => exact absurd rfl ne
  | cons c line ih =>
    rw [splitLines_cons (h c List.mem_cons_self)]
    by_cases hl : line = []
    · rw [hl, splitLines]
    · rw [ih (fun d hd => h d (List.mem_cons_of_mem c hd)) hl]

/-- Several lines with a line feed after the last one are the first lines. -/
theorem splitLines_joinWith_append {lines : List (List Char)} (h : ∀ line ∈ lines, IsLine line) (ne : lines ≠ [])
    (rest : List Char) : splitLines (joinWith ['\n'] lines ++ '\n' :: rest) = lines ++ splitLines rest := by
  induction lines with
  | nil => exact absurd rfl ne
  | cons line lines ih =>
    have first := h line List.mem_cons_self
    by_cases hl : lines = []
    · rw [hl, joinWith_singleton, splitLines_append first, List.singleton_append]
    · rw [joinWith_cons _ _ hl, List.append_assoc, List.append_assoc, List.singleton_append, splitLines_append first,
        ih (fun l hm => h l (List.mem_cons_of_mem line hm)) hl, List.cons_append]

/-- Several lines are the lines of the text they make, if the last one is not empty. -/
theorem splitLines_joinWith {lines : List (List Char)} (h : ∀ line ∈ lines, IsLine line)
    (last : lines.getLast? ≠ some []) : splitLines (joinWith ['\n'] lines) = lines := by
  induction lines with
  | nil => rfl
  | cons line lines ih =>
    have first := h line List.mem_cons_self
    by_cases hl : lines = []
    · subst hl
      rw [joinWith_singleton]
      exact splitLines_line first fun empty => last (by rw [empty]; rfl)
    · obtain ⟨next, more, rfl⟩ := List.exists_cons_of_ne_nil hl
      rw [joinWith_cons _ _ hl, List.append_assoc, List.singleton_append, splitLines_append first,
        ih (fun l hm => h l (List.mem_cons_of_mem line hm)) (by rwa [List.getLast?_cons_cons] at last)]

/-- **No line has a line break of its own.** -/
theorem isLine_of_mem_splitLines {cs line : List Char} (mem : line ∈ splitLines cs) : IsLine line := by
  have empty : IsLine [] := fun _ none_ => absurd none_ List.not_mem_nil
  fun_induction splitLines cs generalizing line with
  | case1 => cases mem
  | case2 rest ih =>
      rcases List.mem_cons.mp mem with rfl | later
      · exact empty
      · exact ih later
  | case3 c rest _ _ ih =>
      rcases List.mem_cons.mp mem with rfl | later
      · exact empty
      · exact ih later
  | case4 c rest _ other _ _ =>
      rw [List.mem_singleton.mp mem]
      exact isLine_cons (by simpa using other) empty
  | case5 c rest _ other first more found ih =>
      rw [found] at ih
      rcases List.mem_cons.mp mem with rfl | later
      · exact isLine_cons (by simpa using other) (ih List.mem_cons_self)
      · exact ih (List.mem_cons_of_mem first later)

theorem splitLines_eq_nil {cs : List Char} (h : splitLines cs = []) : cs = [] := by
  unfold splitLines at h
  split at h
  · rfl
  · cases h
  · split at h
    · cases h
    · split at h <;> cases h

/-- **A line feed between two texts** separates their lines. It ends an empty line of its own where the first text is
empty or ends in a line break, unless that is a carriage return, with which it is one break. -/
theorem exists_splitLines_append_feed (cs : List Char) :
    ∃ gap, (gap = [] ∨ gap = [[]]) ∧
      ∀ rest, splitLines (cs ++ '\n' :: rest) = splitLines cs ++ gap ++ splitLines rest := by
  fun_induction splitLines cs with
  | case1 => exact ⟨[[]], Or.inr rfl, fun rest => splitLines_feed rest⟩
  | case2 cs ih =>
      obtain ⟨gap, empty, lines⟩ := ih
      refine ⟨gap, empty, fun rest => ?_⟩
      rw [List.cons_append, List.cons_append, splitLines, lines]
      rfl
  | case3 c cs whole hc ih =>
      by_cases half : c = '\r' ∧ cs = []
      · obtain ⟨rfl, rfl⟩ := half
        exact ⟨[], Or.inl rfl, fun rest => by rw [List.singleton_append, splitLines]; rfl⟩
      · obtain ⟨gap, empty, lines⟩ := ih
        refine ⟨gap, empty, fun rest => ?_⟩
        have whole' : ∀ more, c = '\r' → cs ++ '\n' :: rest = '\n' :: more → False := by
          intro more ret feed
          cases cs with
          | nil => exact half ⟨ret, rfl⟩
          | cons d cs => exact whole cs ret (by rw [(List.cons.inj feed).1])
        rw [List.cons_append, splitLines_break hc whole', lines]
        rfl
  | case4 c cs _ hc none_ _ =>
      -- the line feed ends the line that the character stands on
      rw [splitLines_eq_nil none_]
      refine ⟨[], Or.inl rfl, fun rest => ?_⟩
      rw [List.singleton_append, splitLines_cons (by simpa using hc), splitLines_feed]
      rfl
  | case5 c cs _ hc line more some_ ih =>
      obtain ⟨gap, empty, lines⟩ := ih
      refine ⟨gap, empty, fun rest => ?_⟩
      rw [List.cons_append, splitLines_cons (by simpa using hc), lines, some_]
      rfl

/-- **Writing every carriage return as a line feed** changes no line: a line feed is a break as well, and one with a
carriage return before it is part of the same break in both texts. -/
theorem splitLines_normalizeNewlines (cs : List Char) : splitLines (normalizeNewlines cs) = splitLines cs := by
  induction cs using normalizeNewlines.induct with
  | case1 => rfl
  | case2 rest ih =>
      rw [normalizeNewlines.eq_2, splitLines_feed, ih, splitLines]
  | case3 c rest single ih =>
      rw [normalizeNewlines.eq_3 c rest single]
      by_cases ret : c = '\r'
      · rw [if_pos ret, splitLines_feed, ih, ret, splitLines_break (by decide) fun more _ feed => single more ret feed]
      · -- any other character is kept, so it is a break in both texts or in neither
        rw [if_neg ret]
        cases hc : isLineBreak c with
        | true =>
            rw [splitLines_break hc fun _ same => absurd same ret, splitLines_break hc fun _ same => absurd same ret, ih]
        | false => rw [splitLines_cons hc, splitLines_cons hc, ih]

/-! ## Lines with their ends -/

/-- The text of some lines, with a line feed behind each of them. -/
def ended (lines : List (List Char)) : List Char := lines.flatMap (· ++ ['\n'])

theorem ended_cons (line : List Char) (lines : List (List Char)) :
    ended (line :: lines) = line ++ '\n' :: ended lines := by
  simp [ended]

/-- Lines without breaks of their own are the lines of their text. -/
theorem splitLines_ended {lines : List (List Char)} (h : ∀ line ∈ lines, IsLine line) :
    splitLines (ended lines) = lines := by
  induction lines with
  | nil => rfl
  | cons line lines ih =>
    rw [ended_cons, splitLines_append (h line List.mem_cons_self), ih fun l mem => h l (List.mem_cons_of_mem line mem)]

/-- **Behind the last line feed** the lines of a text begin afresh. -/
theorem splitLines_ended_append (lines : List (List Char)) (rest : List Char) :
    splitLines (ended lines ++ rest) = splitLines (ended lines) ++ splitLines rest := by
  induction lines with
  | nil => rfl
  | cons line lines ih =>
    obtain ⟨gap, -, cut⟩ := exists_splitLines_append_feed line
    rw [ended_cons, List.append_assoc, List.cons_append, cut, cut, ih]
    simp only [List.append_assoc]

/-! ## Parts -/

theorem splitOn_ne_nil (sep : Char) (cs : List Char) : splitOn sep cs ≠ [] := by
  cases cs with
  | nil => exact List.cons_ne_nil _ _
  | cons c cs =>
    rw [splitOn]
    split
    · exact List.cons_ne_nil _ _
    · split <;> exact List.cons_ne_nil _ _

theorem joinWith_splitOn (sep : Char) (cs : List Char) : joinWith [sep] (splitOn sep cs) = cs := by
  induction cs with
  | nil => rfl
  | cons c cs ih =>
    obtain ⟨part, parts, parts_eq⟩ := List.exists_cons_of_ne_nil (splitOn_ne_nil sep cs)
    rw [splitOn]
    by_cases hc : c = sep
    · rw [if_pos hc, joinWith_cons _ _ (splitOn_ne_nil sep cs), ih, hc]
      rfl
    · rw [parts_eq] at ih
      rw [if_neg hc, parts_eq]
      by_cases hp : parts = []
      · subst hp
        show c :: part = c :: cs
        rw [← ih]
        rfl
      · rw [joinWith_cons _ _ hp] at ih
        show joinWith [sep] ((c :: part) :: parts) = c :: cs
        rw [joinWith_cons _ _ hp, List.cons_append, List.cons_append, ih]

end SlidePress.Text
