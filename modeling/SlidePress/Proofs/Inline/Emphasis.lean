import SlidePress.Inline.Emphasis
import SlidePress.Proofs.Inline.Part

/-!
# `SlidePress.Proofs.Inline.Emphasis` — the emphasis rules on parts

A rule rewrites characters; on parts it does what one expects of it (`Rewrites`): some stretches between two marks stand
between two tags afterwards, and every other part stays. This holds of all three rules for the same reason, which is
that their marks stand inside no part (`HasMarks`), and it does not depend on where a rule opens and closes. The rules
follow one another, each on the parts that the one before has left.
-/

namespace SlidePress.Inline

/-- **What a rule makes of parts**: between tags what stood between two marks, and all other parts as they were. -/
inductive Rewrites (rule : EmphasisRule) : List Part → List Part → Prop where
  | nil : Rewrites rule [] []
  | keep (p : Part) {parts parts' : List Part} : Rewrites rule parts parts' → Rewrites rule (p :: parts) (p :: parts')
  | wrap (inner : List Part) {parts parts' : List Part} : Rewrites rule parts parts' →
      Rewrites rule (rule.mark.map .char ++ inner ++ rule.mark.map .char ++ parts)
        (.tag (.opening rule.emphasis) :: (inner ++ .tag (.closing rule.emphasis) :: parts'))

/-! ## One rule -/

namespace EmphasisRule

variable (rule : EmphasisRule)

theorem apply_of_found {before : Option Char} {cs inner after : List Char}
    (h : rule.find? before cs = some (inner, after)) :
    rule.apply before cs =
      rule.emphasis.openTag ++ inner ++ rule.emphasis.closeTag ++ rule.apply rule.mark.getLast? after := by
  cases cs with
  | nil => simpa [rule.mark_ne_nil] using rule.find?_eq h
  | cons c rest =>
      rw [apply]
      split
      · next found =>
          rw [h] at found
          obtain ⟨rfl, rfl⟩ := Prod.mk.inj (Option.some.inj found)
          rfl
      · next found => simp [h] at found

theorem apply_of_not_found {before : Option Char} {c : Char} {rest : List Char}
    (h : rule.find? before (c :: rest) = none) :
    rule.apply before (c :: rest) = c :: rule.apply (some c) rest := by
  rw [apply]
  split
  · next found => simp [h] at found
  · rfl

/-- Every character of the mark is a mark. -/
def HasMarks : Prop := ∀ m ∈ rule.mark, isMark m

variable {rule}

/-- The rule holds only at a mark. -/
theorem HasMarks.find?_eq_none (marks : rule.HasMarks) {before : Option Char} {c : Char} {rest : List Char}
    (h : ¬ isMark c) : rule.find? before (c :: rest) = none := by
  cases found : rule.find? before (c :: rest) with
  | none => rfl
  | some pair =>
      have cut := rule.find?_eq found
      cases hmark : rule.mark with
      | nil => exact absurd hmark rule.mark_ne_nil
      | cons m ms =>
          rw [hmark] at cut
          have first : c = m := (List.cons.inj cut).1
          exact absurd (first ▸ marks m (by simp [hmark])) h

theorem HasMarks.apply_append (marks : rule.HasMarks) {cs : List Char} (h : ∀ c ∈ cs, ¬ isMark c)
    (before : Option Char) (rest : List Char) :
    ∃ before', rule.apply before (cs ++ rest) = cs ++ rule.apply before' rest := by
  induction cs generalizing before with
  | nil => exact ⟨before, rfl⟩
  | cons c cs ih =>
      obtain ⟨before', passed⟩ := ih (fun d mem => h d (List.mem_cons_of_mem c mem)) (some c)
      have none_ : rule.find? before (c :: (cs ++ rest)) = none := marks.find?_eq_none (h c List.mem_cons_self)
      exact ⟨before', by rw [List.cons_append, rule.apply_of_not_found none_, passed, List.cons_append]⟩

/-- **A rule applied to written parts** writes rewritten parts. -/
theorem HasMarks.apply_written (marks : rule.HasMarks) (before : Option Char) (parts : List Part) :
    ∃ parts', Rewrites rule parts parts' ∧ rule.apply before (written parts) = written parts' := by
  -- what follows an emphasized stretch is shorter by two marks at least, so the induction is on the length
  induction n : parts.length using Nat.strongRecOn generalizing before parts with
  | ind n ih =>
    subst n
    cases parts with
    | nil => exact ⟨[], .nil, by simp [apply]⟩
    | cons p parts =>
        cases found : rule.find? before (written (p :: parts)) with
        | some pair =>
            obtain ⟨inner, after⟩ := pair
            have cut := rule.find?_eq found
            rw [List.append_assoc, List.append_assoc, ← List.append_assoc inner] at cut
            obtain ⟨q, hq, hinner⟩ := written_eq_marks_append marks cut
            obtain ⟨inner, rest, rfl, rfl, rfl⟩ := written_eq_append_marks rule.mark_ne_nil marks hinner
            have shorter : rest.length < (p :: parts).length := by
              have positive := List.length_pos_iff.mpr rule.mark_ne_nil
              rw [hq]
              simp
              omega
            obtain ⟨rest', rewritten, written_⟩ := ih _ shorter rule.mark.getLast? rest rfl
            have wrapped := rewritten.wrap inner
            rw [List.append_assoc, List.append_assoc, ← List.append_assoc inner, ← hq] at wrapped
            refine ⟨_, wrapped, ?_⟩
            rw [rule.apply_of_found found, written_]
            simp [Part.chars, Tag.chars]
        | none =>
            by_cases hp : ∃ m, isMark m ∧ p = .char m
            · obtain ⟨m, hm, rfl⟩ := hp
              have single := Part.chars_eq_singleton hm.not_mem_markupAlphabet
              rw [written_cons, single, List.singleton_append] at found
              obtain ⟨parts', rewritten, written_⟩ := ih _ (Nat.lt_succ_self _) (some m) parts rfl
              refine ⟨_, .keep _ rewritten, ?_⟩
              rw [written_cons, written_cons, single, List.singleton_append, rule.apply_of_not_found found, written_,
                List.singleton_append]
            · have noMarks : ∀ c ∈ p.chars, ¬ isMark c := fun c mem hc =>
                hp ⟨c, hc, Part.eq_of_mem hc.not_mem_markupAlphabet mem⟩
              obtain ⟨before', passed⟩ := marks.apply_append noMarks before (written parts)
              obtain ⟨parts', rewritten, written_⟩ := ih _ (Nat.lt_succ_self _) before' parts rfl
              exact ⟨_, .keep p rewritten, by rw [written_cons, passed, written_, written_cons]⟩

end EmphasisRule

/-! ## The three rules -/

theorem boldRule_hasMarks : boldRule.HasMarks := by simp [EmphasisRule.HasMarks, boldRule, isMark]

theorem starRule_hasMarks : starRule.HasMarks := by simp [EmphasisRule.HasMarks, starRule, isMark]

theorem underscoreRule_hasMarks : underscoreRule.HasMarks := by
  simp [EmphasisRule.HasMarks, underscoreRule, isMark]

/-- **What the three rules make of parts**, each of what the one before has left. -/
def Emphasizes (parts parts' : List Part) : Prop :=
  ∃ bold star, Rewrites boldRule parts bold ∧ Rewrites starRule bold star ∧ Rewrites underscoreRule star parts'

/-- **Emphasis on written parts** writes emphasized parts. -/
theorem emphasize_written (parts : List Part) :
    ∃ parts', Emphasizes parts parts' ∧ emphasize (written parts) = written parts' := by
  obtain ⟨bold, hbold, writtenBold⟩ := boldRule_hasMarks.apply_written none parts
  obtain ⟨star, hstar, writtenStar⟩ := starRule_hasMarks.apply_written none bold
  obtain ⟨parts', hunderscore, writtenParts⟩ := underscoreRule_hasMarks.apply_written none star
  exact ⟨parts', ⟨bold, star, hbold, hstar, hunderscore⟩, by
    rw [emphasize, writtenBold, writtenStar, writtenParts]⟩

end SlidePress.Inline
