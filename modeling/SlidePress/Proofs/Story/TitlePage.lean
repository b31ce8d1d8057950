import SlidePress.Story.TitlePage
import Mathlib.Algebra.Field.Rat
import Mathlib.Algebra.Order.Field.Basic
import Mathlib.Algebra.Order.Ring.Rat
import Mathlib.Tactic.Abel
import Mathlib.Tactic.Linarith
import Mathlib.Tactic.Ring

/-!
# `SlidePress.Proofs.Story.TitlePage` — how the opening page fills its frame

The opening page has five texts, any of which may be empty. Those that are not stand on it once each and in order, in
three groups with white space above, between and below them. This does not depend on arithmetic: it is the same for the
doubles that a page is set with (`Style.exists_titlePage`) and for exact numbers.

In exact arithmetic the white space is right as well. There are ten units of it, three above, two in each gap and three
below. If the texts leave something over, the units share it out, and the page ends exactly where the frame does, less
what stays free; if they leave nothing over, there is no white space (`Style.arrange_fills`). No height has to be known
to be positive for that.
-/

namespace SlidePress

/-! ## The texts -/

/-- Those of some texts that are not empty. -/
def nonEmpty (texts : List TitleText) : List TitleText := texts.filter fun t => !t.text.isEmpty

/-- The five texts of the opening page in order, also those that are empty. -/
def Style.titleTexts (s : Style) : List TitleText :=
  [⟨.title, s.title⟩, ⟨.subtitle, s.subtitle⟩, ⟨.info, s.author⟩, ⟨.info, s.institute⟩, ⟨.info, s.date⟩]

/-- The groups are those of the texts that are not empty. -/
theorem Style.titleGroups_eq (s : Style) :
    s.titleGroups = [nonEmpty [⟨.title, s.title⟩, ⟨.subtitle, s.subtitle⟩],
      nonEmpty [⟨.info, s.author⟩, ⟨.info, s.institute⟩], nonEmpty [⟨.info, s.date⟩]] := rfl

/-- **All groups together** are the texts in order. -/
theorem Style.flatten_titleGroups (s : Style) : s.titleGroups.flatten = nonEmpty s.titleTexts := by
  rw [titleGroups_eq, List.flatten_cons, List.flatten_cons, List.flatten_singleton]
  unfold nonEmpty
  rw [← List.filter_append, ← List.filter_append]
  rfl

/-! ## Three groups with white space around them -/

section

variable {α : Type}

/-- Three groups of texts with white space above, between and below them. -/
def around (above upper lower below : α) (first second third : List TitleText) : List (TitleItem α) :=
  .space above :: (first.map .text ++ .space upper :: (second.map .text ++ .space lower ::
    (third.map .text ++ [.space below])))

/-- The text that an item is. -/
def TitleItem.text? : TitleItem α → Option TitleText
  | .space _ => none
  | .text t => some t

/-- The height of an item, where that of a text is known. -/
def TitleItem.height (height : TitleText → α) : TitleItem α → α
  | .space h => h
  | .text t => height t

variable (above upper lower below : α) (first second third : List TitleText)

/-- **The texts of three groups** are all there, in order. -/
theorem texts_around :
    (around above upper lower below first second third).filterMap TitleItem.text? = first ++ (second ++ third) := by
  have texts (group : List TitleText) : (group.map (TitleItem.text (α := α))).filterMap TitleItem.text? = group := by
    rw [List.filterMap_map]
    exact List.filterMap_some
  have space (h : α) (items : List (TitleItem α)) :
      (TitleItem.space h :: items).filterMap TitleItem.text? = items.filterMap TitleItem.text? :=
    List.filterMap_cons_none rfl
  rw [around, space, List.filterMap_append, texts, space, List.filterMap_append, texts, space, List.filterMap_append,
    texts, space, List.filterMap_nil, List.append_nil]

/-- **Three groups are as high** as their texts and the white space together. -/
theorem sum_heights_around [AddCommMonoid α] (height : TitleText → α) :
    ((around above upper lower below first second third).map (TitleItem.height height)).sum =
      ((first ++ (second ++ third)).map height).sum + (above + upper + lower + below) := by
  have texts (group : List TitleText) :
      ((group.map TitleItem.text).map (TitleItem.height height)).sum = (group.map height).sum := by
    rw [List.map_map]
    rfl
  simp only [around, List.map_cons, List.map_append, List.sum_cons, List.sum_append, texts, TitleItem.height,
    List.map_nil, List.sum_nil, add_zero]
  abel

end

section

variable {α : Type} [NatCast α] [Add α] [Sub α] [Mul α] [Div α] [LT α] [DecidableLT α]

/-- **Three groups are arranged** with three units of white space above, two in each gap and three below. -/
theorem arrange_eq (frameHeight slack : α) (height : TitleText → α) (first second third : List TitleText) :
    arrange frameHeight slack height [first, second, third] =
      let unit := spaceUnit frameHeight slack (contentHeight height [first, second, third])
      around (((3 : Nat) : α) * unit) (((2 : Nat) : α) * unit) (((2 : Nat) : α) * unit) (((3 : Nat) : α) * unit)
        first second third := by
  simp [arrange, around, topWeight, spacerWeights]

end

/-- **The opening page of a deck** has the texts that are not empty once each, in order, in three groups with white space
around them. -/
theorem Style.exists_titlePage (s : Style) (wrap : Wrap) (frameWidth frameHeight : Float) :
    let paragraph (t : TitleText) : Flowable := .textParagraph (t.role.style s.sheet) t.text
    ∃ unit : Float, s.titlePage wrap frameWidth frameHeight =
      .spacer 1 (Float.ofNat 3 * unit) ::
        ((nonEmpty [⟨.title, s.title⟩, ⟨.subtitle, s.subtitle⟩]).map paragraph ++
          .spacer 1 (Float.ofNat 2 * unit) ::
            ((nonEmpty [⟨.info, s.author⟩, ⟨.info, s.institute⟩]).map paragraph ++
              .spacer 1 (Float.ofNat 2 * unit) ::
                ((nonEmpty [⟨.info, s.date⟩]).map paragraph ++ [.spacer 1 (Float.ofNat 3 * unit)]))) := by
  intro paragraph
  refine ⟨spaceUnit frameHeight titleSlack (contentHeight (s.titleHeight wrap frameWidth frameHeight) s.titleGroups), ?_⟩
  rw [titlePage, titleGroups_eq, arrange_eq]
  simp only [around, List.map_cons, List.map_append, List.map_map, List.map_nil]
  rfl

/-! ## The white space in exact arithmetic -/

theorem contentHeight_eq_sum {α : Type} [AddMonoidWithOne α] (height : TitleText → α) (groups : List (List TitleText)) :
    contentHeight height groups = (groups.flatten.map height).sum := by
  rw [contentHeight, Nat.cast_zero, ← List.sum_eq_foldl]

section

variable {α : Type} [Field α] [LinearOrder α] [IsStrictOrderedRing α] {frameHeight slack content : α}

omit [IsStrictOrderedRing α] in
/-- A unit of white space is a tenth of what is left over, if something is. -/
theorem spaceUnit_eq (frameHeight slack content : α) :
    spaceUnit frameHeight slack content = max 0 (frameHeight - content - slack) / 10 := by
  have total : ((totalWeight : Nat) : α) = 10 := by
    have ten : totalWeight = 10 := rfl
    rw [ten, Nat.cast_ofNat]
  rw [spaceUnit, total, Nat.cast_zero, max_def_lt]

theorem spaceUnit_nonneg (frameHeight slack content : α) : 0 ≤ spaceUnit frameHeight slack content := by
  rw [spaceUnit_eq]
  exact div_nonneg (le_max_left 0 _) (by norm_num)

/-- **Ten units** are what the texts leave over. -/
theorem ten_mul_spaceUnit (fits : content ≤ frameHeight - slack) :
    10 * spaceUnit frameHeight slack content = frameHeight - slack - content := by
  rw [spaceUnit_eq, max_eq_right (by linarith), mul_div_cancel₀ _ (by norm_num)]
  ring

theorem spaceUnit_eq_zero (full : frameHeight - slack < content) : spaceUnit frameHeight slack content = 0 := by
  rw [spaceUnit_eq, max_eq_left (by linarith), zero_div]

/-- **The opening page in exact arithmetic**, for any texts and any heights. Those texts that are not empty stand on it
once each, in order, in three groups with four spaces around them, which are never less than nothing and are to each other
as three to two to two to three. If the texts fit into the frame, less what stays free, all heights come to just that; if
they do not, there is no white space. -/
theorem Style.arrange_fills (s : Style) (height : TitleText → α) (frameHeight slack : α) :
    let content := ((nonEmpty s.titleTexts).map height).sum
    let items := arrange frameHeight slack height s.titleGroups
    items.filterMap TitleItem.text? = nonEmpty s.titleTexts ∧
      ∃ unit : α, 0 ≤ unit ∧
        items = around (3 * unit) (2 * unit) (2 * unit) (3 * unit) (nonEmpty [⟨.title, s.title⟩, ⟨.subtitle, s.subtitle⟩])
          (nonEmpty [⟨.info, s.author⟩, ⟨.info, s.institute⟩]) (nonEmpty [⟨.info, s.date⟩]) ∧
        (content ≤ frameHeight - slack → (items.map (TitleItem.height height)).sum = frameHeight - slack) ∧
        (frameHeight - slack < content → unit = 0) := by
  intro content items
  have texts := s.flatten_titleGroups
  rw [titleGroups_eq, List.flatten_cons, List.flatten_cons, List.flatten_singleton] at texts
  let unit := spaceUnit frameHeight slack content
  have shape : items = around (3 * unit) (2 * unit) (2 * unit) (3 * unit)
      (nonEmpty [⟨.title, s.title⟩, ⟨.subtitle, s.subtitle⟩])
      (nonEmpty [⟨.info, s.author⟩, ⟨.info, s.institute⟩]) (nonEmpty [⟨.info, s.date⟩]) := by
    show arrange frameHeight slack height s.titleGroups = _
    rw [titleGroups_eq, arrange_eq, ← titleGroups_eq, contentHeight_eq_sum, flatten_titleGroups]
    rfl
  refine ⟨?_, unit, spaceUnit_nonneg _ _ _, shape, ?_, spaceUnit_eq_zero⟩
  · rw [shape, texts_around, texts]
  · intro fits
    rw [shape, sum_heights_around, texts]
    calc content + (3 * unit + 2 * unit + 2 * unit + 3 * unit) = content + 10 * unit := by ring
      _ = frameHeight - slack := by rw [ten_mul_spaceUnit fits, add_sub_cancel]

end

/-- Three texts of which the last two are alike, in a frame with room for fifty more points, and in one that is too small
for them. -/
theorem Style.arrange_fills_or_overflows :
    let s : Style := ({ title := "Talk", author := "2024", date := "2024" } : Config).styleWith ⟨0, 0, 0, 1⟩
      "Helvetica" "Helvetica" "Courier" "Helvetica"
    let height (t : TitleText) : ℚ := if t.role = .title then 30 else 10
    let texts : List TitleText := [⟨.title, "Talk"⟩, ⟨.info, "2024"⟩, ⟨.info, "2024"⟩]
    (arrange 102 2 height s.titleGroups).filterMap TitleItem.text? = texts ∧
      ((arrange 102 2 height s.titleGroups).map (TitleItem.height height)).sum = 100 ∧
      arrange 51 2 height s.titleGroups = around 0 0 0 0 [⟨.title, "Talk"⟩] [⟨.info, "2024"⟩] [⟨.info, "2024"⟩] := by
  intro s height texts
  have given : nonEmpty s.titleTexts = texts := by decide +kernel
  have content : ((nonEmpty s.titleTexts).map height).sum = 50 := by
    rw [given]
    decide +kernel
  obtain ⟨shown, _, -, -, filled, -⟩ := s.arrange_fills height 102 2
  obtain ⟨-, _, -, shape, -, none_⟩ := s.arrange_fills height 51 2
  have fits : ((nonEmpty s.titleTexts).map height).sum ≤ 102 - 2 := by
    rw [content]
    norm_num
  refine ⟨shown.trans given, (filled fits).trans (by norm_num), ?_⟩
  rw [shape, none_ (by rw [content]; norm_num), mul_zero, mul_zero]
  rfl

end SlidePress
