import SlidePress.Proofs.Config.Accepted
import SlidePress.Proofs.Decimal.Rounded
import SlidePress.Proofs.Outcome
import SlidePress.Style.Basic

/-!
# `SlidePress.Proofs.Style.Size` — the sizes that a deck is drawn with

A configuration is accepted only if its sizes pass a check, but what is drawn with is worked out later. The font size is
taken over, and so it is greater than zero. Any other size is taken over where it is given: then it is greater than zero
unless it is not a number, since the check only refuses what is zero or less. Where it is not given, it is a share of
the font size, rounded to two places, which nothing checks again: the share has to be half a hundredth of a point at
least, or else nothing is left of it (`resolved_sizes`).
-/

namespace SlidePress

/-! ## Resolving, step by step -/

/-- The result of a step at a desk, and the desk afterwards. -/
def Resolving.outcome {α : Type} (x : Resolving α) (desk : Desk) : Except ConfigError α × Desk := x.run.run desk

section

variable {α β : Type}

/-- Two steps have a result if the first has one, and the second from there on. -/
theorem Resolving.bind_eq_ok_iff {x : Resolving α} {f : α → Resolving β} {desk desk' : Desk} {b : β} :
    (x >>= f).outcome desk = (.ok b, desk') ↔
      ∃ a desk₁, x.outcome desk = (.ok a, desk₁) ∧ (f a).outcome desk₁ = (.ok b, desk') := by
  rw [Resolving.outcome, Resolving.outcome, ExceptT.run_bind, StateT.run_bind]
  rcases x.run.run desk with ⟨e | a, desk₁⟩
  · constructor
    · intro h
      cases h
    · rintro ⟨a, desk₂, first, -⟩
      cases first
  · constructor
    · intro h
      exact ⟨a, desk₁, rfl, h⟩
    · rintro ⟨a', desk₂, first, second⟩
      cases first
      exact second

/-- What is certain is there, and leaves the desk as it is. -/
theorem Resolving.pure_eq_ok_iff {a b : α} {desk desk' : Desk} :
    (pure a : Resolving α).outcome desk = (.ok b, desk') ↔ a = b ∧ desk = desk' := by
  show (Except.ok a, desk) = (Except.ok b, desk') ↔ _
  rw [Prod.mk.injEq, Except.ok.injEq]

end

/-- A colour is there if the library has one for its value, and leaves the desk as it is. -/
theorem Resolving.color_eq_ok_iff {library : StyleLibrary} {value : String} {color : Color} {desk desk' : Desk} :
    (Resolving.color library value).outcome desk = (.ok color, desk') ↔
      library.color? value = some color ∧ desk = desk' := by
  rw [Resolving.color]
  cases library.color? value with
  | none => exact ⟨fun h => (nomatch h), fun h => (nomatch h.1)⟩
  | some found => rw [Resolving.pure_eq_ok_iff, Option.some.injEq]

section

variable {c : Config} {library : StyleLibrary} {style : Style} {desk desk' : Desk}

/-- **A configuration is resolved** by its colour and then its fonts in order, each at the desk that the one before it
left. -/
theorem Config.exists_of_resolveOn (h : c.resolveOn desk library = (.ok style, desk')) :
    ∃ color text heading mono math desk₁ desk₂ desk₃ desk₄,
      library.color? c.color = some color ∧
      (Resolving.font library c.textFont).outcome desk = (.ok text, desk₁) ∧
      (Resolving.font library c.headingFont).outcome desk₁ = (.ok heading, desk₂) ∧
      (Resolving.font library c.monoFont).outcome desk₂ = (.ok mono, desk₃) ∧
      (Resolving.font library c.mathFont).outcome desk₃ = (.ok math, desk₄) ∧
      desk'.fonts = desk₄.fonts ∧ style = c.styleWith color text heading mono math := by
  change (c.resolve library).outcome desk = _ at h
  rw [Config.resolve] at h
  simp only [Resolving.bind_eq_ok_iff, Resolving.color_eq_ok_iff, Resolving.pure_eq_ok_iff] at h
  obtain ⟨color, _, ⟨found, rfl⟩, text, desk₁, h₁, heading, desk₂, h₂, mono, desk₃, h₃, math, desk₄, h₄, _, _, logged,
    rfl, rfl⟩ := h
  cases logged
  exact ⟨color, text, heading, mono, math, desk₁, desk₂, desk₃, desk₄, found, h₁, h₂, h₃, h₄, rfl, rfl⟩

/-- A configuration is resolved if its style passes a test. -/
theorem Config.exists_style_of_any {test : Style → Bool} (h : (c.resolveOn desk library).1.toOption.any test = true) :
    ∃ style desk', c.resolveOn desk library = (.ok style, desk') ∧ test style = true := by
  obtain ⟨style, found, holds⟩ := (Option.any_eq_true _ _).mp h
  exact ⟨style, _, Prod.ext (ok_of_toOption found) rfl, holds⟩

end

/-! ## One size -/

/-- A size gives something greater than zero: its share of the font size is half a hundredth of a point or more, or it
is given as a number. -/
def Size.GivesPositive (size : Size) (fontSize ratio : Float) : Prop :=
  match size with
  | .auto => 0.005 ≤ fontSize * ratio
  | .points x => x.isNaN = false

/-- **A checked size is greater than zero**, once it is worked out, if it gives something. -/
theorem pos_autoSize_iff {size : Size} (accepted : size.Accepted) (fontSize ratio : Float) :
    0 < autoSize size fontSize ratio ↔ size.GivesPositive fontSize ratio := by
  cases size with
  | auto => exact Decimal.pos_roundTo_iff (fontSize * ratio)
  | points x => exact Decimal.pos_iff_not_isNaN accepted

/-! ## All sizes -/

/-- **The sizes of a resolved style**, whatever the library is. The font size is greater than zero. Each other size is so
exactly if it gives something. -/
theorem resolved_sizes {members : Members} {c : Config} {library : StyleLibrary} {desk desk' : Desk} {style : Style}
    (accepted : Config.ofMembers members = .ok c) (resolved : c.resolveOn desk library = (.ok style, desk')) :
    0 < style.fontSize ∧
      (0 < style.headingSize ↔ c.headingSize.GivesPositive c.fontSize headingRatio) ∧
      (0 < style.monoSize ↔ c.monoSize.GivesPositive c.fontSize monoRatio) ∧
      (0 < style.chromeSize ↔ c.chromeSize.GivesPositive c.fontSize chromeRatio) := by
  obtain ⟨fontSize, headingSize, monoSize, chromeSize⟩ := Config.sized_of_ofMembers accepted
  obtain ⟨color, text, heading, mono, math, -, -, -, -, -, -, -, -, -, -, rfl⟩ := Config.exists_of_resolveOn resolved
  refine ⟨fontSize, ?_, ?_, ?_⟩
  · exact pos_autoSize_iff headingSize c.fontSize headingRatio
  · exact pos_autoSize_iff monoSize c.fontSize monoRatio
  · exact pos_autoSize_iff chromeSize c.fontSize chromeRatio

/-- Sizes that are given by a number, by the word `auto` and not at all. -/
theorem resolved_sizes_of_points_and_auto :
    ∃ c style desk,
      Config.ofMembers [("font-size", .num (.int 12)), ("heading-size", .str "15.5"), ("mono_size", .str "auto")] =
        .ok c ∧
      c.resolveOn {} = (.ok style, desk) ∧
      0 < style.fontSize ∧ 0 < style.headingSize ∧ 0 < style.monoSize ∧ 0 < style.chromeSize := by
  have accepted : Config.ofMembers
      [("font-size", .num (.int 12)), ("heading-size", .str "15.5"), ("mono_size", .str "auto")] =
        .ok { fontSize := 12, headingSize := .points 15.5 } := ok_of_toOption (by decide +kernel)
  obtain ⟨style, desk, resolved, -⟩ := Config.exists_style_of_any
    (show (Config.resolveOn { fontSize := 12, headingSize := .points 15.5 } {}).1.toOption.any (fun _ => true) = true by
      decide +kernel)
  obtain ⟨fontSize, headingSize, monoSize, chromeSize⟩ := resolved_sizes accepted resolved
  have number : Size.GivesPositive (.points 15.5) 12 headingRatio := by
    show (15.5 : Float).isNaN = false
    decide +kernel
  have eightTenths : Size.GivesPositive .auto 12 monoRatio := by
    show (0.005 : Float) ≤ 12 * 0.8
    decide +kernel
  have half : Size.GivesPositive .auto 12 chromeRatio := by
    show (0.005 : Float) ≤ 12 * 0.5
    decide +kernel
  exact ⟨_, style, desk, accepted, resolved, fontSize, headingSize.mpr number, monoSize.mpr eightTenths,
    chromeSize.mpr half⟩

/-- A font size of half a hundredth of a point is accepted, and so is a heading size that is not a number; neither
leaves all sizes greater than zero. -/
theorem resolved_sizes_not_pos :
    (∃ c style desk, Config.ofMembers [("font-size", .num (.float 0.005))] = .ok c ∧
      c.resolveOn {} = (.ok style, desk) ∧ ¬ 0 < style.monoSize ∧ ¬ 0 < style.chromeSize) ∧
    (∃ c style desk, Config.ofMembers [("heading-size", .str "nan")] = .ok c ∧
      c.resolveOn {} = (.ok style, desk) ∧ ¬ 0 < style.headingSize) := by
  constructor
  · have tiny : Config.ofMembers [("font-size", .num (.float 0.005))] = .ok { fontSize := 0.005 } :=
      ok_of_toOption (by decide +kernel)
    obtain ⟨style, desk, resolved, known⟩ := Config.exists_style_of_any
      (show (Config.resolveOn { fontSize := 0.005 } {}).1.toOption.any
          (fun style => decide (¬ 0 < style.monoSize ∧ ¬ 0 < style.chromeSize)) = true by decide +kernel)
    exact ⟨_, style, desk, tiny, resolved, of_decide_eq_true known⟩
  · have noNumber : Config.ofMembers [("heading-size", .str "nan")] = .ok { headingSize := .points (0 / 0) } :=
      ok_of_toOption (by decide +kernel)
    obtain ⟨style, desk, resolved, known⟩ := Config.exists_style_of_any
      (show (Config.resolveOn { headingSize := .points (0 / 0) } {}).1.toOption.any
          (fun style => decide (¬ 0 < style.headingSize)) = true by decide +kernel)
    exact ⟨_, style, desk, noNumber, resolved, of_decide_eq_true known⟩

end SlidePress
