import SlidePress.Proofs.Style.Registry
import SlidePress.Proofs.Style.Size

/-!
# `SlidePress.Proofs.Style.Resolved` — the fonts of a style are registered

A style names four fonts, which were looked up one after another when it was resolved. A look-up that succeeds finds its
font registered or leaves it so, and nothing is ever taken out of a registry, if the library does not
(`StyleLibrary.KeepsFonts`). So all four are registered when the last one has been found (`registered_of_resolveOn`).

That nothing is taken out has to be known of every step of resolving, also of those that fail: a configuration whose
third font is unknown has already registered two, and these stay. So it is proved of the steps (`Resolving.Keeps`), and
of a configuration from its steps (`keeps_resolve`). It then holds along any history of configurations, whether they are
resolved or not (`extends_after`).
-/

namespace SlidePress

/-! ## Registries that grow -/

namespace FontRegistry

variable {earlier middle later : FontRegistry}

/-- **A registry extends another one** if it has all of its fonts. -/
def Extends (later earlier : FontRegistry) : Prop :=
  ∀ name, earlier.contains name = true → later.contains name = true

theorem Extends.refl (fonts : FontRegistry) : fonts.Extends fonts := fun _ there => there

theorem Extends.trans (h : middle.Extends earlier) (h' : later.Extends middle) : later.Extends earlier :=
  fun name there => h' name (h name there)

end FontRegistry

/-- **A library keeps the fonts** that are registered, and a font that it has found is among them then. -/
structure StyleLibrary.KeepsFonts (library : StyleLibrary) : Prop where
  found : ∀ fonts name left, library.find fonts name = (.ok (), left) → left.contains name = true
  readIn : ∀ fonts name path left, library.read fonts name path = (.ok (), left) → left.contains name = true
  afterFind : ∀ fonts name, (library.find fonts name).2.Extends fonts
  afterRead : ∀ fonts name path, (library.read fonts name path).2.Extends fonts

theorem Fetched.contains {fonts left : FontRegistry} {name : String} (h : Fetched fonts name (.ok (), left)) :
    left.contains name = true :=
  (h name).mpr (Or.inr ⟨rfl, rfl⟩)

theorem Fetched.extends {fonts : FontRegistry} {name : String} {result : Except Fault Unit × FontRegistry}
    (h : Fetched fonts name result) : result.2.Extends fonts :=
  fun other there => (h other).mpr (Or.inl there)

/-- A library that registers what it finds, and nothing else, keeps the fonts. -/
theorem StyleLibrary.Registers.keepsFonts {library : StyleLibrary} (h : library.Registers) : library.KeepsFonts where
  found := by
    intro fonts name left isFound
    have fetched := h.find fonts name
    rw [isFound] at fetched
    exact fetched.contains
  readIn := by
    intro fonts name path left isRead
    have fetched := h.read fonts name path
    rw [isRead] at fetched
    exact fetched.contains
  afterFind := fun fonts name => (h.find fonts name).extends
  afterRead := fun fonts name path => (h.read fonts name path).extends

namespace FontRegistry

variable {library : StyleLibrary} (keeps : library.KeepsFonts)

include keeps

/-- What is registered stays so when a font is looked up. -/
theorem extends_resolve (registry : FontRegistry) (value : String) :
    (registry.resolve value library).2.Extends registry := by
  have resolves := resolve_resolves registry library value
  generalize registry.resolve value library = outcome at resolves ⊢
  cases resolves with
  | known => exact .refl registry
  | read _ _ isRead =>
      have kept := keeps.afterRead registry (Path.parse value).stem (Path.parse value)
      rwa [isRead] at kept
  | unreadable _ _ missing =>
      have kept := keeps.afterRead registry (Path.parse value).stem (Path.parse value)
      rwa [missing] at kept
  | named _ isFound =>
      have kept := keeps.afterFind registry value
      rwa [isFound] at kept
  | unknown _ missing =>
      have kept := keeps.afterFind registry value
      rwa [missing] at kept

/-- **A look-up that succeeds** leaves its font registered. -/
theorem contains_of_resolve {registry fonts : FontRegistry} {value name : String} {records : Journal}
    (h : registry.resolve value library = (.ok (name, records), fonts)) : fonts.contains name = true := by
  have resolves := resolve_resolves registry library value
  generalize registry.resolve value library = outcome at resolves h
  -- `cases h` would work out the name of the file
  cases resolves with
  | known _ there =>
      obtain ⟨yields, rfl⟩ := Prod.mk.inj h
      obtain ⟨rfl, -⟩ := Prod.mk.inj (Except.ok.inj yields)
      exact there
  | read _ _ isRead =>
      obtain ⟨yields, rfl⟩ := Prod.mk.inj h
      obtain ⟨rfl, -⟩ := Prod.mk.inj (Except.ok.inj yields)
      exact keeps.readIn _ _ _ _ isRead
  | unreadable => cases (Prod.mk.inj h).1
  | named _ isFound =>
      obtain ⟨yields, rfl⟩ := Prod.mk.inj h
      obtain ⟨rfl, -⟩ := Prod.mk.inj (Except.ok.inj yields)
      exact keeps.found _ _ _ isFound
  | unknown => cases (Prod.mk.inj h).1

end FontRegistry

/-! ## Steps of resolving -/

namespace Resolving

section

variable {α β : Type}

/-- The second of two steps begins at the desk that the first one leaves; where the first fails, its desk is left. -/
theorem outcome_bind (x : Resolving α) (f : α → Resolving β) (desk : Desk) :
    (x >>= f).outcome desk =
      match x.outcome desk with
      | (.ok a, left) => (f a).outcome left
      | (.error cause, left) => (.error cause, left) := by
  rw [outcome, outcome, ExceptT.run_bind, StateT.run_bind]
  rcases x.run.run desk with ⟨cause | a, left⟩
  · rfl
  · rfl

/-- **Looking up a font** leaves at the desk what is registered then. -/
theorem outcome_font (library : StyleLibrary) (value : String) (desk : Desk) :
    (Resolving.font library value).outcome desk =
      match desk.fonts.resolve value library with
      | (.ok (name, records), fonts) => (.ok name, { desk with fonts, journal := desk.journal ++ records })
      | (.error cause, fonts) => (.error cause, { desk with fonts }) := by
  show (Resolving.outcome (do
    let desk ← get
    match desk.fonts.resolve value library with
    | (.ok (name, records), fonts) =>
      set { desk with fonts, journal := desk.journal ++ records }
      return name
    | (.error cause, fonts) =>
      set { desk with fonts }
      throw cause) desk) = _
  rw [outcome_bind]
  show Resolving.outcome (match desk.fonts.resolve value library with
    | (.ok (name, records), fonts) => _
    | (.error cause, fonts) => _) desk = _
  rcases desk.fonts.resolve value library with ⟨cause | ⟨name, records⟩, fonts⟩
  · rfl
  · rfl

variable {library : StyleLibrary} {value name : String} {desk left : Desk}

theorem registered_of_font (keeps : library.KeepsFonts)
    (h : (Resolving.font library value).outcome desk = (.ok name, left)) : left.fonts.contains name = true := by
  rw [outcome_font] at h
  rcases ended : desk.fonts.resolve value library with ⟨cause | ⟨yielded, records⟩, fonts⟩
  · rw [ended] at h
    cases h
  · rw [ended] at h
    cases h
    exact FontRegistry.contains_of_resolve keeps ended

/-- **A step keeps the fonts** that are registered, whether it succeeds or fails. -/
def Keeps (x : Resolving α) : Prop := ∀ desk, (x.outcome desk).2.fonts.Extends desk.fonts

theorem Keeps.pure (a : α) : (pure a : Resolving α).Keeps := fun desk => .refl desk.fonts

theorem Keeps.bind {x : Resolving α} {f : α → Resolving β} (first : x.Keeps) (second : ∀ a, (f a).Keeps) :
    (x >>= f).Keeps := by
  intro desk
  have kept := first desk
  rw [outcome_bind]
  rcases ended : x.outcome desk with ⟨cause | a, left⟩
  · rw [ended] at kept
    exact kept
  · rw [ended] at kept
    exact kept.trans (second a left)

theorem keeps_log (record : LogRecord) : (Resolving.log record).Keeps := fun desk => .refl desk.fonts

theorem keeps_color (library : StyleLibrary) (value : String) : (Resolving.color library value).Keeps := by
  intro desk
  rw [Resolving.color]
  cases library.color? value with
  | none => exact .refl desk.fonts
  | some color => exact .refl desk.fonts

theorem keeps_font (keeps : library.KeepsFonts) (value : String) : (Resolving.font library value).Keeps := by
  intro desk
  have kept := FontRegistry.extends_resolve keeps desk.fonts value
  rw [outcome_font]
  rcases ended : desk.fonts.resolve value library with ⟨cause | ⟨name, records⟩, fonts⟩
  · rwa [ended] at kept
  · rwa [ended] at kept

end

end Resolving

/-! ## Configurations -/

section

variable {library : StyleLibrary} (keeps : library.KeepsFonts)

include keeps

/-- **A configuration that is resolved**, or fails to be, takes no font out of the registry. -/
theorem Config.keeps_resolve (c : Config) : (c.resolve library).Keeps := by
  unfold Config.resolve
  apply (Resolving.keeps_color library c.color).bind
  intro color
  apply (Resolving.keeps_font keeps c.textFont).bind
  intro text
  apply (Resolving.keeps_font keeps c.headingFont).bind
  intro heading
  apply (Resolving.keeps_font keeps c.monoFont).bind
  intro mono
  apply (Resolving.keeps_font keeps c.mathFont).bind
  intro math
  apply (Resolving.keeps_log _).bind
  intro _
  exact .pure _

omit keeps in
/-- The fonts of a style. -/
def Style.fonts (style : Style) : List String := [style.textFont, style.headingFont, style.monoFont, style.mathFont]

/-- **The fonts of a style** are all registered when it has been resolved. -/
theorem Config.registered_of_resolveOn {c : Config} {style : Style} {desk left : Desk}
    (h : c.resolveOn desk library = (.ok style, left)) : ∀ font ∈ style.fonts, left.fonts.contains font = true := by
  obtain ⟨color, text, heading, mono, math, desk₁, desk₂, desk₃, desk₄, -, h₁, h₂, h₃, h₄, last, rfl⟩ :=
    Config.exists_of_resolveOn h
  -- each font stays while the ones after it are looked up
  have kept₂ : desk₂.fonts.Extends desk₁.fonts := by
    have kept := Resolving.keeps_font keeps c.headingFont desk₁
    rwa [h₂] at kept
  have kept₃ : desk₃.fonts.Extends desk₂.fonts := by
    have kept := Resolving.keeps_font keeps c.monoFont desk₂
    rwa [h₃] at kept
  have kept₄ : desk₄.fonts.Extends desk₃.fonts := by
    have kept := Resolving.keeps_font keeps c.mathFont desk₃
    rwa [h₄] at kept
  rw [last]
  intro font mem
  have one : font = text ∨ font = heading ∨ font = mono ∨ font = math := by
    simpa [Style.fonts, Config.styleWith] using mem
  rcases one with rfl | rfl | rfl | rfl
  · exact ((kept₂.trans kept₃).trans kept₄) _ (Resolving.registered_of_font keeps h₁)
  · exact (kept₃.trans kept₄) _ (Resolving.registered_of_font keeps h₂)
  · exact kept₄ _ (Resolving.registered_of_font keeps h₃)
  · exact Resolving.registered_of_font keeps h₄

end

/-! ## Histories -/

/-- A configuration to be resolved, and the library as it is then. -/
structure Resolution where
  config : Config
  library : StyleLibrary := .usual

/-- What comes of a configuration at a desk. -/
def Resolution.outcome (resolution : Resolution) (desk : Desk) : Except ConfigError Style × Desk :=
  resolution.config.resolveOn desk resolution.library

/-- The desk after a history of configurations, some of which may have failed. -/
def Desk.after (desk : Desk) : List Resolution → Desk
  | [] => desk
  | resolution :: history => (resolution.outcome desk).2.after history

/-- **No history takes out a font.** -/
theorem Desk.extends_after (desk : Desk) {history : List Resolution}
    (keeps : ∀ resolution ∈ history, resolution.library.KeepsFonts) :
    (desk.after history).fonts.Extends desk.fonts := by
  induction history generalizing desk with
  | nil => exact .refl desk.fonts
  | cons resolution history ih =>
      obtain ⟨first, later⟩ := List.forall_mem_cons.mp keeps
      have kept : (resolution.outcome desk).2.fonts.Extends desk.fonts := Config.keeps_resolve first resolution.config desk
      exact kept.trans (ih (resolution.outcome desk).2 later)

end SlidePress
