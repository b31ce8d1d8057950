import Mathlib.Data.List.Basic
import SlidePress.Config.Validate

/-!
# `SlidePress.Proofs.Config.Accepted` — which configurations are accepted

Checking gathers the problems of all settings, so a configuration is accepted when none of its settings has one. Then
each setting is its default or what its own check made of the value that it was given (`ofMembers_eq_ok_iff`), and what
the check makes sure of holds of it, if it holds of the default (`given_satisfies`). A configuration that is refused has
problems, and each of them says which member it was found in (`problems_of_ofMembers`).
-/

namespace SlidePress

/-- The size passes the check of sizes: it is not zero or less, which is not to say that it is greater. -/
def Size.Accepted : Size → Prop
  | .auto => True
  | .points x => ¬ x ≤ 0

namespace Config

variable {members : Members} {c : Config}

/-! ## Values with their problems -/

section

variable {α β : Type}

theorem Checked.bind_eq_mk_nil_iff {x : Checked α} {f : α → Checked β} {b : β} :
    x >>= f = ⟨b, []⟩ ↔ ∃ a, x = ⟨a, []⟩ ∧ f a = ⟨b, []⟩ := by
  obtain ⟨value, problems⟩ := x
  have both : (⟨value, problems⟩ : Checked α) >>= f = ⟨(f value).value, problems ++ (f value).problems⟩ := rfl
  rw [both, Checked.mk.injEq, List.append_eq_nil_iff]
  constructor
  · rintro ⟨rfl, rfl, none_⟩
    refine ⟨value, rfl, ?_⟩
    rw [← none_]
  · rintro ⟨a, checked, last⟩
    obtain ⟨rfl, rfl⟩ := Checked.mk.inj checked
    rw [last]
    exact ⟨rfl, rfl, rfl⟩

end

/-! ## Settings -/

/-- The configuration in which nothing is given. -/
def standard : Config := {}

/-- The members give a configuration: each setting is what they say of it, and they say nothing that is a problem. -/
structure Gives (members : Members) (c : Config) : Prop where
  title : givenText members .title standard.title = ⟨c.title, []⟩
  subtitle : givenText members .subtitle standard.subtitle = ⟨c.subtitle, []⟩
  shortTitle : givenText members .shortTitle standard.shortTitle = ⟨c.shortTitle, []⟩
  author : givenText members .author standard.author = ⟨c.author, []⟩
  shortAuthor : givenText members .shortAuthor standard.shortAuthor = ⟨c.shortAuthor, []⟩
  institute : givenText members .institute standard.institute = ⟨c.institute, []⟩
  shortInstitute : givenText members .shortInstitute standard.shortInstitute = ⟨c.shortInstitute, []⟩
  date : givenText members .date standard.date = ⟨c.date, []⟩
  color : givenText members .color standard.color = ⟨c.color, []⟩
  fontSize : given members .fontSize standard.fontSize (positiveOf · standard.fontSize) = ⟨c.fontSize, []⟩
  textFont : givenText members .textFont standard.textFont = ⟨c.textFont, []⟩
  headingFont : givenText members .headingFont standard.headingFont = ⟨c.headingFont, []⟩
  monoFont : givenText members .monoFont standard.monoFont = ⟨c.monoFont, []⟩
  mathFont : givenText members .mathFont standard.mathFont = ⟨c.mathFont, []⟩
  headingSize : given members .headingSize standard.headingSize sizeOf = ⟨c.headingSize, []⟩
  monoSize : given members .monoSize standard.monoSize sizeOf = ⟨c.monoSize, []⟩
  chromeSize : given members .chromeSize standard.chromeSize sizeOf = ⟨c.chromeSize, []⟩
  aspectRatio : given members .aspectRatio standard.aspectRatio ratioOf = ⟨c.aspectRatio, []⟩

theorem checkSettings_eq_mk_nil_iff : checkSettings members = ⟨c, []⟩ ↔ Gives members c := by
  simp only [checkSettings, Checked.bind_eq_mk_nil_iff]
  constructor
  · rintro ⟨title, h₁, subtitle, h₂, shortTitle, h₃, author, h₄, shortAuthor, h₅, institute, h₆, shortInstitute, h₇,
      date, h₈, color, h₉, fontSize, h₁₀, textFont, h₁₁, headingFont, h₁₂, monoFont, h₁₃, mathFont, h₁₄,
      headingSize, h₁₅, monoSize, h₁₆, chromeSize, h₁₇, aspectRatio, h₁₈, last⟩
    cases last
    exact ⟨h₁, h₂, h₃, h₄, h₅, h₆, h₇, h₈, h₉, h₁₀, h₁₁, h₁₂, h₁₃, h₁₄, h₁₅, h₁₆, h₁₇, h₁₈⟩
  · intro h
    exact ⟨_, h.title, _, h.subtitle, _, h.shortTitle, _, h.author, _, h.shortAuthor, _, h.institute,
      _, h.shortInstitute, _, h.date, _, h.color, _, h.fontSize, _, h.textFont, _, h.headingFont, _, h.monoFont,
      _, h.mathFont, _, h.headingSize, _, h.monoSize, _, h.chromeSize, _, h.aspectRatio, rfl⟩

/-- **A configuration is accepted** if the members give it and nothing else. -/
theorem ofMembers_eq_ok_iff : ofMembers members = .ok c ↔ Gives members c ∧ unknownKeys members = [] := by
  rw [← checkSettings_eq_mk_nil_iff, ofMembers]
  obtain ⟨value, problems⟩ := checkSettings members
  rcases problems with _ | ⟨problem, problems⟩
  · cases unknownKeys members with
    | nil => simp
    | cons key keys => simp
  · simp

/-! ## Numbers -/

/-- What holds of the default and of what is checked holds of the setting. -/
theorem given_satisfies {α : Type} {P : α → Prop} {s : Setting} {default a : α} {check : String → Json → Checked α}
    (h : given members s default check = ⟨a, []⟩) (standard_ : P default)
    (checked : ∀ key value, check key value = ⟨a, []⟩ → P a) : P a := by
  rw [given] at h
  split at h
  · cases h
    exact standard_
  · next key value _ => exact checked key value h

theorem pos_of_positiveOf {key : String} {default x : Float} {value : Json}
    (h : positiveOf key default value = ⟨x, []⟩) : 0 < x := by
  rw [positiveOf] at h
  split at h
  · cases h
  · split at h
    · next positive =>
      cases h
      exact positive
    · cases h

theorem accepted_of_pointsOf {key : String} {value : Json} {size : Size} (h : pointsOf key value = ⟨size, []⟩) :
    size.Accepted := by
  rw [pointsOf] at h
  split at h
  · cases h
  · split at h
    · cases h
    · next above =>
      cases h
      exact above

theorem accepted_of_sizeOf {key : String} {value : Json} {size : Size} (h : sizeOf key value = ⟨size, []⟩) :
    size.Accepted := by
  rw [sizeOf.eq_def] at h
  split at h
  · split at h
    · cases h
      trivial
    · exact accepted_of_pointsOf h
  · exact accepted_of_pointsOf h

/-- The sizes of a configuration are checked. -/
structure Sized (c : Config) : Prop where
  fontSize : 0 < c.fontSize
  headingSize : c.headingSize.Accepted
  monoSize : c.monoSize.Accepted
  chromeSize : c.chromeSize.Accepted

/-- **The sizes of an accepted configuration** are checked, also those that it does not give. -/
theorem sized_of_ofMembers (h : ofMembers members = .ok c) : c.Sized := by
  obtain ⟨gives, -⟩ := ofMembers_eq_ok_iff.mp h
  have size {s : Setting} {size : Size} (checked : given members s .auto sizeOf = ⟨size, []⟩) : size.Accepted :=
    given_satisfies checked trivial fun _ _ => accepted_of_sizeOf
  have standard_ : 0 < standard.fontSize := by decide +kernel
  exact ⟨given_satisfies gives.fontSize standard_ fun _ _ => pos_of_positiveOf, size gives.headingSize,
    size gives.monoSize, size gives.chromeSize⟩

/-! ## Problems -/

/-- The problems of a value are found under one of the keys. -/
def Checked.Names {α : Type} (keys : List String) (x : Checked α) : Prop :=
  ∀ p ∈ x.problems, ∃ key ∈ keys, p.place.head? = some key

section

variable {α β : Type} {keys : List String}

theorem Checked.Names.pure (a : α) : (pure a : Checked α).Names keys := nofun

theorem Checked.Names.bind {x : Checked α} {f : α → Checked β} (hx : x.Names keys) (hf : ∀ a, (f a).Names keys) :
    (x >>= f).Names keys := by
  intro p mem
  rcases List.mem_append.mp mem with first | second
  · exact hx p first
  · exact hf x.value p second

end

section

variable (key : String) (value : Json)

theorem textOf_names (default : String) : (textOf key default value).Names [key] := by
  unfold textOf Checked.Names
  split <;> simp

theorem positiveOf_names (default : Float) : (positiveOf key default value).Names [key] := by
  unfold positiveOf Checked.Names
  split
  · simp
  · split <;> simp

theorem sizeOf_names : (sizeOf key value).Names [key] := by
  have points : (pointsOf key value).Names [key] := by
    unfold pointsOf Checked.Names
    split
    · simp
    · split <;> simp
  rw [sizeOf.eq_def]
  split
  · split
    · nofun
    · exact points
  · exact points

theorem ratioOf_names : (ratioOf key value).Names [key] := by
  unfold ratioOf Checked.Names
  split
  · split <;> simp
  · simp

end

theorem mem_keys_of_get? {key : String} {value : Json} (h : members.get? key = some value) :
    key ∈ members.map (·.1) := by
  induction members with
  | nil => cases h
  | cons first members ih =>
      rw [Members.get?] at h
      split at h
      · next same => exact same ▸ List.mem_cons_self
      · exact List.mem_cons_of_mem _ (ih h)

/-- The key that a setting is given under is one of the members'. -/
theorem mem_keys_of_lookup? {s : Setting} {key : String} {value : Json} (h : s.lookup? members = some (key, value)) :
    key ∈ members.map (·.1) := by
  rw [Setting.lookup?] at h
  split at h
  · next found =>
    cases h
    exact mem_keys_of_get? found
  · obtain ⟨value', found, same⟩ := Option.map_eq_some_iff.mp h
    cases same
    exact mem_keys_of_get? found

/-- A setting has the problems of the member that gives it. -/
theorem given_names {α : Type} {s : Setting} {default : α} {check : String → Json → Checked α}
    (h : ∀ key value, (check key value).Names [key]) : (given members s default check).Names (members.map (·.1)) := by
  intro p mem
  rw [given] at mem
  split at mem
  · cases mem
  · next key value found =>
    obtain ⟨key', same, place⟩ := h key value p mem
    rw [List.mem_singleton.mp same] at place
    exact ⟨key, mem_keys_of_lookup? found, place⟩

theorem checkSettings_names : (checkSettings members).Names (members.map (·.1)) := by
  have text (s : Setting) (default : String) : (givenText members s default).Names (members.map (·.1)) :=
    given_names fun key value => textOf_names key value default
  have size (s : Setting) : (given members s .auto sizeOf).Names (members.map (·.1)) := given_names sizeOf_names
  unfold checkSettings
  iterate 9 refine .bind (text _ _) fun _ => ?_
  refine .bind (given_names fun key value => positiveOf_names key value _) fun _ => ?_
  iterate 4 refine .bind (text _ _) fun _ => ?_
  iterate 3 refine .bind (size _) fun _ => ?_
  exact .bind (given_names ratioOf_names) fun _ => .pure _

/-- **A configuration that is refused** has a problem, and every problem is found under a key that the members have. -/
theorem problems_of_ofMembers {e : Invalid} (h : ofMembers members = .error e) :
    e.problems ≠ [] ∧ ∀ p ∈ e.problems, ∃ key ∈ members.map (·.1), p.place.head? = some key := by
  rw [ofMembers] at h
  split at h
  · cases h
  · next some_ =>
    cases h
    refine ⟨by simpa using some_, fun p mem => ?_⟩
    rcases List.mem_append.mp mem with checked | unknown
    · exact checkSettings_names p checked
    · obtain ⟨key, inside, rfl⟩ := List.mem_map.mp unknown
      exact ⟨key, List.mem_of_mem_filter inside, rfl⟩

end Config

end SlidePress
