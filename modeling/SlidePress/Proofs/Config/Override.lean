import SlidePress.Proofs.Config.Accepted
import Mathlib.Data.List.Nodup

/-!
# `SlidePress.Proofs.Config.Override` — configurations with some settings given anew

Overriding writes a configuration out, sets some of its members and checks all of them again. What comes out is the
configuration with these settings and no others changed. Three things can go wrong on the way, and none of them does.

- A member could be missed, or be unknown, because every setting has two names. A configuration is written under one of
  them, and no authored name is the plain name of another setting (`eq_of_authoredName_eq`), so members under plain names
  are found there (`Named.lookup?`) and none of them is unknown (`Named.unknownKeys`).
- The members that are set could disturb others. Each setting has the last value that it was set to, or the one that it
  had (`get?_overlay`).
- Checking again could refuse what was accepted, or make something else of it. The values of an accepted configuration
  pass their own checks unchanged, because its sizes do (`ofMembers_of_named`).

## Contents
- `Setting.mem_all`, `Setting.name_injective`, `Setting.eq_of_authoredName_eq`: names.
- `Members.Named`, `Named.lookup?`, `Named.unknownKeys`, `Named.overlay`: members under plain names.
- `Members.ofSettings`, `get?_ofSettings`, `named_ofSettings`, `nodup_ofSettings`: members for some settings.
- `Json.given?`, `get?_overlay`: members that are set.
- `get?_members`, `ofMembers_of_named`: a configuration, written and checked again.
- `withOverrides_of_get`: a configuration with some settings given anew.
- `get_of_ofMembers`: texts and page shapes, which are as the members give them.
-/

namespace SlidePress

/-! ## Names -/

namespace Setting

theorem mem_all (s : Setting) : s ∈ all := by
  cases s <;> decide

theorem name_injective {s t : Setting} (h : s.name = t.name) : s = t := by
  have all_ : ∀ s ∈ all, ∀ t ∈ all, s.name = t.name → s = t := by decide +kernel
  exact all_ s s.mem_all t t.mem_all h

/-- The value that members give a setting, under its authored name or else under the plain one. -/
def value? (s : Setting) (members : Members) : Option Json := (s.lookup? members).map (·.2)

/-- **No authored name is the name of another setting.** -/
theorem eq_of_authoredName_eq {s t : Setting} (h : s.authoredName = t.name) : s = t := by
  have all_ : ∀ s ∈ all, ∀ t ∈ all, s.authoredName = t.name → s = t := by decide +kernel
  exact all_ s s.mem_all t t.mem_all h

end Setting

/-! ## Sizes and page shapes, written -/

theorem Size.toJson_injective (x y : Size) (h : x.toJson = y.toJson) : x = y := by
  cases x with
  | auto =>
      cases y with
      | auto => rfl
      | points _ => cases h
  | points a =>
      cases y with
      | auto => cases h
      | points b => rw [Number.float.inj (Json.num.inj h)]

theorem AspectRatio.toJson_injective (x y : AspectRatio) (h : Json.str x.name = Json.str y.name) : x = y := by
  cases x <;> cases y
  · rfl
  · exact absurd (Json.str.inj h) (by decide)
  · exact absurd (Json.str.inj h) (by decide)
  · rfl

theorem AspectRatio.name_of_ofName? {name : String} {ratio : AspectRatio} (h : ofName? name = some ratio) :
    ratio.name = name := by
  have named := List.find?_some h
  exact of_decide_eq_true named

/-! ## Members under plain names -/

namespace Members

variable {members : Members}

theorem exists_get?_of_mem {key : String} (h : key ∈ members.map (·.1)) : ∃ value, members.get? key = some value := by
  induction members with
  | nil => cases h
  | cons first members ih =>
      rw [Members.get?]
      split
      · exact ⟨first.2, rfl⟩
      · next other =>
        rcases List.mem_cons.mp h with same | later
        · exact absurd same.symm other
        · exact ih later

/-- Every member is under the plain name of a setting. -/
def Named (members : Members) : Prop := ∀ key ∈ members.map (·.1), ∃ s : Setting, key = s.name

namespace Named

variable (named : members.Named)
include named

/-- **A setting is looked up** under its plain name. -/
theorem lookup? (s : Setting) : s.lookup? members = (members.get? s.name).map (s.name, ·) := by
  rw [Setting.lookup?]
  split
  · next value found =>
    -- a member under the authored name is under a plain one as well, so the two names are the same
    obtain ⟨t, same⟩ := named s.authoredName (Config.mem_keys_of_get? found)
    obtain rfl := Setting.eq_of_authoredName_eq same
    rw [same] at found ⊢
    rw [found]
    rfl
  · rfl

/-- **No member is unknown.** -/
theorem unknownKeys : Config.unknownKeys members = [] := by
  rw [Config.unknownKeys]
  apply List.filter_eq_nil_iff.mpr
  intro key mem unknown
  obtain ⟨s, rfl⟩ := named key mem
  obtain ⟨value, found⟩ := exists_get?_of_mem mem
  have used : s.name ∈ Setting.all.filterMap fun s => (s.lookup? members).map (·.1) := by
    refine List.mem_filterMap.mpr ⟨s, s.mem_all, ?_⟩
    rw [named.lookup? s, found]
    rfl
  simp [used] at unknown

end Named

/-! ## Members for some settings -/

section

variable (value : Setting → Option Json)

/-- The members for those of some settings that have a value. -/
def ofSettings (settings : List Setting) : Members :=
  settings.flatMap fun s => ((value s).map fun given => (s.name, given)).toList

theorem ofSettings_cons (first : Setting) (settings : List Setting) :
    ofSettings value (first :: settings) =
      ((value first).map fun given => (first.name, given)).toList ++ ofSettings value settings :=
  List.flatMap_cons

/-- **A setting is under its name** where it has a value. -/
theorem get?_ofSettings (s : Setting) (settings : List Setting) :
    (ofSettings value settings).get? s.name = if s ∈ settings then value s else none := by
  induction settings with
  | nil => rfl
  | cons first settings ih =>
      rw [ofSettings_cons]
      by_cases same : s = first
      · subst same
        rw [if_pos List.mem_cons_self]
        cases given : value s with
        | none =>
            show (ofSettings value settings).get? s.name = none
            rw [ih, given, ite_self]
        | some given => exact if_pos rfl
      · -- the first setting is another one, so its member, if there is one, is passed over
        have later : (ofSettings value settings).get? s.name = if s ∈ first :: settings then value s else none := by
          have mem : s ∈ first :: settings ↔ s ∈ settings := by rw [List.mem_cons, or_iff_right same]
          rw [ih]
          exact (if_congr mem rfl rfl).symm
        cases value first with
        | none => exact later
        | some given =>
            rw [← later]
            exact if_neg fun named => same (Setting.name_injective named).symm

/-- The keys are the names of the settings that have a value. -/
theorem keys_ofSettings (settings : List Setting) :
    (ofSettings value settings).map (·.1) = (settings.filter fun s => (value s).isSome).map Setting.name := by
  induction settings with
  | nil => rfl
  | cons first settings ih =>
      rw [ofSettings_cons, List.map_append, ih, List.filter_cons]
      cases value first <;> rfl

theorem named_ofSettings (settings : List Setting) : (ofSettings value settings).Named := by
  intro key mem
  rw [keys_ofSettings] at mem
  obtain ⟨s, -, rfl⟩ := List.mem_map.mp mem
  exact ⟨s, rfl⟩

theorem nodup_ofSettings {settings : List Setting} (nodup : settings.Nodup) :
    ((ofSettings value settings).map (·.1)).Nodup := by
  rw [keys_ofSettings]
  exact (nodup.filter _).map fun _ _ => Setting.name_injective

end

/-! ## Members that are set -/

theorem mem_keys_of_put {key other : String} {value : Json} (h : other ∈ (members.put key value).map (·.1)) :
    other = key ∨ other ∈ members.map (·.1) := by
  induction members with
  | nil => exact .inl (List.mem_singleton.mp h)
  | cons first members ih =>
      rw [put] at h
      split at h
      · exact .inr h
      · rcases List.mem_cons.mp h with rfl | later
        · exact .inr List.mem_cons_self
        · exact (ih later).imp_right (List.mem_cons_of_mem first.1)

/-- Members under plain names stay so where one is set. -/
theorem Named.put (named : members.Named) (s : Setting) (value : Json) : (members.put s.name value).Named := by
  intro key mem
  rcases mem_keys_of_put mem with rfl | old
  · exact ⟨s, rfl⟩
  · exact named key old

end Members

/-- What a member sets: null sets nothing. -/
def Json.given? : Json → Option Json
  | .null => none
  | value => some value

namespace Config

variable {members overrides : Members}

theorem overlay_cons (key : String) (value : Json) :
    overlay members ((key, value) :: overrides) =
      overlay ((value.given?.map (members.put key)).getD members) overrides := by
  cases value <;> rfl

/-- **Members under plain names** stay so where others are set. -/
theorem named_overlay (named : members.Named) (set : overrides.Named) : (overlay members overrides).Named := by
  induction overrides generalizing members with
  | nil => exact named
  | cons first overrides ih =>
      obtain ⟨key, value⟩ := first
      obtain ⟨s, rfl⟩ := set key List.mem_cons_self
      rw [overlay_cons]
      refine ih ?_ fun other mem => set other (List.mem_cons_of_mem _ mem)
      cases value.given? with
      | none => exact named
      | some value => exact named.put s value

/-- **What is under a key afterwards**: what was set, or else what was there. -/
theorem get?_overlay (keys : (overrides.map (·.1)).Nodup) (key : String) :
    (overlay members overrides).get? key = ((overrides.get? key).bind Json.given?).or (members.get? key) := by
  induction overrides generalizing members with
  | nil => rfl
  | cons first overrides ih =>
      obtain ⟨k, value⟩ := first
      obtain ⟨new, keys⟩ := List.nodup_cons.mp keys
      rw [overlay_cons, ih keys, Members.get?]
      split
      · next same =>
        -- no later member sets this key again
        subst same
        have later : Members.get? k overrides = none := by
          cases found : Members.get? k overrides with
          | none => rfl
          | some other => exact absurd (mem_keys_of_get? found) new
        rw [later]
        show (((value.given?.map (members.put k)).getD members).get? k) = value.given?.or (members.get? k)
        cases value.given? with
        | none => rfl
        | some value => exact Members.get?_put_self k value members
      · next other =>
        cases value.given? with
        | none => rfl
        | some value => rw [Option.map_some, Option.getD_some, Members.get?_put_of_ne (Ne.symm other)]

/-! ## Writing and checking again -/

variable {c : Config}

theorem named_members (c : Config) : c.members.Named := by
  intro key mem
  obtain ⟨member, inside, rfl⟩ := List.mem_map.mp mem
  obtain ⟨s, -, rfl⟩ := List.mem_map.mp inside
  exact ⟨s, rfl⟩

/-- **Each setting is written** with its value. -/
theorem get?_members (c : Config) (s : Setting) : c.members.get? s.name = some (c.get s) := by
  have found : ∀ settings : List Setting, s ∈ settings →
      Members.get? s.name (settings.map fun s => (s.name, c.get s)) = some (c.get s) := by
    intro settings mem
    induction settings with
    | nil => cases mem
    | cons first settings ih =>
        rw [List.map_cons, Members.get?]
        split
        · next same => rw [Setting.name_injective same]
        · next other =>
          rcases List.mem_cons.mp mem with rfl | later
          · exact absurd rfl other
          · exact ih later
  exact found Setting.all s.mem_all

section

variable {α : Type} {s : Setting} {default a : α} {check : String → Json → Checked α}

/-- A setting whose value is what its check lets pass, or its default where it is not given. -/
theorem given_of_get (named : members.Named) (toJson : α → Json) (inj : ∀ x y, toJson x = toJson y → x = y)
    (passes : ∀ key, check key (toJson a) = ⟨a, []⟩)
    (h : (members.get? s.name).getD (toJson default) = toJson a) : given members s default check = ⟨a, []⟩ := by
  rw [given, named.lookup? s]
  cases found : members.get? s.name with
  | none =>
      rw [found] at h
      rw [inj default a h]
      rfl
  | some value =>
      rw [found] at h
      obtain rfl : value = toJson a := h
      exact passes s.name

end

/-- A size that passes its check is read from what it is written as. -/
theorem sizeOf_toJson {size : Size} (accepted : size.Accepted) (key : String) : sizeOf key size.toJson = ⟨size, []⟩ := by
  cases size with
  | auto => rfl
  | points x =>
      show pointsOf key (.num (.float x)) = _
      rw [pointsOf, floatOf]
      exact if_neg accepted

theorem ratioOf_name (key : String) (ratio : AspectRatio) : ratioOf key (.str ratio.name) = ⟨ratio, []⟩ := by
  cases ratio <;> rfl

/-- **Members under plain names** whose values are those of a configuration, or left out where they are the defaults,
give this configuration. -/
theorem ofMembers_of_named (named : members.Named) (sized : c.Sized)
    (h : ∀ s : Setting, (members.get? s.name).getD (standard.get s) = c.get s) : ofMembers members = .ok c := by
  have text {s : Setting} {default text : String} (h : (members.get? s.name).getD (.str default) = .str text) :
      givenText members s default = ⟨text, []⟩ :=
    given_of_get named Json.str (fun _ _ => Json.str.inj) (fun _ => rfl) h
  have number (h : (members.get? Setting.fontSize.name).getD (.num (.float standard.fontSize)) = .num (.float c.fontSize)) :
      given members .fontSize standard.fontSize (positiveOf · standard.fontSize) = ⟨c.fontSize, []⟩ :=
    given_of_get named (fun x => .num (.float x)) (fun _ _ same => Number.float.inj (Json.num.inj same))
      (fun _ => if_pos sized.fontSize) h
  have size {s : Setting} {size : Size} (accepted : size.Accepted)
      (h : (members.get? s.name).getD (Size.toJson .auto) = size.toJson) : given members s .auto sizeOf = ⟨size, []⟩ :=
    given_of_get named Size.toJson Size.toJson_injective (sizeOf_toJson accepted) h
  have ratio {s : Setting} (h : (members.get? s.name).getD (.str standard.aspectRatio.name) = .str c.aspectRatio.name) :
      given members s standard.aspectRatio ratioOf = ⟨c.aspectRatio, []⟩ :=
    given_of_get named (fun ratio => .str ratio.name) AspectRatio.toJson_injective (fun key => ratioOf_name key c.aspectRatio) h
  refine ofMembers_eq_ok_iff.mpr ⟨?_, named.unknownKeys⟩
  -- every setting passes its own check: one number, three sizes, the page shape, and texts
  constructor
  case fontSize => exact number (h .fontSize)
  case headingSize => exact size sized.headingSize (h .headingSize)
  case monoSize => exact size sized.monoSize (h .monoSize)
  case chromeSize => exact size sized.chromeSize (h .chromeSize)
  case aspectRatio => exact ratio (h .aspectRatio)
  all_goals exact text (h _)

/-- **A configuration with some settings given anew** is accepted, if these settings make a configuration with sizes that
pass their checks: each is what it was set to, or what it was. -/
theorem withOverrides_of_get {given : Members} (set : given.Named) (keys : (given.map (·.1)).Nodup) (c : Config)
    {new : Config} (sized : new.Sized)
    (h : ∀ s : Setting, new.get s = ((given.get? s.name).bind Json.given?).getD (c.get s)) :
    c.withOverrides given = .ok new := by
  refine ofMembers_of_named (named_overlay (named_members c) set) sized fun s => ?_
  rw [get?_overlay keys, get?_members, h s]
  cases (given.get? s.name).bind Json.given? <;> rfl

/-! ## Texts and page shapes -/

/-- Settings whose value is kept as it is given: texts and the page shape. A number is read, so it may be given as a
text. -/
def Verbatim (s : Setting) : Prop := s ∉ [Setting.fontSize, .headingSize, .monoSize, .chromeSize]

instance : DecidablePred Verbatim := fun s =>
  inferInstanceAs (Decidable (s ∉ [Setting.fontSize, .headingSize, .monoSize, .chromeSize]))

/-- A setting that is checked for being written as it is has the value that it is given, or its default. -/
theorem get_of_given {α : Type} {s : Setting} {default a : α} {check : String → Json → Checked α} (toJson : α → Json)
    (plain : ∀ key value, check key value = ⟨a, []⟩ → value = toJson a)
    (h : given members s default check = ⟨a, []⟩) : toJson a = (s.value? members).getD (toJson default) := by
  rw [given] at h
  rw [Setting.value?]
  split at h
  · next missing =>
    cases h
    rw [missing]
    rfl
  · next key value found =>
    rw [found]
    exact (plain key value h).symm

theorem eq_str_of_textOf {key default text : String} {value : Json} (h : textOf key default value = ⟨text, []⟩) :
    value = .str text := by
  cases value with
  | str s => rw [(Checked.mk.inj h).1]
  | _ => cases (Checked.mk.inj h).2

theorem eq_str_of_ratioOf {key : String} {value : Json} {ratio : AspectRatio} (h : ratioOf key value = ⟨ratio, []⟩) :
    value = .str ratio.name := by
  cases value with
  | str name =>
      rw [ratioOf] at h
      split at h
      · next named =>
        obtain rfl := (Checked.mk.inj h).1
        rw [AspectRatio.name_of_ofName? named]
      · cases (Checked.mk.inj h).2
  | _ => cases (Checked.mk.inj h).2

/-- **Texts and page shapes** of an accepted configuration are as the members give them, or else the defaults. -/
theorem get_of_ofMembers (h : ofMembers members = .ok c) {s : Setting} (verbatim : Verbatim s) :
    c.get s = (s.value? members).getD (standard.get s) := by
  obtain ⟨gives, -⟩ := ofMembers_eq_ok_iff.mp h
  have text {s : Setting} {default text : String} (h : givenText members s default = ⟨text, []⟩) :
      .str text = (s.value? members).getD (.str default) := get_of_given Json.str (fun _ _ => eq_str_of_textOf) h
  cases s with
  | title => exact text gives.title
  | subtitle => exact text gives.subtitle
  | shortTitle => exact text gives.shortTitle
  | author => exact text gives.author
  | shortAuthor => exact text gives.shortAuthor
  | institute => exact text gives.institute
  | shortInstitute => exact text gives.shortInstitute
  | date => exact text gives.date
  | color => exact text gives.color
  | textFont => exact text gives.textFont
  | headingFont => exact text gives.headingFont
  | monoFont => exact text gives.monoFont
  | mathFont => exact text gives.mathFont
  | aspectRatio => exact get_of_given (fun ratio => .str ratio.name) (fun _ _ => eq_str_of_ratioOf) gives.aspectRatio
  | fontSize => exact absurd verbatim (by decide)
  | headingSize => exact absurd verbatim (by decide)
  | monoSize => exact absurd verbatim (by decide)
  | chromeSize => exact absurd verbatim (by decide)

end Config

end SlidePress
