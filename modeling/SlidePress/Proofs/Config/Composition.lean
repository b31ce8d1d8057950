import SlidePress.Proofs.Config.Override
import SlidePress.Proofs.Outcome

/-!
# `SlidePress.Proofs.Config.Composition` — overriding twice

Overriding a configuration twice comes to overriding it once, with both overrides laid over each other. What makes this
a theorem is that the first result is written out and checked again: its values are no longer those that were given,
since a size may have been given as a text, a truth value or a whole number and is written as a double.

The two ways are compared setting by setting. A setting that the second overrides set has the same value in both. Any
other setting has different values, the one that was given and the one that was read from it, but both pass the check of
the setting with the same result, since a configuration gives itself (`gives_members`). So the two ways have the same
values and the same problems (`ofMembers_eq_of_given`), also where the second overrides are refused.
-/

namespace SlidePress

/-! ## Overrides -/

namespace Members

variable {members first second : Members}

/-- **Overrides**: members under the plain names of settings, each name once. -/
structure Overrides (members : Members) : Prop where
  named : members.Named
  keys : (members.map (·.1)).Nodup

/-- Each key is there once also where one is set. -/
theorem nodup_put {key : String} {value : Json} (keys : (members.map (·.1)).Nodup) :
    ((members.put key value).map (·.1)).Nodup := by
  induction members with
  | nil => exact List.nodup_singleton key
  | cons member members ih =>
      obtain ⟨new, keys⟩ := List.nodup_cons.mp keys
      rw [put]
      split
      · exact List.nodup_cons.mpr ⟨new, keys⟩
      · next other =>
        refine List.nodup_cons.mpr ⟨fun mem => ?_, ih keys⟩
        rcases mem_keys_of_put mem with same | old
        · exact other same
        · exact new old

end Members

theorem Json.given?_of_given? {value found : Json} (h : value.given? = some found) : found.given? = some found := by
  cases value with
  | null => cases h
  | _ => cases h; rfl

namespace Config

open Members

variable {members members' first second overrides : Members} {c c' : Config}

/-- Each key is there once also where several are set. -/
theorem nodup_overlay (keys : (members.map (·.1)).Nodup) : ((overlay members overrides).map (·.1)).Nodup := by
  induction overrides generalizing members with
  | nil => exact keys
  | cons member overrides ih =>
      rw [overlay_cons]
      apply ih
      cases member.2.given? with
      | none => exact keys
      | some value => exact nodup_put keys

/-- **Overrides laid over overrides** are overrides. -/
theorem overrides_overlay (h : first.Overrides) (h' : second.Overrides) : (overlay first second).Overrides :=
  ⟨named_overlay h.named h'.named, nodup_overlay h.keys⟩

/-- **What they set**: what the second ones set, or else what the first ones do. -/
theorem get?_overlay_overlay (h : first.Overrides) (h' : second.Overrides) (key : String) :
    (overlay members (overlay first second)).get? key =
      ((second.get? key).bind Json.given?).or ((overlay members first).get? key) := by
  rw [get?_overlay (overrides_overlay h h').keys, get?_overlay h.keys, get?_overlay h'.keys]
  cases set : (second.get? key).bind Json.given? with
  | none => rfl
  | some value =>
      obtain ⟨raw, -, given⟩ := Option.bind_eq_some_iff.mp set
      rw [Option.some_or, Option.some_or, Option.bind_some, Json.given?_of_given? given, Option.some_or]

/-! ## Members that give the same -/

section

variable {α : Type} {s : Setting} {default : α} {check : String → Json → Checked α}

/-- **A setting with the same value** in two lists of members is checked alike. -/
theorem given_eq_of_get? (named : members.Named) (named' : members'.Named)
    (same : members.get? s.name = members'.get? s.name) :
    given members s default check = given members' s default check := by
  rw [given, given, named.lookup? s, named'.lookup? s, same]

end

/-- **A configuration gives itself**, if its sizes pass their checks. -/
theorem gives_members (sized : c.Sized) : Gives c.members c := by
  have again : ofMembers c.members = .ok c :=
    ofMembers_of_named (named_members c) sized fun s => by rw [get?_members, Option.getD_some]
  exact (ofMembers_eq_ok_iff.mp again).1

/-- **Two lists of members have the same outcome** if all their settings are checked alike. This has to be known only of
settings of which two others say the same, where both of those give one configuration. -/
theorem ofMembers_eq_of_given {base base' : Members} (named : members.Named) (named' : members'.Named)
    (gives : Gives base c) (gives' : Gives base' c)
    (h : ∀ {α : Type} {s : Setting} {default a : α} {check : String → Json → Checked α},
      given base s default check = ⟨a, []⟩ → given base' s default check = ⟨a, []⟩ →
        given members s default check = given members' s default check) : ofMembers members = ofMembers members' := by
  have checked : checkSettings members = checkSettings members' := by
    unfold checkSettings
    refine congrArg₂ bind (h gives.title gives'.title) (funext fun _ => ?_)
    refine congrArg₂ bind (h gives.subtitle gives'.subtitle) (funext fun _ => ?_)
    refine congrArg₂ bind (h gives.shortTitle gives'.shortTitle) (funext fun _ => ?_)
    refine congrArg₂ bind (h gives.author gives'.author) (funext fun _ => ?_)
    refine congrArg₂ bind (h gives.shortAuthor gives'.shortAuthor) (funext fun _ => ?_)
    refine congrArg₂ bind (h gives.institute gives'.institute) (funext fun _ => ?_)
    refine congrArg₂ bind (h gives.shortInstitute gives'.shortInstitute) (funext fun _ => ?_)
    refine congrArg₂ bind (h gives.date gives'.date) (funext fun _ => ?_)
    refine congrArg₂ bind (h gives.color gives'.color) (funext fun _ => ?_)
    refine congrArg₂ bind (h gives.fontSize gives'.fontSize) (funext fun _ => ?_)
    refine congrArg₂ bind (h gives.textFont gives'.textFont) (funext fun _ => ?_)
    refine congrArg₂ bind (h gives.headingFont gives'.headingFont) (funext fun _ => ?_)
    refine congrArg₂ bind (h gives.monoFont gives'.monoFont) (funext fun _ => ?_)
    refine congrArg₂ bind (h gives.mathFont gives'.mathFont) (funext fun _ => ?_)
    refine congrArg₂ bind (h gives.headingSize gives'.headingSize) (funext fun _ => ?_)
    refine congrArg₂ bind (h gives.monoSize gives'.monoSize) (funext fun _ => ?_)
    refine congrArg₂ bind (h gives.chromeSize gives'.chromeSize) (funext fun _ => ?_)
    exact congrArg₂ bind (h gives.aspectRatio gives'.aspectRatio) rfl
  rw [ofMembers, ofMembers, checked, named.unknownKeys, named'.unknownKeys]

/-- **A setting with the same value** in two lists of members is the same in what they give. -/
theorem Gives.get_eq (gives : Gives members c) (gives' : Gives members' c') (named : members.Named)
    (named' : members'.Named) {s : Setting} (same : members.get? s.name = members'.get? s.name) : c.get s = c'.get s := by
  have one {α : Type} {default a b : α} {check : String → Json → Checked α}
      (ha : given members s default check = ⟨a, []⟩) (hb : given members' s default check = ⟨b, []⟩) : a = b := by
    rw [given_eq_of_get? named named' same, hb] at ha
    exact (Checked.mk.inj ha).1.symm
  cases s with
  | title => exact congrArg Json.str (one gives.title gives'.title)
  | subtitle => exact congrArg Json.str (one gives.subtitle gives'.subtitle)
  | shortTitle => exact congrArg Json.str (one gives.shortTitle gives'.shortTitle)
  | author => exact congrArg Json.str (one gives.author gives'.author)
  | shortAuthor => exact congrArg Json.str (one gives.shortAuthor gives'.shortAuthor)
  | institute => exact congrArg Json.str (one gives.institute gives'.institute)
  | shortInstitute => exact congrArg Json.str (one gives.shortInstitute gives'.shortInstitute)
  | date => exact congrArg Json.str (one gives.date gives'.date)
  | color => exact congrArg Json.str (one gives.color gives'.color)
  | fontSize => exact congrArg (fun x => Json.num (.float x)) (one gives.fontSize gives'.fontSize)
  | textFont => exact congrArg Json.str (one gives.textFont gives'.textFont)
  | headingFont => exact congrArg Json.str (one gives.headingFont gives'.headingFont)
  | monoFont => exact congrArg Json.str (one gives.monoFont gives'.monoFont)
  | mathFont => exact congrArg Json.str (one gives.mathFont gives'.mathFont)
  | headingSize => exact congrArg Size.toJson (one gives.headingSize gives'.headingSize)
  | monoSize => exact congrArg Size.toJson (one gives.monoSize gives'.monoSize)
  | chromeSize => exact congrArg Size.toJson (one gives.chromeSize gives'.chromeSize)
  | aspectRatio => exact congrArg (fun ratio => Json.str ratio.name) (one gives.aspectRatio gives'.aspectRatio)

/-! ## Overriding -/

theorem overlay_null (h : ∀ member ∈ overrides, member.2 = .null) : overlay members overrides = members := by
  induction overrides with
  | nil => rfl
  | cons member overrides ih =>
      obtain ⟨key, value⟩ := member
      obtain rfl : value = .null := h _ List.mem_cons_self
      rw [overlay_cons]
      exact ih fun other mem => h other (List.mem_cons_of_mem _ mem)

/-- **Overriding with nothing** changes nothing. -/
theorem withOverrides_null (sized : c.Sized) (h : ∀ member ∈ overrides, member.2 = .null) :
    c.withOverrides overrides = .ok c := by
  rw [withOverrides, overlay_null h]
  exact ofMembers_eq_ok_iff.mpr ⟨gives_members sized, (named_members c).unknownKeys⟩

/-- **Overriding twice** comes to overriding once, with the same problems where it is refused. -/
theorem withOverrides_withOverrides (h : first.Overrides) (h' : second.Overrides)
    (changed : c.withOverrides first = .ok c') :
    c'.withOverrides second = c.withOverrides (overlay first second) := by
  have both := overrides_overlay h h'
  have named := named_members c'
  have named' := named_overlay (named_members c) h.named
  have given_ : Gives (overlay c.members first) c' := (ofMembers_eq_ok_iff.mp changed).1
  refine ofMembers_eq_of_given (named_overlay named h'.named) (named_overlay (named_members c) both.named)
    (gives_members (sized_of_ofMembers changed)) given_ fun {α s default a check} again first_ => ?_
  have now : (overlay c'.members second).get? s.name =
      ((second.get? s.name).bind Json.given?).or (c'.members.get? s.name) := get?_overlay h'.keys s.name
  have once : (overlay c.members (overlay first second)).get? s.name =
      ((second.get? s.name).bind Json.given?).or ((overlay c.members first).get? s.name) :=
    get?_overlay_overlay h h' s.name
  cases set : (second.get? s.name).bind Json.given? with
  | some value =>
      rw [set, Option.some_or] at now once
      exact given_eq_of_get? (named_overlay named h'.named) (named_overlay (named_members c) both.named) (now.trans once.symm)
  | none =>
      -- the value that was read and the one that was given pass the check alike
      rw [set, Option.none_or] at now once
      calc given (overlay c'.members second) s default check = given c'.members s default check :=
            given_eq_of_get? (named_overlay named h'.named) named now
        _ = given (overlay c.members first) s default check := again.trans first_.symm
        _ = given (overlay c.members (overlay first second)) s default check :=
            (given_eq_of_get? (named_overlay (named_members c) both.named) named' once).symm

/-- **Settings that are not set** keep their values. -/
theorem get_of_withOverrides (sized : c.Sized) (h : overrides.Overrides) (changed : c.withOverrides overrides = .ok c')
    {s : Setting} (unset : (overrides.get? s.name).bind Json.given? = none) : c'.get s = c.get s := by
  have gives : Gives (overlay c.members overrides) c' := (ofMembers_eq_ok_iff.mp changed).1
  refine gives.get_eq (gives_members sized) (named_overlay (named_members c) h.named) (named_members c) ?_
  rw [get?_overlay h.keys, unset, Option.none_or]

/-- **Overriding a configuration** that was accepted. Overriding it twice has the outcome of overriding it once with the
first overrides, changed as the second ones say: equal configurations, or the same problems. Overrides that are all null
change nothing, and settings that are not set keep their values. -/
theorem withOverrides_composes (accepted : ofMembers members = .ok c) :
    (∀ {first second : Members} {changed : Config}, first.Overrides → second.Overrides →
        c.withOverrides first = .ok changed →
        changed.withOverrides second = c.withOverrides (overlay first second)) ∧
      (∀ {overrides : Members}, (∀ member ∈ overrides, member.2 = .null) → c.withOverrides overrides = .ok c) ∧
      ∀ {overrides : Members} {changed : Config}, overrides.Overrides → c.withOverrides overrides = .ok changed →
        ∀ s : Setting, (overrides.get? s.name).bind Json.given? = none → changed.get s = c.get s := by
  have sized := sized_of_ofMembers accepted
  refine ⟨withOverrides_withOverrides, withOverrides_null sized, ?_⟩
  intro overrides changed h done s unset
  exact get_of_withOverrides sized h done unset

/-- A size that is given as a text, and then as a truth value: the same configuration, and without a font size the same
problem. -/
theorem withOverrides_composes_of_coerced :
    let c : Config := { title := "Keep", author := "A", fontSize := 18 }
    let first : Members := [("author", .str "B"), ("mono_size", .str "9.5"), ("date", .null)]
    let second : Members := [("mono_size", .bool true), ("author", .null)]
    let refused : Members := [("font_size", .num 0)]
    ofMembers [("title", .str "Keep"), ("author", .str "A"), ("font-size", .str "18")] = .ok c ∧
      ∃ changed, c.withOverrides first = .ok changed ∧
        changed.withOverrides second =
          c.withOverrides [("author", .str "B"), ("mono_size", .bool true), ("date", .null)] ∧
        changed.withOverrides refused =
          c.withOverrides [("author", .str "B"), ("mono_size", .str "9.5"), ("date", .null), ("font_size", .num 0)] ∧
        c.withOverrides [("date", .null)] = .ok c ∧ changed.get .title = .str "Keep" := by
  intro c first second refused
  have accepted : ofMembers [("title", .str "Keep"), ("author", .str "A"), ("font-size", .str "18")] = .ok c :=
    ok_of_toOption (by decide +kernel)
  have overridden : c.withOverrides first = .ok { title := "Keep", author := "B", fontSize := 18, monoSize := .points 9.5 } :=
    ok_of_toOption (by decide +kernel)
  have author : ∃ s : Setting, "author" = s.name := ⟨.author, by decide +kernel⟩
  have monoSize : ∃ s : Setting, "mono_size" = s.name := ⟨.monoSize, by decide +kernel⟩
  have date : ∃ s : Setting, "date" = s.name := ⟨.date, by decide +kernel⟩
  have fontSize : ∃ s : Setting, "font_size" = s.name := ⟨.fontSize, by decide +kernel⟩
  have three : first.Overrides :=
    ⟨List.forall_mem_cons.mpr ⟨author, List.forall_mem_cons.mpr ⟨monoSize, List.forall_mem_singleton.mpr date⟩⟩, by decide⟩
  have two : second.Overrides :=
    ⟨List.forall_mem_cons.mpr ⟨monoSize, List.forall_mem_singleton.mpr author⟩, by decide⟩
  have one : refused.Overrides := ⟨List.forall_mem_singleton.mpr fontSize, by decide⟩
  have laid : overlay first second = [("author", .str "B"), ("mono_size", .bool true), ("date", .null)] := by
    simp [overlay, Members.put, first, second]
  have laid' : overlay first refused =
      [("author", .str "B"), ("mono_size", .str "9.5"), ("date", .null), ("font_size", .num 0)] := by
    simp [overlay, Members.put, first, refused]
  have untitled : first.get? Setting.title.name = none := by
    have name : Setting.title.name = "title" := by decide +kernel
    simp [name, Members.get?, first]
  obtain ⟨twice, nothing, kept⟩ := withOverrides_composes accepted
  exact ⟨accepted, _, overridden, laid ▸ twice three two overridden, laid' ▸ twice three one overridden,
    nothing (List.forall_mem_singleton.mpr rfl), kept three overridden .title (by rw [untitled]; rfl)⟩

end Config

end SlidePress
