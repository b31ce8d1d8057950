import SlidePress.Proofs.Config.Loading
import SlidePress.Proofs.Config.Override
import SlidePress.Session.Run

/-!
# `SlidePress.Proofs.Session.Precedence` — where the settings of a document come from

A setting of a document can be given on the command line, in the configuration file and, if it is the page shape, in the
environment. The first of these that gives it counts, and where none does the default stands (`preferred`). The command
line comes first without exception, an empty text included: what it gives is set in a configuration that was accepted
before, and the configuration is accepted again (`effectiveConfig_eq`).

The environment comes last, but only where there is no configuration file. A document with a file that leaves the page
shape open has the default shape, whatever the environment says, so the order of the three is kept there only if the
environment says nothing else (`effectiveConfig_precedence`).
-/

namespace SlidePress

/-! ## The command line -/

namespace BuildRequest

/-- The settings that the command line can give. -/
def settings : List Setting := [.title, .subtitle, .author, .institute, .date, .aspectRatio]

/-- The text that the command line gives a setting. -/
def text? (request : BuildRequest) : Setting → Option String
  | .title => request.title
  | .subtitle => request.subtitle
  | .author => request.author
  | .institute => request.institute
  | .date => request.date
  | .aspectRatio => request.aspectRatio.map AspectRatio.name
  | _ => none

/-- The value that the command line gives a setting. -/
def flag? (request : BuildRequest) (s : Setting) : Option Json := (request.text? s).map .str

/-- A configuration with what the command line gives. -/
def applied (request : BuildRequest) (c : Config) : Config :=
  { c with
    title := request.title.getD c.title
    subtitle := request.subtitle.getD c.subtitle
    author := request.author.getD c.author
    institute := request.institute.getD c.institute
    date := request.date.getD c.date
    aspectRatio := request.aspectRatio.getD c.aspectRatio }

variable (request : BuildRequest)

/-- **Each setting** is what the command line gives, or what it was. -/
theorem get_applied (c : Config) (s : Setting) : (request.applied c).get s = (request.flag? s).getD (c.get s) := by
  cases s
  case title => exact (Option.getD_map Json.str c.title request.title).symm
  case subtitle => exact (Option.getD_map Json.str c.subtitle request.subtitle).symm
  case author => exact (Option.getD_map Json.str c.author request.author).symm
  case institute => exact (Option.getD_map Json.str c.institute request.institute).symm
  case date => exact (Option.getD_map Json.str c.date request.date).symm
  case aspectRatio =>
    show Json.str (AspectRatio.name (request.aspectRatio.getD c.aspectRatio)) = _
    rw [flag?, text?, Option.map_map]
    exact (Option.getD_map (Json.str ∘ AspectRatio.name) c.aspectRatio request.aspectRatio).symm
  all_goals rfl

/-- What the command line sets, one member for each setting that it gives. -/
theorem overrides_eq : request.overrides = Members.ofSettings request.flag? settings := by
  simp only [Members.ofSettings, settings, List.flatMap_cons, List.flatMap_nil, flag?, text?, Option.map_map,
    List.append_nil, overrides, List.append_assoc]
  rfl

theorem flag?_eq_none {s : Setting} (h : s ∉ settings) : request.flag? s = none := by
  cases s <;> first | rfl | exact absurd (by decide) h

/-- What the command line gives is never null, so all of it is set. -/
theorem given_flag? (s : Setting) : (request.flag? s).bind Json.given? = request.flag? s := by
  rw [flag?]
  cases request.text? s <;> rfl

/-- **What the command line gives is accepted** in any configuration whose sizes pass their checks. -/
theorem withOverrides_overrides {c : Config} (sized : c.Sized) :
    c.withOverrides request.overrides = .ok (request.applied c) := by
  have nodup : settings.Nodup := by decide
  rw [overrides_eq]
  refine Config.withOverrides_of_get (Members.named_ofSettings _ _) (Members.nodup_ofSettings _ nodup) c
    ⟨sized.fontSize, sized.headingSize, sized.monoSize, sized.chromeSize⟩ fun s => ?_
  rw [request.get_applied, Members.get?_ofSettings]
  split
  · rw [given_flag?]
  · next other => rw [request.flag?_eq_none other]; rfl

end BuildRequest

variable (request : BuildRequest) (settings : Settings) (tree : FileTree) (room : Nat)

/-- The sizes of the configuration that a document starts from are checked. -/
theorem sized_of_baseConfig {c : Config} (h : baseConfig request settings tree room = .ok c) : c.Sized := by
  rw [baseConfig] at h
  split at h
  · obtain ⟨text, members, -, -, accepted⟩ := (Config.load_eq_ok_iff _).mp h
    exact Config.sized_of_ofMembers accepted
  · exact Config.sized_of_ofMembers (mapError_eq_ok_iff.mp h)

/-- **The configuration of a document** is the one it starts from, with what the command line gives. -/
theorem effectiveConfig_eq :
    effectiveConfig request settings tree room = (baseConfig request settings tree room).map request.applied := by
  rw [effectiveConfig]
  cases base : baseConfig request settings tree room with
  | error e => rfl
  | ok c =>
      have sized := sized_of_baseConfig request settings tree room base
      exact mapError_eq_ok_iff.mpr (request.withOverrides_overrides sized)

/-! ## The file and the environment -/

/-- A file holds an object with these members, which can be read with some room for nesting. -/
def FileTree.HoldsSettings (tree : FileTree) (path : Path) (members : Members) (room : Nat := Json.usualRoom) : Prop :=
  ∃ text : String, tree.file? path = some text.toUTF8 ∧ Json.parse (Config.fileText text) room = .ok (.obj members)

/-- The value that the environment gives a setting of a document. -/
def Environment.setting? (environment : Environment) : Setting → Option Json
  | .aspectRatio => (environment.get? "default_aspect_ratio").map .str
  | _ => none

variable {request settings tree room}

theorem baseConfig_of_holds {path : Path} {members : Members} {file : Config} (named : request.configFile? = some path)
    (holds : tree.HoldsSettings path members room) (accepted : Config.ofMembers members = .ok file) :
    baseConfig request settings tree room = .ok file := by
  obtain ⟨text, there, read⟩ := holds
  rw [baseConfig, named]
  exact (Config.load_eq_ok_iff path.text).mpr ⟨text, members, there, read, accepted⟩

/-- A document without one starts from the page shape of the settings. -/
theorem baseConfig_of_ratio {ratio : AspectRatio} (none_ : request.configFile? = none)
    (shape : AspectRatio.ofName? settings.aspectRatio = some ratio) :
    baseConfig request settings tree room = .ok { aspectRatio := ratio } := by
  rw [baseConfig, none_]
  apply mapError_eq_ok_iff.mpr
  have member : [(Setting.aspectRatio.name, Json.str settings.aspectRatio)] =
      Members.ofSettings (fun _ => some (.str settings.aspectRatio)) [.aspectRatio] := rfl
  rw [member]
  have sized : Config.Sized { aspectRatio := ratio } := by
    have positive : 0 < Config.standard.fontSize := by decide +kernel
    exact ⟨positive, trivial, trivial, trivial⟩
  apply Config.ofMembers_of_named (Members.named_ofSettings _ _) sized
  intro s
  rw [Members.get?_ofSettings]
  split
  · next mem =>
    obtain rfl := List.mem_singleton.mp mem
    exact congrArg Json.str (AspectRatio.name_of_ofName? shape).symm
  · next other => cases s <;> first | rfl | exact absurd (by decide) other

/-- **The process comes before a `.env` file** of settings, in whichever case the two write the name of a variable. -/
theorem Environment.get?_backedBy (environment file : Environment) (setting : String) :
    (environment.backedBy file).get? setting = (environment.get? setting).or (file.get? setting) := by
  unfold Environment.backedBy Environment.get?
  rw [List.reverse_append, List.find?_append, Option.map_or]

/-- An environment that sets no truth value has settings. -/
theorem exists_ofEnvironment (base : Path) {environment : Environment}
    (h : environment.get? Settings.warnDroppedName = none) :
    ∃ settings, Settings.ofEnvironment base environment = .ok settings := by
  rw [Settings.ofEnvironment, h]
  exact ⟨_, rfl⟩

/-- The settings have the page shape of the environment, or the default. -/
theorem aspectRatio_of_ofEnvironment {base : Path} {environment : Environment}
    (valid : Settings.ofEnvironment base environment = .ok settings) :
    settings.aspectRatio = (environment.get? "default_aspect_ratio").getD AspectRatio.wide.name := by
  rw [Settings.ofEnvironment] at valid
  split at valid
  · cases valid
    rfl
  · split at valid
    · cases valid
      rfl
    · cases valid

/-! ## Where settings come from -/

/-- **The first source** that gives a setting, or else the default. -/
def preferred : List (Setting → Option Json) → Setting → Json
  | [], s => Config.standard.get s
  | source :: sources, s => (source s).getD (preferred sources s)

/-- **A last source** makes no difference where another one gives the setting, or where it gives the default. -/
theorem preferred_append_iff (sources : List (Setting → Option Json)) (last : Setting → Option Json) (s : Setting) :
    preferred sources s = preferred (sources ++ [last]) s ↔
      (∃ source ∈ sources, (source s).isSome) ∨ (last s).getD (Config.standard.get s) = Config.standard.get s := by
  induction sources with
  | nil =>
      show Config.standard.get s = (last s).getD (Config.standard.get s) ↔ _
      rw [or_iff_right fun ⟨_, mem, _⟩ => List.not_mem_nil mem]
      exact eq_comm
  | cons source sources ih =>
      show (source s).getD (preferred sources s) = (source s).getD (preferred (sources ++ [last]) s) ↔ _
      cases given : source s with
      | some value => exact iff_of_true rfl (.inl ⟨source, List.mem_cons_self, by rw [given]; rfl⟩)
      | none =>
          have silent : ¬ (source s).isSome := by
            rw [given]
            exact Bool.false_ne_true
          rw [List.exists_mem_cons_iff, or_iff_right silent]
          exact ih

/-- **Over a file** the command line goes first, and the file second. -/
theorem get_applied_of_file (request : BuildRequest) {members : Members} {file : Config}
    (accepted : Config.ofMembers members = .ok file) {s : Setting} (mem : s ∈ BuildRequest.settings) :
    (request.applied file).get s = preferred [request.flag?, (Setting.value? · members)] s := by
  have verbatim : ∀ s ∈ BuildRequest.settings, Config.Verbatim s := by decide
  rw [request.get_applied, Config.get_of_ofMembers accepted (verbatim s mem)]
  rfl

/-- **Over the environment** the command line goes first, too. -/
theorem get_applied_of_environment (request : BuildRequest) {base : Path} {environment : Environment} {ratio : AspectRatio}
    (valid : Settings.ofEnvironment base environment = .ok settings)
    (shape : AspectRatio.ofName? settings.aspectRatio = some ratio) (s : Setting) :
    (request.applied { aspectRatio := ratio }).get s = preferred [request.flag?, environment.setting?] s := by
  have start : Config.get { aspectRatio := ratio } s = (environment.setting? s).getD (Config.standard.get s) := by
    cases s
    case aspectRatio =>
      show Json.str ratio.name = ((environment.get? "default_aspect_ratio").map Json.str).getD (.str AspectRatio.wide.name)
      rw [AspectRatio.name_of_ofName? shape, aspectRatio_of_ofEnvironment valid]
      exact (Option.getD_map Json.str _ _).symm
    all_goals rfl
  rw [request.get_applied, start]
  rfl

/-- **Where the settings of a document come from.** With a configuration file whose settings are accepted, what the
command line can give is what it gives, or else what the file gives under either name, or else the default; everything
else is as the file has it. That is what the command line, the file and the environment are documented to give in this
order just where one of the first two gives it, or the environment gives the default. Without a configuration file
everything is what the command line gives, or else the environment, or else the default. -/
theorem effectiveConfig_precedence (request : BuildRequest) (tree : FileTree) (room : Nat) {base : Path}
    {environment : Environment} {settings : Settings} (valid : Settings.ofEnvironment base environment = .ok settings) :
    (∀ (path : Path) (members : Members) (file : Config), request.configFile? = some path →
      tree.HoldsSettings path members room → Config.ofMembers members = .ok file →
      ∃ config, effectiveConfig request settings tree room = .ok config ∧
        (∀ s ∈ BuildRequest.settings,
          config.get s = preferred [request.flag?, (Setting.value? · members)] s ∧
            (config.get s = preferred [request.flag?, (Setting.value? · members), environment.setting?] s ↔
              (request.flag? s).isSome ∨ (s.value? members).isSome ∨
                (environment.setting? s).getD (Config.standard.get s) = Config.standard.get s)) ∧
        ∀ s ∉ BuildRequest.settings, config.get s = file.get s) ∧
    (∀ ratio, request.configFile? = none → AspectRatio.ofName? settings.aspectRatio = some ratio →
      ∃ config, effectiveConfig request settings tree room = .ok config ∧
        ∀ s, config.get s = preferred [request.flag?, environment.setting?] s) := by
  constructor
  · intro path members file named holds accepted
    refine ⟨request.applied file, ?_, ?_, ?_⟩
    · rw [effectiveConfig_eq, baseConfig_of_holds named holds accepted]
      rfl
    · intro s mem
      have first := get_applied_of_file request accepted mem
      -- the environment would be the third source
      have documented := preferred_append_iff [request.flag?, (Setting.value? · members)] environment.setting? s
      simp only [List.mem_cons, List.not_mem_nil, or_false, exists_eq_or_imp, exists_eq_left, or_assoc] at documented
      refine ⟨first, ?_⟩
      rw [first]
      exact documented
    · intro s other
      rw [request.get_applied, request.flag?_eq_none other]
      rfl
  · intro ratio none_ shape
    refine ⟨request.applied { aspectRatio := ratio }, ?_, get_applied_of_environment request valid shape⟩
    rw [effectiveConfig_eq, baseConfig_of_ratio none_ shape]
    rfl

/-- **A file that was written** holds the settings that were written to it. -/
theorem FileTree.holdsSettings_write (tree : FileTree) (path : Path) {members : Members} (layout : Json.Layout)
    (readable : Json.Readable room (.obj members)) (noReturn : '\r' ∉ (Json.render layout (.obj members)).toList) :
    (tree.write path (Json.render layout (.obj members)).toUTF8).HoldsSettings path members room := by
  refine ⟨Json.render layout (.obj members), ?_, ?_⟩
  · rw [file?_write, if_pos rfl]
  · rw [Config.fileText_of_notMem noReturn]
    exact readable.roundTrip layout

/-- An empty title on the command line goes before the one in the file, and the page shape of the environment is that of
a document without a file. -/
theorem effectiveConfig_precedence_empty_title :
    ∃ settings, Settings.ofEnvironment (Path.parse "/") [("SLIDEDECK_DEFAULT_ASPECT_RATIO", "4-3")] = .ok settings ∧
      (∃ config, effectiveConfig { input := "talk.md", config := some "deck.json", title := some "" } settings
          (({} : FileTree).write (Path.parse "deck.json")
            (Json.render .oneLine (.obj [("title", .str "From file"), ("author", .str "A")])).toUTF8) = .ok config ∧
        config.get .title = .str "" ∧ config.get .author = .str "A") ∧
      ∃ config, effectiveConfig { input := "talk.md" } settings {} = .ok config ∧
        config.get .aspectRatio = .str "4-3" := by
  obtain ⟨settings, valid⟩ := exists_ofEnvironment (Path.parse "/")
    (show Environment.get? [("SLIDEDECK_DEFAULT_ASPECT_RATIO", "4-3")] Settings.warnDroppedName = none by decide +kernel)
  have asked : Environment.get? [("SLIDEDECK_DEFAULT_ASPECT_RATIO", "4-3")] "default_aspect_ratio" = some "4-3" := by
    decide +kernel
  refine ⟨settings, valid, ?_, ?_⟩
  · have accepted : Config.ofMembers [("title", .str "From file"), ("author", .str "A")] =
        .ok { title := "From file", author := "A" } := ok_of_toOption (by decide +kernel)
    have readable : Json.Readable Json.usualRoom (.obj [("title", .str "From file"), ("author", .str "A")]) := by
      refine .obj (by decide) (List.forall_mem_cons.mpr ⟨?_, List.forall_mem_singleton.mpr ?_⟩)
      · exact .str "From file"
      · exact .str "A"
    have holds := ({} : FileTree).holdsSettings_write (Path.parse "deck.json") .oneLine readable (by decide +kernel)
    obtain ⟨config, outcome, given, -⟩ := (effectiveConfig_precedence
      { input := "talk.md", config := some "deck.json", title := some "" } _ _ valid).1 _ _ _ rfl holds accepted
    exact ⟨config, outcome, (given .title (by decide)).1, (given .author (by decide)).1⟩
  · have shape : AspectRatio.ofName? settings.aspectRatio = some .standard := by
      rw [aspectRatio_of_ofEnvironment valid, asked]
      decide
    obtain ⟨config, outcome, given⟩ := (effectiveConfig_precedence { input := "talk.md" } {} Json.usualRoom valid).2 _ rfl shape
    refine ⟨config, outcome, ?_⟩
    rw [given .aspectRatio]
    rw [preferred, preferred, Environment.setting?, asked]
    rfl

/-- A document with a configuration file that leaves the page shape open has the default one, and not that of the
environment. -/
theorem effectiveConfig_not_documented :
    ¬ ∀ (request : BuildRequest) (base : Path) (environment : Environment) (settings : Settings) (tree : FileTree)
        (path : Path) (members : Members) (file : Config),
      Settings.ofEnvironment base environment = .ok settings → request.configFile? = some path →
      tree.HoldsSettings path members → Config.ofMembers members = .ok file →
      ∃ config, effectiveConfig request settings tree = .ok config ∧
        ∀ s ∈ BuildRequest.settings,
          config.get s = preferred [request.flag?, (Setting.value? · members), environment.setting?] s := by
  intro documented
  obtain ⟨settings, valid⟩ := exists_ofEnvironment (Path.parse "/")
    (show Environment.get? [("SLIDEDECK_DEFAULT_ASPECT_RATIO", "4-3")] Settings.warnDroppedName = none by decide +kernel)
  have asked : Environment.get? [("SLIDEDECK_DEFAULT_ASPECT_RATIO", "4-3")] "default_aspect_ratio" = some "4-3" := by
    decide +kernel
  have accepted : Config.ofMembers [] = .ok Config.standard := ok_of_toOption (by decide +kernel)
  have readable : Json.Readable Json.usualRoom (.obj []) := .obj (by decide) fun _ mem => absurd mem List.not_mem_nil
  have holds := ({} : FileTree).holdsSettings_write (Path.parse "deck.json") .oneLine readable (by decide +kernel)
  obtain ⟨config, outcome, given⟩ := documented { input := "talk.md", config := some "deck.json" } _ _ settings _ _ _ _
    valid rfl holds accepted
  rw [effectiveConfig_eq, baseConfig_of_holds rfl holds accepted] at outcome
  obtain rfl := Except.ok.inj outcome
  have shape := given .aspectRatio (by decide)
  rw [preferred, preferred, preferred, Environment.setting?, asked] at shape
  have shape : Json.str "16-9" = .str "4-3" := shape
  exact absurd (Json.str.inj shape) (by decide)

end SlidePress
