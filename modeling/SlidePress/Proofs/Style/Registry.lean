import SlidePress.Proofs.Outcome
import SlidePress.Style.Font

/-!
# `SlidePress.Proofs.Style.Registry` — which fonts are registered

A font is looked up by a value, among the fonts that are registered so far. There are five ways for that to end
(`Resolves`), and all results below are read off them. Of the library it is assumed that it registers a font that it
finds under the name that it was asked for, and nothing else (`StyleLibrary.Registers`); which fonts and which files it
finds may change from one look-up to the next. So after any history those fonts are registered that were there before
it, and those that one of its look-ups has yielded (`contains_after_iff`).

Of the five ways, only two ask for a font file, and they are taken only when the name of the font is new. A file that
cannot be read is therefore reported if no font of its name is registered, at the start or by the history; if there is
one, that font is taken for it, whichever file or name it came from (`resolve_unreadable`).
-/

namespace SlidePress

/-! ## What the library registers -/

/-- **What is registered after a font was looked for**: the font if it was found, and everything that was before. -/
def Fetched (fonts : FontRegistry) (name : String) (result : Except Fault Unit × FontRegistry) : Prop :=
  ∀ other, result.2.contains other = true ↔ fonts.contains other = true ∨ result.1 = .ok () ∧ other = name

/-- **A library registers what it finds**, by name or in a file, and nothing else. -/
structure StyleLibrary.Registers (library : StyleLibrary) : Prop where
  find : ∀ fonts name, Fetched fonts name (library.find fonts name)
  read : ∀ fonts name path, Fetched fonts name (library.read fonts name path)

theorem fetched_register (fonts : FontRegistry) (name : String) : Fetched fonts name (.ok (), fonts.register name) := by
  intro other
  rw [FontRegistry.contains_register, Bool.or_eq_true, beq_iff_eq, and_iff_right rfl]

theorem fetched_error (fonts : FontRegistry) (name : String) (fault : Fault) : Fetched fonts name (.error fault, fonts) := by
  intro other
  constructor
  · exact Or.inl
  · rintro (before | ⟨found, -⟩)
    · exact before
    · cases found

/-- The usual library registers what it finds, whichever files can be read. -/
theorem StyleLibrary.withFiles_registers (files : List String) : (StyleLibrary.withFiles files).Registers where
  find := by
    intro fonts name
    show Fetched fonts name (fonts.findStandard name)
    unfold FontRegistry.findStandard
    split
    · exact fetched_register fonts name
    · exact fetched_error fonts name _
  read := by
    intro fonts name path
    show Fetched fonts name (fonts.readAmong files name path)
    unfold FontRegistry.readAmong
    split
    · exact fetched_register fonts name
    · exact fetched_error fonts name _

namespace FontRegistry

/-! ## One look-up -/

/-- **How a look-up ends**, for each way with everything that leads to it. -/
inductive Resolves (registry : FontRegistry) (library : StyleLibrary) (value : String) :
    Except ConfigError (String × Journal) × FontRegistry → Prop
  /-- A font with the name of the file is registered, and the file is not looked at. -/
  | known : isFontFile value = true → registry.contains (Path.parse value).stem = true →
      Resolves registry library value (.ok ((Path.parse value).stem, []), registry)
  /-- The file is read. -/
  | read {fonts : FontRegistry} : isFontFile value = true → registry.contains (Path.parse value).stem = false →
      library.read registry (Path.parse value).stem (Path.parse value) = (.ok (), fonts) →
      Resolves registry library value (.ok ((Path.parse value).stem,
        [⟨.info, s!"Registered font {(Path.parse value).stem} from {(Path.parse value).text}"⟩]), fonts)
  /-- The file cannot be read. -/
  | unreadable {fault : Fault} {fonts : FontRegistry} : isFontFile value = true →
      registry.contains (Path.parse value).stem = false →
      library.read registry (Path.parse value).stem (Path.parse value) = (.error fault, fonts) →
      Resolves registry library value (.error (.unreadableFont value fault.text), fonts)
  /-- The value is the name of a font. -/
  | named {fonts : FontRegistry} : isFontFile value = false → library.find registry value = (.ok (), fonts) →
      Resolves registry library value (.ok (value, []), fonts)
  /-- No font has this name. -/
  | unknown {fault : Fault} {fonts : FontRegistry} : isFontFile value = false →
      library.find registry value = (.error fault, fonts) →
      Resolves registry library value (.error (.unknownFont value), fonts)

/-- **A look-up ends in one of these ways.** -/
theorem resolve_resolves (registry : FontRegistry) (library : StyleLibrary) (value : String) :
    Resolves registry library value (registry.resolve value library) := by
  unfold resolve
  dsimp only
  split
  · next file =>
    split
    · next there => exact .known file there
    · next new =>
      have new : registry.contains (Path.parse value).stem = false := Bool.not_eq_true _ ▸ new
      split
      · next readIn => exact .read file new readIn
      · next missing => exact .unreadable file new missing
  · next noFile =>
    have noFile : isFontFile value = false := Bool.not_eq_true _ ▸ noFile
    split
    · next found => exact .named noFile found
    · next missing => exact .unknown noFile missing

end FontRegistry

/-! ## Histories -/

/-- A look-up: the value, and the library as it is then. -/
structure Lookup where
  value : String
  library : StyleLibrary

namespace FontRegistry

/-- The name of the font that a look-up yields. -/
def yield? (registry : FontRegistry) (lookup : Lookup) : Option String :=
  match (registry.resolve lookup.value lookup.library).1 with
  | .ok (name, _) => some name
  | .error _ => none

/-- The registry after a look-up. -/
def lookedUp (registry : FontRegistry) (lookup : Lookup) : FontRegistry :=
  (registry.resolve lookup.value lookup.library).2

/-- The fonts that the look-ups of a history yield, in order. -/
def found (registry : FontRegistry) : List Lookup → List String
  | [] => []
  | lookup :: history => (registry.yield? lookup).toList ++ (registry.lookedUp lookup).found history

/-- The registry after a history. -/
def after (registry : FontRegistry) : List Lookup → FontRegistry
  | [] => registry
  | lookup :: history => (registry.lookedUp lookup).after history

variable {registry : FontRegistry} {value name : String}

/-- **After one look-up** a font is registered if it was before, or is the one that was found. -/
theorem contains_lookedUp_iff {lookup : Lookup} (registers : lookup.library.Registers) :
    (registry.lookedUp lookup).contains name = true ↔
      registry.contains name = true ∨ name ∈ (registry.yield? lookup).toList := by
  have resolves := resolve_resolves registry lookup.library lookup.value
  unfold lookedUp yield?
  generalize registry.resolve lookup.value lookup.library = outcome at resolves ⊢
  cases resolves with
  | known _ there =>
      dsimp only
      -- a font that is registered is yielded again
      rw [Option.toList_some, List.mem_singleton]
      constructor
      · exact Or.inl
      · rintro (before | rfl)
        · exact before
        · exact there
  | read _ _ readIn =>
      have fetched := registers.read registry (Path.parse lookup.value).stem (Path.parse lookup.value) name
      rw [readIn, and_iff_right rfl] at fetched
      rwa [Option.toList_some, List.mem_singleton]
  | unreadable _ _ missing =>
      have fetched := registers.read registry (Path.parse lookup.value).stem (Path.parse lookup.value) name
      rw [missing] at fetched
      simpa using fetched
  | named _ isFound =>
      have fetched := registers.find registry lookup.value name
      rw [isFound, and_iff_right rfl] at fetched
      rwa [Option.toList_some, List.mem_singleton]
  | unknown _ missing =>
      have fetched := registers.find registry lookup.value name
      rw [missing] at fetched
      simpa using fetched

/-- **After a history** a font is registered if it was before, or is one of those that were found. -/
theorem contains_after_iff (registry : FontRegistry) {history : List Lookup}
    (registers : ∀ lookup ∈ history, lookup.library.Registers) (name : String) :
    (registry.after history).contains name = true ↔ registry.contains name = true ∨ name ∈ registry.found history := by
  induction history generalizing registry with
  | nil => simp [after, found]
  | cons lookup history ih =>
      obtain ⟨first, later⟩ := List.forall_mem_cons.mp registers
      show ((registry.lookedUp lookup).after history).contains name = true ↔ _
      rw [ih _ later, contains_lookedUp_iff first, or_assoc, found, List.mem_append]

/-- **Font files that cannot be read**, after any history. They are reported exactly if no font of their name was
registered before the history or found by it; otherwise the font of that name is taken, and nothing changes. -/
theorem resolve_unreadable (registry fonts : FontRegistry) {history : List Lookup} {library : StyleLibrary} {fault : Fault}
    (registers : ∀ lookup ∈ history, lookup.library.Registers) (file : isFontFile value = true)
    (unreadable : library.read (registry.after history) (Path.parse value).stem (Path.parse value) = (.error fault, fonts)) :
    (((registry.after history).resolve value library).1 = .error (.unreadableFont value fault.text) ↔
        registry.contains (Path.parse value).stem = false ∧ (Path.parse value).stem ∉ registry.found history) ∧
      (registry.contains (Path.parse value).stem = true ∨ (Path.parse value).stem ∈ registry.found history →
        (registry.after history).resolve value library = (.ok ((Path.parse value).stem, []), registry.after history)) := by
  have known := contains_after_iff registry registers (Path.parse value).stem
  have resolves := resolve_resolves (registry.after history) library value
  generalize (registry.after history).resolve value library = outcome at resolves ⊢
  cases resolves with
  | known _ there =>
      refine ⟨?_, fun _ => rfl⟩
      constructor
      · intro reported
        cases reported
      · rintro ⟨new, notFound⟩
        rcases known.mp there with before | foundIt
        · cases new.symm.trans before
        · exact absurd foundIt notFound
  | read _ _ readIn => cases readIn.symm.trans unreadable
  | unreadable _ new missing =>
      cases missing.symm.trans unreadable
      have nowhere : ¬(registry.contains (Path.parse value).stem = true ∨
          (Path.parse value).stem ∈ registry.found history) := by
        rw [← known, new]
        decide
      rw [not_or, Bool.not_eq_true] at nowhere
      exact ⟨⟨fun _ => nowhere, fun _ => rfl⟩, fun there => absurd there (not_or.mpr ⟨by simp [nowhere.1], nowhere.2⟩)⟩
  | named noFile => cases file.symm.trans noFile
  | unknown noFile => cases file.symm.trans noFile

/-- After a standard font and a font file have been found, a missing file is reported, and another one that is named like
the font file is not. -/
theorem resolve_unreadable_after_two :
    let history : List Lookup :=
      [⟨"Times-Roman", .withFiles []⟩, ⟨"fonts/Gothic.ttf", .withFiles ["fonts/Gothic.ttf"]⟩]
    let fonts := initial.after history
    initial.found history = ["Times-Roman", "Gothic"] ∧
      (fonts.resolve "fonts/Antiqua.TTF" (.withFiles [])).1 =
        .error (.unreadableFont "fonts/Antiqua.TTF" "Can't open file \"fonts/Antiqua.TTF\"") ∧
      fonts.resolve "elsewhere/Gothic.otf" (.withFiles []) = (.ok ("Gothic", []), fonts) := by
  intro history fonts
  have registers : ∀ lookup ∈ history, lookup.library.Registers := by
    intro lookup mem
    simp only [history, List.mem_cons, List.not_mem_nil, or_false] at mem
    rcases mem with rfl | rfl
    · exact StyleLibrary.withFiles_registers []
    · exact StyleLibrary.withFiles_registers ["fonts/Gothic.ttf"]
  have isFound : initial.found history = ["Times-Roman", "Gothic"] := by decide +kernel
  -- no file can be read now
  have missing (value : String) : (StyleLibrary.withFiles []).read fonts (Path.parse value).stem (Path.parse value) =
      (.error { kind := "TTFError", text := s!"Can't open file \"{(Path.parse value).text}\"" }, fonts) := rfl
  refine ⟨isFound, ?_, ?_⟩
  · have reported := (resolve_unreadable initial fonts registers (by decide +kernel) (missing "fonts/Antiqua.TTF")).1
    rw [isFound] at reported
    exact (reported.mpr (by decide +kernel)).trans (by decide +kernel)
  · apply (resolve_unreadable initial fonts registers (by decide +kernel) (missing "elsewhere/Gothic.otf")).2
    rw [isFound]
    decide +kernel

/-- A file that cannot be read is not always reported: at the start there is a font for one that is named like it. -/
theorem resolve_unreadable_substituted :
    ¬ ∀ (registry fonts : FontRegistry) (library : StyleLibrary) (value : String) (fault : Fault), library.Registers →
      isFontFile value = true →
      library.read registry (Path.parse value).stem (Path.parse value) = (.error fault, fonts) →
      ∃ cause, (registry.resolve value library).1 = .error cause := by
  intro reported
  obtain ⟨cause, refused⟩ := reported initial initial .usual "missing/Helvetica.ttf" _
    (StyleLibrary.withFiles_registers fontFiles) (by decide +kernel) rfl
  have substituted : (initial.resolve "missing/Helvetica.ttf" .usual).1 = .ok ("Helvetica", []) :=
    ok_of_toOption (by decide +kernel)
  cases refused.symm.trans substituted

end FontRegistry

end SlidePress
