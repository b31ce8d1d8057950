import SlidePress.Proofs.Press.Failure
import SlidePress.Session.Run

/-!
# `SlidePress.Proofs.Session.Ending` — how a run ends

A run ends with a status where it succeeds or reports what is wrong, and is ended by an error otherwise. Where the files
that it writes can be written, and its input is there, its end can be told before it begins (`Invocation.escape?`): an
error ends it if the level of the log is no level, if the configuration file cannot even be decoded, if the input cannot
be read, if the indent is the length of no text, or if the output cannot be printed; everything else is reported.

A status of one comes with a report, which is shown unless the level is above that of errors. Of the layout library only
one thing is assumed: it numbers the pages that it sets (`PressLibrary.NumbersPages`).
-/

namespace SlidePress

/-! ## The files when a command starts -/

namespace FileTree

variable {tree made : FileTree} {path : Path}

/-- A file that is there is not changed when one is made, and a new one is empty. -/
theorem file?_touch (h : tree.touch path = .ok made) (other : Path) :
    made.file? other = if other = path then some ((tree.file? path).getD ByteArray.empty) else tree.file? other := by
  unfold touch isFile at h
  split at h
  · cases h
  · split at h
    · next there =>
        obtain ⟨bytes, found⟩ := Option.isSome_iff_exists.mp there
        cases h
        split
        · next same => rw [same, found, Option.getD_some]
        · rfl
    · next missing =>
        have none_ : tree.file? path = none := Option.not_isSome_iff_eq_none.mp missing
        cases h
        rw [file?_write, none_, Option.getD_none]

/-- Directories that have been made can be made again, and nothing changes then. -/
theorem makeDirectories_again (h : tree.makeDirectories path = .ok made) : made.makeDirectories path = .ok made := by
  unfold makeDirectories at h
  split at h
  · cases h
  · next clear =>
      cases h
      have noFile : (lineage path).find? (FileTree.isFile
          { tree with directories := tree.directories ++ (lineage path).filter fun p => !tree.isDirectory p }) = none :=
        clear
      have allMade : ((lineage path).filter fun p => !FileTree.isDirectory
          { tree with directories := tree.directories ++ (lineage path).filter fun p => !tree.isDirectory p } p) = [] := by
        apply List.filter_eq_nil_iff.mpr
        intro above mem
        have listed : above ∈ tree.directories ++ (lineage path).filter fun p => !tree.isDirectory p := by
          by_cases there : tree.isDirectory above = true
          · exact List.mem_append_left _ (List.contains_iff_mem.mp there)
          · exact List.mem_append_right _ (List.mem_filter.mpr ⟨mem, by simp [there]⟩)
        show ¬(!List.contains (tree.directories ++ (lineage path).filter fun p => !tree.isDirectory p) above) = true
        rw [List.contains_iff_mem.mpr listed]
        decide
      unfold makeDirectories
      rw [noFile, allMade]
      simp

end FileTree

namespace Settings

/-- The files with the directories for documents and logs, and the log file. -/
def prepare (settings : Settings) (tree : FileTree) : Except FileTree.Failure FileTree :=
  match settings.ensureDirectories tree with
  | (_, .error cause) => .error cause
  | (made, .ok ()) => made.touch settings.logFile

variable {settings : Settings} {tree ready : FileTree}

theorem exists_of_prepare (h : settings.prepare tree = .ok ready) :
    ∃ middle made, tree.makeDirectories settings.outputDirectory = .ok middle ∧
      middle.makeDirectories settings.logDirectory = .ok made ∧ made.touch settings.logFile = .ok ready ∧
      settings.ensureDirectories tree = (made, .ok ()) := by
  unfold prepare ensureDirectories at h
  unfold ensureDirectories
  cases first : tree.makeDirectories settings.outputDirectory with
  | error cause =>
      rw [first] at h
      cases h
  | ok middle =>
      cases second : middle.makeDirectories settings.logDirectory with
      | error cause =>
          simp only [first, second] at h
          cases h
      | ok made =>
          simp only [first, second] at h ⊢
          exact ⟨middle, made, rfl, second, h, rfl⟩

/-- Before a command starts, no file is changed, and only the log file can be new. -/
theorem file?_prepare (h : settings.prepare tree = .ok ready) (path : Path) :
    ready.file? path =
      if path = settings.logFile then some ((tree.file? settings.logFile).getD ByteArray.empty) else tree.file? path := by
  obtain ⟨middle, made, first, second, touched, -⟩ := exists_of_prepare h
  have same (other : Path) : made.file? other = tree.file? other := by
    rw [FileTree.file?_makeDirectories second, FileTree.file?_makeDirectories first]
  rw [FileTree.file?_touch touched, same, same]

theorem file?_prepare_of_isFile (h : settings.prepare tree = .ok ready) {path : Path} (there : tree.isFile path = true) :
    ready.file? path = tree.file? path := by
  rw [file?_prepare h]
  split
  · next same =>
      rw [← same]
      obtain ⟨bytes, found⟩ := Option.isSome_iff_exists.mp there
      rw [found, Option.getD_some]
  · rfl

end Settings

/-- An empty file is no better a configuration than none, if its path can be that of a file. -/
theorem Config.load_empty {path : String} (noNull : '\x00' ∉ path.toList) (room : Nat) :
    Config.load path (some ByteArray.empty) room = Config.load path none room := by
  have missing : Config.load path none room = .error (.config (.unreadable path)) := by
    unfold Config.load
    rw [if_neg fun null => noNull (List.contains_iff_mem.mp null)]
  rw [missing]
  rfl

/-- The configuration is the same when the command starts, also where its file is the log file. -/
theorem effectiveConfig_prepared {settings : Settings} {tree ready : FileTree} (h : settings.prepare tree = .ok ready)
    (noNull : '\x00' ∉ settings.logFile.text.toList) (request : BuildRequest) (room : Nat) :
    effectiveConfig request settings ready room = effectiveConfig request settings tree room := by
  have base : baseConfig request settings ready room = baseConfig request settings tree room := by
    unfold baseConfig
    cases request.configFile? with
    | none => rfl
    | some path =>
        show Config.load path.text (ready.file? path) room = Config.load path.text (tree.file? path) room
        rw [Settings.file?_prepare h]
        split
        · next same =>
            -- the log file is the configuration file: it may be new and empty now
            rw [same]
            cases tree.file? settings.logFile with
            | none => exact Config.load_empty noNull room
            | some bytes => rfl
        · rfl
  unfold effectiveConfig
  rw [base]

/-! ## The error that ends a run -/

/-- The input of a command. -/
def Command.source : Command → Path
  | .build request => Path.parse request.input
  | .outline input _ => Path.parse input

/-- The document that a command makes, if it makes one. -/
def Command.target? (command : Command) (settings : Settings) : Option Path :=
  match command with
  | .build request => some (request.target settings command.source)
  | .outline .. => none

/-- The error of a command whose input cannot be read. -/
def Command.unreadable? (command : Command) (tree : FileTree) : Option Escape :=
  match Markdown.blocksInFile (tree.file? command.source) with
  | .error cause => some (.build (.read cause))
  | .ok _ => none

/-- The error that ends a command before it prints anything, if there is one. -/
def Command.escape? (command : Command) (host : Host) (settings : Settings) (tree : FileTree) : Option Escape :=
  match command with
  | .outline _ indent => (command.unreadable? tree).or (if canIndent indent then none else some (.indentTooLarge indent))
  | .build request =>
    match effectiveConfig request settings tree host.room with
    | .error (.config _) => none
    | .error cause => some (.load cause)
    | .ok _ => command.unreadable? tree

/-- The error of a command whose output cannot be printed, if it is so. -/
def Command.refusal? (command : Command) (host : Host) (settings : Settings) (tree : FileTree) : Option Escape :=
  match settings.prepare tree with
  | .error _ => none
  | .ok ready => (command.task host settings ready).refusal? host

/-- The error that ends a run with its settings, if there is one: a level that is none, or an error of the command before
it prints its output, or when it does. -/
def Invocation.escape? (invocation : Invocation) (host : Host) (settings : Settings) (tree : FileTree) : Option Escape :=
  match LevelChoice.rank? standardLevel (loggerRequest invocation.verbosity settings).level with
  | .error cause => some (.level cause)
  | .ok _ => (invocation.command.escape? host settings tree).or (invocation.command.refusal? host settings tree)

/-- **The errors that end a run** whose files can be written and whose input is there: a level that is none, files that
cannot be decoded or hold a number with too many digits or brackets that there is no room for, a configuration file whose
name no file can have, an indent that is too large, and an output that cannot be printed. -/
inductive Unreported (host : Host) : Escape → Prop
  | level (cause : LevelError) : Unreported host (.level cause)
  | configEncoding : Unreported host (.load .notUtf8)
  | configNumeral (numeral : Text.NumeralTooLong) : Unreported host (.load (.numeralTooLong numeral))
  | configNesting (container : Json.Container) : Unreported host (.load (.nestedTooDeeply container))
  | configPath : Unreported host (.load .nullInPath)
  | inputEncoding : Unreported host (.build (.read .notUtf8))
  | inputNumeral (numeral : Text.NumeralTooLong) : Unreported host (.build (.read (.numeralTooLong numeral)))
  | indent {n : Int} : canIndent n = false → Unreported host (.indentTooLarge n)
  | output {text : String} {fault : Fault} : host.refuses? text = some fault → Unreported host (.output fault)

theorem Markdown.blocksInFile_ne_noFile (bytes : ByteArray) : Markdown.blocksInFile (some bytes) ≠ .error .noFile := by
  intro missing
  unfold Markdown.blocksInFile at missing
  dsimp only at missing
  cases decoded : Markdown.fileText? bytes with
  | none =>
      rw [decoded] at missing
      cases missing
  | some text =>
      simp only [decoded] at missing
      cases read : Markdown.read text with
      | error numeral =>
          rw [read] at missing
          cases missing
      | ok blocks =>
          rw [read] at missing
          cases missing

section

variable {host : Host} {settings : Settings} {tree : FileTree} {cause : Escape}

theorem Command.unreported_of_unreadable? {command : Command} (there : tree.isFile command.source = true)
    (unreadable : command.unreadable? tree = some cause) : Unreported host cause := by
  obtain ⟨bytes, found⟩ := Option.isSome_iff_exists.mp there
  unfold Command.unreadable? at unreadable
  rw [found] at unreadable
  split at unreadable
  · next reason failed =>
      cases unreadable
      -- what is left of the reasons is in the content of the file
      cases reason with
      | noFile => exact absurd failed (Markdown.blocksInFile_ne_noFile bytes)
      | notUtf8 => exact .inputEncoding
      | numeralTooLong numeral => exact .inputNumeral numeral
  · cases unreadable

theorem Command.unreported_of_escape? {command : Command} (there : tree.isFile command.source = true)
    (foreseen : command.escape? host settings tree = some cause) : Unreported host cause := by
  cases command with
  | outline input indent =>
      rcases Option.or_eq_some_iff.mp foreseen with unreadable | ⟨-, indented⟩
      · exact Command.unreported_of_unreadable? there unreadable
      · split at indented
        · cases indented
        · next tooLarge =>
            cases indented
            exact .indent (Bool.not_eq_true _ ▸ tooLarge)
  | build request =>
      unfold Command.escape? at foreseen
      dsimp only at foreseen
      cases configured : effectiveConfig request settings tree host.room with
      | error reason =>
          rw [configured] at foreseen
          cases reason with
          | config refused => cases foreseen
          | notUtf8 =>
              cases foreseen
              exact .configEncoding
          | numeralTooLong numeral =>
              cases foreseen
              exact .configNumeral numeral
          | nestedTooDeeply container =>
              cases foreseen
              exact .configNesting container
          | nullInPath =>
              cases foreseen
              exact .configPath
      | ok config =>
          rw [configured] at foreseen
          exact Command.unreported_of_unreadable? there foreseen

theorem Task.unreported_of_refusal? {task : Task} (refused : task.refusal? host = some cause) : Unreported host cause := by
  unfold Task.refusal? at refused
  split at refused
  · obtain ⟨fault, refuses, rfl⟩ := Option.map_eq_some_iff.mp refused
    exact .output refuses
  · cases refused

/-- **No other error is foreseen.** -/
theorem Invocation.unreported_of_escape? {invocation : Invocation}
    (there : tree.isFile invocation.command.source = true) (foreseen : invocation.escape? host settings tree = some cause) :
    Unreported host cause := by
  unfold Invocation.escape? at foreseen
  cases level? : LevelChoice.rank? standardLevel (loggerRequest invocation.verbosity settings).level with
  | error reason =>
      rw [level?] at foreseen
      cases foreseen
      exact .level reason
  | ok level =>
      rw [level?] at foreseen
      rcases Option.or_eq_some_iff.mp foreseen with before | ⟨-, refused⟩
      · exact Command.unreported_of_escape? there before
      · unfold Command.refusal? at refused
        split at refused
        · cases refused
        · exact Task.unreported_of_refusal? refused

end

/-! ## How commands end -/

/-- The task succeeds, or reports an error. -/
def Task.Reports (task : Task) : Prop :=
  task.ending = .status 0 ∨ task.ending = .status 1 ∧ ∃ text, (⟨.error, text⟩ : LogRecord) ∈ task.journal

theorem Task.Reports.after {task : Task} (h : task.Reports) (journal : Journal) : (task.after journal).Reports := by
  rcases h with succeeds | ⟨fails, text, mem⟩
  · exact Or.inl succeeds
  · exact Or.inr ⟨fails, text, List.mem_append_right journal mem⟩

theorem Task.failed_reports (tree : FileTree) (text : String) : (Task.failed tree text).Reports :=
  Or.inr ⟨rfl, text, List.mem_singleton.mpr rfl⟩

/-- The task ends as expected: with an error, or by itself. -/
def Task.EndsWith (task : Task) : Option Escape → Prop
  | some cause => task.ending = .escaped cause
  | none => task.Reports

theorem Task.EndsWith.after {task : Task} {escape? : Option Escape} (h : task.EndsWith escape?) (journal : Journal) :
    (task.after journal).EndsWith escape? := by
  cases escape? with
  | none => exact Task.Reports.after h journal
  | some cause => exact h

section

variable {host : Host} {settings : Settings} {tree ready : FileTree}

/-- A task on an input that is there ends as it does by itself. -/
theorem withSource_endsWith {input : String} {task : Path → Task} {escape? : Option Escape}
    (there : tree.isFile (Path.parse input) = true) (ends : (task (Path.parse input)).EndsWith escape?) :
    (withSource input tree task).EndsWith escape? := by
  unfold withSource
  rw [if_pos there]
  exact ends.after _

/-- **Showing a deck** ends with an error if its input cannot be read, or the indent is too large. -/
theorem outlineTask_endsWith (host : Host) {input : String} (indent : Int)
    (there : tree.isFile (Path.parse input) = true) :
    (outlineTask input indent settings tree).EndsWith ((Command.outline input indent).escape? host settings tree) := by
  apply withSource_endsWith there
  unfold Command.escape? Command.unreadable? Command.source
  dsimp only
  cases Markdown.blocksInFile (tree.file? (Path.parse input)) with
  | error cause => rfl
  | ok blocks =>
      dsimp only
      rw [Option.none_or]
      split
      · exact Or.inl rfl
      · rfl

/-- **Making a document** ends with an error if the configuration file cannot be decoded, or its input cannot be read. -/
theorem buildTask_endsWith (numbers : host.library.NumbersPages) {request : BuildRequest} {made : FileTree}
    (there : tree.isFile (Path.parse request.input) = true)
    (directories : tree.makeDirectories (request.target settings (Path.parse request.input)).parent = .ok made)
    (free : made.isDirectory (request.target settings (Path.parse request.input)) = false) :
    (buildTask host request settings tree).EndsWith ((Command.build request).escape? host settings tree) := by
  apply withSource_endsWith there
  unfold Command.escape? Command.unreadable? Command.source
  dsimp only
  cases configured : effectiveConfig request settings tree host.room with
  | error cause =>
      cases cause with
      | config refused => exact Task.failed_reports _ _
      | notUtf8 => rfl
      | numeralTooLong numeral => rfl
      | nestedTooDeeply container => rfl
      | nullInPath => rfl
  | ok config =>
      let builder : Builder := { config, warnDropped := settings.warnDropped, library := host.library }
      dsimp only
      cases readable : Markdown.blocksInFile (tree.file? (Path.parse request.input)) with
      | error cause =>
          rw [builder.buildFile_unreadable (request.target settings (Path.parse request.input)) readable]
          rfl
      | ok blocks =>
          cases result : (builder.buildFile (Path.parse request.input)
              (request.target settings (Path.parse request.input)) tree).outcome with
          | ok printed => exact Or.inl rfl
          | error cause =>
              have reported := Builder.buildFile_reported numbers directories free readable result
              obtain ⟨⟨kind, text⟩, isReport⟩ := Option.isSome_iff_exists.mp reported
              dsimp only
              rw [isReport]
              exact (Task.failed_reports _ _).after _

/-- **A task whose output is printed** ends as it did before, or because its output cannot be printed. -/
theorem Task.printed_endsWith (host : Host) {task : Task} {escape? : Option Escape} (ends : task.EndsWith escape?) :
    (task.printed host).EndsWith (escape?.or (task.refusal? host)) := by
  cases escape? with
  | some cause =>
      have ending : task.ending = .escaped cause := ends
      -- it has not succeeded, and prints nothing
      have silent : task.refusal? host = none := by
        unfold Task.refusal?
        rw [ending]
        rfl
      unfold Task.printed
      rw [silent]
      exact ends
  | none =>
      rw [Option.none_or]
      unfold Task.printed
      cases task.refusal? host with
      | none => exact ends
      | some cause => rfl

end

/-! ## How a run ends -/

/-- The paths that a run writes to. -/
def writtenPaths (settings : Settings) (command : Command) : List Path :=
  [settings.outputDirectory, settings.logFile] ++ (command.target? settings).toList

/-- **What a run writes can be written**: its directories and its log file, and its document if it makes one. -/
structure Writable (settings : Settings) (command : Command) (tree : FileTree) : Prop where
  /-- Files can have these names. -/
  noNull : ∀ path ∈ writtenPaths settings command, '\x00' ∉ path.text.toList
  prepared : ∃ ready, settings.prepare tree = .ok ready ∧
    ∀ target, command.target? settings = some target →
      ∃ made, ready.makeDirectories target.parent = .ok made ∧ made.isDirectory target = false

section

variable {host : Host} {settings : Settings} {tree ready : FileTree}

/-- **A command ends** as expected when the files are ready for it, from what there was before. -/
theorem task_endsWith (numbers : host.library.NumbersPages) {command : Command}
    (prepared : settings.prepare tree = .ok ready) (noNull : '\x00' ∉ settings.logFile.text.toList)
    (there : tree.isFile command.source = true)
    (free : ∀ target, command.target? settings = some target →
      ∃ made, ready.makeDirectories target.parent = .ok made ∧ made.isDirectory target = false) :
    (command.task host settings ready).EndsWith (command.escape? host settings tree) := by
  have same := Settings.file?_prepare_of_isFile prepared there
  have stillThere : ready.isFile command.source = true := by
    unfold FileTree.isFile at there ⊢
    rw [same]
    exact there
  -- neither the input nor the configuration has changed, so the same error is foreseen
  have sameEscape : command.escape? host settings tree = command.escape? host settings ready := by
    unfold Command.escape? Command.unreadable?
    rw [same]
    cases command with
    | outline input indent => rfl
    | build request =>
        dsimp only
        rw [effectiveConfig_prepared prepared noNull]
  rw [sameEscape]
  cases command with
  | outline input indent => exact outlineTask_endsWith host indent stillThere
  | build request =>
      obtain ⟨made, directories, noDirectory⟩ := free _ rfl
      exact buildTask_endsWith numbers stillThere directories noDirectory

/-- **The logger of a run** is set up when the directories have been made, unless its level is none. -/
theorem setup_prepared (prepared : settings.prepare tree = .ok ready) (verbosity : Verbosity) :
    ∃ made, settings.ensureDirectories tree = (made, .ok ()) ∧
      match LevelChoice.rank? standardLevel (loggerRequest verbosity settings).level with
      | .error cause => (({} : Loggers).setup (loggerRequest verbosity settings) made).outcome = .error (.level cause)
      | .ok level =>
        ∃ console, console ≤ Severity.warning.rank ∧
          ({} : Loggers).setup (loggerRequest verbosity settings) made =
            { loggers := ({} : Loggers).put programLogger
                { level, handlers := [.console console, .file settings.logFile] }
              tree := ready, outcome := .ok () } := by
  obtain ⟨middle, made, -, second, touched, ensured⟩ := Settings.exists_of_prepare prepared
  -- the logger makes the directory of its file, which the settings have made already
  have again : made.makeDirectories settings.logFile.parent = .ok made := by
    rw [Settings.logFile, Path.parent_join]
    exact FileTree.makeDirectories_again second
  -- the level of the console comes from the command line, and is never above that of warnings
  have consoleLevel : ∃ console, console ≤ Severity.warning.rank ∧
      LevelChoice.rank? standardLevel (loggerRequest verbosity settings).consoleLevel = .ok console := by
    cases verbosity with
    | verbose => exact ⟨10, by decide, rfl⟩
    | normal => exact ⟨20, by decide, rfl⟩
    | quiet => exact ⟨30, by decide, rfl⟩
  obtain ⟨console, low, isConsole⟩ := consoleLevel
  refine ⟨made, ensured, ?_⟩
  unfold Loggers.setup
  cases LevelChoice.rank? standardLevel (loggerRequest verbosity settings).level with
  | error cause => rfl
  | ok level =>
      have new : (({} : Loggers).get (loggerRequest verbosity settings).name).handlers.isEmpty = true := rfl
      have file : (loggerRequest verbosity settings).file = settings.logFile := rfl
      refine ⟨console, low, ?_⟩
      simp only [new, if_true, Loggers.install, isConsole, file, again, touched]
      rfl

/-- An error is shown on the console unless the level of the logger is above that of errors. -/
theorem report_of_mem {journal : Journal} {level console : Int} {file : Path} {text : String}
    (mem : (⟨.error, text⟩ : LogRecord) ∈ journal) (low : console ≤ Severity.warning.rank)
    (passes : level ≤ Severity.error.rank) :
    ∃ before after : String, (({ level, handlers := [.console console, .file file] } : Logger).shown journal).text =
      before ++ s!"ERROR: {text}\n" ++ after := by
  let logger : Logger := { level, handlers := [.console console, .file file] }
  have threshold : logger.threshold ≤ Severity.error.rank := by
    unfold Logger.threshold
    split
    · decide
    · exact passes
  have reaches : console ≤ Severity.error.rank := Int.le_trans low (by decide)
  have shown : (⟨.error, text⟩ : LogRecord) ∈ logger.shown journal := by
    have hasConsole : logger.hasConsole = true := rfl
    unfold Logger.shown
    rw [if_pos hasConsole]
    apply List.mem_filter.mpr
    constructor
    · exact List.mem_filter.mpr ⟨mem, decide_eq_true threshold⟩
    · exact List.any_eq_true.mpr ⟨.console console, List.mem_cons_self, decide_eq_true reaches⟩
  obtain ⟨earlier, later, split⟩ := List.append_of_mem shown
  refine ⟨Journal.text earlier, Journal.text later, ?_⟩
  show Journal.text (logger.shown journal) = _
  rw [split]
  unfold Journal.text
  rw [List.map_append, List.map_cons, String.join_append, String.join_cons]
  exact String.append_assoc.symm

end

/-- **How a run ends.** -/
structure Ends (host : Host) (invocation : Invocation) (settings : Settings) (tree : FileTree) (run : SessionRun) :
    Prop where
  /-- An error ends it exactly if it is foreseen. -/
  escapes : ∀ cause, run.ending = .escaped cause ↔ invocation.escape? host settings tree = some cause
  /-- Only these errors can be. -/
  unreported : ∀ cause, run.ending = .escaped cause → Unreported host cause
  /-- Where none is foreseen, it ends with a status. -/
  status : invocation.escape? host settings tree = none → run.ending = .status 0 ∨ run.ending = .status 1
  /-- A status of one comes with a report, unless the level is above that of errors. -/
  reports : run.ending = .status 1 → ∀ level,
    LevelChoice.rank? standardLevel (loggerRequest invocation.verbosity settings).level = .ok level →
    level ≤ Severity.error.rank → ∃ before text after : String, run.report = before ++ s!"ERROR: {text}\n" ++ after

section

variable {host : Host} {invocation : Invocation} {settings : Settings} {tree : FileTree} {run : SessionRun}

theorem Ends.of_escaped (there : tree.isFile invocation.command.source = true) {cause : Escape}
    (foreseen : invocation.escape? host settings tree = some cause) (ending : run.ending = .escaped cause) :
    Ends host invocation settings tree run where
  escapes := by
    intro other
    rw [foreseen, ending, Option.some.injEq, Ending.escaped.injEq]
  unreported := by
    intro other escaped
    obtain rfl := Ending.escaped.inj (ending.symm.trans escaped)
    exact Invocation.unreported_of_escape? there foreseen
  status := by
    intro none_
    cases foreseen.symm.trans none_
  reports := by
    intro one
    cases ending.symm.trans one

/-- A run that ends by itself where no error is foreseen. -/
theorem Ends.of_status (none_ : invocation.escape? host settings tree = none)
    (ends : run.ending = .status 0 ∨ run.ending = .status 1)
    (reports : run.ending = .status 1 → ∀ level,
      LevelChoice.rank? standardLevel (loggerRequest invocation.verbosity settings).level = .ok level →
      level ≤ Severity.error.rank → ∃ before text after : String, run.report = before ++ s!"ERROR: {text}\n" ++ after) :
    Ends host invocation settings tree run := by
  have noEscape : ∀ cause, run.ending ≠ .escaped cause := by
    intro cause escaped
    rcases ends with zero | one
    · cases zero.symm.trans escaped
    · cases one.symm.trans escaped
  refine ⟨?_, fun cause escaped => absurd escaped (noEscape cause), fun _ => ends, reports⟩
  intro cause
  rw [none_]
  exact ⟨fun escaped => absurd escaped (noEscape cause), fun same => by cases same⟩

/-- **A command with its settings** ends as expected. -/
theorem runCommand_ends (numbers : host.library.NumbersPages) (writable : Writable settings invocation.command tree)
    (there : tree.isFile invocation.command.source = true) :
    Ends host invocation settings tree (runCommand host invocation settings tree) := by
  obtain ⟨noNull, ready, prepared, free⟩ := writable
  have noNull : '\x00' ∉ settings.logFile.text.toList := noNull _ (List.mem_cons_of_mem _ List.mem_cons_self)
  have ends := Task.printed_endsWith host (task_endsWith numbers prepared noNull there free)
  obtain ⟨made, ensured, setUp⟩ := setup_prepared prepared invocation.verbosity
  unfold runCommand
  rw [ensured]
  dsimp only
  cases level? : LevelChoice.rank? standardLevel (loggerRequest invocation.verbosity settings).level with
  | error cause =>
      rw [level?] at setUp
      have foreseen : invocation.escape? host settings tree = some (.level cause) := by
        unfold Invocation.escape?
        rw [level?]
      rw [setUp]
      exact .of_escaped there foreseen rfl
  | ok level =>
      rw [level?] at setUp
      obtain ⟨console, low, isSetUp⟩ := setUp
      have passedOn : invocation.escape? host settings tree =
          (invocation.command.escape? host settings tree).or
            ((invocation.command.task host settings ready).refusal? host) := by
        unfold Invocation.escape? Command.refusal?
        rw [level?, prepared]
      have name : (loggerRequest invocation.verbosity settings).name = programLogger := rfl
      simp only [isSetUp, name, Loggers.get_put_self]
      rw [← passedOn] at ends
      cases foreseen : invocation.escape? host settings tree with
      | some cause =>
          rw [foreseen] at ends
          exact .of_escaped there foreseen ends
      | none =>
          rw [foreseen] at ends
          apply Ends.of_status foreseen
          · exact ends.imp_right And.left
          · intro one level' isLevel passes
            obtain rfl := Except.ok.inj (level?.symm.trans isLevel)
            -- an error is in the journal, and the console shows it
            rcases ends with zero | ⟨-, text, mem⟩
            · cases zero.symm.trans one
            · obtain ⟨before, after, shown⟩ := report_of_mem mem low passes
              exact ⟨before, text, after, shown⟩

end

/-- **How a run ends.** For every command line that is accepted, every environment with any `.env` files, and every
library that numbers its pages: a `.env` file that cannot be read ends the run, and settings that are none are reported.
Where the files of the run can be written and its input is there, it ends with a status of zero or one, and with a report
in the latter case, unless one of the errors is foreseen that nothing reports (`Unreported`). Exactly such an error ends
it then. -/
theorem runSession_ends {arguments : List String} {base : Path} {environment : Environment} {tree : FileTree} {host : Host}
    {invocation : Invocation} (numbers : host.library.NumbersPages) (parsed : Invocation.parse arguments = .ok invocation) :
    (∀ fault, host.variables environment tree = .error fault →
        (runSession arguments base environment tree host).ending = .escaped (.environment fault)) ∧
      ∀ effective, host.variables environment tree = .ok effective →
        (∀ invalid, Settings.ofEnvironment base effective = .error invalid →
          (runSession arguments base environment tree host).ending = .status 1 ∧
            (runSession arguments base environment tree host).report =
              s!"Invalid SLIDEDECK_* settings: {invalid.message}\n") ∧
        ∀ settings, Settings.ofEnvironment base effective = .ok settings →
          Writable settings invocation.command tree → tree.isFile invocation.command.source = true →
          Ends host invocation settings tree (runSession arguments base environment tree host) := by
  unfold runSession
  rw [parsed]
  dsimp only
  constructor
  · intro fault unread
    rw [unread]
  · intro effective isRead
    rw [isRead]
    dsimp only
    constructor
    · intro invalid refused
      rw [refused]
      exact ⟨rfl, rfl⟩
    · intro settings accepted writable there
      rw [accepted]
      exact runCommand_ends numbers writable there

/-- A page shape that is none is reported, and a level that is none ends the run. -/
theorem runSession_ends_misspelled :
    let base : Path := { components := [] }
    let tree : FileTree := { files := [(Path.parse "talk.md", "### One".toUTF8)] }
    let misshaped := runSession ["build", "talk.md"] base [("SLIDEDECK_DEFAULT_ASPECT_RATIO", "wide")] tree
    let misleveled := runSession ["build", "talk.md"] base [("SLIDEDECK_LOG_LEVEL", "loud")] tree
    let unset := runSession ["build", "talk.md"] base [("SLIDEDECK_WARN_DROPPED_CONTENT", "maybe")] tree
    (misshaped.ending = .status 1 ∧ ∃ before text after : String, misshaped.report = before ++ s!"ERROR: {text}\n" ++ after) ∧
      misleveled.ending = .escaped (.level (.unknown "loud")) ∧ unset.ending = .status 1 := by
  intro base tree misshaped misleveled unset
  have parsed : Invocation.parse ["build", "talk.md"] = .ok ⟨.normal, .build { input := "talk.md" }⟩ :=
    ok_of_toOption (by decide +kernel)
  have there : tree.isFile (Path.parse "talk.md") = true := by decide +kernel
  have numbers : ({} : Host).library.NumbersPages := PressLibrary.filling_numbersPages .usual
  let invocation : Invocation := ⟨.normal, .build { input := "talk.md" }⟩
  let settings : Settings :=
    { outputDirectory := (base.join "data").join "output", logDirectory := (base.join "data").join "logs" }
  have writable (logLevel aspectRatio : String) :
      Writable { settings with logLevel, aspectRatio } (.build { input := "talk.md" }) tree := by
    refine ⟨?_, _, rfl, ?_⟩
    · show ∀ path ∈ writtenPaths settings (.build { input := "talk.md" }), '\x00' ∉ path.text.toList
      decide +kernel
    · intro target isTarget
      cases isTarget
      exact ⟨_, rfl, rfl⟩
  refine ⟨?_, ?_, ?_⟩
  · have ends : Ends {} invocation { settings with aspectRatio := "wide" } tree misshaped :=
      ((runSession_ends numbers parsed).2 _ rfl).2 _ rfl (writable "INFO" "wide") there
    have one : misshaped.ending = .status 1 := by decide +kernel
    exact ⟨one, ends.reports one 20 (ok_of_toOption (by decide +kernel)) (by decide)⟩
  · have ends : Ends {} invocation { settings with logLevel := "loud" } tree misleveled :=
      ((runSession_ends numbers parsed).2 _ rfl).2 _ rfl (writable "loud" "16-9") there
    exact (ends.escapes _).mpr (by decide +kernel)
  · exact (((runSession_ends numbers parsed).2 _ rfl).1 _ rfl).1

/-- The status is neither zero nor one where the level of the log is none, where the input cannot be decoded, or where the
indent is too large, although the input is there and everything can be written. -/
theorem runSession_escapes :
    let base : Path := { components := [] }
    let outline (indent : Int) : Command := .outline "talk.md" indent
    let settings : Settings :=
      { outputDirectory := (base.join "data").join "output", logDirectory := (base.join "data").join "logs" }
    let plain : FileTree := { files := [(Path.parse "talk.md", "### One".toUTF8)] }
    let bytes : FileTree := { files := [(Path.parse "talk.md", ⟨#[0xff]⟩)] }
    let loud : Environment := [("SLIDEDECK_LOG_LEVEL", "loud")]
    let far : List String := ["outline", "talk.md", "--indent", "9223372036854775808"]
    (Invocation.parse ["outline", "talk.md"] = .ok ⟨.normal, outline 2⟩ ∧
        Settings.ofEnvironment base loud = .ok { settings with logLevel := "loud" } ∧
        Writable { settings with logLevel := "loud" } (outline 2) plain ∧ plain.isFile (outline 2).source = true ∧
        (runSession ["outline", "talk.md"] base loud plain).ending = .escaped (.level (.unknown "loud"))) ∧
      (Settings.ofEnvironment base [] = .ok settings ∧
        Writable settings (outline 2) bytes ∧ bytes.isFile (outline 2).source = true ∧
        (runSession ["outline", "talk.md"] base [] bytes).ending = .escaped (.build (.read .notUtf8))) ∧
      (Invocation.parse far = .ok ⟨.normal, outline 9223372036854775808⟩ ∧
        Writable settings (outline 9223372036854775808) plain ∧
        (runSession far base [] plain).ending = .escaped (.indentTooLarge 9223372036854775808)) := by
  intro base outline settings plain bytes loud far
  have writable (logLevel : String) (indent : Int) (tree : FileTree) (made : ∃ ready, settings.prepare tree = .ok ready) :
      Writable { settings with logLevel } (outline indent) tree := by
    obtain ⟨ready, prepared⟩ := made
    refine ⟨?_, ready, prepared, ?_⟩
    · show ∀ path ∈ writtenPaths settings (outline 2), '\x00' ∉ path.text.toList
      decide +kernel
    · intro target isTarget
      cases isTarget
  refine ⟨⟨ok_of_toOption (by decide +kernel), rfl, writable "loud" 2 plain ⟨_, rfl⟩, ?_, ?_⟩,
    ⟨rfl, writable "INFO" 2 bytes ⟨_, rfl⟩, ?_, ?_⟩,
    ⟨ok_of_toOption (by decide +kernel), writable "INFO" _ plain ⟨_, rfl⟩, ?_⟩⟩
  all_goals decide +kernel

end SlidePress
