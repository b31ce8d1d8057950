import SlidePress.Deck.Document
import SlidePress.Press.Build
import SlidePress.Session.Arguments
import SlidePress.Session.Logger
import SlidePress.Session.Settings

/-!
# `SlidePress.Session.Run` — a run of the program

A run takes a command line, an environment and the files, and leaves what it has written and how it ended. Reading and
writing real files is left to the caller. What the run needs beside them is its host (`Host`): the layout library, the
variables of `.env` files, and the console.
-/

namespace SlidePress

/-! ## Hosts -/

/-- **What a run is given beside its files.** -/
structure Host where
  library : PressLibrary := .usual
  /-- The room for nesting when a configuration file is read. -/
  room : Nat := Json.usualRoom
  /-- The variables of the `.env` file that the process loads, or why it cannot be read. They may refer to those that
  the process has. -/
  dotenv : Environment → FileTree → Except Fault Environment := fun _ _ => .ok []
  /-- The variables of the `.env` file that settings are looked for in last, or why it cannot be read. -/
  settingsFile : Environment → FileTree → Except Fault Environment := fun _ _ => .ok []
  /-- Why a text cannot be printed, if it cannot: the console may have no memory for it or no code for its characters. -/
  refuses? : String → Option Fault := fun _ => none

/-- The variables that settings come from: those of the process, with what it loads, and then those of the file of
settings. -/
def Host.variables (host : Host) (environment : Environment) (tree : FileTree) : Except Fault Environment := do
  let process := environment.loading (← host.dotenv environment tree)
  return process.backedBy (← host.settingsFile process tree)

/-! ## Endings -/

/-- An error that ends the program. -/
inductive Escape
  /-- A `.env` file cannot be read. -/
  | environment (fault : Fault)
  | files (cause : FileTree.Failure)
  | level (cause : LevelError)
  | load (cause : LoadError)
  | build (cause : BuildError)
  /-- No text has so many spaces. -/
  | indentTooLarge (indent : Int)
  /-- The output cannot be printed. -/
  | output (fault : Fault)
deriving DecidableEq, Repr

/-- What is said of an indent that is too large. -/
def indentTooLargeMessage : String := "cannot fit 'int' into an index-sized integer"

/-- How a run ends. -/
inductive Ending
  /-- With a status: zero where all went well, and one where something was reported. -/
  | status (code : Nat)
  /-- The command line was refused. -/
  | refused (refusal : Refusal)
  | escaped (cause : Escape)
deriving DecidableEq, Repr

/-- What a run leaves. -/
structure SessionRun where
  tree : FileTree
  output : String := ""
  /-- What is shown beside the output. -/
  report : String := ""
  ending : Ending

/-! ## Commands -/

/-- What a command leaves, before anything of its journal is shown. -/
structure Task where
  tree : FileTree
  journal : Journal := []
  output : String := ""
  ending : Ending

/-- The task with records before its own. -/
def Task.after (journal : Journal) (task : Task) : Task := { task with journal := journal ++ task.journal }

/-- A task that reports an error. -/
def Task.failed (tree : FileTree) (text : String) : Task :=
  { tree, journal := [⟨.error, text⟩], ending := .status 1 }

/-- The suffixes that authored files have. -/
def sourceSuffixes : List String := [".md", ".markdown", ".txt"]

/-- What is reported about a file before it is read. -/
def sourceJournal (source : Path) : Journal :=
  if sourceSuffixes.contains (Text.lower source.suffix) then []
  else [⟨.warning, s!"Unexpected extension {Text.quoted source.suffix}, reading {source.name} as markdown"⟩]

/-- A task on an authored file, which has to be there. -/
def withSource (input : String) (tree : FileTree) (task : Path → Task) : Task :=
  let source := Path.parse input
  if tree.isFile source then (task source).after (sourceJournal source)
  else .failed tree s!"File not found: {source.text}"

/-- The settings that the command line gives. -/
def BuildRequest.overrides (request : BuildRequest) : Members :=
  let given (setting : Setting) (value? : Option String) : Members :=
    (value?.map fun value => (setting.name, Json.str value)).toList
  given .title request.title ++ given .subtitle request.subtitle ++ given .author request.author ++
    given .institute request.institute ++ given .date request.date ++
    given .aspectRatio (request.aspectRatio.map AspectRatio.name)

/-- The configuration file of a request; an empty name is none. -/
def BuildRequest.configFile? (request : BuildRequest) : Option Path :=
  match request.config with
  | none => none
  | some name => if name.isEmpty then none else some (Path.parse name)

/-- The configuration that a request starts from: that of its file, or else the page shape of the settings. -/
def baseConfig (request : BuildRequest) (settings : Settings) (tree : FileTree) (room : Nat := Json.usualRoom) :
    Except LoadError Config :=
  match request.configFile? with
  | some path => Config.load path.text (tree.file? path) room
  | none =>
    (Config.ofMembers [(Setting.aspectRatio.name, .str settings.aspectRatio)]).mapError fun e => .config (.invalid e)

/-- The configuration for a document: what the command line gives comes first, then the file or the settings, and then
the defaults. -/
def effectiveConfig (request : BuildRequest) (settings : Settings) (tree : FileTree) (room : Nat := Json.usualRoom) :
    Except LoadError Config :=
  match baseConfig request settings tree room with
  | .error e => .error e
  | .ok config => (config.withOverrides request.overrides).mapError fun e => .config (.invalid e)

/-- Where a document goes: where the command line says, or else to the directory of documents, named like its source. -/
def BuildRequest.target (request : BuildRequest) (settings : Settings) (source : Path) : Path :=
  match request.output with
  | none => settings.outputDirectory.join s!"{source.stem}.pdf"
  | some name => if name.isEmpty then settings.outputDirectory.join s!"{source.stem}.pdf" else Path.parse name

/-- Makes a document. -/
def buildTask (host : Host) (request : BuildRequest) (settings : Settings) (tree : FileTree) : Task :=
  withSource request.input tree fun source =>
    match effectiveConfig request settings tree host.room with
    | .error (.config e) => .failed tree s!"ConfigError: {e.message}"
    | .error e => { tree, ending := .escaped (.load e) }
    | .ok config =>
      let builder : Builder := { config, warnDropped := settings.warnDropped, library := host.library }
      let run := builder.buildFile source (request.target settings source) tree
      match run.outcome with
      | .ok printed =>
        { tree := run.tree, journal := run.journal
          output := s!"[OK] {printed.path.text} ({printed.count.total} pages)\n", ending := .status 0 }
      | .error e =>
        match e.report? with
        | some (kind, text) => (Task.failed run.tree s!"{kind}: {text}").after run.journal
        | none => { tree := run.tree, journal := run.journal, ending := .escaped (.build e) }

/-- A number that no text has as its length. -/
def lengthLimit : Int := 0x8000000000000000

/-- Whether an indent can be the length of a text, be it a negative one. -/
def canIndent (indent : Int) : Bool := -lengthLimit ≤ indent && indent < lengthLimit

/-- Shows a compiled deck. -/
def outlineTask (input : String) (indent : Int) (settings : Settings) (tree : FileTree) : Task :=
  withSource input tree fun source =>
    let bytes? := tree.file? source
    let journal := Markdown.fileJournal source.text bytes?
    match Markdown.blocksInFile bytes? with
    | .error e => { tree, journal, ending := .escaped (.build (.read e)) }
    | .ok blocks =>
      let journal := journal ++ compileJournal settings.warnDropped blocks
      if canIndent indent then
        { tree, journal, output := (compileDeck blocks).render (.ofIndent (some indent)) ++ "\n", ending := .status 0 }
      else { tree, journal, ending := .escaped (.indentTooLarge indent) }

/-- What a command does. -/
def Command.task (command : Command) (host : Host) (settings : Settings) (tree : FileTree) : Task :=
  match command with
  | .build request => buildTask host request settings tree
  | .outline input indent => outlineTask input indent settings tree

/-- Why the output of a task cannot be printed, if it cannot. Only a task that succeeds prints something. -/
def Task.refusal? (host : Host) (task : Task) : Option Escape :=
  if task.ending = .status 0 then (host.refuses? task.output).map .output else none

/-- The task when its output has been printed; where that fails, nothing is printed. -/
def Task.printed (host : Host) (task : Task) : Task :=
  match task.refusal? host with
  | none => task
  | some cause => { task with output := "", ending := .escaped cause }

/-! ## Runs -/

/-- How the logger of a run is set up. -/
def loggerRequest (verbosity : Verbosity) (settings : Settings) : LoggerRequest where
  givenName := some programLogger
  level := some (.name (if verbosity = .verbose then "DEBUG" else settings.logLevel))
  consoleLevel :=
    some (.name (match verbosity with
      | .verbose => "DEBUG"
      | .normal => "INFO"
      | .quiet => "WARNING"))
  givenFile := some (.path settings.logFile)

/-- The report of a task on the console, and the same records added to the log file. -/
def Task.finish (task : Task) (logger : Logger) (logFile : Path) : SessionRun where
  tree := task.tree.append logFile (logger.written task.journal).text
  output := task.output
  report := (logger.shown task.journal).text
  ending := task.ending

/-- A command with its settings: directories and logger come first. -/
def runCommand (host : Host) (invocation : Invocation) (settings : Settings) (tree : FileTree) : SessionRun :=
  match settings.ensureDirectories tree with
  | (tree, .error e) => { tree, ending := .escaped (.files e) }
  | (tree, .ok ()) =>
    let request := loggerRequest invocation.verbosity settings
    let run := ({} : Loggers).setup request tree
    match run.outcome with
    | .error (.level e) => { tree := run.tree, ending := .escaped (.level e) }
    | .error (.files e) => { tree := run.tree, ending := .escaped (.files e) }
    | .ok () =>
      let task := (invocation.command.task host settings run.tree).printed host
      task.finish (run.loggers.get request.name) settings.logFile

/-- The files that a run may read: its input, its configuration file and its log file. -/
def sessionFiles (arguments : List String) (base : Path) (environment : Environment) : List Path :=
  match Invocation.parse arguments, Settings.ofEnvironment base environment with
  | .ok { command := .build request, .. }, .ok settings =>
    [Path.parse request.input, settings.logFile] ++ request.configFile?.toList
  | .ok { command := .outline input _, .. }, .ok settings => [Path.parse input, settings.logFile]
  | _, _ => []

/-- A run of the program. -/
def runSession (arguments : List String) (base : Path) (environment : Environment) (tree : FileTree) (host : Host := {}) :
    SessionRun :=
  match Invocation.parse arguments with
  | .error refusal => { tree, ending := .refused refusal }
  | .ok invocation =>
    match host.variables environment tree with
    | .error fault => { tree, ending := .escaped (.environment fault) }
    | .ok effective =>
      match Settings.ofEnvironment base effective with
      | .error e => { tree, report := s!"Invalid SLIDEDECK_* settings: {e.message}\n", ending := .status 1 }
      | .ok settings => runCommand host invocation settings tree

end SlidePress
