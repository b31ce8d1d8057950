import SlidePress.Files.Tree
import SlidePress.Log
import SlidePress.Text.Case
import SlidePress.Text.Quoted

/-!
# `SlidePress.Session.Logger` — where reports go

A logger passes on the records of at least its level, and each of its handlers those of at least a level of its own. A
logger gets one handler for the console and one for a file when it is set up; setting it up again changes only levels.
-/

namespace SlidePress

/-! ## Levels -/

/-- A level as it is asked for. -/
inductive LevelChoice
  | name (word : String)
  | rank (n : Int)
deriving DecidableEq, Repr

/-- What a word stands for where a level is asked for. -/
inductive LevelWord
  | rank (n : Int)
  /-- The word stands for a text, which is no level. -/
  | format (text : String)
  /-- The word stands for something else. -/
  | styles
deriving DecidableEq, Repr

/-- The words that stand for something where a level is asked for. -/
def levelWords : List (String × LevelWord) :=
  [("NOTSET", .rank 0), ("DEBUG", .rank 10), ("INFO", .rank 20), ("WARN", .rank 30), ("WARNING", .rank 30),
    ("ERROR", .rank 40), ("FATAL", .rank 50), ("CRITICAL", .rank 50),
    ("BASIC_FORMAT", .format "%(levelname)s:%(name)s:%(message)s"), ("_STYLES", .styles)]

/-- Why a level is none. -/
inductive LevelError
  /-- The word stands for nothing. -/
  | unknown (word : String)
  /-- The word stands for a text. -/
  | format (text : String)
  /-- The word stands for something else. -/
  | styles
deriving DecidableEq, Repr

/-- What is said of a level that is none, where something is. -/
def LevelError.message? : LevelError → Option String
  | .format text => some s!"Unknown level: {Text.quoted text}"
  | .unknown _ | .styles => none

/-- The rank of a level, or of a default where none is asked for; the case of its name does not matter, and an empty
name asks for none. -/
def LevelChoice.rank? (default : String) : Option LevelChoice → Except LevelError Int
  | some (.rank n) => .ok n
  | none => find default
  | some (.name word) => find (if word.isEmpty then default else word)
where
  /-- The rank that a word stands for. -/
  find (word : String) : Except LevelError Int :=
    match levelWords.lookup (Text.upper word) with
    | some (.rank n) => .ok n
    | some (.format text) => .error (.format text)
    | some .styles => .error .styles
    | none => .error (.unknown word)

/-! ## Loggers -/

/-- Where the records of a logger go. -/
inductive Handler
  | console (level : Int)
  /-- A file takes all records from the lowest level on. -/
  | file (path : Path)
deriving DecidableEq, Repr

/-- The level of a handler. -/
def Handler.level : Handler → Int
  | .console level => level
  | .file _ => Severity.debug.rank

/-- A logger. -/
structure Logger where
  level : Int := 0
  handlers : List Handler := []
deriving DecidableEq, Repr

/-- The console handlers of a logger with another level. -/
def Logger.setConsole (logger : Logger) (level : Int) : Logger :=
  { logger with handlers := logger.handlers.map fun
      | .console _ => .console level
      | handler => handler }

/-- Whether a logger has a console handler. -/
def Logger.hasConsole (logger : Logger) : Bool :=
  logger.handlers.any fun
    | .console _ => true
    | .file _ => false

/-- Loggers by name. A logger that has not been set up is like a new one. -/
structure Loggers where
  entries : List (String × Logger) := []
deriving DecidableEq, Repr

namespace Loggers

/-- The logger with a name. -/
def get (loggers : Loggers) (name : String) : Logger := (loggers.entries.lookup name).getD {}

/-- The loggers with one of them changed. -/
def put (loggers : Loggers) (name : String) (logger : Logger) : Loggers :=
  ⟨(name, logger) :: loggers.entries.filter fun entry => entry.1 ≠ name⟩

theorem get_put_self (loggers : Loggers) (name : String) (logger : Logger) :
    (loggers.put name logger).get name = logger := by
  simp [get, put]

theorem get_put_of_ne (loggers : Loggers) {name other : String} (h : other ≠ name) (logger : Logger) :
    (loggers.put name logger).get other = loggers.get other := by
  have key : ∀ entries : List (String × Logger),
      (entries.filter fun entry => entry.1 ≠ name).lookup other = entries.lookup other := by
    intro entries
    induction entries with
    | nil => rfl
    | cons entry entries ih =>
      obtain ⟨k, v⟩ := entry
      by_cases hk : k = name
      · subst hk
        have hne : (other == k) = false := by simp [h]
        simpa [List.lookup_cons, hne] using ih
      · simp only [ne_eq, hk, not_false_eq_true, decide_true, List.filter_cons_of_pos, List.lookup_cons]
        rw [← ih]
  simp only [get, put, List.lookup_cons]
  have hne : (other == name) = false := by simp [h]
  rw [hne, key]

end Loggers

/-! ## Setting up -/

/-- Why a logger cannot be set up. -/
inductive SetupError
  | level (cause : LevelError)
  | files (cause : FileTree.Failure)
deriving DecidableEq, Repr

/-- The logger that is set up where no other one is asked for, which is that of the program. -/
def programLogger : String := "deckcore"

/-- The file that a log goes to where no other one is asked for. -/
def standardLogFile : String := "logs/slidedeck.log"

/-- A file as it is asked for. -/
inductive FileChoice
  | name (text : String)
  | path (path : Path)
deriving DecidableEq, Repr

/-- How a logger is to be set up. What is not given has a default, and so has an empty text. -/
structure LoggerRequest where
  givenName : Option String := none
  level : Option LevelChoice := none
  consoleLevel : Option LevelChoice := none
  givenFile : Option FileChoice := none
deriving DecidableEq, Repr

/-- A text that is given, or a default where none is or where it is empty. -/
def givenOr (default : String) : Option String → String
  | none => default
  | some text => if text.isEmpty then default else text

namespace LoggerRequest

/-- The name of the logger. -/
def name (request : LoggerRequest) : String := givenOr programLogger request.givenName

/-- The file of the log. -/
def file (request : LoggerRequest) : Path :=
  match request.givenFile with
  | some (.path path) => path
  | some (.name text) => Path.parse (givenOr standardLogFile (some text))
  | none => Path.parse standardLogFile

end LoggerRequest

/-- The level of a logger and of its console where none is asked for. -/
def standardLevel : String := "INFO"

/-- What comes of setting up a logger: the loggers, the files, and whether it went well. What was done before a failure
stays. -/
structure LoggerRun where
  loggers : Loggers
  tree : FileTree
  outcome : Except SetupError Unit

namespace Loggers

/-- A logger without handlers gets both: first the one for the console, then, when its directory and its file have been
made, the one for the file. -/
def install (loggers : Loggers) (request : LoggerRequest) (logger : Logger) (tree : FileTree) : LoggerRun :=
  match LevelChoice.rank? standardLevel request.consoleLevel with
  | .error e => { loggers := loggers.put request.name logger, tree, outcome := .error (.level e) }
  | .ok level =>
    let logger := { logger with handlers := [.console level] }
    let failed (tree : FileTree) (e : FileTree.Failure) : LoggerRun :=
      { loggers := loggers.put request.name logger, tree, outcome := .error (.files e) }
    match tree.makeDirectories request.file.parent with
    | .error e => failed tree e
    | .ok tree =>
      match tree.touch request.file with
      | .error e => failed tree e
      | .ok tree =>
        let logger := { logger with handlers := logger.handlers ++ [.file request.file] }
        { loggers := loggers.put request.name logger, tree, outcome := .ok () }

/-- A logger that has handlers keeps them; only the level of its console changes. -/
def adjust (loggers : Loggers) (request : LoggerRequest) (logger : Logger) (tree : FileTree) : LoggerRun :=
  if logger.hasConsole then
    match LevelChoice.rank? standardLevel request.consoleLevel with
    | .error e => { loggers := loggers.put request.name logger, tree, outcome := .error (.level e) }
    | .ok level => { loggers := loggers.put request.name (logger.setConsole level), tree, outcome := .ok () }
  else { loggers := loggers.put request.name logger, tree, outcome := .ok () }

/-- A logger set up: its level is set first, and then its handlers are installed or adjusted. -/
def setup (loggers : Loggers) (request : LoggerRequest) (tree : FileTree) : LoggerRun :=
  match LevelChoice.rank? standardLevel request.level with
  | .error e => { loggers, tree, outcome := .error (.level e) }
  | .ok level =>
    let logger := { loggers.get request.name with level }
    if logger.handlers.isEmpty then loggers.install request logger tree else loggers.adjust request logger tree

end Loggers

/-! ## Showing records -/

namespace Logger

/-- The rank from which on records are passed on. A logger without a level of its own has that of warnings. -/
def threshold (logger : Logger) : Int := if logger.level = 0 then Severity.warning.rank else logger.level

/-- The records that the console shows. -/
def shown (logger : Logger) (journal : Journal) : Journal :=
  if logger.hasConsole then
    (journal.atLeast logger.threshold).filter fun record =>
      logger.handlers.any fun
        | .console level => decide (level ≤ record.severity.rank)
        | .file _ => false
  else []

/-- The records that are written to files. -/
def written (logger : Logger) (journal : Journal) : Journal :=
  (journal.atLeast logger.threshold).atLeast Severity.debug.rank

end Logger

/-- The records as lines, each with its severity before it. -/
def Journal.text (journal : Journal) : String :=
  String.join (journal.map fun record => s!"{record.severity.name}: {record.text}\n")

end SlidePress
