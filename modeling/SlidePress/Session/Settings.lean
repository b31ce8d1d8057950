import SlidePress.Config.Basic
import SlidePress.Files.Tree
import SlidePress.Text.Case

/-!
# `SlidePress.Session.Settings` — settings from the environment

Where documents and logs go and what is reported is set by environment variables, whose names begin alike and are
compared without regard to case. `.env` files can set variables, too. How such a file is found and read is not part of
this program, which is given its variables; where they stand beside those of the process is.
-/

namespace SlidePress

/-- The variables of a run, in the order in which they were set. -/
abbrev Environment := List (String × String)

namespace Environment

/-- How the names of the variables begin. -/
def variablePrefix : String := "slidedeck_"

/-- The value of the variable for a setting; of several the last one counts. -/
def get? (environment : Environment) (setting : String) : Option String :=
  (environment.reverse.find? fun entry => Text.lower entry.1 = variablePrefix ++ setting).map (·.2)

/-- The variables of a process that has loaded those of a `.env` file. A variable that it has stays as it is, but one
whose name differs in case is another. -/
def loading (environment file : Environment) : Environment :=
  environment ++ file.filter fun entry => !environment.any (·.1 = entry.1)

/-- The variables of a process, and those of a `.env` file where it has none for a setting. -/
def backedBy (environment file : Environment) : Environment := file ++ environment

end Environment

/-- The settings of a run. -/
structure Settings where
  outputDirectory : Path
  logDirectory : Path
  logLevel : String := "INFO"
  /-- The page shape of decks without a configuration file. -/
  aspectRatio : String := AspectRatio.wide.name
  /-- Whether content before the first slide is warned about. -/
  warnDropped : Bool := true
deriving DecidableEq, Repr

namespace Settings

/-- Settings that cannot be used: a text that should be a truth value is none. -/
structure Invalid where
  setting : String
  value : String
deriving DecidableEq, Repr

/-- What is said of settings that cannot be used. -/
def Invalid.message (_e : Invalid) : String := "1 validation error for Settings"

/-- The words for true. -/
def trueWords : List String := ["true", "1", "yes", "y", "on", "t"]

/-- The words for false. -/
def falseWords : List String := ["false", "0", "no", "n", "off", "f"]

/-- The truth value that a text is, its ASCII letters in either case. -/
def truthValue? (text : String) : Option Bool :=
  let word := String.ofList (text.toList.map Char.toLower)
  if trueWords.contains word then some true else if falseWords.contains word then some false else none

/-- The setting that is a truth value. -/
def warnDroppedName : String := "warn_dropped_content"

/-- The settings of an environment. Directories that are not set are below the base. -/
def ofEnvironment (base : Path) (environment : Environment) : Except Invalid Settings :=
  let directory (setting : String) (default : String) : Path :=
    match environment.get? setting with
    | some text => Path.parse text
    | none => (base.join "data").join default
  let settings : Settings :=
    { outputDirectory := directory "output_dir" "output"
      logDirectory := directory "logs_dir" "logs"
      logLevel := (environment.get? "log_level").getD "INFO"
      aspectRatio := (environment.get? "default_aspect_ratio").getD AspectRatio.wide.name }
  match environment.get? warnDroppedName with
  | none => .ok settings
  | some text =>
    match truthValue? text with
    | some warnDropped => .ok { settings with warnDropped }
    | none => .error ⟨warnDroppedName, text⟩

/-- The log file. -/
def logFile (settings : Settings) : Path := settings.logDirectory.join "slidedeck.log"

/-- The files with the directories for documents and logs, in this order, as far as they can be made. -/
def ensureDirectories (settings : Settings) (tree : FileTree) : FileTree × Except FileTree.Failure Unit :=
  match tree.makeDirectories settings.outputDirectory with
  | .error e => (tree, .error e)
  | .ok tree =>
    match tree.makeDirectories settings.logDirectory with
    | .error e => (tree, .error e)
    | .ok tree => (tree, .ok ())

end Settings

end SlidePress
