import SlidePress.Session.Run

/-!
# `SlidePress.Main` — the program

Reads the files that a command line names, runs it, and writes what it leaves. The run has the usual host: its settings
come from the variables that are set and from no `.env` file, and everything can be printed.
-/

namespace SlidePress

/-- The variables of the environment that settings come from. -/
def settingVariables : List String :=
  ["SLIDEDECK_OUTPUT_DIR", "SLIDEDECK_LOGS_DIR", "SLIDEDECK_LOG_LEVEL", "SLIDEDECK_DEFAULT_ASPECT_RATIO",
    "SLIDEDECK_WARN_DROPPED_CONTENT"]

/-- How the program is called. -/
def usageText : String :=
  String.intercalate "\n" [
    "usage: slidedeck [-h] [-v | -q] COMMAND ...",
    "",
    "  build INPUT [-o OUTPUT] [-c CONFIG] [--title TITLE] [--subtitle SUBTITLE] [--author AUTHOR]",
    "        [--institute INSTITUTE] [--date DATE] [--aspect-ratio 16-9 | 4-3]",
    "  outline INPUT [--indent INDENT]",
    ""]

/-- The variables that are set. -/
def readEnvironment : IO Environment := do
  let found ← settingVariables.mapM fun name => do
    return (← IO.getEnv name).map fun value => (name, value)
  return found.filterMap id

/-- The files among some paths. -/
def readFiles (paths : List Path) : IO FileTree :=
  paths.foldlM (fun tree path => do
    match ← (IO.FS.readBinFile path.text).toBaseIO with
    | .ok bytes => return tree.write path bytes
    | .error _ => return tree) {}

/-- Writes everything that is in the second of two trees and not in the first. -/
def writeFiles (before after : FileTree) : IO Unit := do
  for directory in after.directories do
    IO.FS.createDirAll directory.text
  for (path, bytes) in after.files do
    if (before.file? path).map (·.data) ≠ some bytes.data then IO.FS.writeBinFile path.text bytes

/-- What the program says, and its exit status. -/
def conclude (run : SessionRun) : IO UInt32 := do
  IO.print run.output
  IO.eprint run.report
  match run.ending with
  | .status code => return UInt32.ofNat code
  | .refused refusal =>
    IO.eprint usageText
    return UInt32.ofNat refusal.status
  | .escaped _ =>
    IO.eprintln "The run was ended by an error."
    return 1

end SlidePress

open SlidePress

/-- The program. -/
def main (arguments : List String) : IO UInt32 := do
  let environment ← readEnvironment
  let base : Path := { components := [] }
  let before ← readFiles (sessionFiles arguments base environment)
  let run := runSession arguments base environment before
  writeFiles before run.tree
  conclude run
