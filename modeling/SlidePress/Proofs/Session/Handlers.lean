import SlidePress.Proofs.Outcome
import SlidePress.Session.Logger

/-!
# `SlidePress.Proofs.Session.Handlers` — the handlers of a logger after any history

Loggers are set up by calls, any of which may fail: a level is none, or the file of the log cannot be made. Between two
calls anything may have happened to the files, so every call has a tree of its own. A call is about the logger with
the name of its request, which is that of the program where none is given.

There are five ways for a call to deal with its logger (`LoggerCall.Sets`), and only one of them attaches handlers:
first the console, then the file when it has been made. Handlers that are there keep every later call from attaching
any. So the handlers after a history are those of one call, the first that got as far as attaching them (`Attached`,
`after_attached`), and they include a file if that call could make it. When it could not, it failed, but later calls
take its console for a whole installation and return, and the logger has no file (`get_of_returned`,
`returned_without_file`).

## Contents
- `LoggerCall`, `Loggers.after`: a call with the files at that time, and a history of calls.
- `LoggerCall.attaches`, `LoggerCall.opens`, `LoggerCall.handlers`: what a call attaches.
- `install_eq`, `run_get_of_ne`: handlers attached, and the other loggers.
- `LoggerCall.Sets`, `LoggerCall.run_sets`: what one call does to its logger.
- `Attached`, `Sets.attached_after`, `run_attached`, `after_attached`: the handlers after one call and after a history.
- `Sets.returned`, `get_of_returned`, `returned_without_file`: calls that return.
-/

namespace SlidePress

/-! ## Calls -/

/-- A call that sets up a logger: what is asked for, and the files at that time. -/
structure LoggerCall where
  request : LoggerRequest
  tree : FileTree

namespace LoggerCall

/-- The call is about a logger, and its levels are levels, so that it gets as far as the handlers. -/
def attaches (name : String) (call : LoggerCall) : Bool :=
  call.request.name = name && (LevelChoice.rank? standardLevel call.request.level).isOk &&
    (LevelChoice.rank? standardLevel call.request.consoleLevel).isOk

/-- The directory and the file of the log can be made. -/
def opens (call : LoggerCall) : Bool :=
  ((call.tree.makeDirectories call.request.file.parent).bind (·.touch call.request.file)).isOk

/-- The handlers that a call attaches, the console with some level: also the file, if that can be made. -/
def handlers (call : LoggerCall) (console : Int) : List Handler :=
  .console console :: if call.opens then [.file call.request.file] else []

/-- The loggers, the files and the outcome after a call. -/
def run (call : LoggerCall) (loggers : Loggers) : LoggerRun := loggers.setup call.request call.tree

end LoggerCall

/-- The loggers after a history of calls. -/
def Loggers.after (loggers : Loggers) : List LoggerCall → Loggers
  | [] => loggers
  | call :: history => (call.run loggers).loggers.after history

/-! ## One call -/

namespace Loggers

variable {call : LoggerCall} {name : String}

/-- Nothing is attached by a call whose level of the console is none. -/
theorem install_of_error (loggers : Loggers) (logger : Logger) {cause : LevelError}
    (console? : LevelChoice.rank? standardLevel call.request.consoleLevel = .error cause) :
    loggers.install call.request logger call.tree =
      ⟨loggers.put call.request.name logger, call.tree, .error (.level cause)⟩ := by
  rw [install, console?]

/-- Handlers are attached by a call that gets as far as that: the console in any case, the file if it could be made. -/
theorem install_eq (loggers : Loggers) (logger : Logger) {console : Int}
    (console? : LevelChoice.rank? standardLevel call.request.consoleLevel = .ok console) :
    (loggers.install call.request logger call.tree).loggers =
        loggers.put call.request.name { logger with handlers := call.handlers console } ∧
      ((loggers.install call.request logger call.tree).outcome = .ok () ↔ call.opens = true) := by
  unfold install
  rw [console?]
  dsimp only
  cases made? : call.tree.makeDirectories call.request.file.parent with
  | error cause =>
      have shut : call.opens = false := by rw [LoggerCall.opens, made?]; rfl
      simp [LoggerCall.handlers, shut]
  | ok made =>
      cases touched? : made.touch call.request.file with
      | error cause =>
          have shut : call.opens = false := by rw [LoggerCall.opens, made?, Except.bind, touched?]; rfl
          simp [LoggerCall.handlers, shut, touched?]
      | ok touched =>
          have opens : call.opens = true := by rw [LoggerCall.opens, made?, Except.bind, touched?]; rfl
          simp [LoggerCall.handlers, opens, touched?]

/-- **Other loggers** are left as they are, also by a call that fails. -/
theorem run_get_of_ne (loggers : Loggers) (call : LoggerCall) (other : name ≠ call.request.name) :
    (call.run loggers).loggers.get name = loggers.get name := by
  have kept (logger : Logger) : (loggers.put call.request.name logger).get name = loggers.get name :=
    get_put_of_ne loggers other logger
  unfold LoggerCall.run setup
  split
  · rfl
  · dsimp only
    split
    · cases console? : LevelChoice.rank? standardLevel call.request.consoleLevel with
      | error cause =>
          rw [install_of_error loggers _ console?]
          exact kept _
      | ok console =>
          rw [(install_eq loggers _ console?).1]
          exact kept _
    · unfold adjust
      split
      · split <;> exact kept _
      · exact kept _

end Loggers

/-- **What a call does to its logger**, for each way with everything that leads to it, and its outcome. -/
inductive LoggerCall.Sets (call : LoggerCall) (before : Logger) : Logger → Except SetupError Unit → Prop
  /-- The level is none, and nothing is done. -/
  | noLevel {cause : LevelError} : LevelChoice.rank? standardLevel call.request.level = .error cause →
      call.Sets before before (.error (.level cause))
  /-- The level of the console is none, and only the level is set. -/
  | noConsoleLevel {level : Int} {cause : LevelError} : LevelChoice.rank? standardLevel call.request.level = .ok level →
      LevelChoice.rank? standardLevel call.request.consoleLevel = .error cause →
      call.Sets before { before with level } (.error (.level cause))
  /-- Handlers are attached to a logger without any, and the call returns if its file could be made. -/
  | attached {level console : Int} {outcome : Except SetupError Unit} : before.handlers = [] →
      LevelChoice.rank? standardLevel call.request.level = .ok level →
      LevelChoice.rank? standardLevel call.request.consoleLevel = .ok console →
      (outcome = .ok () ↔ call.opens = true) → call.Sets before ⟨level, call.handlers console⟩ outcome
  /-- The level of the console is set. -/
  | adjusted {level console : Int} : before.handlers ≠ [] →
      LevelChoice.rank? standardLevel call.request.level = .ok level →
      LevelChoice.rank? standardLevel call.request.consoleLevel = .ok console →
      call.Sets before ({ before with level }.setConsole console) (.ok ())
  /-- There are handlers, but no console. -/
  | noConsole {level : Int} : before.handlers ≠ [] → before.hasConsole = false →
      LevelChoice.rank? standardLevel call.request.level = .ok level → call.Sets before { before with level } (.ok ())

/-- **A call** does one of these things. -/
theorem LoggerCall.run_sets (call : LoggerCall) (loggers : Loggers) :
    call.Sets (loggers.get call.request.name) ((call.run loggers).loggers.get call.request.name)
      (call.run loggers).outcome := by
  unfold LoggerCall.run Loggers.setup
  cases level? : LevelChoice.rank? standardLevel call.request.level with
  | error cause => exact .noLevel level?
  | ok level =>
      dsimp only
      split
      · next none_ =>
        have none_ : (loggers.get call.request.name).handlers = [] := List.isEmpty_iff.mp none_
        cases console? : LevelChoice.rank? standardLevel call.request.consoleLevel with
        | error cause =>
            rw [loggers.install_of_error _ console?]
            dsimp only
            rw [Loggers.get_put_self]
            exact .noConsoleLevel level? console?
        | ok console =>
            obtain ⟨loggers_eq, returns⟩ := loggers.install_eq { loggers.get call.request.name with level } console?
            rw [loggers_eq, Loggers.get_put_self]
            exact .attached none_ level? console? returns
      · next some_ =>
        have some_ : (loggers.get call.request.name).handlers ≠ [] := fun none_ => some_ (List.isEmpty_iff.mpr none_)
        unfold Loggers.adjust
        split
        · cases console? : LevelChoice.rank? standardLevel call.request.consoleLevel with
          | error cause =>
              dsimp only
              rw [Loggers.get_put_self]
              exact .noConsoleLevel level? console?
          | ok console =>
              dsimp only
              rw [Loggers.get_put_self]
              exact .adjusted some_ level? console?
        · next without =>
          rw [Loggers.get_put_self]
          exact .noConsole some_ (Bool.not_eq_true _ ▸ without) level?

/-! ## A history -/

/-- The handlers of a logger, by the call that attached handlers to it, if one did: none at all, or those that this call
attached, the console with any level. -/
def Attached (handlers : List Handler) : Option LoggerCall → Prop
  | none => handlers = []
  | some first => ∃ console, handlers = first.handlers console

variable {call : LoggerCall} {first? : Option LoggerCall} {before after : Logger} {loggers : Loggers}

/-- Handlers that are there have been attached by a call. -/
theorem Attached.exists_of_ne {handlers : List Handler} (attached : Attached handlers first?) (some_ : handlers ≠ []) :
    ∃ first console, first? = some first ∧ handlers = first.handlers console := by
  cases first? with
  | none => exact absurd attached some_
  | some first =>
      obtain ⟨console, handlers_eq⟩ := attached
      exact ⟨first, console, rfl, handlers_eq⟩

theorem Attached.eq_none (attached : Attached [] first?) : first? = none := by
  cases first? with
  | none => rfl
  | some first =>
      obtain ⟨console, handlers_eq⟩ := attached
      cases handlers_eq

/-- The handlers of a call, with another level of the console. -/
theorem Logger.setConsole_handlers (first : LoggerCall) (level before console : Int) :
    Logger.setConsole ⟨level, first.handlers before⟩ console = ⟨level, first.handlers console⟩ := by
  unfold setConsole LoggerCall.handlers
  cases first.opens <;> rfl

theorem Logger.hasConsole_handlers (first : LoggerCall) (level console : Int) :
    Logger.hasConsole ⟨level, first.handlers console⟩ = true := by
  simp [hasConsole, LoggerCall.handlers]

namespace LoggerCall

/-- A call attaches handlers if both its levels are levels. -/
theorem attaches_of_ok {level console : Int} (level? : LevelChoice.rank? standardLevel call.request.level = .ok level)
    (console? : LevelChoice.rank? standardLevel call.request.consoleLevel = .ok console) :
    call.attaches call.request.name = true := by
  simp [attaches, level?, console?, Except.isOk, Except.toBool]

/-- **A call attaches handlers** where no earlier one did, if it gets as far as that; otherwise they stay, but for the
level of the console. -/
theorem Sets.attached_after {outcome : Except SetupError Unit} (sets : call.Sets before after outcome)
    (attached : Attached before.handlers first?) :
    Attached after.handlers (first?.or ([call].find? (·.attaches call.request.name))) := by
  cases sets with
  | noLevel level? =>
      have attaches : call.attaches call.request.name = false := by
        simp [attaches, level?, Except.isOk, Except.toBool]
      simpa [attaches] using attached
  | noConsoleLevel level? console? =>
      have attaches : call.attaches call.request.name = false := by
        simp [attaches, console?, Except.isOk, Except.toBool]
      simpa [attaches] using attached
  | @attached level console _ none_ level? console? _ =>
      rw [none_] at attached
      rw [attached.eq_none, Option.none_or, List.find?_cons_of_pos (attaches_of_ok level? console?)]
      exact ⟨console, rfl⟩
  | @adjusted level console some_ level? console? =>
      obtain ⟨first, console', rfl, handlers_eq⟩ := attached.exists_of_ne some_
      rw [handlers_eq, Logger.setConsole_handlers]
      exact ⟨console, rfl⟩
  | noConsole some_ _ _ =>
      obtain ⟨first, console', rfl, handlers_eq⟩ := attached.exists_of_ne some_
      exact ⟨console', handlers_eq⟩

/-- **A call that returns** leaves its own levels, and the handlers of the first call that attached any. -/
theorem Sets.returned (sets : call.Sets before after (.ok ())) (attached : Attached before.handlers first?) :
    ∃ level console first, LevelChoice.rank? standardLevel call.request.level = .ok level ∧
      LevelChoice.rank? standardLevel call.request.consoleLevel = .ok console ∧
      first?.or ([call].find? (·.attaches call.request.name)) = some first ∧ after = ⟨level, first.handlers console⟩ := by
  cases sets with
  | @attached level console _ none_ level? console? _ =>
      rw [none_] at attached
      refine ⟨level, console, call, level?, console?, ?_, rfl⟩
      rw [attached.eq_none, Option.none_or, List.find?_cons_of_pos (attaches_of_ok level? console?)]
  | @adjusted level console some_ level? console? =>
      obtain ⟨first, console', rfl, handlers_eq⟩ := attached.exists_of_ne some_
      refine ⟨level, console, first, level?, console?, rfl, ?_⟩
      rw [handlers_eq, Logger.setConsole_handlers]
  | noConsole some_ without _ =>
      obtain ⟨first, console', rfl, handlers_eq⟩ := attached.exists_of_ne some_
      have console_ := Logger.hasConsole_handlers first before.level console'
      rw [← handlers_eq, without] at console_
      cases console_

end LoggerCall

namespace Loggers

/-- **One call**, of any logger. -/
theorem run_attached (call : LoggerCall) (name : String) (attached : Attached (loggers.get name).handlers first?) :
    Attached ((call.run loggers).loggers.get name).handlers (first?.or ([call].find? (·.attaches name))) := by
  by_cases other : name = call.request.name
  · subst other
    exact (call.run_sets loggers).attached_after attached
  · have attaches : call.attaches name = false := by
      simp [LoggerCall.attaches, Ne.symm other]
    rw [run_get_of_ne loggers call other]
    simpa [attaches] using attached

/-- **After any history** a logger has the handlers that the first call of it to get so far has attached. -/
theorem after_attached (history : List LoggerCall) (name : String)
    (attached : Attached (loggers.get name).handlers first?) :
    Attached ((loggers.after history).get name).handlers (first?.or (history.find? (·.attaches name))) := by
  induction history generalizing loggers first? with
  | nil => simpa [after] using attached
  | cons call history ih =>
      have next := ih (run_attached call name attached)
      rwa [Option.or_assoc, ← List.find?_append, List.singleton_append] at next

/-- **A call that returns**, of a logger that once had no handlers, and after any history of calls, leaves its own levels
and exactly one handler for the console. It leaves a handler for a file as well, and only one, if the first call of this
logger whose levels were levels could make its file; if that call could not, it failed, and no later one makes up for it.
Other loggers are left as they are. -/
theorem get_of_returned (loggers : Loggers) (history : List LoggerCall) (call : LoggerCall)
    (new : (loggers.get call.request.name).handlers = [])
    (returned : (call.run (loggers.after history)).outcome = .ok ()) :
    ∃ level console first, LevelChoice.rank? standardLevel call.request.level = .ok level ∧
      LevelChoice.rank? standardLevel call.request.consoleLevel = .ok console ∧
      (history ++ [call]).find? (·.attaches call.request.name) = some first ∧
      (call.run (loggers.after history)).loggers.get call.request.name =
        { level, handlers := .console console :: if first.opens then [.file first.request.file] else [] } ∧
      ∀ other ≠ call.request.name,
        (call.run (loggers.after history)).loggers.get other = (loggers.after history).get other := by
  have attached : Attached ((loggers.after history).get call.request.name).handlers
      (none.or (history.find? (·.attaches call.request.name))) :=
    after_attached history call.request.name (show Attached _ none from new)
  have sets := call.run_sets (loggers.after history)
  rw [returned] at sets
  obtain ⟨level, console, first, level?, console?, first_eq, after_eq⟩ := sets.returned attached
  rw [Option.none_or, ← List.find?_append] at first_eq
  exact ⟨level, console, first, level?, console?, first_eq, after_eq,
    fun other ne => run_get_of_ne (loggers.after history) call ne⟩

/-- A level that is none attaches nothing, so that the next call attaches both handlers; a file that cannot be made
leaves the console, and it is all that the call after it finds. Where the name and the file are empty, the logger of the
program gets the file that it has by default. -/
theorem get_of_returned_of_failures :
    let tree : FileTree := { directories := [⟨false, ["logs"]⟩] }
    let deck : LoggerCall := ⟨{ givenName := some "deck", givenFile := some (.name "logs/deck.log") }, tree⟩
    let unknown : LoggerCall := ⟨{ givenName := some "deck", level := some (.name "loud") }, tree⟩
    let directory : LoggerCall := ⟨{ givenName := some "deck", givenFile := some (.path ⟨false, ["logs"]⟩) }, tree⟩
    let unnamed : LoggerCall := ⟨{ givenName := some "", givenFile := some (.name "") }, tree⟩
    (deck.run (({} : Loggers).after [unknown])).loggers.get "deck" =
        ⟨20, [.console 20, .file ⟨false, ["logs", "deck.log"]⟩]⟩ ∧
      (deck.run (({} : Loggers).after [unknown, directory])).loggers.get "deck" = ⟨20, [.console 20]⟩ ∧
      (unnamed.run (({} : Loggers).after [directory])).loggers.get "deckcore" =
        ⟨20, [.console 20, .file ⟨false, ["logs", "slidedeck.log"]⟩]⟩ := by
  intro tree deck unknown directory unnamed
  have standard : LevelChoice.rank? standardLevel none = .ok 20 := ok_of_toOption (by decide +kernel)
  have deck_name : deck.request.name = "deck" := by decide +kernel
  have unnamed_name : unnamed.request.name = "deckcore" := by decide +kernel
  have unknown_not : unknown.attaches deck.request.name ≠ true := by decide +kernel
  have directory_does : directory.attaches deck.request.name = true := by decide +kernel
  have directory_not : directory.attaches unnamed.request.name ≠ true := by decide +kernel
  have deck_does : deck.attaches deck.request.name = true := by decide +kernel
  have unnamed_does : unnamed.attaches unnamed.request.name = true := by decide +kernel
  refine ⟨?_, ?_, ?_⟩
  · obtain ⟨level, console, first, level?, console?, first_eq, after_eq, -⟩ :=
      get_of_returned {} [unknown] deck rfl (by decide +kernel)
    have opens : deck.opens = true := by decide +kernel
    have file : deck.request.file = ⟨false, ["logs", "deck.log"]⟩ := by decide +kernel
    cases standard.symm.trans level?
    cases standard.symm.trans console?
    rw [List.singleton_append, List.find?_cons_of_neg unknown_not, List.find?_cons_of_pos deck_does] at first_eq
    cases first_eq
    rwa [opens, file, deck_name] at after_eq
  · obtain ⟨level, console, first, level?, console?, first_eq, after_eq, -⟩ :=
      get_of_returned {} [unknown, directory] deck rfl (by decide +kernel)
    have shut : directory.opens = false := by decide +kernel
    cases standard.symm.trans level?
    cases standard.symm.trans console?
    rw [List.cons_append, List.find?_cons_of_neg unknown_not, List.singleton_append,
      List.find?_cons_of_pos directory_does] at first_eq
    cases first_eq
    rwa [shut, deck_name] at after_eq
  · obtain ⟨level, console, first, level?, console?, first_eq, after_eq, -⟩ :=
      get_of_returned {} [directory] unnamed rfl (by decide +kernel)
    have opens : unnamed.opens = true := by decide +kernel
    have file : unnamed.request.file = ⟨false, ["logs", "slidedeck.log"]⟩ := by decide +kernel
    cases standard.symm.trans level?
    cases standard.symm.trans console?
    rw [List.singleton_append, List.find?_cons_of_neg directory_not, List.find?_cons_of_pos unnamed_does] at first_eq
    cases first_eq
    rwa [opens, file, unnamed_name] at after_eq

/-- A call may return and leave the logger without a file: an earlier one failed to make its own. -/
theorem returned_without_file :
    ¬ ∀ (loggers : Loggers) (history : List LoggerCall) (call : LoggerCall),
      (loggers.get call.request.name).handlers = [] → (call.run (loggers.after history)).outcome = .ok () →
        ∃ console file,
          ((call.run (loggers.after history)).loggers.get call.request.name).handlers = [.console console, .file file] := by
  intro both
  let tree : FileTree := { directories := [⟨false, ["logs"]⟩] }
  let directory : LoggerCall := ⟨{ givenName := some "deck", givenFile := some (.path ⟨false, ["logs"]⟩) }, tree⟩
  let deck : LoggerCall := ⟨{ givenName := some "deck", givenFile := some (.name "logs/deck.log") }, tree⟩
  obtain ⟨console, file, handlers_eq⟩ := both {} [directory] deck rfl (by decide +kernel)
  have unopened : ((deck.run (({} : Loggers).after [directory])).loggers.get deck.request.name).handlers =
      [.console 20] := by
    decide +kernel
  rw [unopened] at handlers_eq
  cases handlers_eq

end Loggers

end SlidePress
