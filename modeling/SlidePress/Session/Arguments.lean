import SlidePress.Config.Basic
import SlidePress.Decimal.Read
import SlidePress.Text.Digit

/-!
# `SlidePress.Session.Arguments` — the command line

A command line names a command, with options before it that concern every command and options and an input after it
that concern this one. Options may be written in full or cut as long as only one is meant, with their value beside them
or after a sign of equality.

## Contents
- `OptionName`, `OptionSet`: options, and how their names are matched.
- `Token`, `OptionSet.tokens?`: arguments, each taken for what it looks like.
- `Given`, `OptionSet.given`: what is given, in order.
- `Invocation`, `Invocation.parse`: a command with its options, or why it is refused.
-/

namespace SlidePress

/-! ## Options -/

/-- An option: its names, each with its hyphens, and whether a value belongs to it. -/
structure OptionName where
  names : List String
  takesValue : Bool
deriving DecidableEq, Repr

/-- The options that may be given at one place. -/
abbrev OptionSet := List OptionName

/-- The option that asks for help. -/
def helpOption : OptionName := ⟨["-h", "--help"], false⟩

/-- A value that stands beside the name of an option in one argument. -/
structure Beside where
  text : List Char
  /-- Whether a sign of equality stands between them. -/
  equals : Bool
deriving DecidableEq, Repr

/-- An argument, taken for what it looks like. -/
inductive Token
  | argument (text : String)
  /-- Two hyphens: everything after them is an argument. -/
  | separator
  /-- An option under one of its names, perhaps with a value beside it. -/
  | option (option : OptionName) (name : List Char) (value : Option Beside)
  /-- Something that looks like an option, and is none. -/
  | unknown
deriving DecidableEq, Repr

namespace OptionSet

/-- The option with a name. -/
def find? (options : OptionSet) (name : List Char) : Option OptionName :=
  List.find? (fun option => (option.names.map String.toList).contains name) options

/-- Every name of an option, with the option. -/
def byName (options : OptionSet) : List (List Char × OptionName) :=
  options.flatMap fun option => option.names.map fun name => (name.toList, option)

/-- A text cut at its first sign of equality. -/
def cutAtEquals (text : List Char) : List Char × Option Beside :=
  match text.dropWhile (· ≠ '=') with
  | [] => (text, none)
  | _ :: value => (text.takeWhile (· ≠ '='), some ⟨value, true⟩)

/-- What an argument with hyphens may be short for. After two hyphens it is the beginning of a name. After one it is a
name of one letter with a value beside it, or the beginning of a name. -/
def abbreviated (options : OptionSet) (text : List Char) : List Token :=
  if text.take 2 = ['-', '-'] then
    let (start, value) := cutAtEquals text
    options.byName.filterMap fun (name, option) =>
      if start.isPrefixOf name then some (.option option name value) else none
  else
    options.byName.filterMap fun (name, option) =>
      if name = text.take 2 then some (.option option name (some ⟨text.drop 2, false⟩))
      else if text.isPrefixOf name then some (.option option name none)
      else none

/-- Whether a text is a negative number: digits, or digits around a point. -/
def isNegativeNumber (text : List Char) : Bool :=
  match text with
  | '-' :: body =>
    let (whole, rest) := body.span Text.isDigit
    match rest with
    | [] => !whole.isEmpty
    | '.' :: places => !places.isEmpty && places.all Text.isDigit
    | _ => false
  | _ => false

/-- What an argument looks like; nothing when it may be short for several options. -/
def token? (options : OptionSet) (text : List Char) : Option Token :=
  let argument : Token := .argument (String.ofList text)
  match text with
  | '-' :: _ :: _ =>
    match options.find? text with
    | some option => some (.option option text none)
    | none =>
      let (name, value) := cutAtEquals text
      match value, options.find? name with
      | some value, some option => some (.option option name (some value))
      | _, _ =>
        match options.abbreviated text with
        | [token] => some token
        | [] => some (if isNegativeNumber text || text.contains ' ' then argument else .unknown)
        | _ => none
  | _ => some argument

/-- What the arguments look like; nothing when one of them may be short for several options. -/
def tokens? (options : OptionSet) : List String → Option (List Token)
  | [] => some []
  | text :: texts =>
    if text = "--" then some (.separator :: texts.map .argument)
    else
      match options.token? text.toList, options.tokens? texts with
      | some token, some tokens => some (token :: tokens)
      | _, _ => none

/-- What stands beside an option of one letter, as the beginning of further options. -/
def besideLetter : List Char → Option Beside
  | [] => none
  | '=' :: value => some ⟨value, true⟩
  | letters => some ⟨letters, false⟩

/-- What stands beside an option of one letter is no longer than what follows the letter. -/
theorem length_besideLetter_le (rest : List Char) :
    ((besideLetter rest).map fun v => v.text.length).getD 0 ≤ rest.length := by
  match rest with
  | [] => exact Nat.le_refl 0
  | c :: cs =>
    by_cases h : c = '='
    · subst h
      exact Nat.le_succ cs.length
    · have step : besideLetter (c :: cs) = some ⟨c :: cs, false⟩ := by simp [besideLetter, h]
      rw [step]
      exact Nat.le_refl _

/-- The options that a token stands for: one with the value beside it, or several of one letter that need none, with
their letters written together; and whether a letter among them is no option. Nothing when a value stands beside an
option that needs none. -/
def spelled? (options : OptionSet) (option : OptionName) (name : List Char) (value : Option Beside) :
    Option (List (OptionName × Option String) × Bool) :=
  match value with
  | none => some ([(option, none)], false)
  | some ⟨text, equals⟩ =>
    if option.takesValue then some ([(option, some (String.ofList text))], false)
    else
      match text with
      | [] => none
      | letter :: rest =>
        if name[1]? = some '-' || equals || letter = '-' then none
        else
          match options.find? ['-', letter] with
          | none => some ([(option, none)], true)
          | some next =>
            (options.spelled? next ['-', letter] (besideLetter rest)).map fun (more, unknown) =>
              ((option, none) :: more, unknown)
termination_by (value.map fun v => v.text.length).getD 0
decreasing_by exact Nat.lt_succ_of_le (length_besideLetter_le rest)

end OptionSet

/-! ## What is given -/

/-- Something given on the command line. -/
inductive Given
  /-- An option by its longest name, with its value, which is empty for one that needs none. -/
  | option (name : String) (value : String)
  | argument (text : String)
  /-- Something that belongs nowhere. -/
  | extra
deriving DecidableEq, Repr

/-- The last name of an option, which is its longest. -/
def OptionName.key (option : OptionName) : String := option.names.getLast?.getD ""

namespace OptionSet

/-- What is given with some tokens, up to the first that is wrong, and whether none is. One argument is expected, with
or without a separator beside it. -/
def given (options : OptionSet) (expected : Bool) : List Token → List Given × Bool
  | [] => ([], true)
  | .argument text :: tokens =>
    if expected then
      match tokens with
      | .separator :: tokens => next (.argument text) (options.given false tokens)
      | tokens => next (.argument text) (options.given false tokens)
    else next .extra (options.given false tokens)
  | .separator :: tokens =>
    if expected && startsWithArgument tokens then options.given expected tokens
    else next .extra (options.given expected tokens)
  | .unknown :: tokens => next .extra (options.given expected tokens)
  | .option option name value :: tokens =>
    match options.spelled? option name value with
    | none => ([], false)
    | some (spelled, unknown) =>
      let flags := (spelled.filter fun (o, value) => !o.takesValue || value.isSome).map fun (o, value) =>
        Given.option o.key (value.getD "")
      let flags := flags ++ if unknown then [Given.extra] else []
      match spelled.getLast? with
      | some (last, none) =>
        if last.takesValue then
          match tokens with
          | .argument text :: tokens =>
            let (rest, fine) := options.given expected tokens
            (flags ++ .option last.key text :: rest, fine)
          | _ => ([], false)
        else
          let (rest, fine) := options.given expected tokens
          (flags ++ rest, fine)
      | _ =>
        let (rest, fine) := options.given expected tokens
        (flags ++ rest, fine)
termination_by tokens => tokens.length
where
  /-- Whether the next token is an argument. -/
  startsWithArgument (tokens : List Token) : Bool :=
    match tokens with
    | .argument _ :: _ => true
    | _ => false
  /-- Something given before the rest. -/
  next (item : Given) (rest : List Given × Bool) : List Given × Bool := (item :: rest.1, rest.2)

end OptionSet

/-! ## Commands -/

/-- How much is shown on the console. -/
inductive Verbosity
  | quiet
  | normal
  | verbose
deriving DecidableEq, Repr

/-- What a document is to be built from, and with what. -/
structure BuildRequest where
  input : String
  output : Option String := none
  config : Option String := none
  title : Option String := none
  subtitle : Option String := none
  author : Option String := none
  institute : Option String := none
  date : Option String := none
  aspectRatio : Option AspectRatio := none
deriving DecidableEq, Repr

/-- A command. -/
inductive Command
  /-- Makes a document. -/
  | build (request : BuildRequest)
  /-- Shows the compiled deck, indented. -/
  | outline (input : String) (indent : Int)
deriving DecidableEq, Repr

/-- Why a command line is refused. -/
inductive Refusal
  /-- Help was asked for. -/
  | help
  /-- It is wrong. -/
  | usage
deriving DecidableEq, Repr

/-- The exit status of a refusal. -/
def Refusal.status : Refusal → Nat
  | .help => 0
  | .usage => 2

/-- A command line. -/
structure Invocation where
  verbosity : Verbosity
  command : Command
deriving DecidableEq, Repr

/-- The options of every command. -/
def commonOptions : OptionSet := [helpOption, ⟨["-v", "--verbose"], false⟩, ⟨["-q", "--quiet"], false⟩]

/-- The options for making a document. -/
def buildOptions : OptionSet :=
  [helpOption, ⟨["-o", "--output"], true⟩, ⟨["-c", "--config"], true⟩, ⟨["--title"], true⟩, ⟨["--subtitle"], true⟩,
    ⟨["--author"], true⟩, ⟨["--institute"], true⟩, ⟨["--date"], true⟩, ⟨["--aspect-ratio"], true⟩]

/-- The options for showing a compiled deck. -/
def outlineOptions : OptionSet := [helpOption, ⟨["--indent"], true⟩]

/-- What a command collects: an input, and what else it needs. -/
structure Collected (α : Type) where
  input : Option String := none
  /-- Whether something belonged nowhere. -/
  extra : Bool := false
  rest : α

/-- The input and the options that are given, collected in order. -/
def collect {α : Type} (take : α → String → String → Except Refusal α) (fine : Bool) (state : Collected α) :
    List Given → Except Refusal (Collected α)
  | [] => if fine then .ok state else .error .usage
  | .argument text :: items => collect take fine { state with input := some text } items
  | .extra :: items => collect take fine { state with extra := true } items
  | .option name value :: items =>
    if name = helpOption.key then .error .help
    else
      match take state.rest name value with
      | .error refusal => .error refusal
      | .ok rest => collect take fine { state with rest } items

/-- The input and what was collected from the arguments of a command; the input has to be given, and nothing else may
be. -/
def collected {α : Type} (options : OptionSet) (take : α → String → String → Except Refusal α) (start : α)
    (arguments : List String) : Except Refusal (String × α) :=
  match options.tokens? arguments with
  | none => .error .usage
  | some tokens =>
    let (items, fine) := options.given true tokens
    match collect take fine { rest := start } items with
    | .error refusal => .error refusal
    | .ok { input := some input, extra := false, rest } => .ok (input, rest)
    | .ok _ => .error .usage

/-- One option for making a document. -/
def BuildRequest.take (request : BuildRequest) (name value : String) : Except Refusal BuildRequest :=
  match name with
  | "--output" => .ok { request with output := some value }
  | "--config" => .ok { request with config := some value }
  | "--title" => .ok { request with title := some value }
  | "--subtitle" => .ok { request with subtitle := some value }
  | "--author" => .ok { request with author := some value }
  | "--institute" => .ok { request with institute := some value }
  | "--date" => .ok { request with date := some value }
  | "--aspect-ratio" =>
    match AspectRatio.ofName? value with
    | some ratio => .ok { request with aspectRatio := some ratio }
    | none => .error .usage
  | _ => .error .usage

/-- The indentation of a deck that is shown. -/
def takeIndent (_indent : Int) (_name value : String) : Except Refusal Int :=
  match Decimal.readWhole? value.toList with
  | some indent => .ok indent
  | none => .error .usage

/-- A command with its arguments. -/
def Command.parse (name : String) (arguments : List String) : Except Refusal Command :=
  match name with
  | "build" =>
    (collected buildOptions BuildRequest.take { input := "" } arguments).map fun (input, request) =>
      .build { request with input }
  | "outline" =>
    (collected outlineOptions takeIndent 2 arguments).map fun (input, indent) => .outline input indent
  | _ => .error .usage

/-- One option of every command; showing more and showing less exclude one another. -/
def Verbosity.take (verbosity : Verbosity) (name : String) : Except Refusal Verbosity :=
  match name, verbosity with
  | "--verbose", .quiet => .error .usage
  | "--verbose", _ => .ok .verbose
  | "--quiet", .verbose => .error .usage
  | "--quiet", _ => .ok .quiet
  | _, _ => .error .usage

/-- The options of one token before the command, in order. -/
def Verbosity.takeAll (verbosity : Verbosity) : List (OptionName × Option String) → Except Refusal Verbosity
  | [] => .ok verbosity
  | (option, _) :: options =>
    if option = helpOption then .error .help
    else
      match verbosity.take option.key with
      | .error refusal => .error refusal
      | .ok verbosity => verbosity.takeAll options

/-- A command line: options, a command, and what belongs to it. What looks like an option and is none is refused, but
only after the command has been looked at. -/
def Invocation.parseFrom (verbosity : Verbosity) (extra : Bool) : List String → Except Refusal Invocation
  | [] => .error .usage
  | text :: texts =>
    match commonOptions.token? text.toList with
    | none => .error .usage
    | some (.option option name value) =>
      match commonOptions.spelled? option name value with
      | none => .error .usage
      | some (options, unknown) =>
        match verbosity.takeAll options with
        | .error refusal => .error refusal
        | .ok verbosity => parseFrom verbosity (extra || unknown) texts
    | some .unknown => parseFrom verbosity true texts
    | some _ =>
      match Command.parse text texts with
      | .error refusal => .error refusal
      | .ok command => if extra then .error .usage else .ok { verbosity, command }

/-- A command line; it is wrong as a whole where anything in it may be short for several options of every command. -/
def Invocation.parse (arguments : List String) : Except Refusal Invocation :=
  match commonOptions.tokens? arguments with
  | none => .error .usage
  | some _ => parseFrom .normal false arguments

end SlidePress
