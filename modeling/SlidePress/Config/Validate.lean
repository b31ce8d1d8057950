import SlidePress.Config.Basic
import SlidePress.Decimal.Read
import SlidePress.Text.Blank

/-!
# `SlidePress.Config.Validate` — which configurations are accepted

Settings are given as the members of an object. Every setting is checked, in order, and then every member that belongs
to no setting, so that all problems are reported together.
-/

namespace SlidePress

namespace Config

/-- What can be wrong with a member. -/
inductive ProblemKind
  /-- No setting has this name. -/
  | unknownSetting
  /-- Only a text will do. -/
  | notText
  /-- Only a number, or a text that is one, will do. -/
  | notNumber
  /-- The text is no number. -/
  | badNumeral
  /-- The number has to be greater than zero. -/
  | notPositive
  /-- The size has to be greater than zero. -/
  | sizeNotPositive
  /-- The value is none of those to choose from. -/
  | notAChoice
deriving DecidableEq, Repr

/-- A problem: the key that it was found under, perhaps with the form that was tried, and what is wrong. -/
structure Problem where
  place : List String
  kind : ProblemKind
deriving DecidableEq, Repr

/-- A configuration with problems, of which there is at least one. -/
structure Invalid where
  problems : List Problem
deriving DecidableEq, Repr

/-- What is said of a configuration with problems. -/
def Invalid.message (e : Invalid) : String :=
  let n := e.problems.length
  let errors := if n = 1 then "error" else "errors"
  s!"Invalid deck configuration: {n} validation {errors} for DeckConfig"

/-- A value, and the problems found on the way to it; where there are some, the value is a stand-in. -/
structure Checked (α : Type) where
  value : α
  problems : List Problem := []

instance : Monad Checked where
  pure a := ⟨a, []⟩
  bind x f := let y := f x.value; ⟨y.value, x.problems ++ y.problems⟩

/-! ## Values -/

/-- A numeral without the underscores between its digits; nothing where an underscore stands at an end or next to
another one, or where there is none. -/
def withoutUnderscores? (cs : List Char) : Option (List Char) :=
  let doubled := (cs.zip cs.tail).any fun (a, b) => a = '_' && b = '_'
  if !cs.contains '_' || cs.head? = some '_' || cs.getLast? = some '_' || doubled then none
  else some (cs.filter (· ≠ '_'))

/-- The number that a text is: with white space around it left out, or else with its underscores left out. White space
beside a number with underscores is not left out. -/
def floatOfText? (text : String) : Option Float :=
  let trimmed := ((text.toList.dropWhile Text.isSpace).reverse.dropWhile Text.isSpace).reverse
  match Decimal.readFloat? trimmed with
  | some x => some x
  | none => (withoutUnderscores? text.toList).bind Decimal.readFloat?

/-- The number that a value is: numbers, truth values as one and zero, and texts that are numbers. A whole number
beyond the range of doubles is none. -/
def floatOf : Json → Except ProblemKind Float
  | .num (.float x) => .ok x
  | .num (.int n) =>
    let x := Decimal.nearest (n < 0) n.natAbs 0
    if x.isFinite then .ok x else .error .notNumber
  | .bool b => .ok (if b then 1 else 0)
  | .str s =>
    match floatOfText? s with
    | some x => .ok x
    | none => .error .badNumeral
  | _ => .error .notNumber

/-- The value of a setting that takes a text. -/
def textOf (key : String) (default : String) : Json → Checked String
  | .str s => ⟨s, []⟩
  | _ => ⟨default, [⟨[key], .notText⟩]⟩

/-- The value of a setting that takes a number greater than zero. -/
def positiveOf (key : String) (default : Float) (value : Json) : Checked Float :=
  match floatOf value with
  | .error kind => ⟨default, [⟨[key], kind⟩]⟩
  | .ok x => if 0 < x then ⟨x, []⟩ else ⟨default, [⟨[key], .notPositive⟩]⟩

/-- The value of a setting that takes a size, where it is not the word `auto`. -/
def pointsOf (key : String) (value : Json) : Checked Size :=
  match floatOf value with
  | .error kind => ⟨.auto, [⟨[key, "float"], kind⟩, ⟨[key, "literal['auto']"], .notAChoice⟩]⟩
  | .ok x => if x ≤ 0 then ⟨.auto, [⟨[key], .sizeNotPositive⟩]⟩ else ⟨.points x, []⟩

/-- The value of a setting that takes a size: the word `auto`, or a number that is not zero or less. Where it is
neither, both are reported. -/
def sizeOf (key : String) (value : Json) : Checked Size :=
  match value with
  | .str s => if s = auto then ⟨.auto, []⟩ else pointsOf key value
  | value => pointsOf key value

/-- The value of a setting that takes a page shape. -/
def ratioOf (key : String) (value : Json) : Checked AspectRatio :=
  match value with
  | .str s =>
    match AspectRatio.ofName? s with
    | some ratio => ⟨ratio, []⟩
    | none => ⟨.wide, [⟨[key], .notAChoice⟩]⟩
  | _ => ⟨.wide, [⟨[key], .notAChoice⟩]⟩

/-! ## Settings -/

end Config

/-- The key that a setting is given under, and its value; the authored name goes before the other one. -/
def Setting.lookup? (s : Setting) (members : Members) : Option (String × Json) :=
  match members.get? s.authoredName with
  | some value => some (s.authoredName, value)
  | none => (members.get? s.name).map (s.name, ·)

namespace Config

/-- The checked value of a setting, or its default where it is not given. -/
def given {α : Type} (members : Members) (s : Setting) (default : α) (check : String → Json → Checked α) : Checked α :=
  match s.lookup? members with
  | none => ⟨default, []⟩
  | some (key, value) => check key value

/-- The text of a setting. -/
def givenText (members : Members) (s : Setting) (default : String) : Checked String :=
  given members s default fun key => textOf key default

/-- The settings that the members give, each checked. -/
def checkSettings (members : Members) : Checked Config := do
  let standard : Config := {}
  let title ← givenText members .title standard.title
  let subtitle ← givenText members .subtitle standard.subtitle
  let shortTitle ← givenText members .shortTitle standard.shortTitle
  let author ← givenText members .author standard.author
  let shortAuthor ← givenText members .shortAuthor standard.shortAuthor
  let institute ← givenText members .institute standard.institute
  let shortInstitute ← givenText members .shortInstitute standard.shortInstitute
  let date ← givenText members .date standard.date
  let color ← givenText members .color standard.color
  let fontSize ← given members .fontSize standard.fontSize fun key => positiveOf key standard.fontSize
  let textFont ← givenText members .textFont standard.textFont
  let headingFont ← givenText members .headingFont standard.headingFont
  let monoFont ← givenText members .monoFont standard.monoFont
  let mathFont ← givenText members .mathFont standard.mathFont
  let headingSize ← given members .headingSize standard.headingSize sizeOf
  let monoSize ← given members .monoSize standard.monoSize sizeOf
  let chromeSize ← given members .chromeSize standard.chromeSize sizeOf
  let aspectRatio ← given members .aspectRatio standard.aspectRatio ratioOf
  return { title, subtitle, shortTitle, author, shortAuthor, institute, shortInstitute, date, color, fontSize,
           textFont, headingFont, monoFont, mathFont, headingSize, monoSize, chromeSize, aspectRatio }

/-- The members that give no setting: those with another name, and those whose setting is given under its authored
name already. -/
def unknownKeys (members : Members) : List String :=
  let used := Setting.all.filterMap fun s => (s.lookup? members).map (·.1)
  (members.map (·.1)).filter fun key => !used.contains key

/-- The configuration that the members of an object give, or all that is wrong with them. -/
def ofMembers (members : Members) : Except Invalid Config :=
  let checked := checkSettings members
  let problems := checked.problems ++ (unknownKeys members).map fun key => ⟨[key], .unknownSetting⟩
  if problems.isEmpty then .ok checked.value else .error ⟨problems⟩

/-- The members with some of them set; null sets nothing. -/
def overlay (members overrides : Members) : Members :=
  overrides.foldl (fun members (key, value) =>
    match value with
    | .null => members
    | value => members.put key value) members

/-- The configuration with some settings given anew, checked again as a whole. -/
def withOverrides (c : Config) (overrides : Members) : Except Invalid Config :=
  ofMembers (overlay c.members overrides)

end Config

end SlidePress
