import SlidePress.Json.Basic
import SlidePress.Decimal.Shortest
import SlidePress.Decimal.Whole

/-!
# `SlidePress.Json.Printer` — JSON values as text

A value is written on one line or with every item on a line of its own. Text is written as it is, but for the
quote, the backslash and control characters.
-/

namespace SlidePress

namespace Json

/-- How a value is laid out. -/
inductive Layout
  /-- On one line, with a blank after every comma. -/
  | oneLine
  /-- Every item and member on a line of its own, `width` blanks further in than the brackets around it. -/
  | lines (width : Nat)
deriving DecidableEq, Repr

/-- The layout for an indentation: one line without one, and no blanks for a negative one. -/
def Layout.ofIndent : Option Int → Layout
  | none => .oneLine
  | some n => .lines n.toNat

/-- A character as it stands in a text between quotes. -/
def escapeChar (c : Char) : List Char :=
  if c = '"' then ['\\', '"']
  else if c = '\\' then ['\\', '\\']
  else if c = '\n' then ['\\', 'n']
  else if c = '\r' then ['\\', 'r']
  else if c = '\t' then ['\\', 't']
  else if c = '\x08' then ['\\', 'b']
  else if c = '\x0c' then ['\\', 'f']
  else if c.toNat < 0x20 then
    ['\\', 'u', '0', '0', Nat.digitChar (c.toNat / 16), Nat.digitChar (c.toNat % 16)]
  else [c]

/-- A text between quotes. -/
def stringText (s : String) : List Char := '"' :: s.toList.flatMap escapeChar ++ ['"']

/-- A number; what is not finite has a word of its own. -/
def numberText : Number → List Char
  | .int n => Decimal.wholeChars n
  | .float x =>
    if x.isNaN then "NaN".toList
    else if x.isInf then (if x < 0 then "-Infinity" else "Infinity").toList
    else (Decimal.floatText x).toList

/-- What stands between a bracket and an item at a level. -/
def Layout.edge (layout : Layout) (level : Nat) : List Char :=
  match layout with
  | .oneLine => []
  | .lines width => '\n' :: List.replicate (width * level) ' '

/-- What stands between two items at a level. -/
def Layout.between (layout : Layout) (level : Nat) : List Char :=
  match layout with
  | .oneLine => [',', ' ']
  | .lines width => ',' :: '\n' :: List.replicate (width * level) ' '

mutual

/-- A value at a level of nesting. -/
def print (layout : Layout) (level : Nat) : Json → List Char
  | .null => "null".toList
  | .bool b => if b then "true".toList else "false".toList
  | .num n => numberText n
  | .str s => stringText s
  | .arr [] => ['[', ']']
  | .arr (item :: items) =>
    '[' :: layout.edge (level + 1) ++ print layout (level + 1) item ++
      printItems layout (level + 1) items ++ layout.edge level ++ [']']
  | .obj [] => ['\x7b', '\x7d']
  | .obj ((key, value) :: members) =>
    '\x7b' :: layout.edge (level + 1) ++ stringText key ++ [':', ' '] ++ print layout (level + 1) value ++
      printMembers layout (level + 1) members ++ layout.edge level ++ ['\x7d']

/-- The items after the first, each with what stands before it. -/
def printItems (layout : Layout) (level : Nat) : List Json → List Char
  | [] => []
  | item :: items => layout.between level ++ print layout level item ++ printItems layout level items

/-- The members after the first, each with what stands before it. -/
def printMembers (layout : Layout) (level : Nat) : List (String × Json) → List Char
  | [] => []
  | (key, value) :: members =>
    layout.between level ++ stringText key ++ [':', ' '] ++ print layout level value ++
      printMembers layout level members

end

/-- The text of a value. -/
def render (layout : Layout) (value : Json) : String := String.ofList (print layout 0 value)

end Json

end SlidePress
