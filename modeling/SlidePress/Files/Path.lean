import SlidePress.Text.Lines

/-!
# `SlidePress.Files.Path` — paths

A path is the list of its components. Slashes at the end, doubled slashes and components of a single point do not
matter.
-/

namespace SlidePress

/-- A path: its components from the top. -/
structure Path where
  absolute : Bool := false
  components : List String
deriving DecidableEq, Repr

namespace Path

/-- The path that a text names. -/
def parse (s : String) : Path :=
  let parts := (Text.splitOn '/' s.toList).map String.ofList
  { absolute := s.toList.head? = some '/'
    components := parts.filter fun part => part ≠ "" && part ≠ "." }

/-- The text of a path; the path without components is a point. -/
def text (p : Path) : String :=
  let body := String.intercalate "/" p.components
  if p.absolute then "/" ++ body else if p.components.isEmpty then "." else body

/-- The last component. -/
def name (p : Path) : String := p.components.getLast?.getD ""

/-- The path without its last component. -/
def parent (p : Path) : Path := { p with components := p.components.dropLast }

/-- The path with a component added. -/
def join (p : Path) (component : String) : Path := { p with components := p.components ++ [component] }

/-- Whether one path is inside the directory of another, at any depth, or the same. -/
def startsWith (p top : Path) : Bool := p.absolute = top.absolute && top.components.isPrefixOf p.components

/-- A component cut before its last point; nothing is cut off when there is none, or none but at the two ends. -/
def cutSuffix (component : List Char) : List Char × List Char :=
  let after := component.reverse.takeWhile (· ≠ '.')
  let before := (component.reverse.dropWhile (· ≠ '.')).drop 1
  if after.isEmpty || before.isEmpty then (component, []) else (before.reverse, '.' :: after.reverse)

/-- What follows the last point of the last component, with the point; a point at either end does not count. -/
def suffix (p : Path) : String := String.ofList (cutSuffix p.name.toList).2

/-- The last component without its suffix. -/
def stem (p : Path) : String := String.ofList (cutSuffix p.name.toList).1

/-- The path of what is inside a directory has the directory as its parent. -/
theorem parent_join (p : Path) (component : String) : (p.join component).parent = p := by
  simp [join, parent]

end Path

end SlidePress
