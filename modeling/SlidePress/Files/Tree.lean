import SlidePress.Files.Path

/-!
# `SlidePress.Files.Tree` — files and directories

The files that a run reads and writes are a value: which paths are directories, and what the files hold. An operation
fails where a file or a directory stands in its way. Permissions, the space for files and the length of their names set
no bounds here.
-/

namespace SlidePress

/-- Files and directories; every file is listed once. -/
structure FileTree where
  directories : List Path := []
  files : List (Path × ByteArray) := []

namespace FileTree

/-- Why a file operation fails. -/
inductive Failure
  /-- There is no such file. -/
  | notFound (path : Path)
  /-- A directory is where a file should be. -/
  | isDirectory (path : Path)
  /-- A file is where a directory should be that is to hold something. -/
  | notADirectory (path : Path)
  /-- A file is where a directory is to be made. -/
  | alreadyThere (path : Path)
deriving DecidableEq, Repr

/-- What a file holds. -/
def file? (tree : FileTree) (path : Path) : Option ByteArray :=
  (tree.files.find? fun entry => entry.1 = path).map (·.2)

/-- Whether a path is a file. -/
def isFile (tree : FileTree) (path : Path) : Bool := (tree.file? path).isSome

/-- Whether a path is a directory. -/
def isDirectory (tree : FileTree) (path : Path) : Bool := tree.directories.contains path

/-- The tree without a file. -/
def remove (tree : FileTree) (path : Path) : FileTree :=
  { tree with files := tree.files.filter fun entry => entry.1 ≠ path }

/-- The tree with a file that holds the given bytes. -/
def write (tree : FileTree) (path : Path) (bytes : ByteArray) : FileTree :=
  { tree with files := (path, bytes) :: (tree.remove path).files }

/-- The tree with a file that is there: a new one is empty, and one that exists is left as it is. -/
def touch (tree : FileTree) (path : Path) : Except Failure FileTree :=
  if tree.isDirectory path then .error (.isDirectory path)
  else if tree.isFile path then .ok tree
  else .ok (tree.write path ByteArray.empty)

/-- The tree with a text added at the end of a file. -/
def append (tree : FileTree) (path : Path) (text : String) : FileTree :=
  tree.write path (((tree.file? path).getD ByteArray.empty) ++ text.toUTF8)

/-- The tree with a file under another path, where it takes the place of what was there. -/
def move (tree : FileTree) (source target : Path) : Except Failure FileTree :=
  if tree.isDirectory target then .error (.isDirectory target)
  else match tree.file? source with
    | none => .error (.notFound source)
    | some bytes => .ok ((tree.remove source).write target bytes)

/-- The directories from the top down to a path, which is the last of them. -/
def lineage (path : Path) : List Path :=
  (List.range path.components.length).map fun n => { path with components := path.components.take (n + 1) }

/-- The tree with a directory and all those above it; fails where a file is in the way. -/
def makeDirectories (tree : FileTree) (path : Path) : Except Failure FileTree :=
  match (lineage path).find? tree.isFile with
  | some inTheWay => .error (if inTheWay = path then .alreadyThere path else .notADirectory inTheWay)
  | none =>
    .ok { tree with directories := tree.directories ++ (lineage path).filter fun p => !tree.isDirectory p }

/-- The length of the longest name among some paths. -/
def longestName : List Path → Nat
  | [] => 0
  | path :: paths => if longestName paths < path.name.length then path.name.length else longestName paths

/-- All paths of the tree. -/
def paths (tree : FileTree) : List Path := tree.files.map (·.1) ++ tree.directories

/-- A path in a directory that the tree does not have: its name is longer than all names in the tree. -/
def freshName (tree : FileTree) (directory : Path) (ending : String) : Path :=
  directory.join (String.ofList (List.replicate (longestName tree.paths + 1) 'x') ++ ending)

/-! ## Fresh names -/

/-- No name is longer than the longest. -/
theorem length_name_le_longestName {path : Path} {paths : List Path} (h : path ∈ paths) :
    path.name.length ≤ longestName paths := by
  induction paths with
  | nil => simp at h
  | cons first rest ih =>
    simp only [longestName]
    rcases List.mem_cons.1 h with rfl | h
    · split <;> omega
    · have := ih h
      split <;> omega

/-- A fresh path is none of the paths of the tree. -/
theorem freshName_notMem (tree : FileTree) (directory : Path) (ending : String) :
    tree.freshName directory ending ∉ tree.paths := by
  intro h
  have le := length_name_le_longestName h
  have eq : (tree.freshName directory ending).name.length = longestName tree.paths + 1 + ending.length := by
    simp [freshName, Path.join, Path.name]
  omega

/-- There is no file under a fresh path. -/
theorem file?_freshName (tree : FileTree) (directory : Path) (ending : String) :
    tree.file? (tree.freshName directory ending) = none := by
  have fresh := tree.freshName_notMem directory ending
  simp only [paths, List.mem_append, not_or] at fresh
  simp only [file?, Option.map_eq_none_iff, List.find?_eq_none, decide_eq_true_eq]
  intro entry mem same
  exact fresh.1 (List.mem_map.2 ⟨entry, mem, same⟩)

/-! ## What a file holds after each change -/

theorem file?_remove (tree : FileTree) (path other : Path) :
    (tree.remove path).file? other = if other = path then none else tree.file? other := by
  simp only [file?, remove, List.find?_filter]
  split
  · next h => subst h; simp
  · next h =>
    congr 2
    funext entry
    by_cases he : entry.1 = other
    · simp [he, h]
    · simp [he]

theorem file?_write (tree : FileTree) (path other : Path) (bytes : ByteArray) :
    (tree.write path bytes).file? other = if other = path then some bytes else tree.file? other := by
  by_cases h : other = path
  · subst h
    simp [file?, write]
  · have step : (tree.write path bytes).file? other = (tree.remove path).file? other := by
      simp [file?, write, Ne.symm h]
    rw [step, file?_remove]
    simp [h]

/-- A file that is moved is under its new path only. -/
theorem file?_move {tree moved : FileTree} {source target : Path} (h : tree.move source target = .ok moved)
    (other : Path) :
    moved.file? other =
      if other = target then tree.file? source else if other = source then none else tree.file? other := by
  unfold move at h
  split at h
  · cases h
  · split at h
    · cases h
    · next bytes found =>
        cases h
        rw [file?_write, file?_remove, found]

/-- Making directories changes no file. -/
theorem file?_makeDirectories {tree made : FileTree} {path : Path} (h : tree.makeDirectories path = .ok made)
    (other : Path) : made.file? other = tree.file? other := by
  unfold makeDirectories at h
  split at h
  · cases h
  · cases h
    rfl

end FileTree

end SlidePress
