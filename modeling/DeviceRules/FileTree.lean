import DeviceRules.Text.Percent

/-! Directories and files, and the written paths that lead to them. A path is walked name by name from the root or
from the working directory, and each name on the way has to be a directory. -/
namespace DeviceRules

/-- The names on the way from the root. -/
abbrev Path := List String

def Path.names (written : String) : List String := (Text.pieces '/' written.toList).map String.ofList

def Path.longestName : Nat := 255

/-- The bytes that no written path reaches. -/
def Path.tooLong : Nat := 4096

/-- The directories and files that a process sees. A file holds an `α`. -/
structure FileTree (α : Type) where
  /-- The directories but for the root. -/
  directories : List Path
  workingDirectory : Path
  files : List (Path × α)

inductive Place
  | directory (path : Path)
  | file (path : Path)
  | missing
  /-- A name is too long, or it is looked for in a file. -/
  | blocked
  deriving DecidableEq, Repr

namespace FileTree

variable {α : Type}

def isDirectory (tree : FileTree α) (path : Path) : Bool := path.isEmpty || tree.directories.contains path

def content? (tree : FileTree α) (path : Path) : Option α := tree.files.lookup path

def place (tree : FileTree α) (path : Path) : Place :=
  if tree.isDirectory path then .directory path
  else if (tree.content? path).isSome then .file path
  else .missing

def origin (tree : FileTree α) (written : String) : Path :=
  if written.startsWith "/" then [] else tree.workingDirectory

/-- Goes on by one name. Even a name that stays where one is needs a directory. -/
def step (tree : FileTree α) : Place → String → Place
  | .directory path, name =>
      if name = "" ∨ name = "." then .directory path
      else if name = ".." then .directory path.dropLast
      else if Path.longestName < name.utf8ByteSize then .blocked
      else tree.place (path ++ [name])
  | .file _, _ => .blocked
  | .missing, _ => .missing
  | .blocked, _ => .blocked

/-- What a written path leads to. The empty one leads nowhere. -/
def walk (tree : FileTree α) (written : String) : Place :=
  if Path.tooLong ≤ written.utf8ByteSize ∨ written.contains '\x00' then .blocked
  else if written = "" then .missing
  else (Path.names written).foldl tree.step (.directory (tree.origin written))

def put (tree : FileTree α) (path : Path) (content : α) : FileTree α :=
  { tree with files := (path, content) :: tree.files.filter (·.1 ≠ path) }

end FileTree

end DeviceRules
