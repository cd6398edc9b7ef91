import CodeFold.Data.SortedMap
import CodeFold.Files.Path

/-!
# File trees

The files that a command sees, as a value. A command works in a directory of the tree, where paths
begin that do not start with a slash.
-/

namespace CodeFold

/-- A file with its bytes, or a directory with named entries. -/
inductive FileTree where
  | file (content : ByteArray)
  | directory (entries : List (String × FileTree))

/-- Why a file cannot be used. -/
inductive FileError where
  | notFound
  | notADirectory
  | isADirectory
  | invalidText
  | nulByte
  | nameTooLong
deriving DecidableEq, Repr

namespace FileError

/-- The words for an error. -/
def message : FileError → String
  | notFound => "No such file or directory (os error 2)"
  | notADirectory => "Not a directory (os error 20)"
  | isADirectory => "Is a directory (os error 21)"
  | invalidText => "stream did not contain valid UTF-8"
  | nulByte => "file name contained an unexpected NUL byte"
  | nameTooLong => "File name too long (os error 36)"

instance : ToString FileError := ⟨message⟩

end FileError

namespace FileTree

/-- A directory without entries. -/
def empty : FileTree := directory []

/-- Whether it is a directory. -/
def isDirectory : FileTree → Bool
  | directory _ => true
  | file _ => false

/-- The entries of a directory in the order of their names. -/
def entries : FileTree → List (String × FileTree)
  | directory entries => entries
  | file _ => []

/-- The text of a file. -/
def text : FileTree → Except FileError String
  | directory _ => .error .isADirectory
  | file content =>
    match String.fromUTF8? content with
    | some s => .ok s
    | none => .error .invalidText

/-- Puts a tree in the place that names lead to. Missing directories are made; a file on the way
gives way to a directory. A directory that is there already stays if a directory is put. -/
def insert (node : FileTree) : List String → FileTree → FileTree
  | [], old =>
    match node, old with
    | directory [], directory entries => directory entries
    | node, _ => node
  | name :: rest, old =>
    let entries := old.entries
    let child := (entries.lookup name).getD empty
    directory (SortedMap.insert name (insert node rest child) entries)

end FileTree

/-- A tree and the names that lead to the directory in which a command works. -/
structure Workspace where
  root : FileTree
  cwd : List String

namespace Workspace

/-- The directories from the root down to a place, innermost first, each with the names that lead to
it in reverse. -/
abbrev Trail := List (List String × FileTree)

/-- The number of bytes that a name may have. -/
def nameLimit : Nat := 255

/-- The number of bytes that no path reaches. -/
def pathLimit : Nat := 4096

/-- Goes on from a place by one part of a path. -/
def follow (trail : Trail) (part : String) : Except FileError Trail :=
  match trail with
  | [] => .error .notFound
  | (names, node) :: above =>
    match node with
    | .file _ => .error .notADirectory
    | .directory entries =>
      if part = "" || part = "." then .ok trail
      else if part = ".." then .ok (if above.isEmpty then trail else above)
      else if nameLimit < part.utf8ByteSize then .error .nameTooLong
      else
        match entries.lookup part with
        | none => .error .notFound
        | some child => .ok ((part :: names, child) :: trail)

/-- The trail to the working directory. -/
def start (w : Workspace) : Except FileError Trail := w.cwd.foldlM follow [([], w.root)]

/-- The trail of a path. -/
def trail (w : Workspace) (path : String) : Except FileError Trail := do
  if path.isEmpty then .error .notFound
  else if path.toList.contains '\x00' then .error .nulByte
  else if pathLimit ≤ path.utf8ByteSize then .error .nameTooLong
  else if path.startsWith "/" then (Path.parts path).foldlM follow [([], w.root)]
  else (Path.parts path).foldlM follow (← w.start)

/-- What stands at a path. -/
def find (w : Workspace) (path : String) : Except FileError FileTree := do
  match ← w.trail path with
  | [] => .error .notFound
  | (_, node) :: _ => return node

/-- Whether something stands at a path. -/
def exists? (w : Workspace) (path : String) : Bool := (w.find path).isOk

/-- Whether a file stands at a path. -/
def isFile (w : Workspace) (path : String) : Bool :=
  match w.find path with
  | .ok (.file _) => true
  | _ => false

/-- Whether a directory stands at a path. -/
def isDirectory (w : Workspace) (path : String) : Bool :=
  match w.find path with
  | .ok (.directory _) => true
  | _ => false

/-- The text of a file. -/
def readText (w : Workspace) (path : String) : Except FileError String := w.find path >>= (·.text)

/-- Writes a file of that name in the working directory. -/
def writeText (w : Workspace) (name text : String) : Workspace :=
  { w with root := FileTree.insert (.file text.toUTF8) (w.cwd ++ [name]) w.root }

end Workspace

end CodeFold
