import CodeFold.Files.Detector
import CodeFold.Files.Ignore

/-!
# Walking directories

A walk lists the files below a directory, hidden ones included. It leaves out what ignore files and
the exclusion globs name, the insides of `.git`, and, if there are languages, files of none of them.
Specification: §11.4.
-/

namespace CodeFold

/-- A file and the language it is taken for. -/
structure FileEntry where
  path : String
  language : Option Language
deriving DecidableEq, Repr

/-- Why a walk gives up. -/
inductive WalkError where
  | invalidGlob (e : InvalidGlob)
  | unreachable (path : String) (e : FileError)
deriving DecidableEq, Repr

namespace WalkError

/-- The words for an error. -/
def message : WalkError → String
  | invalidGlob e => e.message
  | unreachable path e =>
    "Walk error: " ++ path ++ ": IO error for operation on " ++ path ++ ": " ++ e.message

end WalkError

namespace Walk

mutual

/-- The paths of the files in a tree that stands at `path`. -/
def files (w : Workspace) (path : String) (scope : IgnoreScope) : FileTree → List String
  | .file _ => [path]
  | .directory entries => filesIn w path (scope.enter (.ofEntries w path entries)) entries

/-- The paths of the files among some entries of the directory at `path`. -/
def filesIn (w : Workspace) (path : String) (scope : IgnoreScope) :
    List (String × FileTree) → List String
  | [] => []
  | (name, node) :: rest =>
    let below := Path.join path name
    (if scope.verdict? below node.isDirectory = some .ignore then []
      else files w below scope node) ++ filesIn w path scope rest

end

/-- The ignore files above a walk that begins at the end of a trail. -/
def outerScope (w : Workspace) (start : String) (names : List String) (above : Workspace.Trail) :
    IgnoreScope where
  start := start
  base := Path.ofNames names.reverse
  walked := []
  above := above.map fun (names, node) => .ofEntries w (Path.ofNames names.reverse) node.entries

/-- The glob of what is always left out. -/
def repositoryGlob : String := "**/.git/**"

/-- All paths below `root` that no ignore file names. A root of `-` stands for standard input, where
there are none. -/
def paths (w : Workspace) (root : String) : Except FileError (List String) :=
  if root = "-" then .ok []
  else do
    match ← w.trail root with
    | [] => .error .notFound
    | (names, node) :: above => return files w root (outerScope w root names above) node

/-- The files below `root`, in the order of their paths. With a forced language every file counts
and has it (§11.4). -/
def entries (w : Workspace) (root : String) (detector : Detector) (exclude : List String)
    (forced : Option Language) : Except WalkError (List FileEntry) := do
  let excluded ← (GlobList.compile (exclude ++ [repositoryGlob])).mapError .invalidGlob
  let paths ← (paths w root).mapError (.unreachable root)
  let entry? (path : String) : Option FileEntry :=
    if excluded.isMatch path then none
    else
      match forced with
      | some language => some ⟨path, some language⟩
      | none =>
        let language := detector.detect path
        if language.isNone && !detector.isEmpty then none else some ⟨path, language⟩
  return (paths.mergeSort (· ≤ ·)).filterMap entry?

end Walk

end CodeFold
