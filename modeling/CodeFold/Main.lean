import CodeFold.Command.Run

/-!
# The program

Reads the files that a command line is about, runs the command on them as a value, and writes what
it leaves behind.
Specification: §11.4.
-/

open CodeFold

/-- The files at a path, as far as they can be read. -/
partial def loadTree (path : String) : IO (Option FileTree) := do
  let place := (← IO.currentDir) / path
  if ← place.isDir then
    let names := (← place.readDir).toList.map (·.fileName)
    let entries ← names.filterMapM fun name => do
      return (← loadTree (Path.join path name)).map (name, ·)
    return some (.directory (SortedMap.ofList entries))
  else if ← place.pathExists then
    try return some (.file (← IO.FS.readBinFile place))
    catch _ => return none
  else return none

/-- The names that lead to a path from the root, `cwd` leading to the working directory. -/
def absoluteNames (cwd : List String) (path : String) : List String :=
  (Path.components path).foldl (fun names component =>
    match component with
    | .root => []
    | .here => names
    | .up => names.dropLast
    | .name s => names ++ [s]) cwd

/-- The path of some names from the root. -/
def absolutePath (names : List String) : String := "/" ++ "/".intercalate names

/-- Puts the files at a path into a tree. -/
def addPath (tree : FileTree) (names : List String) : IO FileTree := do
  match ← loadTree (absolutePath names) with
  | some node => return FileTree.insert node names tree
  | none => return tree

/-- Puts the ignore files of a directory into a tree. -/
def addIgnoreFiles (tree : FileTree) (names : List String) : IO FileTree := do
  let tree := FileTree.insert .empty names tree
  let git := names ++ [".git"]
  let tree := if ← ((← IO.currentDir) / absolutePath git).pathExists then
      FileTree.insert .empty git tree
    else tree
  [[".ignore"], [".gitignore"], [".git", "info", "exclude"]].foldlM
    (fun tree file => addPath tree (names ++ file)) tree

/-- The paths that a command is about. -/
def Invocation.paths (i : Invocation) : List String :=
  match i.command with
  | .ranges o => o.config.getD defaultConfigPath :: (if o.paths.isEmpty then ["."] else o.paths)
  | .validate config => [config.getD defaultConfigPath]
  | .init _ => [defaultConfigPath]

/-- The files that some paths are about, with the ignore files above them. -/
def loadWorkspace (paths : List String) : IO Workspace := do
  let cwd := absoluteNames [] (toString (← IO.currentDir))
  let start := FileTree.insert .empty cwd .empty
  let root ← paths.foldlM (fun tree path => do
    let names := absoluteNames cwd path
    let above := (List.range names.length).map names.take
    addPath (← above.foldlM addIgnoreFiles tree) names) start
  return ⟨root, cwd⟩

/-- Whether output goes to a terminal that shows colours. -/
def showsColors : IO Bool := do
  if !(← (← IO.getStdout).isTty) then return false
  let term ← IO.getEnv "TERM"
  return term.isSome && term ≠ some "dumb" && (← IO.getEnv "NO_COLOR").isNone

def main (args : List String) : IO UInt32 := do
  let request := Request.ofArguments args
  let paths := match request with
    | .run invocation => Invocation.paths invocation
    | _ => []
  let before ← loadWorkspace paths
  let outcome := request.answer ⟨← showsColors, PatternError.message⟩ before
  let written := (outcome.workspace.readText defaultConfigPath).toOption
  if written ≠ (before.readText defaultConfigPath).toOption then
    IO.FS.writeFile defaultConfigPath (written.getD "")
  IO.print outcome.stdout
  IO.eprint outcome.stderr
  return outcome.exitCode
