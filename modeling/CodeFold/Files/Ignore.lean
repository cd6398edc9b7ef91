import CodeFold.Files.Tree
import CodeFold.Glob.Basic
import CodeFold.Unicode.WhiteSpace

/-!
# Ignore files

A directory can name files that a walk leaves out: in `.ignore` always, and in `.gitignore` and
`.git/info/exclude` inside a repository, which is a directory with an entry `.git` or `.jj`. Each line
is a glob, and the last one that matches decides. The files of inner directories come before those of
outer ones, and `.ignore` before the others. A repository does not look at what stands above it.
Specification: §11.4.
-/

namespace CodeFold

/-- What an ignore file says about a path. -/
inductive Verdict where
  | ignore
  | keep
deriving DecidableEq, Repr

/-- A line of an ignore file. -/
structure IgnoreRule where
  glob : Glob
  verdict : Verdict
  /-- Whether it is about directories only. -/
  onlyDirectories : Bool

namespace IgnoreRule

/-- Drops white space at the end of a line unless it is escaped. -/
def trimEnd (cs : List Char) : List Char :=
  match cs.reverse with
  | ' ' :: '\\' :: _ => cs
  | rev => (rev.dropWhile isBlank).reverse

/-- Drops a slash at the end, and a backslash in front of it. The second part tells whether there was
a slash. -/
def dropLastSlash (cs : List Char) : List Char × Bool :=
  match cs.reverse with
  | '/' :: '\\' :: rest => (rest.reverse, true)
  | '/' :: rest => (rest.reverse, true)
  | _ => (cs, false)

/-- The glob for a path that is relative to the directory of the ignore file. A line without a slash
is about names in all directories, and one that ends in `/**` is not about the directory itself. -/
def globSource (anchored : Bool) (cs : List Char) : List Char :=
  let everywhere := ['*', '*', '/']
  let cs :=
    if anchored || cs.contains '/' || everywhere.isPrefixOf cs || cs = ['*', '*'] then cs
    else everywhere ++ cs
  if ['/', '*', '*'].isSuffixOf cs then cs ++ ['/', '*'] else cs

/-- Wild cards in ignore files match no slash, and brackets may stay open. -/
def globOptions : GlobOptions := { literalSeparator := true, openBrackets := true }

/-- The rule of a line. Comments, blank lines and lines that are no globs have none. -/
def ofLine? (line : String) : Option IgnoreRule :=
  match trimEnd line.toList with
  | [] => none
  | '#' :: _ => none
  | cs =>
    let (verdict, cs, anchored) : Verdict × List Char × Bool :=
      match cs with
      | '\\' :: '!' :: rest => (.ignore, '!' :: rest, false)
      | '\\' :: '#' :: rest => (.ignore, '#' :: rest, false)
      | '!' :: '/' :: rest => (.keep, rest, true)
      | '!' :: rest => (.keep, rest, false)
      | '/' :: rest => (.ignore, rest, true)
      | cs => (.ignore, cs, false)
    let (cs, onlyDirectories) := dropLastSlash cs
    let source := String.ofList (globSource anchored cs)
    match Glob.compile globOptions source with
    | .ok glob => some ⟨glob, verdict, onlyDirectories⟩
    | .error _ => none

end IgnoreRule

/-- The rules of an ignore file. -/
abbrev IgnoreFile := List IgnoreRule

namespace IgnoreFile

/-- The lines of a file as bytes, `acc` being the start of the first one in reverse. -/
def splitFrom (acc : List UInt8) : List UInt8 → List (List UInt8)
  | [] => if acc.isEmpty then [] else [acc.reverse]
  | b :: bs =>
    if b = 10 then
      (match acc with
        | 13 :: rest => rest.reverse
        | acc => acc.reverse) :: splitFrom [] bs
    else splitFrom (b :: acc) bs

/-- The lines up to the first that is no text. -/
def textLines : List (List UInt8) → List String
  | [] => []
  | bytes :: rest =>
    match String.fromUTF8? bytes.toByteArray with
    | some line => line :: textLines rest
    | none => []

/-- Drops marks for the byte order at the start of a line. -/
def dropMarks (line : String) : String := String.ofList (line.toList.dropWhile (·.toNat = 0xFEFF))

/-- The rules of a file with that content. -/
def ofContent (content : ByteArray) : IgnoreFile :=
  match textLines (splitFrom [] content.data.toList) with
  | [] => []
  | first :: rest => (dropMarks first :: rest).filterMap IgnoreRule.ofLine?

/-- The rules of what stands somewhere, if it is a file. -/
def ofNode? : Option FileTree → IgnoreFile
  | some (.file content) => ofContent content
  | _ => []

/-- The first line of what stands somewhere, if it is a file and the line is text. -/
def firstLine? : FileTree → Option String
  | .file content =>
    match splitFrom [] content.data.toList with
    | [] => none
    | bytes :: _ => String.fromUTF8? bytes.toByteArray
  | .directory _ => none

/-- What the file says about a path relative to its directory. -/
def verdict? (rules : IgnoreFile) (path : String) (isDirectory : Bool) : Option Verdict :=
  let applies (r : IgnoreRule) : Bool :=
    (!r.onlyDirectories || isDirectory) && r.glob.isMatch path
  (rules.reverse.find? applies).map (·.verdict)

end IgnoreFile

/-- The ignore files of a directory. -/
structure IgnoreDirectory where
  /-- The path of the directory. -/
  root : String
  isRepository : Bool
  general : IgnoreFile
  repository : IgnoreFile
  excluded : IgnoreFile

namespace IgnoreDirectory

/-- What a file `.git` writes in front of the directory that stands in for it. -/
def linkStart : String := "gitdir: "

/-- The directory that a file `.git` refers to: the one named by the file `commondir` in the place
that it links to. Both are sought from the working directory on, unless `commondir` begins with a dot
and so is about the place where it stands. -/
def linkedDirectory? (w : Workspace) (link : FileTree) : Option String := do
  let line ← IgnoreFile.firstLine? link
  if !line.startsWith linkStart then none
  else
    let place := Path.dropStart linkStart line
    let common ← (w.find (Path.join place "commondir")).toOption >>= IgnoreFile.firstLine?
    return if common.startsWith "." then Path.join place common else common

/-- The file with the rules of a repository that are not part of it. -/
def excludeFile? (w : Workspace) (entries : List (String × FileTree)) : Option FileTree := do
  match ← entries.lookup ".git" with
  | .directory inside =>
    let info ← inside.lookup "info"
    info.entries.lookup "exclude"
  | link =>
    let directory ← linkedDirectory? w link
    (w.find (Path.join directory "info/exclude")).toOption

/-- The ignore files among the entries of the directory at `path`. -/
def ofEntries (w : Workspace) (path : String) (entries : List (String × FileTree)) :
    IgnoreDirectory where
  root := Path.dropDot path
  isRepository := (entries.lookup ".git").isSome || (entries.lookup ".jj").isSome
  general := .ofNode? (entries.lookup ".ignore")
  repository := .ofNode? (entries.lookup ".gitignore")
  excluded := .ofNode? (excludeFile? w entries)

/-- A path as the rules of the directory see it. The root is cut off as text, so that a path which
spells it in another way stays whole. -/
def relative (d : IgnoreDirectory) (path : String) : String :=
  let path := Path.dropDot path
  if Path.same d.root "." || !path.toList.contains '/' || !path.startsWith d.root then path
  else Path.dropStart "/" (Path.dropStart d.root path)

end IgnoreDirectory

/-- The ignore files around a place of a walk. -/
structure IgnoreScope where
  /-- The path where the walk began, as it was given. -/
  start : String
  /-- The same path from the root. -/
  base : String
  /-- The directories of the walk, the innermost first. -/
  walked : List IgnoreDirectory
  /-- The directories above the walk, the innermost first. -/
  above : List IgnoreDirectory

namespace IgnoreScope

/-- The scope inside one more directory. -/
def enter (s : IgnoreScope) (d : IgnoreDirectory) : IgnoreScope :=
  { s with walked := d :: s.walked }

/-- A path of the walk as a path from the root. -/
def absolute (s : IgnoreScope) (path : String) : String :=
  Path.join s.base <|
    if Path.same s.start "." then path
    else Path.dropStart "/" (Path.dropStart (Path.dropDot s.start) path)

/-- The directories with a path as each of them sees it, the innermost first. -/
def views (s : IgnoreScope) (path : String) : List (IgnoreDirectory × String) :=
  let path := Path.dropDot path
  s.walked.map (fun d => (d, d.relative path)) ++
    s.above.map (fun d => (d, d.relative (s.absolute path)))

/-- The views up to the first one of a repository. -/
def throughRepository : List (IgnoreDirectory × String) → List (IgnoreDirectory × String)
  | [] => []
  | v :: rest => if v.1.isRepository then [v] else v :: throughRepository rest

/-- What the ignore files say about a path of the walk. -/
def verdict? (s : IgnoreScope) (path : String) (isDirectory : Bool) : Option Verdict :=
  let views := s.views path
  let inside := if views.any (·.1.isRepository) then throughRepository views else []
  views.findSome? (fun (d, path) => d.general.verdict? path isDirectory)
    <|> inside.findSome? (fun (d, path) => d.repository.verdict? path isDirectory)
    <|> inside.findSome? (fun (d, path) => d.excluded.verdict? path isDirectory)

end IgnoreScope

end CodeFold
