/-!
# Paths

A path is a text whose parts are divided by slashes. Two paths are compared by their components:
repeated slashes and dots inside a path do not count.
-/

namespace CodeFold.Path

/-- The parts of a text between slashes. -/
def splitSlashes (cs : List Char) : List (List Char) :=
  match cs with
  | [] => [[]]
  | '/' :: rest => [] :: splitSlashes rest
  | c :: rest =>
    match splitSlashes rest with
    | [] => [[c]]
    | part :: parts => (c :: part) :: parts

/-- The parts of a path, empty ones included. -/
def parts (path : String) : List String := (splitSlashes path.toList).map String.ofList

/-- A step on the way that a path describes. -/
inductive Component where
  | root
  | here
  | up
  | name (s : String)
deriving DecidableEq, Repr

namespace Component

/-- The place of a kind of component in the order. -/
def rank : Component → Nat
  | root => 0
  | here => 1
  | up => 2
  | name _ => 3

/-- Whether a component comes before another one. -/
def lt : Component → Component → Bool
  | name a, name b => a < b
  | a, b => a.rank < b.rank

end Component

/-- The components of a part that is not the first of its path. -/
def component? (part : String) : Option Component :=
  if part = "" || part = "." then none
  else if part = ".." then some .up
  else some (.name part)

/-- The components of a path. A dot counts only in front. -/
def components (path : String) : List Component :=
  match parts path with
  | [] => []
  | first :: rest =>
    let start : List Component :=
      if first = "" then (if rest.isEmpty then [] else [.root])
      else if first = "." then [.here]
      else (component? first).toList
    start ++ rest.filterMap component?

/-- Whether a list of components comes before another one or is the same. -/
def componentsLE : List Component → List Component → Bool
  | [], _ => true
  | _ :: _, [] => false
  | a :: as, b :: bs => if a.lt b then true else if b.lt a then false else componentsLE as bs

/-- The order of paths. -/
def le (p q : String) : Bool := componentsLE (components p) (components q)

/-- Whether two paths have the same components. -/
def same (p q : String) : Bool := components p = components q

/-- The name at the end of a path. -/
def fileName? (path : String) : Option String :=
  match (components path).getLast? with
  | some (.name s) => some s
  | _ => none

/-- What follows the last dot of the name at the end of a path, unless the dot begins the name. -/
def extension? (path : String) : Option String := do
  let name ← fileName? path
  match name.toList.reverse.span (· ≠ '.') with
  | (ext, '.' :: _ :: _) => some (String.ofList ext.reverse)
  | _ => none

/-- A path seen from the end of another one. A path from the root stays what it is. -/
def join (path rest : String) : String :=
  if path.isEmpty || rest.startsWith "/" then rest
  else if path.endsWith "/" then path ++ rest
  else path ++ "/" ++ rest

/-- The path from the root that names lead along. -/
def ofNames (names : List String) : String := "/" ++ "/".intercalate names

/-- What follows `start` in a text that begins with it, and else the text. -/
def dropStart (start text : String) : String :=
  if text.startsWith start then String.ofList (text.toList.drop start.length) else text

/-- A path without the dot that one can write in front of it. -/
def dropDot (path : String) : String := dropStart "./" path

end CodeFold.Path
