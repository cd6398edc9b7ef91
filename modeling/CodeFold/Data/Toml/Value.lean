import CodeFold.Data.DateTime
import CodeFold.Data.Tree

/-!
# Values in TOML

A document is a tree of tables. A table was written out under a header of its own, is implied by the
headers of tables in it, or comes from a dotted key; this decides what may be added to it later.
-/

namespace CodeFold.Toml

/-- How a table came about. -/
inductive TableOrigin where
  | header
  | implied
  | dotted
deriving DecidableEq, Repr

/-- A part of a document that is still being put together. A `leaf` is a value as it was written,
inline tables included, and cannot be extended. -/
inductive Node where
  | leaf (value : DataTree)
  | table (origin : TableOrigin) (members : List (String × Node))
  | tables (items : List (List (String × Node)))

/-- The contents of a table in the order of the text. -/
abbrev Members := List (String × Node)

mutual

/-- The data of a node. -/
def Node.toTree : Node → DataTree
  | .leaf value => value
  | .table _ members => .object (membersToTree members) true
  | .tables items => .array (itemsToTrees items) true

/-- The data of the members of a table. -/
def membersToTree : List (String × Node) → List (Option String × DataTree)
  | [] => []
  | (key, node) :: rest => (some key, node.toTree) :: membersToTree rest

/-- The data of several tables. -/
def itemsToTrees : List (List (String × Node)) → List DataTree
  | [] => []
  | members :: rest => .object (membersToTree members) true :: itemsToTrees rest

end

/-- Replaces the node under a key where it stands. -/
def Members.replace (key : String) (node : Node) (ms : Members) : Members :=
  ms.map fun (k, n) => if k = key then (k, node) else (k, n)

/-- Applies `f` to the last table of a list. -/
def updateLast (f : Members → Option Members) : List Members → Option (List Members)
  | [] => none
  | [ms] => (f ms).map ([·])
  | ms :: rest => (updateLast f rest).map (ms :: ·)

/-- Applies `f` to the table that the keys of a header lead to. Missing tables are implied; a list of
tables stands for its last one. -/
def Members.descend (f : Members → Option Members) : List String → Members → Option Members
  | [], ms => f ms
  | key :: path, ms =>
    match ms.lookup key with
    | none => do return ms ++ [(key, .table .implied (← descend f path []))]
    | some (.table origin sub) => do return ms.replace key (.table origin (← descend f path sub))
    | some (.tables items) => do
      return ms.replace key (.tables (← updateLast (descend f path) items))
    | some (.leaf _) => none

/-- Adds a value under a dotted key, inside the table where the key begins. Tables on the way are
made by dotted keys or implied, and the last one is made by dotted keys. -/
def Members.addPair (value : DataTree) (key : String) :
    List String → Members → Option Members
  | [], ms => if (ms.lookup key).isSome then none else some (ms ++ [(key, .leaf value)])
  | next :: path, ms =>
    let allowed (origin : TableOrigin) : Bool := !path.isEmpty || origin = .dotted
    match ms.lookup next with
    | none => do return ms ++ [(next, .table .dotted (← addPair value key path []))]
    | some (.table origin sub) =>
      if origin = .header || !allowed origin then none
      else do return ms.replace next (.table origin (← addPair value key path sub))
    | some (.tables items) =>
      if path.isEmpty then none
      else do return ms.replace next (.tables (← updateLast (addPair value key path) items))
    | some (.leaf _) => none

/-- Opens the table of a header. It may be implied by now, and then moves to the end of its
table. -/
def Members.openTable (key : String) (ms : Members) : Option Members :=
  match ms.lookup key with
  | none => some (ms ++ [(key, .table .header [])])
  | some (.table .implied sub) => some (ms.filter (·.1 ≠ key) ++ [(key, .table .header sub)])
  | some _ => none

/-- Adds a table to the list of tables of a header. -/
def Members.openItem (key : String) (ms : Members) : Option Members :=
  match ms.lookup key with
  | none => some (ms ++ [(key, .tables [[]])])
  | some (.tables items) => some (ms.replace key (.tables (items ++ [[]])))
  | some _ => none

end CodeFold.Toml
