/-!
# Sorted maps

A map is a list of pairs in increasing order of the keys, each key once. Looking up is `List.lookup`.
-/

namespace CodeFold

/-- Values under keys, in the order of the keys. -/
abbrev SortedMap (κ α : Type) := List (κ × α)

namespace SortedMap

variable {κ α : Type} [DecidableEq κ]

/-- Sets the value of a key in one pass; an earlier value gives way. -/
def insert [LT κ] [DecidableLT κ] (key : κ) (value : α) : SortedMap κ α → SortedMap κ α
  | [] => [(key, value)]
  | (k, v) :: rest =>
    if key < k then (key, value) :: (k, v) :: rest
    else if key = k then (key, value) :: rest
    else (k, v) :: insert key value rest

/-- Drops a key. -/
def erase (key : κ) (m : SortedMap κ α) : SortedMap κ α := m.filter (·.1 ≠ key)

/-- The map of some pairs; the last of several with one key counts. -/
def ofList [LT κ] [DecidableLT κ] (pairs : List (κ × α)) : SortedMap κ α :=
  pairs.foldl (fun m (key, value) => m.insert key value) []

/-- The keys in their order. -/
def keys (m : SortedMap κ α) : List κ := m.map (·.1)

end SortedMap

end CodeFold
