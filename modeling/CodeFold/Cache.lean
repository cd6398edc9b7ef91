import CodeFold.Range

/-!
# Range cache

Ranges depend on the rules and the text alone. A host that asks again for a document it has not
changed keeps them under the key of the document and the number of its revision.
Specification: §11.5.
-/

namespace CodeFold

/-- The ranges of a document at a revision. -/
structure CachedRanges where
  revision : Nat
  ranges : List FoldRange
deriving DecidableEq, Repr

/-- The last known ranges of some documents, at most one entry a key (§11.5). -/
structure RangeCache where
  entries : List (String × CachedRanges)
deriving DecidableEq, Repr

namespace RangeCache

/-- Nothing is known. -/
def empty : RangeCache := ⟨[]⟩

/-- The number of documents. -/
def size (c : RangeCache) : Nat := c.entries.length

/-- Whether nothing is known. -/
def isEmpty (c : RangeCache) : Bool := c.size = 0

/-- The ranges of a document, if they are known for exactly this revision. -/
def get? (c : RangeCache) (key : String) (revision : Nat) : Option (List FoldRange) :=
  match c.entries.lookup key with
  | some cached => if cached.revision = revision then some cached.ranges else none
  | none => none

/-- Forgets a document. -/
def erase (c : RangeCache) (key : String) : RangeCache := ⟨c.entries.filter (·.1 ≠ key)⟩

/-- Sets the ranges of a document and forgets those of other revisions. -/
def insert (c : RangeCache) (key : String) (revision : Nat) (ranges : List FoldRange) :
    RangeCache :=
  ⟨(key, ⟨revision, ranges⟩) :: (c.erase key).entries⟩

/-- Forgets all documents. -/
def clear (_ : RangeCache) : RangeCache := empty

/-- The ranges of a document at a revision, computed if they are not known, and whether they were
computed (§11.5). -/
def getOrCompute (c : RangeCache) (key : String) (revision : Nat)
    (compute : Unit → List FoldRange) : List FoldRange × Bool × RangeCache :=
  match c.get? key revision with
  | some ranges => (ranges, false, c)
  | none =>
    let ranges := compute ()
    (ranges, true, c.insert key revision ranges)

end RangeCache

end CodeFold
