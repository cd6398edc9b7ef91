import CodeFold.Config.Registry
import CodeFold.Files.Walk
import CodeFold.Fold

/-!
# Folding files

The ranges of many files. A file that cannot be read is reported with the reason. The results are in
the order of the paths.
Specification: §11.4.
-/

namespace CodeFold

/-- The ranges of a file. -/
structure FileRanges where
  path : String
  language : Option Language
  ranges : List FoldRange
deriving DecidableEq, Repr

/-- A file that could not be read. -/
structure Unreadable where
  path : String
  reason : String
deriving DecidableEq, Repr

/-- The results for some files. -/
structure FoldResults where
  files : List FileRanges
  unreadable : List Unreadable
deriving DecidableEq, Repr

namespace FoldResults

/-- The number of ranges of all files. -/
def rangeCount (r : FoldResults) : Nat := (r.files.map (·.ranges.length)).foldr (· + ·) 0

end FoldResults

/-- Whether a file that could not be read is listed before another one or at its place. -/
def Unreadable.le (a b : Unreadable) : Bool :=
  if Path.same a.path b.path then a.reason ≤ b.reason else Path.le a.path b.path

/-- Reads a file and computes its ranges. -/
def FileEntry.fold {ε : Type} [ToString ε] (read : String → Except ε String) (registry : Registry)
    (entry : FileEntry) : Except Unreadable FileRanges :=
  match read entry.path with
  | .ok text => .ok ⟨entry.path, entry.language, (registry.get entry.language).fold text⟩
  | .error e => .error ⟨entry.path, toString e⟩

/-- The file that could not be read, if that is what came of an entry. -/
def Unreadable.ofOutcome? : Except Unreadable FileRanges → Option Unreadable
  | .error e => some e
  | .ok _ => none

/-- The ranges of some files (§11.4). -/
def Registry.execute {ε : Type} [ToString ε] (registry : Registry)
    (read : String → Except ε String) (entries : List FileEntry) : FoldResults :=
  let outcomes := entries.map (·.fold read registry)
  { files := (outcomes.filterMap (·.toOption)).mergeSort fun a b => Path.le a.path b.path
    unreadable := (outcomes.filterMap Unreadable.ofOutcome?).mergeSort Unreadable.le }

end CodeFold
