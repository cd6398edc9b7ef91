import CodeFold.Data.SortedMap
import CodeFold.Scan.Event
import CodeFold.Text.Line

/-!
# Rules on whole lines

Some rules look at lines as a whole: runs of lines that match a pattern, and blocks of lines that are
indented further. Each such rule has a state of its own while it has something pending.
Specification: §4.2, §12.
-/

namespace CodeFold

/-- Lines in a row that match a pattern (§4.2). -/
structure Run where
  first : Nat
  last : Nat
deriving DecidableEq, Repr

namespace Run

/-- The event of a run of two or more lines that ends at `limit` at the latest (§4.2). -/
def event? (id : RuleId) (limit : Option Nat) (r : Run) : Option Event :=
  let last := limit.elim r.last (min r.last)
  if r.first < last then some ⟨id, r.first, last, false⟩ else none

end Run

/-- The blocks of an indentation rule that are still open, as pairs of a width and a line, the
innermost first, and the last line that the rule has seen. -/
structure Blocks where
  opens : List (Nat × Nat)
  lastLine : Nat
deriving DecidableEq, Repr

namespace Blocks

/-- No blocks. -/
def empty : Blocks := ⟨[], 0⟩

/-- Takes in a line of some width: blocks as wide or wider end above it, and it opens one. Returns
the events of the blocks that end (§4.2). -/
def feed (id : RuleId) (lineNo width : Nat) (b : Blocks) : Blocks × List Event :=
  let (ended, rest) := b.opens.span (width ≤ ·.1)
  (⟨(width, lineNo) :: rest, lineNo⟩,
    ended.map fun (_, start) => ⟨id, start, lineNo - 1, false⟩)

/-- The events of all blocks, which end at the last line seen and at `limit` at the latest; a block
that would begin below its end is dropped (§12). -/
def flush (id : RuleId) (limit : Option Nat) (b : Blocks) : List Event :=
  let last := limit.elim b.lastLine (min b.lastLine)
  (b.opens.filter (·.2 ≤ last)).map fun (_, start) => ⟨id, start, last, false⟩

end Blocks

end CodeFold
