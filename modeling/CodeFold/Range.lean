/-!
# Folding ranges

What can be folded: a span of lines, counted from zero, and what it holds.
Specification: §3.
-/

namespace CodeFold

/-- What a range holds (§3). -/
inductive FoldKind where
  | region
  | comment
deriving DecidableEq, Repr

namespace FoldKind

/-- The name of a kind. -/
def name : FoldKind → String
  | region => "region"
  | comment => "comment"

/-- The kind of that name. -/
def ofName? : String → Option FoldKind
  | "region" => some region
  | "comment" => some comment
  | _ => none

end FoldKind

/-- A span of lines that can be folded (§3). -/
structure FoldRange where
  start : Nat
  stop : Nat
  kind : FoldKind
deriving DecidableEq, Repr

namespace FoldRange

/-- Whether a range lies within another one, its bounds included. -/
def contains (a b : FoldRange) : Bool := a.start ≤ b.start && b.stop ≤ a.stop

end FoldRange

end CodeFold
