import CodeFold.Rule.Basic

/-!
# Events

What a scan reports: a region of lines that a rule has found.
Specification: §4.2.
-/

namespace CodeFold

/-- A region found by a rule. `closed` tells whether its last line holds a closing match, which the
rule may leave out of the fold (§4.2). -/
structure Event where
  rule : RuleId
  start : Nat
  stop : Nat
  closed : Bool
deriving DecidableEq, Repr

namespace Event

/-- Ends a region of some rules at a line at the latest (§12). -/
def cut (left : List RuleId) (last : Nat) (e : Event) : Event :=
  if last < e.stop && left.contains e.rule then { e with stop := last, closed := false } else e

end Event

end CodeFold
