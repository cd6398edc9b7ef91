import CodeFold.Scan.Basic

/-!
# Folding

The events of a scan become ranges: an excluded last line is taken off, ranges end with the document,
and those of one line are dropped. Ranges are listed outermost first, each span once; the rule with
the smallest number gives a span its kind.
Specification: §4.3.
-/

namespace CodeFold

/-- The range of an event in a document with that last line (§4.3). -/
def RuleSet.range? (rules : RuleSet) (lastLine : Nat) (e : Event) : Option FoldRange := do
  let rule ← rules.rule? e.rule
  let stop ←
    if e.closed && !rule.foldLastLine then
      if e.stop = 0 then none else some (e.stop - 1)
    else some e.stop
  let stop := min stop lastLine
  if e.start < stop then some ⟨e.start, stop, rule.foldKind⟩ else none

/-- Whether a range found by a rule is listed before another one or at its place (§4.3). -/
def rangeLE (a b : FoldRange × RuleId) : Bool :=
  if a.1.start ≠ b.1.start then a.1.start < b.1.start
  else if a.1.stop ≠ b.1.stop then b.1.stop < a.1.stop
  else a.2 ≤ b.2

/-- Drops the ranges that follow one of the same span, the first of which is `r`. -/
def dropRepeatsAfter (r : FoldRange) : List FoldRange → List FoldRange
  | [] => [r]
  | t :: rest =>
    if r.start = t.start ∧ r.stop = t.stop then dropRepeatsAfter r rest
    else r :: dropRepeatsAfter t rest

/-- Keeps the first of neighbours with one span (§4.3). -/
def dropRepeats : List FoldRange → List FoldRange
  | [] => []
  | r :: rest => dropRepeatsAfter r rest

/-- The ranges of some events in a document of that many lines (§4.3). -/
def RuleSet.assemble (rules : RuleSet) (lineCount : Nat) (events : List Event) : List FoldRange :=
  if lineCount = 0 then []
  else
    let found := events.filterMap fun e => (rules.range? (lineCount - 1) e).map (·, e.rule)
    dropRepeats ((found.mergeSort rangeLE).map (·.1))

/-- The ranges of a document given by its lines. -/
def RuleSet.foldLines (rules : RuleSet) (lines : List Line) : List FoldRange :=
  rules.assemble lines.length (rules.scan lines)

/-- The ranges of a text. -/
def RuleSet.fold (rules : RuleSet) (text : String) : List FoldRange :=
  rules.foldLines (Line.split text)

end CodeFold
