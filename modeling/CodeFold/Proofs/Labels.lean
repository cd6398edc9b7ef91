import CodeFold.Fold

/-!
# Labels do not matter to scans

Labels name rules in reports. A scan looks rules up by their numbers and never reads a label, so sets
that differ only in the labels of their rules fold every document alike.
-/

namespace CodeFold

/-- The rule with an empty label. -/
def Rule.unlabelled (r : Rule) : Rule := { r with label := "" }

/-- The set with empty labels. -/
def RuleSet.unlabelled (rules : RuleSet) : RuleSet :=
  { rules with rules := rules.rules.map Rule.unlabelled }

variable (rules : RuleSet)

private theorem RuleSet.rule?_unlabelled (id : RuleId) :
    rules.unlabelled.rule? id = (rules.rule? id).map Rule.unlabelled :=
  Array.getElem?_map

/-! ### Scopes -/

namespace Stack

@[simp] private theorem scope_unlabelled : scope rules.unlabelled = scope rules := rfl

@[simp] private theorem enter_unlabelled : enter rules.unlabelled = enter rules := by
  funext stack entry
  simp only [enter, scope_unlabelled, rules.rule?_unlabelled]
  cases rules.rule? entry.rule <;> rfl

@[simp] private theorem removeAt_unlabelled : removeAt rules.unlabelled = removeAt rules := by
  funext stack index
  simp only [removeAt, rebuild, enter_unlabelled]

/-! ### Hits -/

private theorem findClosingFrom_unlabelled (r : Rule) (entry : OpenEntry) (lineNo : Nat)
    (line : Line) (fuel : Nat) :
    r.unlabelled.findClosingFrom entry lineNo line fuel =
      r.findClosingFrom entry lineNo line fuel := by
  induction fuel with
  | zero => rfl
  | succ fuel ih =>
    funext pos
    simp only [Rule.findClosingFrom, ih]
    rfl

@[simp] private theorem closingHit_unlabelled : closingHit rules.unlabelled = closingHit rules := by
  funext stack lineNo line pos index
  unfold closingHit
  cases stack[index]? with
  | none => rfl
  | some entry =>
    simp only [Option.bind_eq_bind, Option.bind_some, rules.rule?_unlabelled, Option.bind_map,
      Function.comp_def, Rule.findClosing, findClosingFrom_unlabelled]

@[simp] private theorem openingHit_unlabelled : openingHit rules.unlabelled = openingHit rules := by
  funext line pos id
  unfold openingHit
  rw [rules.rule?_unlabelled]
  cases rules.rule? id <;> rfl

@[simp] private theorem nextHit_unlabelled : nextHit rules.unlabelled = nextHit rules := by
  funext stack lineNo line pos
  simp only [nextHit, scope_unlabelled, closingHit_unlabelled, openingHit_unlabelled]

end Stack

/-! ### Scanning -/

namespace ScanState

@[simp] private theorem feedRule_unlabelled : feedRule rules.unlabelled = feedRule rules := by
  funext lineNo line s id
  unfold feedRule
  rw [rules.rule?_unlabelled]
  cases rules.rule? id <;> rfl

@[simp] private theorem openRegion_unlabelled : openRegion rules.unlabelled = openRegion rules := by
  funext lineNo hit id captures s
  unfold openRegion
  rw [rules.rule?_unlabelled, Stack.enter_unlabelled]
  cases rules.rule? id <;> rfl

@[simp] private theorem leaveScope_unlabelled :
    leaveScope rules.unlabelled = leaveScope rules := rfl

@[simp] private theorem closeRegion_unlabelled :
    closeRegion rules.unlabelled = closeRegion rules := by
  funext lineNo index s
  unfold closeRegion
  cases s.stack[index]? with
  | none => rfl
  | some entry =>
    simp only [rules.rule?_unlabelled, Stack.removeAt_unlabelled, leaveScope_unlabelled]
    cases rules.rule? entry.rule <;> rfl

@[simp] private theorem handle_unlabelled : handle rules.unlabelled = handle rules := by
  funext lineNo s hit
  simp only [handle, closeRegion_unlabelled, openRegion_unlabelled]

private theorem scanHits_unlabelled (lineNo : Nat) (line : Line) (fuel : Nat) :
    scanHits rules.unlabelled lineNo line fuel = scanHits rules lineNo line fuel := by
  induction fuel with
  | zero => rfl
  | succ fuel ih =>
    funext pos s
    simp only [scanHits, Stack.nextHit_unlabelled, handle_unlabelled, ih]

private theorem scanLine_unlabelled : scanLine rules.unlabelled = scanLine rules := by
  funext lineNo line s
  simp only [scanLine, feedLine, Stack.scope_unlabelled, feedRule_unlabelled, scanHits_unlabelled]

private theorem scanLines_unlabelled (lineNo : Nat) (s : ScanState) (lines : List Line) :
    scanLines rules.unlabelled lineNo s lines = scanLines rules lineNo s lines := by
  induction lines generalizing lineNo s with
  | nil => rfl
  | cons line lines ih => rw [scanLines, scanLines, ih, scanLine_unlabelled]

end ScanState

namespace RuleSet

private theorem range?_unlabelled : rules.unlabelled.range? = rules.range? := by
  funext lastLine e
  unfold range?
  rw [rules.rule?_unlabelled]
  cases rules.rule? e.rule <;> rfl

/-- A set without labels folds documents as before. -/
theorem foldLines_unlabelled (lines : List Line) :
    rules.unlabelled.foldLines lines = rules.foldLines lines := by
  simp only [foldLines, assemble, scan, ScanState.scanLines_unlabelled, range?_unlabelled]

end RuleSet

end CodeFold
