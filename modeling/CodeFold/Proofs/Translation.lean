import CodeFold.Proofs.Frame
import CodeFold.Proofs.HitSpan

/-!
# Translations of stacks

Two scans run in step if their stacks differ only in the numbers of lines and in the scopes that the
entries keep. A translation is such a difference that respects how scopes are entered and what
opens; on a stack and its image the next hit is the same, and handling it gives a stack and its image
again.
-/

namespace CodeFold

/-- A change of nestings and scopes and a shift of line numbers that lead from one set of rules to
another, keep ends and openings and commute with entering a region. -/
structure Translation (rules rules' : RuleSet) where
  nesting : Nesting → Nesting
  scope : Scope → Scope
  offset : Nat
  rule?_eq : ∀ id, rules'.rule? id =
    (rules.rule? id).map fun rule => { rule with nesting := nesting rule.nesting }
  scope_base : scope (.base rules) = .base rules'
  scope_enter : ∀ below rule key index, scope (below.enter rule key index) =
    (scope below).enter { rule with nesting := nesting rule.nesting } key index
  ends_scope : ∀ s, (scope s).ends = s.ends
  openings_scope : ∀ s l pos, (scope s).active.filterMap (Stack.openingHit rules' l pos) =
    s.active.filterMap (Stack.openingHit rules l pos)

namespace Translation

variable {rules rules' : RuleSet} (T : Translation rules rules')

/-- The image of a line number. -/
def line (lineNo : Nat) : Nat := lineNo + T.offset

/-- The image of a rule. -/
def rule (r : Rule) : Rule := { r with nesting := T.nesting r.nesting }

/-- The image of an entry. -/
def entry (e : OpenEntry) : OpenEntry := { e with line := T.line e.line, scope := T.scope e.scope }

/-- The image of a stack. -/
def stack (s : Stack) : Stack := s.map T.entry

/-- A translation takes every rule to a rule with its number. -/
theorem rule?_of_some {id : RuleId} {r : Rule} (h : rules.rule? id = some r) :
    rules'.rule? id = some (T.rule r) := by
  rw [T.rule?_eq, h]
  rfl

include T in
private theorem rule?_of_none {id : RuleId} (h : rules.rule? id = none) :
    rules'.rule? id = none := by
  rw [T.rule?_eq, h]
  rfl

/-- A translation keeps the positions of entries. -/
theorem getElem?_stack (s : Stack) (index : Nat) : (T.stack s)[index]? = s[index]?.map T.entry :=
  Array.getElem?_map

/-! ### Scopes -/

/-- The scope of a translated stack is the translated scope. -/
theorem scope_stack (s : Stack) : (T.stack s).scope rules' = T.scope (s.scope rules) := by
  unfold Stack.scope stack
  rw [Array.back?_map]
  cases s.back? with
  | none => exact T.scope_base.symm
  | some e => rfl

private theorem stack_enter (s : Stack) (e : OpenEntry) :
    T.stack (s.enter rules e) = (T.stack s).enter rules' (T.entry e) := by
  unfold Stack.enter
  have hrule : (T.entry e).rule = e.rule := rfl
  rw [T.scope_stack, hrule]
  cases hr : rules.rule? e.rule with
  | none =>
    rw [T.rule?_of_none hr]
    exact Array.map_push
  | some r =>
    rw [T.rule?_of_some hr]
    simp only [stack, Array.map_push, Array.size_map, entry, T.scope_enter]
    rfl

private theorem stack_below (s : Stack) (index : Nat) :
    T.stack (s.below index) = (T.stack s).below index :=
  Array.map_extract

private theorem stack_rebuild (s : Stack) (entries : List OpenEntry) :
    T.stack (s.rebuild rules entries) = (T.stack s).rebuild rules' (entries.map T.entry) := by
  unfold Stack.rebuild
  induction entries generalizing s with
  | nil => rfl
  | cons e entries ih => rw [List.foldl_cons, ih, T.stack_enter, List.map_cons, List.foldl_cons]

/-- Closing and translating can be exchanged on stacks. -/
theorem stack_closedStack (pairing : Pairing) (s : Stack) (index : Nat) :
    T.stack (ScanState.closedStack rules pairing s index) =
      ScanState.closedStack rules' pairing (T.stack s) index := by
  cases pairing with
  | innermost => exact T.stack_below s index
  | nearest =>
    simp only [ScanState.closedStack, Stack.removeAt]
    rw [T.stack_rebuild, T.stack_below, List.map_drop, stack, Array.toList_map]

/-! ### Hits -/

private theorem findClosingFrom_entry (r : Rule) (e : OpenEntry) (lineNo : Nat) (l : Line)
    (fuel pos : Nat) :
    (T.rule r).findClosingFrom (T.entry e) (T.line lineNo) l fuel pos =
      r.findClosingFrom e lineNo l fuel pos := by
  induction fuel generalizing pos with
  | zero => rfl
  | succ fuel ih =>
    have hm : (T.rule r).closingMatch (T.entry e) l pos = r.closingMatch e l pos := rfl
    have hb (start : Nat) : (T.entry e).onlyBlankBefore (T.line lineNo) l start =
        e.onlyBlankBefore lineNo l start := by
      have hline : decide (T.line e.line = T.line lineNo) = decide (e.line = lineNo) :=
        decide_eq_decide.mpr Nat.add_right_cancel_iff
      unfold OpenEntry.onlyBlankBefore
      rw [← hline]
      rfl
    have hs : (T.rule r).strict = r.strict := rfl
    simp only [Rule.findClosingFrom, hm, hb, hs]
    cases r.closingMatch e l pos with
    | none => rfl
    | some span =>
      dsimp only
      split
      · exact Option.bind_congr fun next _ => ih next
      · rfl

private theorem closingHit_stack (s : Stack) (lineNo : Nat) (l : Line) (pos index : Nat) :
    (T.stack s).closingHit rules' (T.line lineNo) l pos index =
      s.closingHit rules lineNo l pos index := by
  unfold Stack.closingHit
  rw [T.getElem?_stack]
  cases s[index]? with
  | none => rfl
  | some e =>
    cases hr : rules.rule? e.rule with
    | none =>
      have hr' : rules'.rule? (T.entry e).rule = none := T.rule?_of_none hr
      simp [hr, hr']
    | some r =>
      have hr' : rules'.rule? (T.entry e).rule = some (T.rule r) := T.rule?_of_some hr
      simp [hr, hr', Rule.findClosing, T.findClosingFrom_entry]

/-- A stack and its image have the same next hit. -/
theorem nextHit_stack (s : Stack) (lineNo : Nat) (l : Line) (pos : Nat) :
    (T.stack s).nextHit rules' (T.line lineNo) l pos = s.nextHit rules lineNo l pos := by
  simp only [Stack.nextHit, T.scope_stack, T.ends_scope, T.openings_scope, T.closingHit_stack]

/-! ### Handling a hit -/

/-- A region opens alike before and after a translation. -/
theorem stack_openRegion (s s' : ScanState) (hs : s'.stack = T.stack s.stack) (lineNo : Nat)
    (hit : Hit) (id : RuleId) (captures : List (Option String)) :
    (s'.openRegion rules' (T.line lineNo) hit id captures).stack =
      T.stack (s.openRegion rules lineNo hit id captures).stack := by
  have hclosing : (rules'.rule? id).bind (ScanState.closingFor · captures) =
      (rules.rule? id).bind (ScanState.closingFor · captures) := by
    rw [T.rule?_eq, Option.bind_map]
    rfl
  simp only [ScanState.openRegion]
  rw [T.stack_enter, hs, hclosing]
  simp only [entry, T.scope_base]

/-- A region closes alike before and after a translation. -/
theorem stack_closeRegion (s s' : ScanState) (hs : s'.stack = T.stack s.stack) (lineNo : Nat)
    (index : Nat) :
    (s'.closeRegion rules' (T.line lineNo) index).stack =
      T.stack (s.closeRegion rules lineNo index).stack := by
  have he' := T.getElem?_stack s.stack index
  rw [← hs] at he'
  cases he : s.stack[index]? with
  | none =>
    rw [he, Option.map_none] at he'
    simp only [ScanState.closeRegion, he, he']
    exact hs
  | some e =>
    rw [he, Option.map_some] at he'
    cases hr : rules.rule? e.rule with
    | none =>
      have hr' : rules'.rule? (T.entry e).rule = none := T.rule?_of_none hr
      simp only [ScanState.closeRegion, he, he', hr, hr']
      exact hs
    | some r =>
      have hr' : rules'.rule? (T.entry e).rule = some (T.rule r) := T.rule?_of_some hr
      rw [ScanState.stack_closeRegion he hr, ScanState.stack_closeRegion he' hr', hs,
        T.stack_closedStack]
      rfl

end Translation

namespace Moment

/-! ### Scans in step -/

/-- Two scans are at the same place of the same lines, up to the numbers of lines, and their states
are related. -/
structure InStep {rules rules' : RuleSet} (T : Translation rules rules')
    (R : ScanState → ScanState → Prop) (m m' : Moment) : Prop where
  cursor : m'.cursor = m.cursor.map fun c => { c with lineNo := T.line c.lineNo }
  begun : m'.begun = T.line m.begun
  rest : m'.rest = m.rest
  state : R m.state m'.state

variable {rules rules' : RuleSet} {T : Translation rules rules'}
  {R : ScanState → ScanState → Prop} {m m' : Moment}

/-- Two scans stay in step if their stacks are a stack and its image and the relation is kept when a
hit is handled and when a line begins. -/
theorem InStep.next (h : InStep T R m m') (hstack : m'.state.stack = T.stack m.state.stack)
    (hhandle : ∀ lineNo line pos hit, m.state.stack.nextHit rules lineNo line pos = some hit →
      R (m.state.handle rules lineNo hit) (m'.state.handle rules' (T.line lineNo) hit))
    (hbegin : ∀ lineNo line, R (m.state.beginLine rules lineNo line)
      (m'.state.beginLine rules' (T.line lineNo) line)) :
    Option.Rel (InStep T R) (m.next? rules) (m'.next? rules') := by
  unfold next?
  rw [h.cursor, h.rest, h.begun]
  cases hc : m.cursor with
  | some c =>
    simp only [Option.map_some]
    rw [hstack, T.nextHit_stack]
    cases hh : m.state.stack.nextHit rules c.lineNo c.line c.pos with
    | some hit =>
      refine .some ⟨?_, rfl, rfl, hhandle c.lineNo c.line c.pos hit hh⟩
      dsimp only
      rw [Option.map_map]
      rfl
    | none => exact .some ⟨rfl, rfl, rfl, h.state⟩
  | none =>
    cases m.rest with
    | nil => exact .none
    | cons line rest =>
      exact .some ⟨rfl, Nat.add_right_comm _ _ _, rfl, hbegin m.begun line⟩

/-- Scans that are in step stay so if all their steps keep them so. -/
theorem InStep.after (hstart : InStep T R m m')
    (hstep : ∀ k, InStep T R (m.after rules k) (m'.after rules' k) →
      Option.Rel (InStep T R) ((m.after rules k).next? rules) ((m'.after rules' k).next? rules'))
    (k : Nat) : InStep T R (m.after rules k) (m'.after rules' k) := by
  induction k with
  | zero => exact hstart
  | succ k ih =>
    have hnext := hstep k ih
    rw [Moment.after, Moment.after]
    generalize (m.after rules k).next? rules = n at hnext
    generalize (m'.after rules' k).next? rules' = n' at hnext
    cases hnext with
    | some h => exact h
    | none => exact ih

/-- Scans that are in step come to their ends together. -/
theorem InStep.next?_eq_none (h : InStep T R m m') (hend : m.next? rules = none) :
    m'.next? rules' = none := by
  unfold next? at *
  rw [h.cursor, h.rest]
  cases hc : m.cursor with
  | some c =>
    rw [hc] at hend
    dsimp only at hend
    split at hend <;> cases hend
  | none =>
    rw [hc] at hend
    cases hr : m.rest with
    | nil => rfl
    | cons line rest =>
      rw [hr] at hend
      cases hend

end Moment

end CodeFold
