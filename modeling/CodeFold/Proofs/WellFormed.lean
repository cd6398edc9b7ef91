import CodeFold.Proofs.History

/-!
# The state throughout a scan

At every moment of a scan the stack is valid and holds only regions of rules with delimiters. What
rules on whole lines have pending is kept in the order of their numbers, so a rule has at most one
run and at most one list of blocks, and a list of blocks is never empty.
-/

namespace CodeFold

namespace RuleSet

variable {rules : RuleSet}

/-- A rule opens and closes regions inside lines. -/
def Delimited (rules : RuleSet) (id : RuleId) : Prop :=
  ∃ rule, rules.rule? id = some rule ∧ rule.kind.isDelimited = true

/-- A rule on whole lines is not one with delimiters. -/
theorem not_delimited {id : RuleId} {rule : Rule} (hr : rules.rule? id = some rule)
    (hk : rule.kind.isDelimited = false) : ¬ rules.Delimited id := by
  rintro ⟨rule', hr', hk'⟩
  rw [Option.some.inj (hr'.symm.trans hr), hk] at hk'
  cases hk'

end RuleSet

namespace ScanState

/-- What is pending is kept in the order of the rules, and no rule has an empty list of blocks. -/
structure Ordered (s : ScanState) : Prop where
  runs : SortedMap.Sorted s.runs
  blocks : SortedMap.Sorted s.blocks
  opens : ∀ x ∈ s.blocks, x.2.opens ≠ []

/-- What holds of the state throughout a scan. -/
structure WF (rules : RuleSet) (s : ScanState) : Prop where
  valid : s.stack.Valid rules
  delimited : ∀ e ∈ s.stack.toList, rules.Delimited e.rule
  ordered : s.Ordered

variable {rules : RuleSet} {s : ScanState}

/-- What a rule ends leaves the rest in its order. -/
theorem reports_ordered (limit : Option Nat) : Reports Ordered (fun _ => True) limit where
  run h _ := ⟨⟨h.runs.filter _, h.blocks, h.opens⟩, fun _ _ => trivial⟩
  blocks h _ := ⟨⟨h.runs, h.blocks.filter _, fun x hx => h.opens x (List.mem_filter.mp hx).1⟩,
    fun _ _ => trivial⟩

/-- A line that an indentation rule takes in opens a block. -/
theorem ordered_feedBlocks (h : s.Ordered) (lineNo width : Nat) (id : RuleId) :
    (s.feedBlocks lineNo width id).Ordered := by
  rw [feedBlocks, Blocks.feed_eq]
  refine ⟨h.runs, h.blocks.insert _ _, ?_⟩
  intro x hx
  rcases SortedMap.eq_or_mem_of_mem_insert hx with rfl | hx
  · exact List.cons_ne_nil _ _
  · exact h.opens x hx

/-- Rules that look at a line keep what is pending in its order. -/
theorem ordered_feedRules (h : s.Ordered) (lineNo : Nat) (line : Line) (ids : List RuleId) :
    Adds Ordered (fun _ => True) s (ids.foldl (feedRule rules lineNo line) s) := by
  refine Adds.foldl _ _ (fun s id _ hs => ?_) h
  refine adds_feedRule line hs (fun _ _ _ _ => ⟨hs.runs.insert _ _, hs.blocks, hs.opens⟩) ?_
  intro _ width _ _
  exact ⟨ordered_feedBlocks hs lineNo width id, rfl, _, toList_emit _ _, fun _ _ => trivial⟩

/-- A line keeps what is pending in its order. -/
theorem ordered_feedLine (h : s.Ordered) (lineNo : Nat) (line : Line) :
    (s.feedLine rules lineNo line).Ordered :=
  (adds_feedLine (reports_ordered none) (ordered_feedRules h lineNo line _)).kept

/-- Leaving a scope keeps what is pending in its order. -/
theorem ordered_leaveScope (h : s.Ordered) (before : List RuleId) (last : Nat) :
    (s.leaveScope rules before last).Ordered :=
  (adds_leaveScope (reports_ordered (some last)) rules before ⟨h.runs, h.blocks, h.opens⟩).kept

/-- The state at the start is well-formed. -/
theorem wf_start : start.WF rules where
  valid := Stack.valid_empty
  delimited := by simp [start]
  ordered := ⟨List.Pairwise.nil, List.Pairwise.nil, by simp [start]⟩

/-- The start of a line keeps the state well-formed. -/
theorem wf_beginLine (h : s.WF rules) (lineNo : Nat) (line : Line) :
    (s.beginLine rules lineNo line).WF rules := by
  have hstack := stack_beginLine rules lineNo line s
  constructor
  · rw [hstack]
    exact h.valid
  · rw [hstack]
    exact h.delimited
  · apply ordered_feedLine
    exact ⟨h.ordered.runs, h.ordered.blocks, h.ordered.opens⟩

/-- A hit keeps the state well-formed. -/
theorem wf_handle {lineNo pos : Nat} {line : Line} {hit : Hit} (h : s.WF rules)
    (hh : s.stack.nextHit rules lineNo line pos = some hit) :
    (s.handle rules lineNo hit).WF rules := by
  refine ⟨valid_handle h.valid hh, ?_, ?_⟩
  · intro x hx
    rcases Stack.nextHit_cases hh with ⟨key, index, _, hc⟩ | ⟨id, hid, ho⟩
    · obtain ⟨entry, rule, he, hr, _, ha⟩ := Stack.closingHit_eq_some hc
      simp only [handle, ha, stack_closeRegion he hr] at hx
      obtain ⟨y, hy, hb⟩ := exists_of_mem_closedStack hx
      rw [OpenEntry.rule_of_bare hb]
      exact h.delimited y hy
    · obtain ⟨rule, m, hr, hm, rfl⟩ := Stack.openingHit_eq_some ho
      simp only [handle, openRegion, Stack.enter, hr, Array.toList_push, List.mem_append,
        List.mem_singleton] at hx
      rcases hx with hx | rfl
      · exact h.delimited x hx
      · exact ⟨rule, hr, Moment.delimited_of_findOpening hm⟩
  · unfold handle
    split
    · unfold closeRegion
      split
      · exact h.ordered
      · split
        · exact h.ordered
        · apply ordered_leaveScope
          exact ⟨h.ordered.runs, h.ordered.blocks, h.ordered.opens⟩
    · exact ⟨h.ordered.runs, h.ordered.blocks, h.ordered.opens⟩

end ScanState

namespace RuleSet

/-- The state is well-formed at every moment of a scan. -/
theorem wf_state (rules : RuleSet) (lines : List Line) (k : Nat) :
    (rules.run lines k).state.WF rules := by
  refine run_invariant (I := fun m => m.state.WF rules) ScanState.wf_start ?_ k
  intro j m hm h
  rcases Moment.next?_cases h with ⟨c, hit, _, hh, rfl⟩ | ⟨c, _, _, rfl⟩ | ⟨line, rest, _, _, rfl⟩
  · exact ScanState.wf_handle hm hh
  · exact hm
  · exact ScanState.wf_beginLine hm _ _

/-- The state that scanning some lines gives is well-formed. -/
theorem wf_scanLines (rules : RuleSet) (lines : List Line) :
    (ScanState.start.scanLines rules 0 lines).WF rules := by
  obtain ⟨k, hk⟩ := rules.run_end lines
  have hw := rules.wf_state lines k
  rw [hk] at hw
  exact hw

end RuleSet

end CodeFold
