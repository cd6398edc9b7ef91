import CodeFold.Proofs.Consecutive
import CodeFold.Proofs.PlainSearch
import CodeFold.Proofs.Regions

/-!
# Sealed regions

While the innermost region is sealed, a scan waits for its end and looks for nothing else. Lines go
by that no rule takes in: the open regions and the blocks stay as they are, and the runs of the line
in which the region opened end with the next line, since nothing makes them longer. The end takes
off the sealed region alone. It could reach nothing that cannot be reached outside it, so nothing
is ended or cut when it closes.
Specification: §10, §12.
-/

namespace CodeFold

/-! ### The search inside a sealed region -/

namespace Stack

variable {rules : RuleSet} {stack : Stack} {x : OpenEntry}

private theorem endsSealed_of_back (hb : stack.back? = some x) (hx : x.isSealed rules = true) :
    stack.endsSealed rules = true := by
  rw [endsSealed, hb]
  exact hx

private theorem getElem?_of_back (hb : stack.back? = some x) : stack[stack.size - 1]? = some x := by
  rw [← hb, Array.back?_eq_getElem?]

/-- The innermost entry alone is above the entries below its position. -/
theorem below_eq_pop (stack : Stack) : stack.below (stack.size - 1) = stack.pop := by
  apply Array.ext'
  rw [toList_below, Array.toList_pop, List.dropLast_eq_take, Array.length_toList]

/-- An entry without a key has no end. -/
theorem findClosing_of_key_eq_none {rule : Rule} (hr : rules.rule? x.rule = some rule)
    (hk : x.key? rules = none) (lineNo : Nat) (line : Line) (pos : Nat) :
    rule.findClosing x lineNo line pos = none := by
  rw [Rule.findClosing, Rule.findClosingFrom, OpenEntry.closingMatch_of_key_eq_none hr hk]

/-- Inside a sealed region the next hit is its end. -/
theorem Valid.nextHit_of_sealed (hv : stack.Valid rules) (hb : stack.back? = some x)
    (hx : x.isSealed rules = true) (lineNo : Nat) (line : Line) (pos : Nat) :
    stack.nextHit rules lineNo line pos =
      ((rules.rule? x.rule).bind fun rule => rule.findClosing x lineNo line pos).map
        fun span => ⟨span.1, span.2, .close (stack.size - 1)⟩ := by
  obtain ⟨es, hes, hl⟩ := toList_of_back hb
  have hlen : es.length = stack.size - 1 := by omega
  have hends : (stack.scope rules).ends = (x.key? rules).toList.map (·, stack.size - 1) := by
    rw [hv.coherent.scope_eq, hes, Scope.ends_of_isSealed hx, hlen]
  obtain ⟨rule, hr⟩ := (hv.proper x (by simp [hes])).known
  unfold nextHit
  dsimp only
  rw [hends, hv.coherent.active_of_endsSealed (endsSealed_of_back hb hx), hr]
  cases hk : x.key? rules with
  | none =>
    rw [Option.bind_some, findClosing_of_key_eq_none hr hk]
    rfl
  | some key =>
    have hhit : stack.closingHit rules lineNo line pos (stack.size - 1) =
        (rule.findClosing x lineNo line pos).map
          fun span => ⟨span.1, span.2, .close (stack.size - 1)⟩ := by
      rw [closingHit, getElem?_of_back hb]
      dsimp only [bind, Option.bind]
      rw [hr]
      dsimp only
      cases rule.findClosing x lineNo line pos <;> rfl
    simp only [Option.toList_some, List.map_cons, List.map_nil, List.filterMap_cons,
      List.filterMap_nil, hhit, Option.bind_some]
    cases rule.findClosing x lineNo line pos <;> rfl

/-- Outside a sealed region the same rules can be reached as inside. -/
theorem Valid.reachable_pop (hv : stack.Valid rules) (hb : stack.back? = some x)
    (hx : x.isSealed rules = true) :
    (scope rules stack.pop).reachable = (stack.scope rules).reachable := by
  obtain ⟨es, hes, _⟩ := toList_of_back hb
  have hpop := hv.coherent.below (stack.size - 1)
  rw [below_eq_pop] at hpop
  rw [hpop.scope_eq, hv.coherent.scope_eq, Array.toList_pop, hes, List.dropLast_concat,
    Scope.reachable_of_isSealed hx]

/-- After a region has closed, no open region is sealed. -/
theorem Valid.not_sealed_of_mem_closedStack (hv : stack.Valid rules) {key : EndKey} {index : Nat}
    (hends : (key, index) ∈ (stack.scope rules).ends) {pairing : Pairing}
    (hm : x ∈ (ScanState.closedStack rules pairing stack index).toList) :
    x.isSealed rules = false := by
  cases hs : stack.endsSealed rules with
  | false =>
    obtain ⟨y, hy, hbare⟩ := ScanState.exists_of_mem_closedStack hm
    rw [OpenEntry.isSealed_of_bare hbare]
    exact hv.not_sealed hs y hy
  | true =>
    -- The end is that of the sealed entry, and the entries below it are not sealed.
    obtain ⟨es, e, hes, hl, hown⟩ := hv.ends_of_endsSealed hs
    rw [hown] at hends
    obtain ⟨_, _, heq⟩ := List.mem_map.mp hends
    cases heq
    have hclosed : ScanState.closedStack rules pairing stack es.length = stack.below es.length := by
      cases pairing with
      | innermost => rfl
      | nearest =>
        rw [ScanState.closedStack, Stack.removeAt, hes, List.drop_eq_nil_of_le (by simp)]
        rfl
    rw [hclosed, toList_below] at hm
    obtain ⟨i, hi⟩ := List.mem_iff_getElem?.mp hm
    rw [List.getElem?_take] at hi
    split at hi
    · rw [Array.getElem?_toList] at hi
      exact hv.not_sealed_of_lt hi (by omega)
    · cases hi

end Stack

/-! ### Runs -/

namespace ScanState

variable {rules : RuleSet} {s : ScanState}

/-- The events of the runs that have not ended, if they all ended now. -/
def endedRuns (s : ScanState) : List Event := s.runs.filterMap fun x => x.2.event? x.1 none

private theorem runs_closeRun (limit : Option Nat) (s : ScanState) (id : RuleId) :
    (s.closeRun limit id).runs = s.runs.erase id := by
  unfold closeRun
  split
  · next h => rw [SortedMap.erase_of_lookup_none h]
  · rfl

private theorem runs_foldl_closeRun (limit : Option Nat) (ids : List RuleId) (s : ScanState) :
    (ids.foldl (closeRun limit) s).runs = s.runs.filter (·.1 ∉ ids) := by
  induction ids generalizing s with
  | nil => simp
  | cons id ids ih =>
    rw [List.foldl_cons, ih, runs_closeRun, SortedMap.erase, List.filter_filter]
    apply List.filter_congr
    intro x _
    simp [Bool.and_comm]

private theorem runs_leaveScope_subset (before : List RuleId) (last : Nat) (s : ScanState) :
    (s.leaveScope rules before last).runs ⊆ s.runs := by
  have hr : Reports (fun s' : ScanState => s'.runs ⊆ s.runs) (fun _ => True) (some last) :=
    { run := fun h _ => ⟨List.Subset.trans (List.filter_subset_self _) h, fun _ _ => trivial⟩
      blocks := fun h _ => ⟨h, fun _ _ => trivial⟩ }
  exact (adds_leaveScope hr rules before (List.Subset.refl _)).kept

/-- Handling a hit neither begins a run nor makes one longer. -/
theorem runs_handle_subset (lineNo : Nat) (s : ScanState) (hit : Hit) :
    (s.handle rules lineNo hit).runs ⊆ s.runs := by
  unfold handle
  split
  · unfold closeRegion
    split
    · exact List.Subset.refl _
    · split
      · exact List.Subset.refl _
      · exact runs_leaveScope_subset _ _ _
  · exact List.Subset.refl _

/-- After the start of a line every run reaches down to it. -/
theorem last_of_mem_runs_beginLine {lineNo : Nat} {line : Line} {x : RuleId × Run}
    (h : x ∈ (s.beginLine rules lineNo line).runs) : x.2.last = lineNo := by
  rw [beginLine, feedLine, runs_foldl_closeRun] at h
  obtain ⟨hx, hend⟩ := List.mem_filter.mp h
  rw [decide_eq_true_eq] at hend
  by_contra hne
  -- A run that does not reach the line is one of those that end.
  refine hend (List.mem_map_of_mem (List.mem_filter.mpr ⟨hx, ?_⟩))
  simpa using hne

/-- Ending all runs reports them in the order of their rules. -/
theorem foldl_closeRun_keys (h : SortedMap.Sorted s.runs) :
    (SortedMap.keys s.runs).foldl (closeRun none) s =
      { s with runs := [], current := s.current ++ s.endedRuns } := by
  unfold endedRuns
  generalize hruns : s.runs = runs at h
  induction runs generalizing s with
  | nil =>
    simp only [SortedMap.keys, List.map_nil, List.foldl_nil, List.filterMap_nil]
    rw [← hruns]
    simp
  | cons x rest ih =>
    obtain ⟨hx, hrest⟩ := List.pairwise_cons.mp h
    have hlookup : s.runs.lookup x.1 = some x.2 := by
      rw [hruns, SortedMap.lookup_cons, if_pos rfl]
    have herase : s.runs.erase x.1 = rest := by
      rw [hruns, SortedMap.erase, List.filter_cons_of_neg (by simp)]
      apply List.filter_eq_self.mpr
      intro y hy
      have hlt := hx y.1 (List.mem_map_of_mem hy)
      simpa using Nat.ne_of_gt hlt
    have hclose : s.closeRun none x.1 =
        { s with runs := rest }.emit (x.2.event? x.1 none).toList := by
      simp only [closeRun, hlookup, herase]
    show (SortedMap.keys rest).foldl (closeRun none) (s.closeRun none x.1) = _
    rw [hclose, ih rfl hrest]
    simp only [emit, List.filterMap_cons]
    cases x.2.event? x.1 none with
    | none => simp
    | some e => simp

/-! ### What a sealed region lets happen -/

/-- At the start of a line inside a sealed region the runs of earlier lines end, and nothing else
happens. -/
theorem beginLine_of_sealed (hw : s.WF rules) (hs : s.stack.endsSealed rules = true) {lineNo : Nat}
    (hlast : ∀ x ∈ s.runs, x.2.last ≠ lineNo) (line : Line) :
    s.beginLine rules lineNo line =
      { s with runs := [], past := s.events, current := s.endedRuns.toArray } := by
  have hended : s.runs.filter (·.2.last ≠ lineNo) = s.runs := by
    apply List.filter_eq_self.mpr
    intro x hx
    simpa using hlast x hx
  unfold beginLine feedLine
  dsimp only
  rw [hw.valid.coherent.active_of_endsSealed hs]
  simp only [List.foldl_nil, hended]
  rw [foldl_closeRun_keys (s := { s with past := s.past ++ s.current, current := #[] })
    hw.ordered.runs]
  simp [events, endedRuns]

/-- Closing a sealed region takes it off, reports it and does nothing else. -/
theorem closeRegion_of_sealed (hv : s.stack.Valid rules) {x : OpenEntry}
    (hb : s.stack.back? = some x) (hx : x.isSealed rules = true) (lineNo : Nat) :
    s.closeRegion rules lineNo (s.stack.size - 1) =
      { s with stack := s.stack.pop }.emit [⟨x.rule, x.line, lineNo, true⟩] := by
  have hget := Stack.getElem?_of_back hb
  obtain ⟨rule, hr⟩ :=
    (hv.proper x (Array.mem_toList_iff.mpr (Array.mem_of_getElem? hget))).known
  have hclosed : closedStack rules rule.pairing s.stack (s.stack.size - 1) = s.stack.pop := by
    rw [← Stack.below_eq_pop]
    cases rule.pairing with
    | innermost => rfl
    | nearest =>
      rw [closedStack, Stack.removeAt, List.drop_eq_nil_of_le (by simp; omega)]
      rfl
  rw [closeRegion_eq hget hr, hclosed, leaveScope_of_outOfReach]
  change outOfReach rules _ s.stack.pop = []
  rw [outOfReach, hv.reachable_pop hb hx]
  simp

end ScanState

namespace RuleSet

variable {rules : RuleSet} {lines : List Line}

/-- Every run reaches down to the line that has begun last. -/
theorem runs_last (rules : RuleSet) (lines : List Line) (k : Nat) :
    ∀ x ∈ (rules.run lines k).state.runs, x.2.last + 1 = (rules.run lines k).begun := by
  refine run_invariant (I := fun m => ∀ x ∈ m.state.runs, x.2.last + 1 = m.begun)
    (by simp [Moment.start, ScanState.start]) ?_ k
  intro j m hm h
  rcases Moment.next?_cases h with ⟨c, hit, _, _, rfl⟩ | ⟨c, _, _, rfl⟩ | ⟨line, rest, _, _, rfl⟩
  · intro x hx
    exact hm x (ScanState.runs_handle_subset _ _ _ hx)
  · exact hm
  · intro x hx
    rw [ScanState.last_of_mem_runs_beginLine hx]

/-- While a sealed region is open, the only runs are those of the line in which it opened. -/
theorem runs_of_sealed (rules : RuleSet) (lines : List Line) (k : Nat) {x : OpenEntry}
    (hb : (rules.run lines k).state.stack.back? = some x) (hx : x.isSealed rules = true) :
    x.line < (rules.run lines k).begun ∧
      ∀ y ∈ (rules.run lines k).state.runs, y.2.last = x.line := by
  refine run_invariant (I := fun m => ∀ x, m.state.stack.back? = some x → x.isSealed rules = true →
    x.line < m.begun ∧ ∀ y ∈ m.state.runs, y.2.last = x.line)
    (by simp [Moment.start, ScanState.start]) ?_ k x hb hx
  clear hb hx x
  intro j m hm h x hb hx
  have hv := rules.valid_run lines j
  rcases Moment.next?_cases h with ⟨c, hit, hc, hh, rfl⟩ | ⟨c, _, _, rfl⟩ | ⟨line, rest, _, _, rfl⟩
  · rcases Stack.nextHit_cases hh with ⟨key, index, hends, hcl⟩ | ⟨id, _, ho⟩
    · obtain ⟨entry, rule, he, hr, _, ha⟩ := Stack.closingHit_eq_some hcl
      simp only [ScanState.handle, ha, ScanState.stack_closeRegion he hr] at hb
      have hopen := hv.not_sealed_of_mem_closedStack hends
        (Array.mem_toList_iff.mpr (Array.mem_of_back? hb))
      rw [hopen] at hx
      cases hx
    · -- The region opens in the line that has begun last, which all runs reach.
      obtain ⟨rule, om, hr, _, rfl⟩ := Stack.openingHit_eq_some ho
      have hline := (rules.wf_run lines j c hc).1
      have hlast := rules.runs_last lines j
      simp only [ScanState.handle, ScanState.openRegion, Stack.enter, hr, Array.back?_push,
        Option.some.injEq] at hb
      subst hb
      refine ⟨by dsimp only; omega, fun y hy => ?_⟩
      have hy' := hlast y hy
      dsimp only
      omega
  · exact hm x hb hx
  · have hs := Stack.endsSealed_of_back hb hx
    dsimp only at hb hs ⊢
    rw [ScanState.stack_beginLine] at hb hs
    obtain ⟨hline, hruns⟩ := hm x hb hx
    have hne : ∀ y ∈ (rules.run lines j).state.runs, y.2.last ≠ (rules.run lines j).begun := by
      intro y hy
      rw [hruns y hy]
      exact Nat.ne_of_lt hline
    rw [ScanState.beginLine_of_sealed (rules.wf_state lines j) hs hne]
    exact ⟨Nat.lt_succ_of_lt hline, by simp⟩

end RuleSet

namespace Moment

/-- The next end of an entry in the line of the place. -/
def endOf? (rules : RuleSet) (x : OpenEntry) (m : Moment) : Option (Nat × Nat) :=
  m.cursor.bind fun c => (rules.rule? x.rule).bind fun rule =>
    rule.findClosing x c.lineNo c.line c.pos

/-- How a moment looks some steps after another one if nothing has happened in between but that
lines went by: the stack and the blocks are as they were, and as soon as a line has begun the runs
have ended. -/
structure Waited (m m' : Moment) : Prop where
  stack : m'.state.stack = m.state.stack
  blocks : m'.state.blocks = m.state.blocks
  events : m'.begun = m.begun ∧ m'.state.runs = m.state.runs ∧ m'.state.events = m.state.events ∨
    m.begun < m'.begun ∧ m'.state.runs = [] ∧
      m'.state.events.toList = m.state.events.toList ++ m.state.endedRuns

/-- The place of a moment is in the line that has begun last. -/
def InLine (m : Moment) : Prop := ∀ c, m.cursor = some c → c.lineNo + 1 = m.begun

private theorem Waited.refl (m : Moment) : m.Waited m := ⟨rfl, rfl, .inl ⟨rfl, rfl, rfl⟩⟩

private theorem Waited.wf {rules : RuleSet} {m m' : Moment} (h : m.Waited m')
    (hw : m.state.WF rules) : m'.state.WF rules := by
  have hsorted : SortedMap.Sorted m'.state.runs := by
    rcases h.events with ⟨_, hr, _⟩ | ⟨_, hr, _⟩
    · rw [hr]
      exact hw.ordered.runs
    · rw [hr]
      exact List.Pairwise.nil
  refine ⟨h.stack ▸ hw.valid, h.stack ▸ hw.delimited, hsorted, ?_, ?_⟩
  · rw [h.blocks]
    exact hw.ordered.blocks
  · rw [h.blocks]
    exact hw.ordered.opens

section

variable {rules : RuleSet} {m m' : Moment} {x : OpenEntry} (hw : m.state.WF rules)
  (hb : m.state.stack.back? = some x) (hx : x.isSealed rules = true)

include hw hb hx

/-- Inside a sealed region the hit that the next step handles is its end. -/
theorem Waited.hit? (h : m.Waited m') :
    m'.hit? rules = (m'.endOf? rules x).map
      fun span => ⟨span.1, span.2, .close (m.state.stack.size - 1)⟩ := by
  unfold Moment.hit? endOf?
  rw [h.stack]
  cases m'.cursor with
  | none => rfl
  | some c => exact hw.valid.nextHit_of_sealed hb hx c.lineNo c.line c.pos

/-- A step that finds no end of a sealed region leaves a line or begins one. -/
theorem Waited.next (hline : x.line < m.begun) (hruns : ∀ y ∈ m.state.runs, y.2.last = x.line)
    (h : m.Waited m') (hend : m'.endOf? rules x = none) {m'' : Moment}
    (hn : m'.next? rules = some m'') : m.Waited m'' ∧ m''.InLine := by
  have hnone : m'.hit? rules = none := by rw [h.hit? hw hb hx, hend]; rfl
  rcases next?_cases hn with ⟨c, hit, hc, hh, _⟩ | ⟨c, _, _, rfl⟩ | ⟨line, rest, _, _, rfl⟩
  · rw [Moment.hit?, hc, Option.bind_some, hh] at hnone
    cases hnone
  · exact ⟨⟨h.stack, h.blocks, h.events⟩, fun c hc => by cases hc⟩
  · -- The runs that are left are older than the line, so they end.
    have hlast : ∀ y ∈ m'.state.runs, y.2.last ≠ m'.begun := by
      intro y hy
      rcases h.events with ⟨hbegun, hr, _⟩ | ⟨_, hr, _⟩
      · rw [hr] at hy
        rw [hruns y hy, hbegun]
        exact Nat.ne_of_lt hline
      · rw [hr] at hy
        cases hy
    have hs : m'.state.stack.endsSealed rules = true := by
      rw [h.stack]
      exact Stack.endsSealed_of_back hb hx
    refine ⟨?_, fun c hc => by cases hc; rfl⟩
    rw [ScanState.beginLine_of_sealed (h.wf hw) hs hlast]
    refine ⟨h.stack, h.blocks, .inr ?_⟩
    rw [ScanState.toList_events]
    dsimp only
    rcases h.events with ⟨hbegun, hr, hev⟩ | ⟨hbegun, hr, hev⟩
    · refine ⟨by omega, rfl, ?_⟩
      rw [hev, ScanState.endedRuns, hr]
      rfl
    · have hnone : m'.state.endedRuns = [] := by rw [ScanState.endedRuns, hr]; rfl
      refine ⟨by omega, rfl, ?_⟩
      rw [hev, hnone, List.append_nil]

/-- The step that finds the end of a sealed region takes the region off and reports it. -/
theorem Waited.close (h : m.Waited m') (hi : m'.InLine) {span : Nat × Nat}
    (hend : m'.endOf? rules x = some span) :
    ∃ m'', m'.next? rules = some m'' ∧ m''.state =
      { m'.state with stack := m.state.stack.pop }.emit
        [⟨x.rule, x.line, m'.begun - 1, true⟩] := by
  have hhit := h.hit? hw hb hx
  obtain ⟨c, hc, _⟩ := Option.bind_eq_some_iff.mp hend
  rw [hend, Moment.hit?, hc, Option.bind_some, Option.map_some] at hhit
  simp only [next?, hc, hhit, ScanState.handle, Option.some.injEq, exists_eq_left']
  rw [← h.stack, ScanState.closeRegion_of_sealed (h.wf hw).valid (h.stack ▸ hb) hx, ← hi c hc,
    Nat.add_sub_cancel]

/-- As long as a sealed region has no end, a scan waits for it. -/
theorem waited_after (hline : x.line < m.begun) (hruns : ∀ y ∈ m.state.runs, y.2.last = x.line)
    (hi : m.InLine) {j : Nat} (hend : ∀ i < j, (m.after rules i).endOf? rules x = none) :
    m.Waited (m.after rules j) ∧ (m.after rules j).InLine := by
  induction j with
  | zero => exact ⟨.refl m, hi⟩
  | succ j ih =>
    obtain ⟨hwait, hplace⟩ := ih fun i hij => hend i (Nat.lt_succ_of_lt hij)
    rw [after]
    cases hn : (m.after rules j).next? rules with
    | none => exact ⟨hwait, hplace⟩
    | some m'' => exact hwait.next hw hb hx hline hruns (hend j (Nat.lt_succ_self j)) hn

end

end Moment

/-- At every moment of a scan with compiled rules whose innermost region is sealed, the runs that
have not ended are those of the line in which it opened. Whatever text follows in the line and
whatever lines follow it, as long as no end of the region is found the open regions and the blocks
stay as they are and nothing is reported but those runs, when the next line begins. The next hit is
the end of the region, and handling it takes the region off, reports it and leaves all other state
and all other events as they are. -/
theorem RuleSet.sealed_region_isolated (language : Language) (specific wildcard : List RuleEntry)
    (lines : List Line) (k : Nat) :
    let rules := (RuleSet.compile language specific wildcard).1
    let s := (rules.run lines k).state
    let begun := (rules.run lines k).begun
    ∀ x, s.stack.back? = some x → x.isSealed rules = true →
      (∀ y ∈ s.runs, y.2.last = x.line ∧ ¬ rules.Delimited y.1) ∧
      ∀ (text : Option (Line × Nat)) (rest : List Line) (j : Nat),
        let m := Moment.after rules ⟨text.map fun t => ⟨begun - 1, t.1, t.2⟩, begun, rest, s⟩
        (∀ i < j, (m i).endOf? rules x = none) →
          (m j).state.stack = s.stack ∧ (m j).state.blocks = s.blocks ∧
          ((m j).begun = begun ∧ (m j).state.runs = s.runs ∧ (m j).state.events = s.events ∨
            begun < (m j).begun ∧ (m j).state.runs = [] ∧
              (m j).state.events.toList = s.events.toList ++ s.endedRuns) ∧
          (m j).hit? rules = ((m j).endOf? rules x).map
            (fun span => ⟨span.1, span.2, .close (s.stack.size - 1)⟩) ∧
          ∀ span, (m j).endOf? rules x = some span →
            (m (j + 1)).state.stack = s.stack.pop ∧
            (m (j + 1)).state.runs = (m j).state.runs ∧
            (m (j + 1)).state.blocks = (m j).state.blocks ∧
            (m (j + 1)).state.events.toList =
              (m j).state.events.toList ++ [⟨x.rule, x.line, (m j).begun - 1, true⟩] := by
  intro rules s begun x hb hx
  obtain ⟨hline, hruns⟩ := rules.runs_of_sealed lines k hb hx
  refine ⟨fun y hy => ⟨hruns y hy, (rules.pending_not_delimited lines k).runs y hy⟩, ?_⟩
  intro text rest j m hend
  let here : Moment := ⟨text.map fun t => ⟨begun - 1, t.1, t.2⟩, begun, rest, s⟩
  have hw : here.state.WF rules := rules.wf_state lines k
  have hopen : here.state.stack.back? = some x := hb
  have hi : here.InLine := by
    intro c hc
    obtain ⟨t, _, rfl⟩ := Option.map_eq_some_iff.mp hc
    exact Nat.sub_add_cancel (Nat.zero_lt_of_lt hline)
  obtain ⟨hwait, hplace⟩ := Moment.waited_after hw hopen hx hline hruns hi hend
  have hhit := hwait.hit? hw hopen hx
  refine ⟨hwait.stack, hwait.blocks, hwait.events, hhit, ?_⟩
  intro span hspan
  obtain ⟨m', hnext, hstate⟩ := hwait.close hw hopen hx hplace hspan
  have hsucc : m (j + 1) = m' := by
    show ((m j).next? rules).getD (m j) = m'
    rw [hnext, Option.getD_some]
  rw [hsucc, hstate]
  exact ⟨rfl, rfl, rfl, ScanState.toList_events_emit _ _⟩

/-- A document in which a comment opens at the end of a run of two lines. -/
def commentOpened : List Line := Line.split "// a\n// b /*"

/-- The comment hides what follows it, a bracket and two comments of whole lines. When the next line
begins, the run of the first two lines ends, and the comment closes two lines below its opening. -/
theorem sealed_region_of_commentOpened :
    let s := (comments.run commentOpened 4).state
    let begun := (comments.run commentOpened 4).begun
    let m := Moment.after comments ⟨some ⟨begun - 1, " ( // x".toList, 0⟩, begun,
      ["// c".toList, "( */ )".toList], s⟩
    ∃ x, s.stack.back? = some x ∧ x.isSealed comments = true ∧ x.rule = 1 ∧ x.line = 1 ∧
      (∀ i < 4, (m i).endOf? comments x = none) ∧ (m 4).endOf? comments x = some (2, 4) ∧
      (m 4).begun = 4 ∧ (m 4).state.stack = s.stack ∧ (m 5).state.stack = s.stack.pop ∧
      (m 5).state.runs = [] ∧
      (m 5).state.events.toList = [⟨0, 0, 1, false⟩, ⟨1, 1, 3, true⟩] := by
  intro s begun m
  obtain ⟨x, hb, hx, hrule, hline, hnone, hend⟩ : ∃ x, s.stack.back? = some x ∧
      x.isSealed comments = true ∧ x.rule = 1 ∧ x.line = 1 ∧
      (∀ i < 4, (m i).endOf? comments x = none) ∧ (m 4).endOf? comments x = some (2, 4) :=
    ⟨_, rfl, by decide +kernel, by decide +kernel, by decide +kernel, by decide +kernel,
      by decide +kernel⟩
  -- The number of steps is a variable here, so that the scan is not evaluated to compare terms.
  have hkey {j n : Nat} (hn : n = j + 1) (hnone : ∀ i < j, (m i).endOf? comments x = none)
      (hend : (m j).endOf? comments x = some (2, 4)) (hlater : (m j).begun ≠ begun) :
      (m j).state.stack = s.stack ∧ (m n).state.stack = s.stack.pop ∧ (m n).state.runs = [] ∧
        (m n).state.events.toList =
          s.events.toList ++ s.endedRuns ++ [⟨x.rule, x.line, (m j).begun - 1, true⟩] := by
    subst hn
    obtain ⟨hstack, _, hevents, _, hclose⟩ :=
      (RuleSet.sealed_region_isolated ⟨"test"⟩ _ [] commentOpened 4 x hb hx).2
        (some (" ( // x".toList, 0)) ["// c".toList, "( */ )".toList] j hnone
    obtain ⟨hpop, hruns, _, hadded⟩ := hclose (2, 4) hend
    obtain ⟨_, hnoRuns, hreported⟩ := hevents.resolve_left fun h => hlater h.1
    exact ⟨hstack, hpop, hruns.trans hnoRuns, hadded.trans (congrArg (· ++ _) hreported)⟩
  have hbegun : (m 4).begun = 4 := by decide +kernel
  have hended : s.events.toList ++ s.endedRuns = [⟨0, 0, 1, false⟩] := by decide +kernel
  have hfive : 5 = 4 + 1 := rfl
  obtain ⟨hstack, hpop, hruns, hevents⟩ := hkey hfive hnone hend (by decide +kernel)
  refine ⟨x, hb, hx, hrule, hline, hnone, hend, hbegun, hstack, hpop, hruns, ?_⟩
  rw [hevents, hended, hrule, hline, hbegun]
  rfl

end CodeFold
