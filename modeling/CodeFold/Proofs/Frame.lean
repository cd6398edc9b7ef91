import CodeFold.Proofs.Run

/-!
# What the parts of a step add and leave alone

Rules on whole lines add events to those of the line, and touch neither the stack of open regions
nor the events of earlier lines. `Adds` relates two states between which events of some kind were
added while a condition on states was kept. Only an opening puts an entry on the stack, only a
closing takes entries off, and only the start of a line makes events those of earlier lines.
-/

namespace CodeFold

private theorem Event.cut_nil (last : Nat) : Event.cut [] last = id := by
  funext e
  simp [cut]

namespace ScanState

/-- Between two states events of some kind were added to those of the line and nothing else was
reported, and the later one meets a condition. -/
structure Adds (I : ScanState → Prop) (E : Event → Prop) (s s' : ScanState) : Prop where
  kept : I s'
  past : s'.past = s.past
  current : ∃ more : List Event, s'.current.toList = s.current.toList ++ more ∧ ∀ e ∈ more, E e

/-- A rule that ends what it has pending keeps a condition on states and reports events of some
kind. -/
structure Reports (I : ScanState → Prop) (E : Event → Prop) (limit : Option Nat) : Prop where
  run : ∀ {s : ScanState} {id : RuleId} {run : Run}, I s → s.runs.lookup id = some run →
    I ({ s with runs := s.runs.erase id }.emit (run.event? id limit).toList) ∧
      ∀ e, run.event? id limit = some e → E e
  blocks : ∀ {s : ScanState} {id : RuleId} {b : Blocks}, I s → s.blocks.lookup id = some b →
    I ({ s with blocks := s.blocks.erase id }.emit (b.flush id limit)) ∧
      ∀ e ∈ b.flush id limit, E e

/-- Events that are emitted come behind those of the line. -/
theorem toList_emit (s : ScanState) (events : List Event) :
    (s.emit events).current.toList = s.current.toList ++ events :=
  Array.toList_appendList

section

variable {I : ScanState → Prop} {E : Event → Prop} {limit : Option Nat} {s s' s'' : ScanState}

/-- Where nothing happens nothing is added. -/
theorem Adds.refl (h : I s) : Adds I E s s := ⟨h, rfl, [], by simp, by simp⟩

/-- What is added in two parts is added. -/
theorem Adds.trans (h : Adds I E s s') (h' : Adds I E s' s'') : Adds I E s s'' := by
  obtain ⟨more, hm, he⟩ := h.current
  obtain ⟨more', hm', he'⟩ := h'.current
  refine ⟨h'.kept, h'.past.trans h.past, more ++ more', ?_, ?_⟩
  · rw [hm', hm, List.append_assoc]
  · intro e hmem
    exact (List.mem_append.mp hmem).elim (he e) (he' e)

/-- What one step of a fold adds, the fold adds. -/
theorem Adds.foldl {α : Type} (f : ScanState → α → ScanState) (xs : List α)
    (hf : ∀ s, ∀ x ∈ xs, I s → Adds I E s (f s x)) (h : I s) : Adds I E s (xs.foldl f s) := by
  induction xs generalizing s with
  | nil => exact .refl h
  | cons x xs ih =>
    have hx := hf s x List.mem_cons_self h
    exact hx.trans (ih (fun s y hy => hf s y (List.mem_cons_of_mem _ hy)) hx.kept)

/-- The end of a run adds its event. -/
theorem adds_closeRun (hr : Reports I E limit) (h : I s) (id : RuleId) :
    Adds I E s (s.closeRun limit id) := by
  unfold closeRun
  split
  · exact .refl h
  · next run hrun =>
    obtain ⟨hkept, hevent⟩ := hr.run h hrun
    exact ⟨hkept, rfl, _, toList_emit _ _, fun e he => hevent e (Option.mem_toList.mp he)⟩

/-- The end of the blocks of a rule adds their events. -/
theorem adds_flushBlocks (hr : Reports I E limit) (h : I s) (id : RuleId) :
    Adds I E s (s.flushBlocks limit id) := by
  unfold flushBlocks
  split
  · exact .refl h
  · next b hb =>
    obtain ⟨hkept, hevent⟩ := hr.blocks h hb
    exact ⟨hkept, rfl, _, toList_emit _ _, hevent⟩

/-- A rule looks at a line as a whole by making its run longer or by taking the line into its
blocks. -/
theorem adds_feedRule {rules : RuleSet} {lineNo : Nat} {id : RuleId} (line : Line) (h : I s)
    (hrun : ∀ rule p, rules.rule? id = some rule → rule.kind = .consecutive p →
      I (s.extendRun lineNo id))
    (hblocks : ∀ rule width, rules.rule? id = some rule → rule.kind = .indentation →
      Adds I E s (s.feedBlocks lineNo width id)) :
    Adds I E s (s.feedRule rules lineNo line id) := by
  unfold feedRule
  split
  · exact .refl h
  · next rule hr =>
    split
    · next p hk =>
      split
      · exact ⟨hrun rule p hr hk, rfl, [], by simp [extendRun], by simp⟩
      · exact .refl h
    · next hk =>
      cases Line.indentWidth line with
      | none => exact .refl h
      | some width => exact hblocks rule width hr hk
    · exact .refl h
    · exact .refl h

/-- After the active rules have looked at a line, the runs that it does not make longer end. -/
theorem adds_feedLine {rules : RuleSet} {lineNo : Nat} {line : Line} (hr : Reports I E none)
    (hfed : Adds I E s
      ((s.stack.scope rules).active.foldl (feedRule rules lineNo line) s)) :
    Adds I E s (s.feedLine rules lineNo line) :=
  hfed.trans (Adds.foldl (closeRun none) _ (fun _ id _ hs => adds_closeRun hr hs id) hfed.kept)

/-- At the end of a scan everything that is pending ends. -/
theorem adds_finish (hr : Reports I E none) (h : I { s with stack := #[] }) :
    Adds I E s s.finish := by
  have hruns := Adds.foldl (closeRun none) (SortedMap.keys s.runs)
    (fun _ id _ hs => adds_closeRun hr hs id) h
  have hblocks : Adds I E _ s.finish :=
    Adds.foldl (flushBlocks none) _ (fun _ id _ hs => adds_flushBlocks hr hs id) hruns.kept
  obtain ⟨hkept, hpast, hcur⟩ := hruns.trans hblocks
  exact ⟨hkept, hpast, hcur⟩

/-- The rules that could be reached before and cannot be reached inside a stack. -/
def outOfReach (rules : RuleSet) (before : List RuleId) (stack : Stack) : List RuleId :=
  before.filter (!(stack.scope rules).reachable.contains ·)

/-- Leaving a scope cuts the events of the line; then the rules out of reach end what they have
pending. -/
theorem leaveScope_eq (rules : RuleSet) (before : List RuleId) (last : Nat) (s : ScanState) :
    s.leaveScope rules before last =
      (outOfReach rules before s.stack).foldl
        (fun s id => (s.closeRun (some last) id).flushBlocks (some last) id)
        { s with current := s.current.map (Event.cut (outOfReach rules before s.stack) last) } := by
  unfold leaveScope
  dsimp only
  split
  · next hl =>
    rw [outOfReach, List.isEmpty_iff.mp hl, Event.cut_nil, Array.map_id]
  · rfl

/-- If all rules stay in reach, nothing is cut and nothing ends. -/
theorem leaveScope_of_outOfReach {rules : RuleSet} {before : List RuleId}
    (h : outOfReach rules before s.stack = []) (last : Nat) :
    s.leaveScope rules before last = s := by
  rw [leaveScope_eq, h, Event.cut_nil, Array.map_id]
  rfl

/-- Leaving a scope adds events behind those that it cuts. -/
theorem adds_leaveScope {last : Nat} (hr : Reports I E (some last)) (rules : RuleSet)
    (before : List RuleId)
    (h : I { s with current := s.current.map (Event.cut (outOfReach rules before s.stack) last) }) :
    Adds I E { s with current := s.current.map (Event.cut (outOfReach rules before s.stack) last) }
      (s.leaveScope rules before last) := by
  rw [leaveScope_eq]
  refine Adds.foldl _ _ (fun s id _ hs => ?_) h
  have hrun := adds_closeRun hr hs id
  exact hrun.trans (adds_flushBlocks hr hrun.kept id)

end

/-! ### The stack and the events of earlier lines -/

/-- The state when a line begins, before it is looked at: the events so far are those of earlier
lines. -/
def settle (s : ScanState) : ScanState := { s with past := s.past ++ s.current, current := #[] }

/-- Ending what a rule has pending leaves the stack alone. -/
private theorem reports_stack (stack : Stack) (limit : Option Nat) :
    Reports (·.stack = stack) (fun _ => True) limit where
  run h _ := ⟨h, fun _ _ => trivial⟩
  blocks h _ := ⟨h, fun _ _ => trivial⟩

private theorem adds_feedLine_stack (rules : RuleSet) (lineNo : Nat) (line : Line) (s : ScanState) :
    Adds (·.stack = s.stack) (fun _ => True) s (s.feedLine rules lineNo line) := by
  refine adds_feedLine (reports_stack _ none) (Adds.foldl _ _ (fun s' id _ hs => ?_) rfl)
  refine adds_feedRule line hs (fun _ _ _ _ => hs) fun _ _ _ _ => ?_
  exact ⟨hs, rfl, _, toList_emit _ _, fun _ _ => trivial⟩

private theorem adds_leaveScope_stack (rules : RuleSet) (before : List RuleId) (last : Nat)
    (s : ScanState) :
    Adds (·.stack = s.stack) (fun _ => True)
      { s with current := s.current.map (Event.cut (outOfReach rules before s.stack) last) }
      (s.leaveScope rules before last) :=
  adds_leaveScope (reports_stack _ (some last)) rules before rfl

/-- A line leaves the stack alone. -/
theorem stack_feedLine (rules : RuleSet) (lineNo : Nat) (line : Line) (s : ScanState) :
    (s.feedLine rules lineNo line).stack = s.stack :=
  (adds_feedLine_stack rules lineNo line s).kept

/-- The start of a line leaves the stack alone. -/
theorem stack_beginLine (rules : RuleSet) (lineNo : Nat) (line : Line) (s : ScanState) :
    (s.beginLine rules lineNo line).stack = s.stack :=
  stack_feedLine rules lineNo line s.settle

/-- When a line begins, the events so far become those of earlier lines. -/
theorem past_beginLine (rules : RuleSet) (lineNo : Nat) (line : Line) (s : ScanState) :
    (s.beginLine rules lineNo line).past = s.events :=
  (adds_feedLine_stack rules lineNo line s.settle).past

/-- The stack after the entry at a position has closed. -/
def closedStack (rules : RuleSet) (pairing : Pairing) (stack : Stack) (index : Nat) : Stack :=
  match pairing with
  | .innermost => stack.below index
  | .nearest => stack.removeAt rules index

/-- Closing a region takes its entry off in the way of its rule, reports the region and ends what is
out of reach. -/
theorem closeRegion_eq {rules : RuleSet} {lineNo index : Nat} {s : ScanState} {entry : OpenEntry}
    {rule : Rule} (he : s.stack[index]? = some entry) (hr : rules.rule? entry.rule = some rule) :
    s.closeRegion rules lineNo index =
      ({ s with stack := closedStack rules rule.pairing s.stack index }.emit
        [⟨entry.rule, entry.line, lineNo, true⟩]).leaveScope rules (s.stack.scope rules).reachable
        (if rule.foldLastLine then lineNo else lineNo - 1) := by
  simp only [closeRegion, he, hr]
  rfl

/-- A region that closes leaves the stack that its pairing asks for. -/
theorem stack_closeRegion {rules : RuleSet} {lineNo index : Nat} {s : ScanState} {entry : OpenEntry}
    {rule : Rule} (he : s.stack[index]? = some entry) (hr : rules.rule? entry.rule = some rule) :
    (s.closeRegion rules lineNo index).stack = closedStack rules rule.pairing s.stack index := by
  rw [closeRegion_eq he hr]
  exact (adds_leaveScope_stack _ _ _ _).kept

/-- Hits do not touch the events of earlier lines. -/
theorem past_handle (rules : RuleSet) (lineNo : Nat) (s : ScanState) (hit : Hit) :
    (s.handle rules lineNo hit).past = s.past := by
  unfold handle
  split
  · unfold closeRegion
    split
    · rfl
    · split
      · rfl
      · exact (adds_leaveScope_stack _ _ _ _).past
  · rfl

end ScanState

end CodeFold
