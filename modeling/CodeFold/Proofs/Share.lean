import CodeFold.Proofs.WellFormed

/-!
# The share of one rule

The share of a rule is what a scan keeps of it: its run, its blocks and its events. Only the rule
itself changes its share, when it takes in a line and when its run ends, and closing a region does
so if it puts the rule out of reach. A rule on whole lines that holds everywhere is never out of
reach. So its share follows from the lines alone and from which of them an open region hides.
-/

namespace CodeFold

/-- What a scan keeps of one rule: what it has pending and what it has reported. -/
structure Share where
  run : Option Run
  blocks : Option Blocks
  events : List Event

namespace Share

/-- Ends the run. -/
def endRun (id : RuleId) (v : Share) : Share :=
  { v with run := none, events := v.events ++ (v.run.bind (·.event? id none)).toList }

/-- Ends the blocks. -/
def endBlocks (id : RuleId) (v : Share) : Share :=
  { v with blocks := none, events := v.events ++ v.blocks.elim [] (·.flush id none) }

/-- Takes in a line. -/
def feed (id : RuleId) (kind : RuleKind) (lineNo : Nat) (line : Line) (v : Share) : Share :=
  match kind with
  | .consecutive p =>
    if p.isMatch line then
      { v with run := some ((v.run.map fun r => { r with last := lineNo }).getD ⟨lineNo, lineNo⟩) }
    else v
  | .indentation =>
    (Line.indentWidth line).elim v fun width =>
      let (b, ended) := (v.blocks.getD .empty).feed id lineNo width
      { v with blocks := some b, events := v.events ++ ended }
  | .delimited _ _ | .paired _ => v

/-- Ends a run that a line has not made longer. -/
def settle (id : RuleId) (lineNo : Nat) (v : Share) : Share :=
  if v.run.any (·.last ≠ lineNo) then v.endRun id else v

end Share

/-! ### Events of a rule's own -/

private theorem Run.rule_of_mem_event {run : Run} {id : RuleId} {limit : Option Nat} {e : Event}
    (h : e ∈ (run.event? id limit).toList) : e.rule = id := by
  rw [Option.mem_toList, event?] at h
  split at h
  · cases h
    rfl
  · cases h

private theorem Blocks.rule_of_mem_flush {b : Blocks} {id : RuleId} {limit : Option Nat} {e : Event}
    (h : e ∈ b.flush id limit) : e.rule = id := by
  obtain ⟨o, _, rfl⟩ := List.mem_map.mp h
  rfl

private theorem Blocks.rule_of_mem_feed {b : Blocks} {id : RuleId} {lineNo width : Nat} {e : Event}
    (h : e ∈ (b.feed id lineNo width).2) : e.rule = id := by
  rw [feed_eq] at h
  obtain ⟨o, _, rfl⟩ := List.mem_map.mp h
  rfl

namespace ScanState

/-- The share of a rule. -/
def share (id : RuleId) (s : ScanState) : Share where
  run := s.runs.lookup id
  blocks := s.blocks.lookup id
  events := s.events.toList.filter (·.rule = id)

variable {s : ScanState} {r id : RuleId}

/-! ### Who changes a share -/

/-- Events that are emitted come behind all others. -/
theorem toList_events_emit (s : ScanState) (more : List Event) :
    (s.emit more).events.toList = s.events.toList ++ more := by
  rw [toList_events, toList_emit, toList_events, List.append_assoc]
  rfl

private theorem share_emit_own {more : List Event} (h : ∀ e ∈ more, e.rule = r) :
    (s.emit more).share r = { s.share r with events := (s.share r).events ++ more } := by
  have hmore : more.filter (·.rule = r) = more := by
    apply List.filter_eq_self.mpr
    intro e he
    simpa using h e he
  simp only [share, toList_events_emit, List.filter_append, hmore]
  rfl

private theorem share_emit_other {more : List Event} (h : ∀ e ∈ more, e.rule ≠ r) :
    (s.emit more).share r = s.share r := by
  have hmore : more.filter (·.rule = r) = [] := by
    apply List.filter_eq_nil_iff.mpr
    intro e he
    simpa using h e he
  simp only [share, toList_events_emit, List.filter_append, hmore, List.append_nil]
  rfl

private theorem share_closeRun_of_ne (h : id ≠ r) (limit : Option Nat) :
    (s.closeRun limit id).share r = s.share r := by
  unfold closeRun
  split
  · rfl
  · rw [share_emit_other (fun e he => Run.rule_of_mem_event he ▸ h)]
    simp only [share, SortedMap.lookup_erase, if_neg (Ne.symm h)]
    rfl

private theorem share_flushBlocks_of_ne (h : id ≠ r) (limit : Option Nat) :
    (s.flushBlocks limit id).share r = s.share r := by
  unfold flushBlocks
  split
  · rfl
  · rw [share_emit_other (fun e he => Blocks.rule_of_mem_flush he ▸ h)]
    simp only [share, SortedMap.lookup_erase, if_neg (Ne.symm h)]
    rfl

private theorem share_feedRule_of_ne (h : id ≠ r) (rules : RuleSet) (lineNo : Nat) (line : Line) :
    (s.feedRule rules lineNo line id).share r = s.share r := by
  unfold feedRule
  split
  · rfl
  · split
    · split
      · simp only [extendRun, share, SortedMap.lookup_insert, if_neg (Ne.symm h)]
        rfl
      · rfl
    · cases Line.indentWidth line with
      | none => rfl
      | some width =>
        dsimp only [Option.elim, feedBlocks]
        rw [share_emit_other (fun e he => Blocks.rule_of_mem_feed he ▸ h)]
        simp only [share, SortedMap.lookup_insert, if_neg (Ne.symm h)]
        rfl
    · rfl
    · rfl

private theorem share_closeRun (s : ScanState) (r : RuleId) :
    (s.closeRun none r).share r = (s.share r).endRun r := by
  unfold closeRun
  split
  · next hr => simp [Share.endRun, share, hr]
  · next run hr =>
    rw [share_emit_own (fun e he => Run.rule_of_mem_event he)]
    simp [Share.endRun, share, hr, SortedMap.lookup_erase, events]

private theorem share_flushBlocks (s : ScanState) (r : RuleId) :
    (s.flushBlocks none r).share r = (s.share r).endBlocks r := by
  unfold flushBlocks
  split
  · next hb => simp [Share.endBlocks, share, hb]
  · next b hb =>
    rw [share_emit_own (fun e he => Blocks.rule_of_mem_flush he)]
    simp [Share.endBlocks, share, hb, SortedMap.lookup_erase, events]

private theorem share_feedRule {rules : RuleSet} {rule : Rule} (hr : rules.rule? r = some rule)
    (s : ScanState) (lineNo : Nat) (line : Line) :
    (s.feedRule rules lineNo line r).share r = (s.share r).feed r rule.kind lineNo line := by
  simp only [feedRule, Share.feed, hr]
  cases rule.kind with
  | delimited opening closing => rfl
  | paired p => rfl
  | consecutive p =>
    dsimp only
    split
    · simp [extendRun, share, SortedMap.lookup_insert, events]
    · rfl
  | indentation =>
    cases Line.indentWidth line with
    | none => rfl
    | some width =>
      dsimp only [Option.elim, feedBlocks]
      rw [share_emit_own (fun e he => Blocks.rule_of_mem_feed he)]
      simp [share, SortedMap.lookup_insert, events]

/-- Operations on other rules leave a share alone. -/
theorem share_foldl_of_not_mem {f : ScanState → RuleId → ScanState}
    (hf : ∀ s id, id ≠ r → (f s id).share r = s.share r) {ids : List RuleId} (hr : r ∉ ids)
    (s : ScanState) : (ids.foldl f s).share r = s.share r := by
  induction ids generalizing s with
  | nil => rfl
  | cons id ids ih =>
    have hne : id ≠ r := fun he => hr (he ▸ List.mem_cons_self)
    rw [List.foldl_cons, ih (fun hm => hr (List.mem_cons_of_mem id hm)), hf s id hne]

/-- If an operation is done on some rules, each once, a share changes by the operation on its own
rule. -/
theorem share_foldl {f : ScanState → RuleId → ScanState} {g : Share → Share}
    (hf : ∀ s id, id ≠ r → (f s id).share r = s.share r) (hg : ∀ s, (f s r).share r = g (s.share r))
    {ids : List RuleId} (hn : ids.Nodup) (s : ScanState) :
    (ids.foldl f s).share r = if r ∈ ids then g (s.share r) else s.share r := by
  split
  · next hr =>
    obtain ⟨front, back, rfl⟩ := List.append_of_mem hr
    obtain ⟨_, hback, hdisj⟩ := List.nodup_append.mp hn
    have hfront : r ∉ front := fun hm => hdisj r hm r List.mem_cons_self rfl
    rw [List.foldl_append, List.foldl_cons, share_foldl_of_not_mem hf (List.nodup_cons.mp hback).1,
      hg, share_foldl_of_not_mem hf hfront]
  · next hr => exact share_foldl_of_not_mem hf hr s

/-- Ending the runs of all rules that have one ends the run of each. -/
theorem share_closeRuns (h : s.Ordered) (r : RuleId) :
    ((SortedMap.keys s.runs).foldl (closeRun none) s).share r = (s.share r).endRun r := by
  rw [share_foldl (fun s id hne => share_closeRun_of_ne hne none) (fun s => share_closeRun s r)
    h.runs.nodup_keys]
  split
  · rfl
  · next hr => simp [Share.endRun, share, SortedMap.lookup_of_not_mem_keys hr]

private theorem share_flushAllBlocks (h : s.Ordered) (r : RuleId) :
    ((SortedMap.keys s.blocks).foldl (flushBlocks none) s).share r = (s.share r).endBlocks r := by
  rw [share_foldl (fun s id hne => share_flushBlocks_of_ne hne none)
    (fun s => share_flushBlocks s r) h.blocks.nodup_keys]
  split
  · rfl
  · next hr => simp [Share.endBlocks, share, SortedMap.lookup_of_not_mem_keys hr]

/-- At the end of a scan a rule ends what it has pending. -/
theorem share_finish (h : s.Ordered) (r : RuleId) :
    s.finish.share r = ((s.share r).endRun r).endBlocks r := by
  have hbare : { s with stack := #[] }.Ordered := ⟨h.runs, h.blocks, h.opens⟩
  have hclosed := (Adds.foldl (closeRun none) (SortedMap.keys s.runs)
    (fun _ id _ hs => adds_closeRun (reports_ordered none) hs id) hbare).kept
  have hruns := share_closeRuns hbare r
  exact (share_flushAllBlocks hclosed r).trans (congrArg (Share.endBlocks r) hruns)

/-- Closing a region leaves the share of a rule alone that stays in reach. -/
theorem share_leaveScope {rules : RuleSet} {before : List RuleId}
    (h : r ∉ outOfReach rules before s.stack) (last : Nat) :
    (s.leaveScope rules before last).share r = s.share r := by
  have hcut (e : Event) (he : e.rule = r) :
      e.cut (outOfReach rules before s.stack) last = e := by
    simp [Event.cut, he, h]
  have hrule (e : Event) : (e.cut (outOfReach rules before s.stack) last).rule = e.rule := by
    unfold Event.cut
    split <;> rfl
  have hevents : ({ s with
      current := s.current.map (Event.cut (outOfReach rules before s.stack) last) }).share r =
      s.share r := by
    simp only [share, toList_events, Array.toList_map, List.filter_append, List.filter_map,
      Function.comp_def, hrule]
    congr 2
    conv_rhs => rw [← List.map_id (List.filter _ s.current.toList)]
    apply List.map_congr_left
    intro e he
    exact hcut e (by simpa using (List.mem_filter.mp he).2)
  unfold leaveScope
  refine (share_foldl_of_not_mem ?_ h _).trans ?_
  · intro s id hne
    rw [share_flushBlocks_of_ne hne, share_closeRun_of_ne hne]
  · split
    · rfl
    · exact hevents

end ScanState

/-! ### Rules that hold everywhere -/

namespace ScanState

variable {rules : RuleSet} {s : ScanState} {r : RuleId} (hw : s.WF rules)
  (ht : rules.topLevel.Nodup) (hr : r ∈ rules.topLevel)

include hw ht hr

/-- A hit leaves the share of a rule on whole lines alone that holds everywhere. -/
theorem share_handle {lineNo pos : Nat} {line : Line} {hit : Hit} (hd : ¬ rules.Delimited r)
    (hh : s.stack.nextHit rules lineNo line pos = some hit) :
    (s.handle rules lineNo hit).share r = s.share r := by
  rcases Stack.nextHit_cases hh with ⟨key, index, _, hc⟩ | ⟨id, hid, ho⟩
  · obtain ⟨entry, rule, he, hrule, _, ha⟩ := Stack.closingHit_eq_some hc
    have hentry : entry.rule ≠ r := by
      rintro rfl
      exact hd (hw.delimited entry (Array.mem_toList_iff.mpr (Array.mem_of_getElem? he)))
    have hvalid := (wf_handle hw hh).valid
    simp only [handle, ha] at hvalid ⊢
    rw [stack_closeRegion he hrule] at hvalid
    rw [closeRegion_eq he hrule, share_leaveScope]
    · rw [share_emit_other (by simpa using hentry)]
      rfl
    · intro hout
      have hreach := (List.mem_filter.mp hout).2
      rw [show (ScanState.emit _ _).stack = closedStack rules rule.pairing s.stack index from rfl,
        hvalid.reachable_eq ht] at hreach
      simp [Scope.mem_listing, hr] at hreach
  · obtain ⟨rule, m, hrule, hm, rfl⟩ := Stack.openingHit_eq_some ho
    rfl

private theorem share_scanHits (hd : ¬ rules.Delimited r) (lineNo : Nat) (line : Line)
    (fuel pos : Nat) : (s.scanHits rules lineNo line fuel pos).share r = s.share r := by
  induction fuel generalizing s pos with
  | zero => rfl
  | succ fuel ih =>
    rw [scanHits]
    cases hh : s.stack.nextHit rules lineNo line pos with
    | none => rfl
    | some hit =>
      have hshare := share_handle hw ht hr hd hh
      dsimp only
      cases nextPos? line hit.start hit.stop with
      | none => exact hshare
      | some next => exact (ih (wf_handle hw hh) next).trans hshare

/-- At the start of a line a rule that holds everywhere takes the line in unless a region hides it,
and ends its run if the line has not made it longer. -/
theorem share_feedLine {rule : Rule} (hrule : rules.rule? r = some rule) (lineNo : Nat)
    (line : Line) :
    (s.feedLine rules lineNo line).share r =
      (if s.stack.endsSealed rules then s.share r
        else (s.share r).feed r rule.kind lineNo line).settle r lineNo := by
  have hfed : ((s.stack.scope rules).active.foldl (feedRule rules lineNo line) s).share r =
      if s.stack.endsSealed rules then s.share r
      else (s.share r).feed r rule.kind lineNo line := by
    rw [hw.valid.active_eq ht]
    split
    · rfl
    · rw [share_foldl (fun s id hne => share_feedRule_of_ne hne rules lineNo line)
        (fun s => share_feedRule hrule s lineNo line) (Scope.nodup_listing _),
        if_pos (Scope.mem_listing.mpr (.inr hr))]
  have hordered : ((s.stack.scope rules).active.foldl (feedRule rules lineNo line) s).Ordered :=
    (ordered_feedRules hw.ordered lineNo line _).kept
  unfold feedLine
  dsimp only
  rw [← hfed]
  generalize (s.stack.scope rules).active.foldl (feedRule rules lineNo line) s = s' at hordered
  have hended : r ∈ SortedMap.keys (s'.runs.filter (·.2.last ≠ lineNo)) ↔
      (s'.share r).run.any (·.last ≠ lineNo) = true := by
    constructor
    · intro hk
      obtain ⟨x, hx, rfl⟩ := List.mem_map.mp hk
      obtain ⟨hmem, hlast⟩ := List.mem_filter.mp hx
      simpa [share, hordered.runs.lookup_of_mem hmem] using hlast
    · intro hany
      cases hrun : s'.runs.lookup r with
      | none => simp [share, hrun] at hany
      | some run =>
        have hlast : run.last ≠ lineNo := by simpa [share, hrun] using hany
        have hmem : (r, run) ∈ s'.runs.filter (·.2.last ≠ lineNo) :=
          List.mem_filter.mpr ⟨SortedMap.mem_of_lookup hrun, by simpa using hlast⟩
        exact List.mem_map_of_mem hmem
  rw [share_foldl (fun s id hne => share_closeRun_of_ne hne none) (fun s => share_closeRun s r)
    (hordered.runs.filter _).nodup_keys, Share.settle]
  simp only [hended]

private theorem share_scanLine {rule : Rule} (hrule : rules.rule? r = some rule)
    (hd : ¬ rules.Delimited r) (lineNo : Nat) (line : Line) :
    (s.scanLine rules lineNo line).share r =
      (if s.stack.endsSealed rules then s.share r
        else (s.share r).feed r rule.kind lineNo line).settle r lineNo := by
  have hbegin : (s.scanLine rules lineNo line).share r =
      (s.beginLine rules lineNo line).share r :=
    share_scanHits (wf_beginLine hw lineNo line) ht hr hd lineNo line _ 0
  have hmoved : { s with past := s.past ++ s.current, current := #[] }.share r = s.share r := by
    simp [share, events]
  have hw' : { s with past := s.past ++ s.current, current := #[] }.WF rules :=
    ⟨hw.valid, hw.delimited, ⟨hw.ordered.runs, hw.ordered.blocks, hw.ordered.opens⟩⟩
  rw [hbegin, beginLine, share_feedLine hw' ht hr hrule, hmoved]

end ScanState

/-! ### The lines that a rule sees -/

namespace RuleSet

/-- The state of a scan at the start of a line. -/
def stateAt (rules : RuleSet) (lines : List Line) (l : Nat) : ScanState :=
  ScanState.start.scanLines rules 0 (lines.take l)

/-- Whether no region that is open at the start of a line is sealed. -/
def sees (rules : RuleSet) (lines : List Line) (l : Nat) : Bool :=
  (rules.stateAt lines l).stack.all (!·.isSealed rules)

variable {rules : RuleSet} {lines : List Line}

private theorem wf_stateAt (rules : RuleSet) (lines : List Line) (l : Nat) :
    (rules.stateAt lines l).WF rules := rules.wf_scanLines (lines.take l)

/-- Only the innermost region can be sealed, so it alone decides whether a line is seen. -/
theorem sees_eq (rules : RuleSet) (lines : List Line) (l : Nat) :
    rules.sees lines l = !(rules.stateAt lines l).stack.endsSealed rules := by
  have hv := (rules.wf_stateAt lines l).valid
  unfold sees
  cases hs : (rules.stateAt lines l).stack.endsSealed rules with
  | false =>
    apply Array.all_eq_true_iff_forall_mem.mpr
    intro e he
    simpa using hv.not_sealed hs e (Array.mem_toList_iff.mpr he)
  | true =>
    unfold Stack.endsSealed at hs
    cases hb : (rules.stateAt lines l).stack.back? with
    | none => simp [hb] at hs
    | some e =>
      apply Array.all_eq_false'.mpr
      exact ⟨e, Array.mem_of_back? hb, by simpa [hb] using hs⟩

private theorem scanLines_append_singleton (lineNo : Nat) (s : ScanState) (front : List Line)
    (line : Line) : s.scanLines rules lineNo (front ++ [line]) =
      (s.scanLines rules lineNo front).scanLine rules (lineNo + front.length) line := by
  induction front generalizing lineNo s with
  | nil => rfl
  | cons x front ih =>
    rw [List.cons_append, ScanState.scanLines, ScanState.scanLines, ih, List.length_cons]
    congr 1
    omega

private theorem stateAt_succ {l : Nat} {line : Line} (h : lines[l]? = some line) :
    rules.stateAt lines (l + 1) = (rules.stateAt lines l).scanLine rules l line := by
  have hl := (List.getElem?_eq_some_iff.mp h).1
  rw [stateAt, List.take_add_one, h, Option.toList_some, scanLines_append_singleton, stateAt,
    List.length_take, Nat.min_eq_left (Nat.le_of_lt hl), Nat.zero_add]

private theorem stateAt_length (rules : RuleSet) (lines : List Line) :
    rules.stateAt lines lines.length = ScanState.start.scanLines rules 0 lines := by
  rw [stateAt, List.take_length]

section

variable {r : RuleId} {rule : Rule} (ht : rules.topLevel.Nodup) (hr : r ∈ rules.topLevel)
  (hrule : rules.rule? r = some rule) (hd : rule.kind.isDelimited = false)

include ht hr hrule hd

/-- How a line changes the share of a rule on whole lines that holds everywhere. -/
theorem share_stateAt_succ {l : Nat} {line : Line} (h : lines[l]? = some line) :
    (rules.stateAt lines (l + 1)).share r =
      (if rules.sees lines l then
        ((rules.stateAt lines l).share r).feed r rule.kind l line
      else (rules.stateAt lines l).share r).settle r l := by
  rw [stateAt_succ h, ScanState.share_scanLine (rules.wf_stateAt lines l) ht hr hrule
    (not_delimited hrule hd), sees_eq]
  cases (rules.stateAt lines l).stack.endsSealed rules <;> rfl

end

/-- The events of a rule in a scan are those of its share when it has ended what it has pending. -/
theorem filter_scan (rules : RuleSet) (lines : List Line) (r : RuleId) :
    (rules.scan lines).filter (·.rule = r) =
      ((((rules.stateAt lines lines.length).share r).endRun r).endBlocks r).events := by
  rw [← ScanState.share_finish (rules.wf_stateAt lines lines.length).ordered, stateAt_length]
  rfl

end RuleSet

end CodeFold
