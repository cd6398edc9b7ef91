import CodeFold.Proofs.Append
import CodeFold.Proofs.Places

/-!
# First and last lines of events

A rule on whole lines reports no region that ends above its first line, and a region of one line
only if the rule goes by indentation. A region with delimiters opens in the line in which it closes
or above. Closing a region whose last line is not folded cuts the events that end in that line, and
no event is cut twice. So an event ends at most one line above its first one, and if it does, its
region was one line long, and another region closed in that line.
Specification: §4.3.
-/

namespace CodeFold

/-- A rule goes by the indentation of lines. -/
def RuleSet.Indented (rules : RuleSet) (id : RuleId) : Prop :=
  ∃ rule, rules.rule? id = some rule ∧ rule.kind = .indentation

/-- An event ends below its first line, or in it if its rule goes by indentation. -/
def Event.Upright (rules : RuleSet) (e : Event) : Prop :=
  e.start < e.stop ∨ e.start = e.stop ∧ rules.Indented e.rule

private theorem Event.upright_of_le {rules : RuleSet} {e : Event} (h : e.start ≤ e.stop)
    (hi : rules.Indented e.rule) : e.Upright rules :=
  (Nat.lt_or_eq_of_le h).imp id fun heq => ⟨heq, hi⟩

namespace ScanState

/-- Only rules that go by indentation have blocks. -/
def BlocksIndented (rules : RuleSet) (s : ScanState) : Prop :=
  ∀ x ∈ s.blocks, rules.Indented x.1

/-- Between two states nothing but upright events of rules on whole lines was added. -/
abbrev Completes (rules : RuleSet) (s s' : ScanState) : Prop :=
  Adds (BlocksIndented rules) (Event.Upright rules) s s'

section

variable {rules : RuleSet} {s : ScanState}

/-- A rule reports runs of two lines or more, and blocks if it goes by indentation. -/
theorem reports_upright (rules : RuleSet) (limit : Option Nat) :
    Reports (BlocksIndented rules) (Event.Upright rules) limit where
  run h _ := by
    refine ⟨h, fun e he => ?_⟩
    rw [Run.event?] at he
    split at he
    · next hlt =>
      cases he
      exact .inl hlt
    · cases he
  blocks h hb := by
    refine ⟨fun x hx => h x (List.mem_filter.mp hx).1, fun e he => ?_⟩
    obtain ⟨o, ho, rfl⟩ := List.mem_map.mp he
    exact Event.upright_of_le (by simpa using (List.mem_filter.mp ho).2)
      (h _ (SortedMap.mem_of_lookup hb))

/-! ### Lines as a whole -/

section

variable {lineNo : Nat}

/-- A line that an indentation rule takes in ends blocks of lines above. -/
theorem completes_feedRule {id : RuleId} (line : Line) (h : s.BlocksIndented rules)
    (hold : ∀ x ∈ s.blocks, x.1 = id → ∀ o ∈ x.2.opens, o.2 < lineNo) :
    Completes rules s (s.feedRule rules lineNo line id) := by
  refine adds_feedRule line h (fun _ _ _ _ => h) fun rule width hr hk => ?_
  have hopens : ∀ o ∈ ((s.blocks.lookup id).getD .empty).opens, o.2 < lineNo := by
    cases hb : s.blocks.lookup id with
    | none => simp [Blocks.empty]
    | some b => exact hold _ (SortedMap.mem_of_lookup hb) rfl
  rw [feedBlocks, Blocks.feed_eq]
  refine ⟨?_, rfl, _, toList_emit _ _, ?_⟩
  · intro x hx
    rcases SortedMap.eq_or_mem_of_mem_insert hx with rfl | hx
    · exact ⟨rule, hr, hk⟩
    · exact h x hx
  · intro e he
    obtain ⟨o, ho, rfl⟩ := List.mem_map.mp he
    have hlt := hopens o ((List.takeWhile_sublist _).mem ho)
    exact Event.upright_of_le (by dsimp only; omega) ⟨rule, hr, hk⟩

private theorem eq_or_mem_of_mem_feedRule {line : Line} {id : RuleId} {x : RuleId × Blocks}
    (hx : x ∈ (s.feedRule rules lineNo line id).blocks) : x.1 = id ∨ x ∈ s.blocks := by
  unfold feedRule at hx
  split at hx
  · exact .inr hx
  · split at hx
    · split at hx <;> exact .inr hx
    · cases hw : Line.indentWidth line with
      | none =>
        rw [hw] at hx
        exact .inr hx
      | some width =>
        rw [hw] at hx
        exact (SortedMap.eq_or_mem_of_mem_insert hx).imp_left (by rintro rfl; rfl)
    · exact .inr hx
    · exact .inr hx

/-- Each rule takes the line in once, so the blocks that it ends then are of lines above. -/
theorem completes_feedRules {ids : List RuleId} (line : Line) (hn : ids.Nodup)
    (h : s.BlocksIndented rules)
    (hold : ∀ x ∈ s.blocks, x.1 ∈ ids → ∀ o ∈ x.2.opens, o.2 < lineNo) :
    Completes rules s (ids.foldl (feedRule rules lineNo line) s) := by
  induction ids generalizing s with
  | nil => exact .refl h
  | cons id ids ih =>
    obtain ⟨hid, hn⟩ := List.nodup_cons.mp hn
    have hfed := completes_feedRule line h
      fun x hx heq => hold x hx (heq ▸ List.mem_cons_self)
    refine hfed.trans (ih hn hfed.kept ?_)
    intro x hx hmem
    rcases eq_or_mem_of_mem_feedRule hx with heq | hx
    · exact absurd (heq ▸ hmem) hid
    · exact hold x hx (List.mem_cons_of_mem _ hmem)

end

end

end ScanState

namespace Moment

variable {rules : RuleSet} {m m' : Moment}

/-- What the next step cuts events by: nothing, or the line in which the region that it closes is
folded last. -/
def CutsBy (rules : RuleSet) (m : Moment) (left : List RuleId) (last : Nat) : Prop :=
  left = [] ∨ ∃ own rule, m.closing? rules = some own ∧ rules.rule? own.rule = some rule ∧
    last = if rule.foldLastLine then m.begun - 1 else m.begun - 1 - 1

/-- A step adds the event of the region that it closes, cuts events of the line and adds upright
events of rules on whole lines. -/
theorem upright_next (h : m.next? rules = some m') (hm : m.WF)
    (hn : (m.state.stack.scope rules).active.Nodup) (hb : m.state.BlocksIndented rules)
    (hfirst : m.state.Pending fun _ first _ => first < m.begun) :
    m'.state.BlocksIndented rules ∧ ∃ left last, ∃ more : List Event,
      m'.state.events.toList = m.state.past.toList ++
        (m.state.current.toList ++ (m.closing? rules).toList).map (Event.cut left last) ++ more ∧
      m.CutsBy rules left last ∧ ∀ e ∈ more, e.Upright rules := by
  rcases effect_next h hm with
    ⟨index, x, rule, hx, hrule, hown, hs, _⟩ | ⟨line, hc, hown, hs, _⟩ | ⟨hown, _, stack, hs⟩
  · have hcl := ScanState.adds_leaveScope
      (s := { m.state with stack := ScanState.closedStack rules rule.pairing m.state.stack index }.emit
        [⟨x.rule, x.line, m.begun - 1, true⟩])
      (ScanState.reports_upright rules
        (some (if rule.foldLastLine then m.begun - 1 else m.begun - 1 - 1)))
      rules (m.state.stack.scope rules).reachable hb
    rw [← ScanState.closeRegion_eq hx hrule, ← hs] at hcl
    obtain ⟨hblocks, hpast, more, hcur, hmore⟩ := hcl
    rw [Array.toList_map, ScanState.toList_emit] at hcur
    have hevents := ScanState.toList_events m'.state
    rw [hpast, hcur, ← List.append_assoc] at hevents
    rw [hown]
    exact ⟨hblocks, _, _, more, hevents, .inr ⟨_, rule, hown, hrule, rfl⟩, hmore⟩
  · have hfed : ScanState.Completes rules m.state.settle (m.state.beginLine rules m.begun line) :=
      ScanState.adds_feedLine (ScanState.reports_upright rules none)
        (ScanState.completes_feedRules line hn hb fun x hx _ => hfirst.blocks x hx)
    rw [← hs] at hfed
    obtain ⟨hblocks, hpast, more, hcur, hmore⟩ := hfed
    refine ⟨hblocks, [], 0, more, events_of_kept hown ?_, .inl rfl, hmore⟩
    rw [ScanState.toList_events, hpast, hcur]
    rfl
  · refine ⟨?_, [], 0, [], events_of_kept hown ?_, .inl rfl, by simp⟩
    · rw [hs]
      exact hb
    · rw [hs, List.append_nil]
      rfl

/-- A step cuts an event only if it ends in the line of a closing that is not folded; the event then
ends in the line above. -/
theorem cut_cases {left : List RuleId} {last : Nat} {e : Event}
    (hcut : m.CutsBy rules left last) (hstop : e.stop < m.begun) :
    e.cut left last = e ∨
      ∃ own rule, m.closing? rules = some own ∧ rules.rule? own.rule = some rule ∧
        rule.foldLastLine = false ∧ e.stop + 1 = m.begun ∧
        (e.cut left last).rule = e.rule ∧ (e.cut left last).start = e.start ∧
        (e.cut left last).stop + 1 = e.stop := by
  rcases hcut with rfl | ⟨own, rule, hown, hrule, rfl⟩
  · exact .inl (by simp [Event.cut])
  · cases hf : rule.foldLastLine with
    | true =>
      left
      exact Event.cut_of_stop_le (by simp only [if_true]; omega) left
    | false =>
      simp only [Bool.false_eq_true, if_false]
      by_cases hle : e.stop ≤ m.begun - 1 - 1
      · exact .inl (Event.cut_of_stop_le hle left)
      · by_cases hmem : e.rule ∈ left
        · right
          refine ⟨own, rule, hown, hrule, hf, by omega, ?_⟩
          rw [Event.cut_of_lt (by omega) hmem]
          exact ⟨rfl, rfl, by dsimp only; omega⟩
        · exact .inl (Event.cut_of_not_mem hmem _)

end Moment

namespace RuleSet

/-- The step after moment `u` closes a region in a line that its rule does not fold. -/
def LeavesOut (rules : RuleSet) (lines : List Line) (u lineNo : Nat) : Prop :=
  ∃ index x rule, rules.ClosesAt lines u index x ∧ rules.rule? x.rule = some rule ∧
    rule.foldLastLine = false ∧ (rules.run lines u).begun = lineNo + 1

/-- The event with number `n` reports a region that opens and closes in one line. -/
def ShutAtOnce (rules : RuleSet) (lines : List Line) (n lineNo : Nat) : Prop :=
  ∃ t index x, rules.ClosesAt lines t index x ∧ (rules.run lines t).state.events.size = n ∧
    x.line = lineNo ∧ (rules.run lines t).begun = lineNo + 1

/-- At moment `u` the event with number `n` is a block of one line, of the rule and with the first
line of `e`. -/
def LoneBlock (rules : RuleSet) (lines : List Line) (u n : Nat) (e : Event) : Prop :=
  rules.Indented e.rule ∧ ∃ old, (rules.run lines u).state.events.toList[n]? = some old ∧
    old.rule = e.rule ∧ old.start = e.start ∧ old.stop = e.start

/-- What is known of the event with number `n` when so many lines have begun: where it can end, how
it ends if it has not been cut, and what has cut it if nothing is left of it. -/
structure Spans (rules : RuleSet) (lines : List Line) (begun n : Nat) (e : Event) : Prop where
  start_le : e.start ≤ e.stop + 1
  uncut : e.stop + 1 = begun →
    e.start < e.stop ∨ e.start = e.stop ∧ (rules.Delimited e.rule ∨ rules.Indented e.rule)
  emptied : e.start = e.stop + 1 → ∃ u, rules.LeavesOut lines u e.start ∧
    (rules.Delimited e.rule ∨ rules.LoneBlock lines u n e)

variable {rules : RuleSet} {lines : List Line} {n : Nat} {e : Event}

private theorem spans_of_upright (h : e.Upright rules) (begun : Nat) :
    rules.Spans lines begun n e where
  start_le := by rcases h with h | ⟨h, _⟩ <;> omega
  uncut _ := h.imp id fun ⟨heq, hi⟩ => ⟨heq, .inr hi⟩
  emptied heq := by rcases h with h | ⟨h, _⟩ <;> omega

private theorem Spans.later {begun begun' : Nat} (h : rules.Spans lines begun n e)
    (hstop : e.stop < begun) (hle : begun ≤ begun') : rules.Spans lines begun' n e :=
  ⟨h.start_le, fun heq => h.uncut (by omega), h.emptied⟩

/-- What a step leaves of an event. An event that it cuts has not been cut before. -/
theorem Spans.cut {u last begun' : Nat} {left : List RuleId}
    (h : rules.Spans lines (rules.run lines u).begun n e)
    (hstop : e.stop < (rules.run lines u).begun)
    (hat : rules.Delimited e.rule ∨ (rules.run lines u).state.events.toList[n]? = some e)
    (hcut : (rules.run lines u).CutsBy rules left last)
    (hle : (rules.run lines u).begun ≤ begun') :
    rules.Spans lines begun' n (e.cut left last) := by
  rcases Moment.cut_cases hcut hstop with heq | ⟨own, rule, hown, hrule, hf, hbegun, hr, hs, hl⟩
  · rw [heq]
    exact h.later hstop hle
  · have huncut := h.uncut hbegun
    refine ⟨?_, ?_, ?_⟩
    · rcases huncut with hlt | ⟨heq, _⟩ <;> omega
    · omega
    · intro hempty
      obtain ⟨index, x, hcl, rfl⟩ := closesAt_of_closing hown
      refine ⟨u, ⟨index, x, rule, hcl, hrule, hf, by omega⟩, ?_⟩
      rcases huncut with hlt | ⟨heq, hkind⟩
      · omega
      · unfold LoneBlock
        rw [hr]
        by_cases hd : rules.Delimited e.rule
        · exact .inl hd
        · exact .inr ⟨hkind.resolve_left hd, e, hat.resolve_left hd, rfl, hs.symm, by omega⟩

/-- Every region found begins at a line that has begun. -/
theorem first_lt_begun (rules : RuleSet) (lines : List Line) (k : Nat) :
    (rules.run lines k).Found fun _ first _ => first < (rules.run lines k).begun := by
  refine run_invariant (I := fun m => m.Found fun _ first _ => first < m.begun)
    (Moment.found_start _ lines) ?_ k
  intro j m hf h
  have hle : (rules.run lines j).begun ≤ m.begun := Moment.begun_le_next h
  refine Moment.Found.next (fun _ _ _ _ hx _ => hx)
    (hf.imp fun hx => Nat.lt_of_lt_of_le hx hle) h (rules.wf_run lines j) ?_
    (fun _ _ _ _ hx => hx) ?_
  · intro own ho
    obtain ⟨index, x, hcl, rfl⟩ := closesAt_of_closing ho
    have hlt := line_lt_begun (mem_of_closesAt hcl)
    exact Nat.lt_of_lt_of_le hlt hle
  · intro hc _ _ _ _ _
    rw [Moment.begun_next h hc]
    exact Nat.lt_succ_self _

private theorem spans_of_closing {j : Nat} {own : Event}
    (h : (rules.run lines j).closing? rules = some own) (n : Nat) :
    rules.Spans lines (rules.run lines j).begun n own := by
  have hd := delimited_of_closing h
  obtain ⟨index, x, hcl, rfl⟩ := closesAt_of_closing h
  have hlt := line_lt_begun (mem_of_closesAt hcl)
  refine ⟨by dsimp only; omega, fun _ => ?_, fun heq => by dsimp only at heq; omega⟩
  rcases Nat.lt_or_eq_of_le (Nat.le_sub_one_of_lt hlt) with hlt | heq
  · exact .inl hlt
  · exact .inr ⟨heq, .inl hd⟩

/-- What a step leaves of the events so far and adds to them. -/
theorem spans_next {j : Nat} {m : Moment} (ht : rules.topLevel.Nodup)
    (h : (rules.run lines j).next? rules = some m)
    (hb : (rules.run lines j).state.BlocksIndented rules)
    (hspans : ∀ n e, (rules.run lines j).state.events.toList[n]? = some e →
      rules.Spans lines (rules.run lines j).begun n e) :
    m.state.BlocksIndented rules ∧
      ∀ n e, m.state.events.toList[n]? = some e → rules.Spans lines m.begun n e := by
  have hactive : ((rules.run lines j).state.stack.scope rules).active.Nodup := by
    rw [(rules.valid_run lines j).active_eq ht]
    split
    · exact List.nodup_nil
    · exact Scope.nodup_listing _
  have hle : (rules.run lines j).begun ≤ m.begun := Moment.begun_le_next h
  have hstop (n : Nat) (e : Event) (he : (rules.run lines j).state.events.toList[n]? = some e) :
      e.stop < (rules.run lines j).begun :=
    (rules.last_lt_begun lines j).events e (List.mem_of_getElem? he)
  obtain ⟨hb', left, last, more, hev, hcut, hmore⟩ := Moment.upright_next h (rules.wf_run lines j)
    hactive hb (rules.first_lt_begun lines j).pending
  refine ⟨hb', fun n e he => ?_⟩
  have hevents := ScanState.toList_events (rules.run lines j).state
  rw [hev, List.append_assoc, List.getElem?_append] at he
  split at he
  · next hlt =>
    have hold : (rules.run lines j).state.events.toList[n]? = some e := by
      rw [hevents, List.getElem?_append_left hlt, he]
    exact (hspans n e hold).later (hstop n e hold) hle
  · next hpast =>
    rw [List.getElem?_append] at he
    split at he
    · rw [List.getElem?_map] at he
      obtain ⟨old, hold, rfl⟩ := Option.map_eq_some_iff.mp he
      rw [List.getElem?_append] at hold
      split at hold
      · have hat : (rules.run lines j).state.events.toList[n]? = some old := by
          rw [hevents, List.getElem?_append_right (Nat.le_of_not_lt hpast), hold]
        exact (hspans n old hat).cut (hstop n old hat) (.inr hat) hcut hle
      · have hown := Option.mem_toList.mp (List.mem_of_getElem? hold)
        have hlast : old.stop < (rules.run lines j).begun := by
          obtain ⟨index, x, hcl, rfl⟩ := closesAt_of_closing hown
          have hlt := line_lt_begun (mem_of_closesAt hcl)
          dsimp only
          omega
        exact (spans_of_closing hown n).cut hlast (.inl (delimited_of_closing hown)) hcut hle
    · exact spans_of_upright (hmore e (List.mem_of_getElem? he)) _

/-- What is known of the events at every moment. -/
theorem spans_run (ht : rules.topLevel.Nodup) (lines : List Line) (k : Nat) :
    (rules.run lines k).state.BlocksIndented rules ∧
      ∀ n e, (rules.run lines k).state.events.toList[n]? = some e →
        rules.Spans lines (rules.run lines k).begun n e := by
  refine run_invariant (I := fun m => m.state.BlocksIndented rules ∧
    ∀ n e, m.state.events.toList[n]? = some e → rules.Spans lines m.begun n e) ?_ ?_ k
  · exact ⟨by simp [ScanState.BlocksIndented, Moment.start, ScanState.start],
      by simp [Moment.start, ScanState.start, ScanState.events]⟩
  · rintro j m ⟨hb, hspans⟩ h
    exact spans_next ht h hb hspans

private theorem spans_scan (ht : rules.topLevel.Nodup) (he : (rules.scan lines)[n]? = some e) :
    ∃ begun, rules.Spans lines begun n e := by
  obtain ⟨k, _, _, hscan⟩ := rules.scan_eq_finish lines 0
  obtain ⟨hb, hspans⟩ := spans_run ht lines k
  obtain ⟨_, hpast, more, hcur, hmore⟩ :=
    ScanState.adds_finish (ScanState.reports_upright rules none) hb
  rw [hscan, ScanState.toList_events, hpast, hcur, ← List.append_assoc, ← ScanState.toList_events,
    List.getElem?_append] at he
  split at he
  · exact ⟨_, hspans n e he⟩
  · exact ⟨0, spans_of_upright (hmore e (List.mem_of_getElem? he)) 0⟩

/-- An event of a rule with delimiters that ends above its first line reports a region of one
line. -/
theorem shutAtOnce_of_emptied (he : (rules.scan lines)[n]? = some e) (hd : rules.Delimited e.rule)
    (hempty : e.start = e.stop + 1) : rules.ShutAtOnce lines n e.start := by
  obtain ⟨t, index, x, hcl, rfl⟩ := exists_closesAt he hd
  obtain ⟨q, hq, hclosed⟩ := closedIn_scan hcl
  obtain rfl : q = e := Option.some.inj (hq.symm.trans he)
  have hlt := line_lt_begun (mem_of_closesAt hcl)
  refine ⟨t, index, x, hcl, rfl, hclosed.start_eq.symm, ?_⟩
  have hstart := hclosed.start_eq
  rcases hclosed with rfl | ⟨_, rfl⟩ <;> dsimp only at * <;> omega

/-- In a scan with compiled rules every event begins and ends inside the document, and at most one
line above its first one. If it ends there, a region closed in its first line that its rule does not
fold, and the event reports a region that opens and closes in that line or was a block of that line
alone. So the last line of a document never cuts a range short. -/
theorem event_bounds (language : Language) (specific wildcard : List RuleEntry)
    (lines : List Line) :
    let rules := (RuleSet.compile language specific wildcard).1
    ∀ n e, (rules.scan lines)[n]? = some e →
      e.start < lines.length ∧ e.stop < lines.length ∧ e.start ≤ e.stop + 1 ∧
      (e.start = e.stop + 1 → ∃ u, rules.LeavesOut lines u e.start ∧
        (rules.Delimited e.rule ∧ rules.ShutAtOnce lines n e.start ∨
          rules.LoneBlock lines u n e)) ∧
      min e.stop (lines.length - 1) = e.stop ∧
      ∀ lastLine ≥ lines.length - 1,
        rules.range? lastLine e = rules.range? (lines.length - 1) e := by
  intro rules n e he
  have ht : rules.topLevel.Nodup := (RuleSet.wf_compile language specific wildcard).top.nodup
  have hmem := List.mem_of_getElem? he
  have hstart : e.start < lines.length := by
    refine found_scan (P := fun _ first _ => first < lines.length) (fun _ _ _ _ hx _ => hx) ?_ e hmem
    intro k
    have hlen := rules.begun_add_rest lines k
    exact (rules.first_lt_begun lines k).imp fun hx => by omega
  have hstop := rules.stop_lt_length lines e hmem
  obtain ⟨begun, hspans⟩ := spans_scan ht he
  refine ⟨hstart, hstop, hspans.start_le, ?_, by omega, ?_⟩
  · intro hempty
    obtain ⟨u, hleaves, hkind⟩ := hspans.emptied hempty
    refine ⟨u, hleaves, hkind.imp (fun hd => ⟨hd, ?_⟩) id⟩
    exact shutAtOnce_of_emptied he hd hempty
  · intro lastLine hlast
    exact range?_of_stop_le (by omega) (by omega)

end RuleSet

/-- Angle brackets, whose last line is not folded, with parentheses inside and indented lines inside
those. -/
def blocksInParens : RuleSet :=
  (RuleSet.compile ⟨"test"⟩
    [.rule { opening := some "<", closing := some ">", foldLastLine := some false }
      (.rules (.one (.rule { opening := some "(", closing := some ")" }
        (.rules (.one (.rule { offSide := some true } .unset))))))] []).1

/-- A document in which a parenthesis opens again before the angle bracket closes. -/
def parenReopened : List Line := Line.split "<(\nx ) ( >"

/-- The block that begins in the second line is reported there when the parenthesis closes, and then
cut when the angle bracket closes, and nothing is left of it. -/
theorem event_bounds_of_parenReopened :
    (blocksInParens.scan parenReopened)[1]? = some ⟨2, 1, 0, false⟩ ∧
      ∃ u, blocksInParens.LeavesOut parenReopened u 1 ∧
        blocksInParens.LoneBlock parenReopened u 1 ⟨2, 1, 0, false⟩ := by
  have hevent : (blocksInParens.scan parenReopened)[1]? = some ⟨2, 1, 0, false⟩ := by
    decide +kernel
  obtain ⟨_, _, _, hempty, _⟩ := RuleSet.event_bounds ⟨"test"⟩ _ [] parenReopened 1 _ hevent
  obtain ⟨u, hleaves, hkind⟩ := hempty rfl
  refine ⟨hevent, u, hleaves, hkind.resolve_left fun hd => ?_⟩
  exact absurd hd.1 (by decide +kernel)

/-- An event of a rule without delimiters can end above its first line. -/
theorem block_stop_lt_start :
    ∃ e ∈ blocksInParens.scan parenReopened, e.start = e.stop + 1 ∧
      ¬ blocksInParens.Delimited e.rule :=
  ⟨⟨2, 1, 0, false⟩, by decide +kernel, rfl, by decide +kernel⟩

end CodeFold
