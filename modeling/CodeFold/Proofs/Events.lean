import CodeFold.Proofs.Coherence
import CodeFold.Proofs.Pending
import Mathlib.Data.List.Forall2

/-!
# What a step reports

A step keeps the events so far in their places, apart from those that it cuts. If it closes a
region, the event of the region is added behind them, and then those of pending regions that end.
So an event can be followed by its number through a scan. Every event belongs to a known rule and
ends at a line that has begun.
-/

namespace CodeFold

/-- An event after a region has closed in a line: as it was, or cut at that line or the line
above. -/
def Event.Trims (lineNo : Nat) (old new : Event) : Prop :=
  new = old ∨
    ∃ last, lineNo ≤ last + 1 ∧ last < old.stop ∧ new = { old with stop := last, closed := false }

/-- A cut that is no higher than the line above trims an event. -/
theorem Event.trims_cut {lineNo last : Nat} (h : lineNo ≤ last + 1) (left : List RuleId)
    (e : Event) : e.Trims lineNo (e.cut left last) := by
  unfold cut
  split
  · next hc =>
    rw [Bool.and_eq_true, decide_eq_true_eq] at hc
    exact .inr ⟨last, h, hc.1, rfl⟩
  · exact .inl rfl

/-- An event that ends at a line is not cut there. -/
theorem Event.cut_of_stop_le {e : Event} {last : Nat} (h : e.stop ≤ last) (left : List RuleId) :
    e.cut left last = e := by
  rw [cut, if_neg]
  simp [Nat.not_lt_of_le h]

/-- An event is not cut if its rule stays in reach. -/
theorem Event.cut_of_not_mem {left : List RuleId} {e : Event} (h : e.rule ∉ left) (last : Nat) :
    e.cut left last = e := by
  rw [cut, if_neg]
  simp [h]

/-- An event of a rule out of reach that ends below a line is cut there. -/
theorem Event.cut_of_lt {left : List RuleId} {e : Event} {last : Nat} (h : last < e.stop)
    (hm : e.rule ∈ left) : e.cut left last = { e with stop := last, closed := false } := by
  rw [cut, if_pos]
  simp [h, hm]

/-- If no rule is out of reach, nothing is cut. -/
theorem Event.map_cut_nil (last : Nat) (events : List Event) :
    events.map (Event.cut [] last) = events :=
  List.map_id'' (fun e => by simp [cut]) events

/-- An event that is trimmed keeps its rule. -/
theorem Event.Trims.rule_eq {lineNo : Nat} {old new : Event} (h : old.Trims lineNo new) :
    new.rule = old.rule := by
  rcases h with rfl | ⟨last, _, _, rfl⟩ <;> rfl

/-- An event that is trimmed keeps its first line. -/
theorem Event.Trims.start_eq {lineNo : Nat} {old new : Event} (h : old.Trims lineNo new) :
    new.start = old.start := by
  rcases h with rfl | ⟨last, _, _, rfl⟩ <;> rfl

private theorem Event.Trims.stop_le {lineNo : Nat} {old new : Event} (h : old.Trims lineNo new) :
    new.stop ≤ old.stop := by
  rcases h with rfl | ⟨last, _, hl, rfl⟩
  · exact Nat.le_refl _
  · exact Nat.le_of_lt hl

/-- A condition that shorter regions inherit holds of an event that has been cut. -/
theorem Event.Trims.inherit {P : RuleId → Nat → Nat → Prop}
    (hdown : ∀ id first last last', P id first last → last' ≤ last → P id first last')
    {lineNo : Nat} {old new : Event} (h : old.Trims lineNo new)
    (hp : P old.rule old.start old.stop) : P new.rule new.start new.stop := by
  rw [h.rule_eq, h.start_eq]
  exact hdown _ _ _ _ hp h.stop_le

private theorem Event.Ending.weaken {P : RuleId → Nat → Nat → Prop} {limit : Option Nat} {e : Event}
    (h : e.Ending P limit) : e.Ending P none :=
  ⟨h.pending, by simp⟩

/-- The events are those of earlier lines and then those of the line. -/
theorem ScanState.toList_events (s : ScanState) :
    s.events.toList = s.past.toList ++ s.current.toList := Array.toList_append

/-- In two lists that are related member by member, members at one place are related. -/
private theorem getElem?_of_forall₂ {α β : Type} {R : α → β → Prop} {xs : List α} {ys : List β}
    (h : List.Forall₂ R xs ys) {n : Nat} {x : α} (hx : xs[n]? = some x) :
    ∃ y, ys[n]? = some y ∧ R x y := by
  obtain ⟨hlen, hget⟩ := List.forall₂_iff_get.mp h
  obtain ⟨hn, rfl⟩ := List.getElem?_eq_some_iff.mp hx
  exact ⟨ys[n], List.getElem?_eq_getElem (hlen ▸ hn), hget n hn (hlen ▸ hn)⟩

namespace Moment

/-- The event of the region that the next step closes. -/
def closing? (rules : RuleSet) (m : Moment) : Option Event :=
  m.cursor.bind fun c => (m.hit? rules).bind fun hit =>
    match hit.action with
    | .close index => m.state.stack[index]?.map fun e => ⟨e.rule, e.line, c.lineNo, true⟩
    | .open_ _ _ => none

/-- What a step does to the events and to what is pending: it closes a region, begins a line or
leaves them alone. -/
theorem effect_next {rules : RuleSet} {m m' : Moment} (h : m.next? rules = some m') (hm : m.WF) :
    (∃ index x rule, m.state.stack[index]? = some x ∧ rules.rule? x.rule = some rule ∧
      m.closing? rules = some ⟨x.rule, x.line, m.begun - 1, true⟩ ∧
      m'.state = m.state.closeRegion rules (m.begun - 1) index ∧ m'.begun = m.begun) ∨
    (∃ line, m.cursor = none ∧ m.closing? rules = none ∧
      m'.state = m.state.beginLine rules m.begun line ∧ m'.begun = m.begun + 1) ∨
    (m.closing? rules = none ∧ m'.begun = m.begun ∧ ∃ stack, m'.state = { m.state with stack }) := by
  rcases next?_cases h with ⟨c, hit, hc, hh, rfl⟩ | ⟨c, hc, hh, rfl⟩ | ⟨line, rest, hc, hr, rfl⟩
  · have hline : c.lineNo = m.begun - 1 := by have := (hm c hc).1; omega
    have hhit : m.hit? rules = some hit := by rw [hit?, hc]; exact hh
    rcases Stack.nextHit_cases hh with ⟨key, index, _, hcl⟩ | ⟨id, hid, ho⟩
    · obtain ⟨x, rule, hx, hrule, _, ha⟩ := Stack.closingHit_eq_some hcl
      refine .inl ⟨index, x, rule, hx, hrule, ?_, ?_, rfl⟩
      · simp [closing?, hc, hhit, ha, hx, hline]
      · simp only [ScanState.handle, ha, hline]
    · obtain ⟨rule, om, hrule, _, rfl⟩ := Stack.openingHit_eq_some ho
      exact .inr (.inr ⟨by simp [closing?, hc, hhit], rfl, _, rfl⟩)
  · exact .inr (.inr ⟨by simp [closing?, hit?, hc, hh], rfl, m.state.stack, rfl⟩)
  · exact .inr (.inl ⟨line, hc, by simp [closing?, hc], rfl, rfl⟩)

/-- A step that closes no region keeps the events and adds to them. -/
theorem events_of_kept {rules : RuleSet} {m m' : Moment} (hown : m.closing? rules = none)
    {more : List Event} (hev : m'.state.events.toList = m.state.events.toList ++ more) :
    m'.state.events.toList = m.state.past.toList ++
      (m.state.current.toList ++ (m.closing? rules).toList).map (Event.cut [] 0) ++ more := by
  rw [hev, hown, ScanState.toList_events, Option.toList_none, List.append_nil, Event.map_cut_nil]

section

variable {rules : RuleSet} {m m' : Moment} {P : RuleId → Nat → Nat → Prop}
  (h : m.next? rules = some m') (hm : m.WF) (hp : m.state.Pending P)
  (hext : m.cursor = none → ∀ id first last, P id first last → P id first m.begun)
  (hnew : m.cursor = none → ∀ id ∈ (m.state.stack.scope rules).active, ∀ rule,
    rules.rule? id = some rule → rule.kind.isDelimited = false → P id m.begun m.begun)

include h hm hp hext hnew

/-- A step adds the event of the region that it closes, cuts events of the line at the last line
that this region folds, and then adds those of the pending regions that end. -/
theorem cut_next :
    m'.state.Pending P ∧ ∃ left last, ∃ more : List Event,
      m'.state.events.toList = m.state.past.toList ++
        (m.state.current.toList ++ (m.closing? rules).toList).map (Event.cut left last) ++ more ∧
      (left = [] ∨ ∃ own rule, m.closing? rules = some own ∧ rules.rule? own.rule = some rule ∧
        last = if rule.foldLastLine then m.begun - 1 else m.begun - 1 - 1) ∧
      ∀ e ∈ more, e.Ending P none := by
  rcases effect_next h hm with
    ⟨index, x, rule, hx, hrule, hown, hs, _⟩ | ⟨line, hc, hown, hs, _⟩ | ⟨hown, _, stack, hs⟩
  · obtain ⟨hpend, hpast, more, hcur, hmore⟩ :=
      ScanState.closeRegion_spec hp (m.begun - 1) hx hrule
    have hevents := ScanState.toList_events (m.state.closeRegion rules (m.begun - 1) index)
    rw [hpast, hcur, ← List.append_assoc] at hevents
    rw [hs, hown]
    exact ⟨hpend.imp fun hx => hx.1, _, _, more, hevents, .inr ⟨_, rule, rfl, hrule, rfl⟩,
      fun e he => (hmore e he).weaken⟩
  · obtain ⟨hpend, hpast, more, hcur, hmore⟩ := ScanState.ends_beginLine (hext hc) line (hnew hc) hp
    rw [← hs] at hpend hpast hcur
    refine ⟨hpend, [], 0, more, events_of_kept hown ?_, .inl rfl, hmore⟩
    rw [ScanState.toList_events, hpast, hcur]
    rfl
  · refine ⟨?_, [], 0, [], events_of_kept hown ?_, .inl rfl, by simp⟩
    · rw [hs]
      exact ⟨hp.runs, hp.blocks⟩
    · rw [hs, List.append_nil]
      rfl

/-- What a step does to the events and to the pending regions. -/
theorem events_next :
    m'.state.Pending P ∧ ∃ kept more : List Event,
      m'.state.events.toList = kept ++ more ∧
      List.Forall₂ (Event.Trims (m.begun - 1))
        (m.state.events.toList ++ (m.closing? rules).toList) kept ∧
      ∀ e ∈ more, e.Ending P none := by
  obtain ⟨hpend, left, last, more, hev, hlast, hmore⟩ := cut_next h hm hp hext hnew
  refine ⟨hpend, _, more, hev, ?_, hmore⟩
  rw [ScanState.toList_events, List.append_assoc]
  refine List.rel_append (List.forall₂_same.mpr fun _ _ => .inl rfl)
    (List.forall₂_map_right_iff.mpr (List.forall₂_same.mpr fun e _ => ?_))
  rcases hlast with rfl | ⟨own, rule, _, _, rfl⟩
  · exact .inl (by simp [Event.cut])
  · refine Event.trims_cut ?_ _ e
    split <;> omega

end

section

variable {rules : RuleSet} {m m' : Moment} (h : m.next? rules = some m') (hm : m.WF)

include h hm

/-- What stands among the events so far, with the region that a step closes behind them, is there
after the step, but may be cut. -/
theorem getElem?_next {n : Nat} {e : Event}
    (he : (m.state.events.toList ++ (m.closing? rules).toList)[n]? = some e) :
    ∃ e', m'.state.events.toList[n]? = some e' ∧ e.Trims (m.begun - 1) e' := by
  obtain ⟨_, kept, more, hev, hkept, _⟩ := events_next h hm m.state.pending_true
    (fun _ _ _ _ _ => trivial) (fun _ _ _ _ _ _ => trivial)
  obtain ⟨e', he', ht⟩ := getElem?_of_forall₂ hkept he
  rw [hev, List.getElem?_append_left (List.getElem?_eq_some_iff.mp he').1]
  exact ⟨e', he', ht⟩

/-- A step keeps an event in its place, but may cut it. -/
theorem trims_next {n : Nat} {e : Event} (he : m.state.events.toList[n]? = some e) :
    ∃ e', m'.state.events.toList[n]? = some e' ∧ e.Trims (m.begun - 1) e' := by
  have hlt := (List.getElem?_eq_some_iff.mp he).1
  exact getElem?_next h hm ((List.getElem?_append_left hlt).trans he)

/-- The event of a region that a step closes comes behind all events so far. -/
theorem closing_next {own : Event} (ho : m.closing? rules = some own) :
    ∃ e', m'.state.events.toList[m.state.events.size]? = some e' ∧ own.Trims (m.begun - 1) e' := by
  refine getElem?_next h hm ?_
  rw [ho, List.getElem?_append_right (by simp)]
  simp

/-- Where an event after a step comes from: it was there before, it reports the region that the step
closes, or it ends a pending region. -/
theorem event_next_cases {P : RuleId → Nat → Nat → Prop} (hp : m.state.Pending P)
    (hext : m.cursor = none → ∀ id first last, P id first last → P id first m.begun)
    (hnew : m.cursor = none → ∀ id ∈ (m.state.stack.scope rules).active, ∀ rule,
      rules.rule? id = some rule → rule.kind.isDelimited = false → P id m.begun m.begun)
    {n : Nat} {e : Event} (he : m'.state.events.toList[n]? = some e) :
    (∃ old, m.state.events.toList[n]? = some old ∧ old.Trims (m.begun - 1) e) ∨
      (∃ own, m.closing? rules = some own ∧ n = m.state.events.size ∧ own.Trims (m.begun - 1) e) ∨
      (m.state.events.size ≤ n ∧ e.Ending P none) := by
  obtain ⟨_, kept, more, hev, hkept, hmore⟩ := events_next h hm hp hext hnew
  have hlen := hkept.length_eq
  rw [List.length_append, Array.length_toList] at hlen
  rw [hev] at he
  by_cases hn : n < kept.length
  · rw [List.getElem?_append_left hn] at he
    obtain ⟨old, ho, ht⟩ := getElem?_of_forall₂ hkept.flip he
    rw [List.getElem?_append] at ho
    split at ho
    · exact .inl ⟨old, ho, ht⟩
    · next hge =>
      have hown := List.mem_of_getElem? ho
      rw [Option.mem_toList] at hown
      rw [hown] at hlen
      rw [Array.length_toList] at hge
      exact .inr (.inl ⟨old, hown, by simp at hlen; omega, ht⟩)
  · rw [List.getElem?_append_right (by omega)] at he
    exact .inr (.inr ⟨by omega, hmore e (List.mem_of_getElem? he)⟩)

end

/-- A condition on rule, first and last line holds of all regions found, pending or reported. -/
structure Found (P : RuleId → Nat → Nat → Prop) (m : Moment) : Prop where
  pending : m.state.Pending P
  events : ∀ e ∈ m.state.events.toList, P e.rule e.start e.stop

/-- A condition on what is found can be weakened. -/
theorem Found.imp {P Q : RuleId → Nat → Nat → Prop} {m : Moment} (h : m.Found P)
    (hq : ∀ {id first last}, P id first last → Q id first last) : m.Found Q :=
  ⟨h.pending.imp hq, fun e he => hq (h.events e he)⟩

/-- A condition that shorter regions inherit is kept by a step if it holds of the region that the
step closes, of the regions that a line begins and of those that a line makes longer. -/
theorem Found.next {rules : RuleSet} {m m' : Moment} {P : RuleId → Nat → Nat → Prop}
    (hdown : ∀ id first last last', P id first last → last' ≤ last → P id first last')
    (hf : m.Found P) (h : m.next? rules = some m') (hm : m.WF)
    (hclose : ∀ own, m.closing? rules = some own → P own.rule own.start own.stop)
    (hext : m.cursor = none → ∀ id first last, P id first last → P id first m.begun)
    (hnew : m.cursor = none → ∀ id ∈ (m.state.stack.scope rules).active, ∀ rule,
      rules.rule? id = some rule → rule.kind.isDelimited = false → P id m.begun m.begun) :
    m'.Found P := by
  refine ⟨(events_next h hm hf.pending hext hnew).1, ?_⟩
  intro e he
  obtain ⟨n, hn⟩ := List.mem_iff_getElem?.mp he
  rcases event_next_cases h hm hf.pending hext hnew hn with
    ⟨old, ho, ht⟩ | ⟨own, ho, _, ht⟩ | ⟨_, hend⟩
  · exact ht.inherit hdown (hf.events old (List.mem_of_getElem? ho))
  · exact ht.inherit hdown (hclose own ho)
  · obtain ⟨last, hl, hp⟩ := hend.pending
    exact hdown _ _ _ _ hp hl

/-- Nothing is found at the start. -/
theorem found_start (P : RuleId → Nat → Nat → Prop) (lines : List Line) : (start lines).Found P :=
  ⟨ScanState.pending_start P, by simp [start, ScanState.start, ScanState.events]⟩

/-- The region that a step closes is that of an entry on the stack. -/
theorem closing?_eq_some {rules : RuleSet} {m : Moment} {own : Event}
    (h : m.closing? rules = some own) :
    ∃ c hit index entry, m.cursor = some c ∧ m.hit? rules = some hit ∧ hit.action = .close index ∧
      m.state.stack[index]? = some entry ∧ own = ⟨entry.rule, entry.line, c.lineNo, true⟩ := by
  obtain ⟨c, hc, h⟩ := Option.bind_eq_some_iff.mp h
  obtain ⟨hit, hh, h⟩ := Option.bind_eq_some_iff.mp h
  split at h
  · next index ha =>
    obtain ⟨entry, he, rfl⟩ := Option.map_eq_some_iff.mp h
    exact ⟨c, hit, index, entry, hc, hh, ha, he, rfl⟩
  · cases h

end Moment

namespace RuleSet

/-- Every region found belongs to a known rule. -/
theorem known_run (rules : RuleSet) (lines : List Line) (k : Nat) :
    (rules.run lines k).Found fun id _ _ => ∃ rule, rules.rule? id = some rule := by
  refine run_invariant (Moment.found_start _ lines) ?_ k
  intro j m hf h
  have hv := rules.valid_run lines j
  refine Moment.Found.next (fun _ _ _ _ hk _ => hk) hf h (rules.wf_run lines j) ?_
    (fun _ _ _ _ hk => hk) (fun _ id _ rule hr _ => ⟨rule, hr⟩)
  intro own ho
  obtain ⟨c, hit, index, entry, _, _, _, he, rfl⟩ := Moment.closing?_eq_some ho
  exact (hv.proper entry (Array.mem_toList_iff.mpr (Array.mem_of_getElem? he))).known

/-- Every region found ends at a line that has begun. -/
theorem last_lt_begun (rules : RuleSet) (lines : List Line) (k : Nat) :
    (rules.run lines k).Found fun _ _ last => last < (rules.run lines k).begun := by
  refine run_invariant (I := fun m => m.Found fun _ _ last => last < m.begun)
    (Moment.found_start _ lines) ?_ k
  intro j m hf h
  have hm := rules.wf_run lines j
  have hle : (rules.run lines j).begun ≤ m.begun := Moment.begun_le_next h
  refine Moment.Found.next (fun _ _ _ _ hk hl => Nat.lt_of_le_of_lt hl hk)
    (hf.imp fun hk => Nat.lt_of_lt_of_le hk hle) h hm ?_ ?_ ?_
  · intro own ho
    obtain ⟨c, hit, index, entry, hc, _, _, _, rfl⟩ := Moment.closing?_eq_some ho
    have hl := (hm c hc).1
    dsimp only
    omega
  · intro hc _ _ _ _
    rw [Moment.begun_next h hc]
    exact Nat.lt_succ_self _
  · intro hc _ _ _ _ _
    rw [Moment.begun_next h hc]
    exact Nat.lt_succ_self _

/-- The events of earlier lines end above the line that has begun last. -/
theorem past_lt_begun (rules : RuleSet) (lines : List Line) (k : Nat) :
    ∀ e ∈ (rules.run lines k).state.past.toList, e.stop + 1 < (rules.run lines k).begun := by
  refine run_invariant (I := fun m => ∀ e ∈ m.state.past.toList, e.stop + 1 < m.begun)
    (by simp [Moment.start, ScanState.start]) ?_ k
  intro j m hm h
  have hlast := (rules.last_lt_begun lines j).events
  rcases Moment.next?_cases h with ⟨c, hit, _, hh, rfl⟩ | ⟨c, _, _, rfl⟩ | ⟨line, rest, _, _, rfl⟩
  · dsimp only
    rw [ScanState.past_handle]
    exact hm
  · exact hm
  · intro e he
    dsimp only at he
    rw [ScanState.past_beginLine] at he
    exact Nat.succ_lt_succ (hlast e he)

/-- An event keeps its number, its rule and its first line through a scan, and never becomes
longer. -/
theorem trims_run {rules : RuleSet} {lines : List Line} {u v n : Nat} {e : Event} (huv : u ≤ v)
    (he : (rules.run lines u).state.events.toList[n]? = some e) :
    ∃ e', (rules.run lines v).state.events.toList[n]? = some e' ∧ e'.rule = e.rule ∧
      e'.start = e.start ∧ e'.stop ≤ e.stop := by
  refine run_invariant_from (I := fun m => ∃ e', m.state.events.toList[n]? = some e' ∧
    e'.rule = e.rule ∧ e'.start = e.start ∧ e'.stop ≤ e.stop) huv
    ⟨e, he, rfl, rfl, Nat.le_refl _⟩ ?_
  rintro j m _ ⟨e', he', hr, hs, hl⟩ h
  obtain ⟨e'', he'', ht⟩ := Moment.trims_next h (rules.wf_run lines j) he'
  exact ⟨e'', he'', ht.rule_eq.trans hr, ht.start_eq.trans hs, Nat.le_trans ht.stop_le hl⟩

/-- The events of a scan are those of one of its moments, as late as one likes, and those of the
regions that are then pending. -/
theorem scan_eq_append {rules : RuleSet} {lines : List Line} {P : RuleId → Nat → Nat → Prop}
    (k : Nat) (hp : ∀ k' ≥ k, (rules.run lines k').state.Pending P) :
    ∃ k' ≥ k, ∃ more, rules.scan lines = (rules.run lines k').state.events.toList ++ more ∧
      ∀ e ∈ more, e.Ending P none := by
  obtain ⟨k', hk', _, hscan⟩ := rules.scan_eq_finish lines k
  obtain ⟨_, hpast, more, hcur, hmore⟩ := ScanState.ends_finish (hp k' hk')
  refine ⟨k', hk', more, ?_, hmore⟩
  rw [hscan, ScanState.toList_events, hpast, hcur, ← List.append_assoc, ← ScanState.toList_events]

/-- What holds of all regions found at every moment of a scan holds of its events. -/
theorem found_scan {rules : RuleSet} {lines : List Line} {P : RuleId → Nat → Nat → Prop}
    (hdown : ∀ id first last last', P id first last → last' ≤ last → P id first last')
    (hf : ∀ k, (rules.run lines k).Found P) : ∀ e ∈ rules.scan lines, P e.rule e.start e.stop := by
  obtain ⟨k, _, more, hscan, hmore⟩ := scan_eq_append 0 fun k _ => (hf k).pending
  intro e he
  rw [hscan] at he
  rcases List.mem_append.mp he with he | he
  · exact (hf k).events e he
  · obtain ⟨last, hl, hp⟩ := (hmore e he).pending
    exact hdown _ _ _ _ hp hl

end RuleSet

end CodeFold
