import CodeFold.Proofs.WellFormed

/-!
# Where regions begin

A region of a rule with delimiters begins with the step that opens its entry, one of a rule on
whole lines with the start of its first line. Every event of a scan has such a moment, and its
rule is active then. The event of a region that closes keeps its number and is cut at most once,
in the line in which the region closed. A rule on whole lines that has nothing pending finds only
regions in later lines.
-/

namespace CodeFold

namespace RuleSet

variable {rules : RuleSet}

/-- The step after moment `k` begins a line. -/
def BeginsLine (rules : RuleSet) (lines : List Line) (k lineNo : Nat) : Prop :=
  (rules.run lines k).begun = lineNo ∧ (rules.run lines (k + 1)).begun = lineNo + 1

/-- The region of an event begins with the step after moment `k`: an entry opens whose closing is
reported as that event, or the first line of a region of whole lines begins. -/
def RegionBegins (rules : RuleSet) (lines : List Line) (n k : Nat) : Prop :=
  (∃ t index x, rules.OpensAt lines k x ∧ rules.ClosesAt lines t index x ∧
    (rules.run lines t).state.events.size = n) ∨
  ∃ e, (rules.scan lines)[n]? = some e ∧ ¬ rules.Delimited e.rule ∧ rules.BeginsLine lines k e.start

variable {lines : List Line}

private theorem beginsLine_unique {j k lineNo : Nat} (hj : rules.BeginsLine lines j lineNo)
    (hk : rules.BeginsLine lines k lineNo) : j = k := by
  obtain ⟨hj, hj'⟩ := hj
  obtain ⟨hk, hk'⟩ := hk
  rcases Nat.lt_trichotomy j k with hlt | heq | hlt
  · have hle := rules.begun_le_run lines (show j + 1 ≤ k from hlt)
    omega
  · exact heq
  · have hle := rules.begun_le_run lines (show k + 1 ≤ j from hlt)
    omega

/-- Only rules on whole lines have anything pending. -/
theorem pending_not_delimited (rules : RuleSet) (lines : List Line) (k : Nat) :
    (rules.run lines k).state.Pending fun id _ _ => ¬ rules.Delimited id := by
  refine run_invariant (I := fun m => m.state.Pending fun id _ _ => ¬ rules.Delimited id)
    (ScanState.pending_start _) ?_ k
  intro j m hp h
  exact (Moment.events_next h (rules.wf_run lines j) hp (fun _ _ _ _ hd => hd)
    fun _ _ _ _ hr hk => not_delimited hr hk).1

/-- An event of a delimited rule reports a region that a step closed. -/
theorem exists_closesAt_of_run {t n : Nat} {e : Event}
    (he : (rules.run lines t).state.events.toList[n]? = some e) (hd : rules.Delimited e.rule) :
    ∃ u index x, rules.ClosesAt lines u index x ∧ (rules.run lines u).state.events.size = n := by
  induction t generalizing e with
  | zero => simp [run, Moment.after, Moment.start, ScanState.start, ScanState.events] at he
  | succ t ih =>
    cases hn : (rules.run lines t).next? rules with
    | none =>
      rw [run_succ_of_end hn] at he
      exact ih he hd
    | some m =>
      rw [run_succ hn] at he
      have hp := rules.pending_not_delimited lines t
      rcases Moment.event_next_cases hn (rules.wf_run lines t) hp (fun _ _ _ _ hx => hx)
        (fun _ _ _ _ hr hk => not_delimited hr hk) he with
        ⟨old, ho, ht⟩ | ⟨own, ho, hnum, ht⟩ | ⟨_, hend⟩
      · exact ih ho (ht.rule_eq ▸ hd)
      · obtain ⟨index, x, hc, _⟩ := closesAt_of_closing ho
        exact ⟨t, index, x, hc, hnum.symm⟩
      · obtain ⟨last, _, hnd⟩ := hend.pending
        exact absurd hd hnd

/-- An event of a delimited rule in the scan reports a region that a step closed. -/
theorem exists_closesAt {n : Nat} {e : Event} (he : (rules.scan lines)[n]? = some e)
    (hd : rules.Delimited e.rule) :
    ∃ t index x, rules.ClosesAt lines t index x ∧ (rules.run lines t).state.events.size = n := by
  obtain ⟨k, _, more, hscan, hmore⟩ := scan_eq_append 0
    fun k _ => rules.pending_not_delimited lines k
  rw [hscan, List.getElem?_append] at he
  split at he
  · exact exists_closesAt_of_run he hd
  · obtain ⟨last, _, hnd⟩ := (hmore e (List.mem_of_getElem? he)).pending
    exact absurd hd hnd

/-- An event of some moment is in the scan under its number, with its rule and its first line, and
at most as long. -/
theorem scan_of_run {u n : Nat} {e : Event}
    (he : (rules.run lines u).state.events.toList[n]? = some e) :
    ∃ e', (rules.scan lines)[n]? = some e' ∧ e'.rule = e.rule ∧ e'.start = e.start ∧
      e'.stop ≤ e.stop := by
  obtain ⟨k, hk, more, hscan, _⟩ :=
    scan_eq_append u fun k _ => (rules.run lines k).state.pending_true
  obtain ⟨e', he', hr, hs, hl⟩ := trims_run hk he
  refine ⟨e', ?_, hr, hs, hl⟩
  rw [hscan, List.getElem?_append_left (List.getElem?_eq_some_iff.mp he').1, he']

end RuleSet

/-- The event of a region that closed in line `l`: as it was reported, or cut at the line above. -/
def Event.ClosedIn (id : RuleId) (first l : Nat) (e : Event) : Prop :=
  e = ⟨id, first, l, true⟩ ∨ 0 < l ∧ e = ⟨id, first, l - 1, false⟩

/-- The event of a region that closed has its rule. -/
theorem Event.ClosedIn.rule_eq {id : RuleId} {first l : Nat} {e : Event}
    (h : e.ClosedIn id first l) : e.rule = id := by
  rcases h with rfl | ⟨_, rfl⟩ <;> rfl

/-- The event of a region that closed has its first line. -/
theorem Event.ClosedIn.start_eq {id : RuleId} {first l : Nat} {e : Event}
    (h : e.ClosedIn id first l) : e.start = first := by
  rcases h with rfl | ⟨_, rfl⟩ <;> rfl

/-- Such an event is cut once at most, and only in its own line. -/
theorem Event.ClosedIn.trims {id : RuleId} {first l lineNo : Nat} {e e' : Event}
    (h : e.ClosedIn id first l) (hl : l ≤ lineNo) (ht : e.Trims lineNo e') :
    e'.ClosedIn id first l := by
  rcases ht with rfl | ⟨last, hle, hlt, rfl⟩
  · exact h
  · rcases h with rfl | ⟨hpos, rfl⟩
    · dsimp only at hlt
      have hlast : last = l - 1 := by omega
      exact .inr ⟨by omega, by rw [hlast]⟩
    · dsimp only at hlt
      omega

namespace RuleSet

variable {rules : RuleSet} {lines : List Line}

/-- The region that a step closes is in the scan under the number of events before that step. -/
theorem closedIn_scan {t index : Nat} {x : OpenEntry} (h : rules.ClosesAt lines t index x) :
    ∃ q, (rules.scan lines)[(rules.run lines t).state.events.size]? = some q ∧
      q.ClosedIn x.rule x.line ((rules.run lines t).begun - 1) := by
  have hclosing := closing_of_closesAt h
  have hn := next_of_closesAt h
  obtain ⟨k, hk, more, hscan, _⟩ := scan_eq_append (t + 1)
    fun k _ => (rules.run lines k).state.pending_true
  have hq : ∃ q, (rules.run lines k).state.events.toList[(rules.run lines t).state.events.size]? =
      some q ∧ q.ClosedIn x.rule x.line ((rules.run lines t).begun - 1) := by
    refine run_invariant_from (I := fun m => ∃ q,
      m.state.events.toList[(rules.run lines t).state.events.size]? = some q ∧
        q.ClosedIn x.rule x.line ((rules.run lines t).begun - 1)) hk ?_ ?_
    · obtain ⟨q, hq, ht⟩ := Moment.closing_next hn (rules.wf_run lines t) hclosing
      exact ⟨q, hq, Event.ClosedIn.trims (.inl rfl) (Nat.le_refl _) ht⟩
    · rintro j m hj ⟨q, hq, hc⟩ hnext
      obtain ⟨q', hq', ht⟩ := Moment.trims_next hnext (rules.wf_run lines j) hq
      have hle := rules.begun_le_run lines (show t ≤ j by omega)
      exact ⟨q', hq', hc.trims (by omega) ht⟩
  obtain ⟨q, hq, hc⟩ := hq
  refine ⟨q, ?_, hc⟩
  rw [hscan, List.getElem?_append_left (List.getElem?_eq_some_iff.mp hq).1, hq]

/-- Only rules with delimiters close regions. -/
theorem delimited_of_closing {k : Nat} {own : Event}
    (h : (rules.run lines k).closing? rules = some own) : rules.Delimited own.rule := by
  obtain ⟨index, x, ⟨_, _, _, hx⟩, rfl⟩ := closesAt_of_closing h
  have hmem : x ∈ (rules.run lines k).state.stack.toList :=
    Array.mem_toList_iff.mpr (Array.mem_of_getElem? hx)
  exact (rules.wf_state lines k).delimited x hmem

/-- A region of whole lines begins in a line at whose start its rule is active. -/
theorem found_line_region (k : Nat) :
    (rules.run lines k).Found fun id first _ => rules.Delimited id ∨
      ∃ j, rules.BeginsLine lines j first ∧
        id ∈ ((rules.run lines j).state.stack.scope rules).active := by
  refine run_invariant (Moment.found_start _ lines) ?_ k
  intro j m hf h
  refine Moment.Found.next (fun _ _ _ _ hx _ => hx) hf h (rules.wf_run lines j)
    (fun own ho => .inl (delimited_of_closing ho)) (fun _ _ _ _ hx => hx) ?_
  intro hc id hid _ _ _
  refine .inr ⟨j, ⟨rfl, ?_⟩, hid⟩
  rw [run_succ h]
  exact Moment.begun_next h hc

/-- A rule on whole lines that has nothing pending finds only regions in lines that are to come. -/
theorem begun_le_start {c : RuleId} {u n : Nat} {e : Event} (hc : ¬ rules.Delimited c)
    (hp : (rules.run lines u).state.Pending fun id _ _ => id ≠ c)
    (hn : (rules.run lines u).state.events.size ≤ n) (he : (rules.scan lines)[n]? = some e)
    (hec : e.rule = c) : (rules.run lines u).begun ≤ e.start := by
  have hinv (k : Nat) (hk : k ≥ u) :
      (rules.run lines k).state.Pending
          (fun id first _ => id = c → (rules.run lines u).begun ≤ first) ∧
        ∀ n e, (rules.run lines u).state.events.size ≤ n →
          (rules.run lines k).state.events.toList[n]? = some e → e.rule = c →
            (rules.run lines u).begun ≤ e.start := by
    refine run_invariant_from (I := fun m =>
      m.state.Pending (fun id first _ => id = c → (rules.run lines u).begun ≤ first) ∧
        ∀ n e, (rules.run lines u).state.events.size ≤ n → m.state.events.toList[n]? = some e →
          e.rule = c → (rules.run lines u).begun ≤ e.start) hk ?_ ?_
    · refine ⟨hp.imp fun hne heq => absurd heq hne, fun n e hle hx => ?_⟩
      have hlt := (List.getElem?_eq_some_iff.mp hx).1
      rw [Array.length_toList] at hlt
      omega
    · rintro j m hj ⟨hpend, hev⟩ h
      have hle := rules.begun_le_run lines hj
      have hwf := rules.wf_run lines j
      refine ⟨(Moment.events_next h hwf hpend (fun _ _ _ _ hx => hx)
        fun _ _ _ _ _ _ _ => hle).1, ?_⟩
      intro n e hsize hx hrule
      rcases Moment.event_next_cases h hwf hpend (fun _ _ _ _ hx => hx)
        (fun _ _ _ _ _ _ _ => hle) hx with ⟨old, ho, ht⟩ | ⟨own, ho, _, ht⟩ | ⟨_, hend⟩
      · rw [ht.start_eq]
        exact hev n old hsize ho (ht.rule_eq.symm.trans hrule)
      · exact absurd (delimited_of_closing ho) ((ht.rule_eq.symm.trans hrule) ▸ hc)
      · obtain ⟨_, _, hfirst⟩ := hend.pending
        exact hfirst hrule
  obtain ⟨k, hk, more, hscan, hmore⟩ := scan_eq_append u fun k hk => (hinv k hk).1
  rw [hscan, List.getElem?_append] at he
  split at he
  · exact (hinv k hk).2 n e hn he hec
  · obtain ⟨_, _, hfirst⟩ := (hmore e (List.mem_of_getElem? he)).pending
    exact hfirst hec

/-- Every event has a moment at which its region begins. -/
theorem exists_regionBegins
    (hi : ∀ id rule, rules.rule? id = some rule → rule.pairing = .innermost) {n : Nat} {e : Event}
    (he : (rules.scan lines)[n]? = some e) :
    ∃ k, rules.RegionBegins lines n k := by
  by_cases hd : rules.Delimited e.rule
  · obtain ⟨t, index, x, hc, hn⟩ := exists_closesAt he hd
    obtain ⟨k, _, ho, _⟩ := exists_opensAt hi (getElem?_of_closesAt hc)
    exact ⟨k, .inl ⟨t, index, x, ho, hc, hn⟩⟩
  · obtain ⟨j, hj, _⟩ := (found_scan (fun _ _ _ _ hx _ => hx) found_line_region e
      (List.mem_of_getElem? he)).resolve_left hd
    exact ⟨j, .inr ⟨e, he, hd, hj⟩⟩

/-- Where the region of an event begins its rule is active, and the line is the first one of the
event or has not begun. -/
theorem active_of_regionBegins {n k : Nat} {e : Event} (he : (rules.scan lines)[n]? = some e)
    (hb : rules.RegionBegins lines n k) :
    e.rule ∈ ((rules.run lines k).state.stack.scope rules).active ∧
      (rules.run lines k).begun ≤ e.start + 1 := by
  rcases hb with ⟨t, index, x, ho, hc, rfl⟩ | ⟨e', he', hd, hj⟩
  · obtain ⟨q, hq, hclosed⟩ := closedIn_scan hc
    have heq : q = e := Option.some.inj (hq.symm.trans he)
    subst heq
    obtain ⟨c, hit, hop, _⟩ := opening_of_opensAt ho
    have hl := (rules.wf_run lines k c hop.place).1
    rw [hclosed.rule_eq, hclosed.start_eq, ← hl, hop.line]
    exact ⟨hop.active, Nat.le_refl _⟩
  · have heq : e' = e := Option.some.inj (he'.symm.trans he)
    subst heq
    obtain ⟨j, hj', hact⟩ := (found_scan (fun _ _ _ _ hx _ => hx) found_line_region e'
      (List.mem_of_getElem? he)).resolve_left hd
    obtain rfl := beginsLine_unique hj' hj
    exact ⟨hact, by rw [hj.1]; exact Nat.le_succ _⟩

end RuleSet

end CodeFold
