import CodeFold.Proofs.Assemble
import CodeFold.Proofs.Consecutive
import CodeFold.Proofs.Delimiters
import Mathlib.Data.List.Infix

/-!
# Appending lines

Between two lines nothing that has been reported is touched any more. So lines that are appended to a
document leave the regions that have closed as they are and in their order, and can only add regions
that close in the new lines. Rules on whole lines are different: what they have pending at the end
of a document may become longer.
-/

namespace CodeFold

namespace RuleSet

variable {rules : RuleSet} {lines : List Line}

/-- Between two lines a scan has its final version of the events so far. -/
theorem prefix_run {u v : Nat} (huv : u ≤ v) (hu : (rules.run lines u).cursor = none) :
    (rules.run lines u).state.events.toList <+: (rules.run lines v).state.events.toList := by
  -- As soon as the next line has begun they are events of earlier lines.
  have hinv : (rules.run lines u).state.events.toList <+: (rules.run lines v).state.past.toList ∨
      (rules.run lines v).cursor = none ∧
        (rules.run lines v).state = (rules.run lines u).state := by
    refine run_invariant_from (I := fun m =>
      (rules.run lines u).state.events.toList <+: m.state.past.toList ∨
        m.cursor = none ∧ m.state = (rules.run lines u).state) huv (.inr ⟨hu, rfl⟩) ?_
    intro j m _ hj h
    rcases Moment.next?_cases h with ⟨c, hit, hc, _, rfl⟩ | ⟨c, hc, _, rfl⟩ | ⟨line, rest, _, _, rfl⟩
    · left
      have hpast := hj.resolve_right fun hn => by simp [hn.1] at hc
      dsimp only
      rw [ScanState.past_handle]
      exact hpast
    · exact .inl (hj.resolve_right fun hn => by simp [hn.1] at hc)
    · left
      dsimp only
      rw [ScanState.past_beginLine]
      rcases hj with hpast | ⟨_, hs⟩
      · rw [ScanState.toList_events (rules.run lines j).state]
        exact hpast.trans (List.prefix_append _ _)
      · rw [hs]
  rcases hinv with hpast | ⟨_, hs⟩
  · rw [ScanState.toList_events (rules.run lines v).state]
    exact hpast.trans (List.prefix_append _ _)
  · rw [hs]

/-- The scan of a document keeps the events that there are between two of its lines. -/
theorem prefix_scan {k : Nat} (hk : (rules.run lines k).cursor = none) :
    (rules.run lines k).state.events.toList <+: rules.scan lines := by
  obtain ⟨k', hk', more, hscan, _⟩ := scan_eq_append k
    fun k _ => (rules.run lines k).state.pending_true
  rw [hscan]
  exact (prefix_run hk' hk).trans (List.prefix_append _ _)

/-- At the end of a document no region of a rule with delimiters is added. -/
theorem delimitedEvents_of_end {k : Nat} (h : (rules.run lines k).next? rules = none) :
    rules.delimitedEvents lines =
      (rules.run lines k).state.events.toList.filter fun e => rules.Delimited e.rule := by
  obtain ⟨_, hpast, more, hcur, hmore⟩ := ScanState.ends_finish (rules.pending_not_delimited lines k)
  have hnone : more.filter (fun e => rules.Delimited e.rule) = [] := by
    apply List.filter_eq_nil_iff.mpr
    intro e he
    obtain ⟨_, _, hnd⟩ := (hmore e he).pending
    simpa using hnd
  rw [delimitedEvents, scan_eq_of_end h, ScanState.toList_events, hpast, hcur, ← List.append_assoc,
    ← ScanState.toList_events, List.filter_append, hnone, List.append_nil]

private theorem delimitedEvents_eq (rules : RuleSet) (lines : List Line) :
    rules.delimitedEvents lines =
      (ScanState.start.scanLines rules 0 lines).events.toList.filter
        fun e => rules.Delimited e.rule := by
  obtain ⟨k, hk⟩ := rules.run_end lines
  have hend : (rules.run lines k).next? rules = none := by rw [hk]; rfl
  rw [delimitedEvents_of_end hend, hk]

/-- Every event ends inside the document. -/
theorem stop_lt_length (rules : RuleSet) (lines : List Line) :
    ∀ e ∈ rules.scan lines, e.stop < lines.length := by
  refine found_scan (P := fun _ _ last => last < lines.length)
    (fun _ _ _ _ hx hle => Nat.lt_of_le_of_lt hle hx) ?_
  intro k
  have hlen := rules.begun_add_rest lines k
  exact (rules.last_lt_begun lines k).imp fun hx => by omega

/-- A region that is reported after the events that there are between two lines closes in a later
line. -/
theorem begun_lt_of_closesAt {k t index : Nat} {x : OpenEntry}
    (hk : (rules.run lines k).cursor = none) (hcl : rules.ClosesAt lines t index x)
    (hsize : (rules.run lines k).state.events.size ≤ (rules.run lines t).state.events.size) :
    (rules.run lines k).begun < (rules.run lines t).begun := by
  have hkt : k ≤ t := by
    apply Nat.le_of_not_lt
    intro htk
    obtain ⟨e, he, _⟩ :=
      Moment.closing_next (next_of_closesAt hcl) (rules.wf_run lines t) (closing_of_closesAt hcl)
    obtain ⟨e', he', _⟩ := trims_run (show t + 1 ≤ k from htk) he
    have hlt := (List.getElem?_eq_some_iff.mp he').1
    rw [Array.length_toList] at hlt
    omega
  have hinv : (rules.run lines t).cursor = none ∨
      (rules.run lines k).begun < (rules.run lines t).begun := by
    refine (run_invariant_from (I := fun m => (m.cursor = none ∧
      m.begun = (rules.run lines k).begun) ∨ (rules.run lines k).begun < m.begun) hkt
      (.inl ⟨hk, rfl⟩) ?_).imp_left And.left
    intro j m _ hj h
    right
    rcases hj with ⟨hc, hb⟩ | hlt
    · rw [Moment.begun_next h hc]
      omega
    · exact Nat.lt_of_lt_of_le hlt (Moment.begun_le_next h)
  obtain ⟨hit, hh, _⟩ := hcl
  obtain ⟨c, hc, _⟩ := Option.bind_eq_some_iff.mp hh
  exact hinv.resolve_left fun hn => by simp [hn] at hc

/-- An event reports a region that the scan closes in a line. -/
def ReportsClosing (rules : RuleSet) (lines : List Line) (lineNo : Nat) (e : Event) : Prop :=
  ∃ t index x, rules.ClosesAt lines t index x ∧ (rules.run lines t).begun = lineNo + 1 ∧
    (rules.scan lines)[(rules.run lines t).state.events.size]? = some e ∧
    e.ClosedIn x.rule x.line lineNo

/-- What a scan reports of rules with delimiters behind the events that there are between two lines
closes in later lines. -/
theorem reportsClosing_of_drop {k : Nat} (hk : (rules.run lines k).cursor = none) {e : Event}
    (he : e ∈ (rules.scan lines).drop (rules.run lines k).state.events.size)
    (hd : rules.Delimited e.rule) :
    ∃ l ≥ (rules.run lines k).begun, rules.ReportsClosing lines l e := by
  obtain ⟨i, hi⟩ := List.mem_iff_getElem?.mp he
  rw [List.getElem?_drop] at hi
  obtain ⟨t, index, x, hcl, hn⟩ := exists_closesAt hi hd
  obtain ⟨q, hq, hclosed⟩ := closedIn_scan hcl
  have hqe : q = e := by
    rw [hn] at hq
    exact Option.some.inj (hq.symm.trans hi)
  subst hqe
  have hlt := begun_lt_of_closesAt hk hcl (by omega)
  exact ⟨(rules.run lines t).begun - 1, by omega, t, index, x, hcl, by omega, hq, hclosed⟩

/-- Appending lines revokes no region that has closed: the events of rules with delimiters stay, in
their order, and those that are added report regions that close in the new lines. So every span of
such an event that is folded in a document is folded in every document that begins with it. -/
theorem delimitedEvents_append (rules : RuleSet) (d d' : List Line) :
    (∃ more, rules.delimitedEvents (d ++ d') = rules.delimitedEvents d ++ more ∧
      ∀ e ∈ more, ∃ l ≥ d.length, rules.ReportsClosing (d ++ d') l e) ∧
    ∀ e ∈ rules.delimitedEvents d, ∀ r, rules.range? (d.length - 1) e = some r →
      r.span ∈ (rules.foldLines d).map FoldRange.span ∧
        r.span ∈ (rules.foldLines (d ++ d')).map FoldRange.span := by
  obtain ⟨k, hk⟩ := rules.run_append d d'
  have hc : (rules.run (d ++ d') k).cursor = none := by rw [hk]
  have hpre := prefix_scan hc
  obtain ⟨tail, htail⟩ := hpre
  have hmore : rules.delimitedEvents (d ++ d') =
      rules.delimitedEvents d ++ tail.filter fun e => rules.Delimited e.rule := by
    rw [delimitedEvents, ← htail, List.filter_append, hk, delimitedEvents_eq rules d]
  refine ⟨⟨_, hmore, ?_⟩, ?_⟩
  · intro e he
    obtain ⟨hmem, hd⟩ := List.mem_filter.mp he
    have hdrop : e ∈ (rules.scan (d ++ d')).drop (rules.run (d ++ d') k).state.events.size := by
      rw [← htail, ← Array.length_toList, List.drop_left]
      exact hmem
    have hreports := reportsClosing_of_drop hc hdrop (by simpa using hd)
    rwa [hk] at hreports
  · intro e he r hr
    have hin : e ∈ rules.scan d := (List.mem_filter.mp he).1
    have hstop := rules.stop_lt_length d e hin
    have hin' : e ∈ rules.scan (d ++ d') := by
      have hmem : e ∈ rules.delimitedEvents (d ++ d') := by
        rw [hmore]
        exact List.mem_append_left _ he
      exact (List.mem_filter.mp hmem).1
    have hlen : (d ++ d').length = d.length + d'.length := List.length_append
    have hr' : rules.range? ((d ++ d').length - 1) e = some r := by
      rw [← hr]
      exact range?_of_stop_le (by omega) (by omega)
    exact ⟨mem_span_assemble.mpr ⟨by omega, e, hin, r, hr, rfl⟩,
      mem_span_assemble.mpr ⟨by omega, e, hin', r, hr', rfl⟩⟩

end RuleSet

/-- A document with a pair of brackets and a bracket that stays open. -/
def bracketOpened : List Line := Line.split "// a (\n// b\n) ("

/-- The pair of brackets stays folded when two lines are appended, and the other bracket is added
behind it, with the new line in which it closes. -/
theorem delimitedEvents_of_bracketOpened :
    let longer := bracketOpened ++ Line.split "// c\n)"
    comments.delimitedEvents bracketOpened = [⟨2, 0, 2, true⟩] ∧
      comments.range? (bracketOpened.length - 1) ⟨2, 0, 2, true⟩ = some ⟨0, 1, .region⟩ ∧
      comments.delimitedEvents longer = [⟨2, 0, 2, true⟩, ⟨2, 2, 4, true⟩] ∧
      (∃ l ≥ bracketOpened.length, comments.ReportsClosing longer l ⟨2, 2, 4, true⟩) ∧
      (0, 1) ∈ (comments.foldLines longer).map FoldRange.span := by
  intro longer
  have hevents : comments.delimitedEvents bracketOpened = [⟨2, 0, 2, true⟩] := by decide +kernel
  have hrange : comments.range? (bracketOpened.length - 1) ⟨2, 0, 2, true⟩ =
      some ⟨0, 1, .region⟩ := by decide +kernel
  have hlonger : comments.delimitedEvents longer = [⟨2, 0, 2, true⟩, ⟨2, 2, 4, true⟩] := by
    decide +kernel
  obtain ⟨⟨more, hmore, hreports⟩, hspans⟩ :=
    comments.delimitedEvents_append bracketOpened (Line.split "// c\n)")
  have hlast : more = [⟨2, 2, 4, true⟩] := by
    rw [hevents] at hmore
    exact (List.cons.inj (hmore.symm.trans hlonger)).2
  refine ⟨hevents, hrange, hlonger, hreports _ (by simp [hlast]), ?_⟩
  exact (hspans ⟨2, 0, 2, true⟩ (by simp [hevents]) _ hrange).2

end CodeFold
