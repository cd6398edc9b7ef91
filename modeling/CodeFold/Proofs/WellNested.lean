import CodeFold.Proofs.Nesting

/-!
# Well-nested ranges

If the rules with delimiters all fold the last line of their regions, or none does, then cutting an
event never changes its range: either there is no line to cut off, or the line that is cut off is
the one that the range leaves out. So the range of a region ends with the line in which the region
closed, or one line above, for all regions alike. Regions close in the reverse order of their
opening, so their ranges never cross, and the range of a nested rule lies inside that of the region
that lists it without exception.
Specification: §8.
-/

namespace CodeFold

/-- A step that closes a region whose rule folds its last line cuts nothing. -/
theorem Moment.prefix_next {rules : RuleSet} {m m' : Moment} (h : m.next? rules = some m')
    (hm : m.WF) (hlast : ∀ e ∈ m.state.events.toList, e.stop < m.begun)
    (hf : ∀ own rule, m.closing? rules = some own → rules.rule? own.rule = some rule →
      rule.foldLastLine = true) :
    m.state.events.toList ++ (m.closing? rules).toList <+: m'.state.events.toList := by
  obtain ⟨_, left, last, more, hev, hcut, _⟩ := cut_next h hm m.state.pending_true
    (fun _ _ _ _ _ => trivial) (fun _ _ _ _ _ _ => trivial)
  have hsame : (m.state.current.toList ++ (m.closing? rules).toList).map (Event.cut left last) =
      m.state.current.toList ++ (m.closing? rules).toList := by
    rcases hcut with rfl | ⟨own, rule, hown, hr, rfl⟩
    · exact Event.map_cut_nil last _
    · obtain ⟨c, _, _, _, hc, _, _, _, rfl⟩ := closing?_eq_some hown
      have hline := (hm c hc).1
      rw [if_pos (hf _ rule hown hr), hown]
      refine (List.map_congr_left fun e he => Event.cut_of_stop_le ?_ left).trans (List.map_id _)
      rcases List.mem_append.mp he with he | he
      · have hlt := hlast e (ScanState.toList_events _ ▸ List.mem_append_right _ he)
        omega
      · obtain rfl := List.mem_singleton.mp he
        dsimp only
        omega
  rw [hsame, ← List.append_assoc, ← ScanState.toList_events] at hev
  exact ⟨more, hev.symm⟩

namespace RuleSet

/-- The last line of a region that closed in a line, as rules fold it that all fold their last line
or all do not. -/
def lastFolded (folds : Bool) (lineNo : Nat) : Nat := if folds then lineNo else lineNo - 1

private theorem lastFolded_le (folds : Bool) (lineNo : Nat) : lastFolded folds lineNo ≤ lineNo := by
  cases folds <;> simp [lastFolded]

private theorem lastFolded_mono (folds : Bool) {m n : Nat} (h : m ≤ n) :
    lastFolded folds m ≤ lastFolded folds n := by
  cases folds <;> simp [lastFolded] <;> omega

private theorem lt_of_begun_lt (rules : RuleSet) (lines : List Line) {u v : Nat}
    (h : (rules.run lines u).begun < (rules.run lines v).begun) : u < v := by
  apply Nat.lt_of_not_le
  intro hle
  exact absurd (rules.begun_le_run lines hle) (Nat.not_le_of_lt h)

variable {rules : RuleSet} {lines : List Line}

/-- If the rules with delimiters fold their last lines, the event of a region that closes is never
cut. -/
theorem getElem?_scan_of_folds
    (hf : ∀ id rule, rules.rule? id = some rule → rule.kind.isDelimited = true →
      rule.foldLastLine = true)
    {t index : Nat} {x : OpenEntry} (hcl : rules.ClosesAt lines t index x) :
    (rules.scan lines)[(rules.run lines t).state.events.size]? =
      some ⟨x.rule, x.line, (rules.run lines t).begun - 1, true⟩ := by
  have hnext (j : Nat) {m : Moment} (h : (rules.run lines j).next? rules = some m) :
      (rules.run lines j).state.events.toList ++ ((rules.run lines j).closing? rules).toList <+:
        m.state.events.toList := by
    refine Moment.prefix_next h (rules.wf_run lines j) (rules.last_lt_begun lines j).events ?_
    intro own rule hown hr
    obtain ⟨rule', hr', hd⟩ := delimited_of_closing hown
    obtain rfl := Option.some.inj (hr.symm.trans hr')
    exact hf own.rule rule hr hd
  obtain ⟨k, hk, more, hscan, _⟩ := scan_eq_append (t + 1)
    fun k _ => (rules.run lines k).state.pending_true
  have hkept : (rules.run lines t).state.events.toList ++
      [⟨x.rule, x.line, (rules.run lines t).begun - 1, true⟩] <+:
        (rules.run lines k).state.events.toList := by
    refine run_invariant_from (I := fun m => (rules.run lines t).state.events.toList ++
      [⟨x.rule, x.line, (rules.run lines t).begun - 1, true⟩] <+: m.state.events.toList) hk ?_ ?_
    · have hfirst := hnext t (next_of_closesAt hcl)
      rwa [closing_of_closesAt hcl] at hfirst
    · intro j m _ hj h
      exact hj.trans ((List.prefix_append _ _).trans (hnext j h))
  obtain ⟨rest, hrest⟩ := hkept
  rw [hscan, ← hrest]
  simp

section

variable {folds : Bool}
  (hf : ∀ id rule, rules.rule? id = some rule → rule.kind.isDelimited = true →
    rule.foldLastLine = folds)

include hf

/-- A region folds the same lines whether its event has been cut or not. -/
theorem foldedStop_of_closesAt {t index : Nat} {x : OpenEntry} {q : Event} {rule : Rule}
    (hcl : rules.ClosesAt lines t index x)
    (hq : (rules.scan lines)[(rules.run lines t).state.events.size]? = some q)
    (hr : rules.rule? x.rule = some rule) :
    foldedStop rule (lines.length - 1) q = lastFolded folds ((rules.run lines t).begun - 1) := by
  obtain ⟨rule', hr', hd⟩ := delimited_of_closing (closing_of_closesAt hcl)
  obtain rfl := Option.some.inj (hr.symm.trans hr')
  have hfold := hf x.rule rule hr hd
  have hlen := rules.begun_add_rest lines t
  cases folds with
  | true =>
    rw [getElem?_scan_of_folds hf hcl] at hq
    cases hq
    simp only [foldedStop, lastFolded, hfold, Bool.not_true, Bool.and_false, Bool.false_eq_true,
      if_false, if_true]
    omega
  | false =>
    obtain ⟨q', hq', hclosed⟩ := closedIn_scan hcl
    rw [Option.some.inj (hq.symm.trans hq')]
    rcases hclosed with rfl | ⟨_, rfl⟩
    · simp only [foldedStop, lastFolded, hfold, Bool.not_false, Bool.and_self, Bool.false_eq_true,
        if_false, if_true]
      omega
    · simp only [foldedStop, lastFolded, Bool.false_and, Bool.false_eq_true, if_false]
      omega

end

/-- Where the region of a nested event begins, a region above it lists its rule. -/
theorem exists_lister_of_regionBegins (hw : rules.WF) {n k : Nat} {e : Event}
    (he : (rules.scan lines)[n]? = some e) (ht : e.rule ∉ rules.topLevel)
    (hb : rules.RegionBegins lines n k) :
    ∃ x, (rules.run lines k).state.stack.lister? rules e.rule = some x ∧ x.line ≤ e.start := by
  obtain ⟨hact, hbegun⟩ := active_of_regionBegins he hb
  obtain ⟨x, hx⟩ := Stack.exists_lister
    ((rules.valid_run lines k).mem_listing_of_mem_active hw.top.nodup hact) ht
  obtain ⟨i, hxi⟩ := List.mem_iff_getElem?.mp (List.mem_of_find?_eq_some hx)
  have hline := line_lt_begun (List.mem_of_getElem? hxi)
  exact ⟨x, hx, by omega⟩

section

variable (hi : ∀ id rule, rules.rule? id = some rule → rule.pairing = .innermost)

include hi

/-- A region that opens while another one is open is gone when that one has closed. -/
theorem le_of_opensAt_inside {k k' t t' i j : Nat} {x y : OpenEntry} (hx : rules.OpensAt lines k x)
    (hcl : rules.ClosesAt lines t i x) (hy : rules.OpensAt lines k' y)
    (ht' : (rules.run lines t').state.stack.toList[j]? = some y) (hk : k < k') (hkt : k' < t) :
    t' ≤ t := by
  apply Nat.le_of_not_lt
  intro htt
  obtain ⟨u, hu, hx', hlen, hsame⟩ := exists_opensAt hi (getElem?_of_closesAt hcl)
  obtain ⟨w, hw, hy', hlen', hsame'⟩ := exists_opensAt hi ht'
  obtain rfl := opensAt_unique hx hx'
  obtain rfl := opensAt_unique hy hy'
  -- The outer region is below the inner one, so that nothing of it is left after the closing.
  have hbelow := congrArg List.length (hsame k' hk (Nat.le_of_lt hkt))
  have habove := congrArg List.length (hsame' (t + 1) (by omega) htt)
  rw [stack_of_closesAt hi hcl] at habove
  simp only [List.length_take, List.length_append, List.length_singleton] at hbelow habove
  omega

variable {folds : Bool}
  (hf : ∀ id rule, rules.rule? id = some rule → rule.kind.isDelimited = true →
    rule.foldLastLine = folds)

include hf

/-- The range of a delimited rule begins where its region opened, and where it ends depends only on
the line in which the region closed. -/
theorem exists_closesAt_of_range {e : Event} {r : FoldRange} (he : e ∈ rules.scan lines)
    (hd : rules.Delimited e.rule) (hr : rules.range? (lines.length - 1) e = some r) :
    ∃ k t index x, rules.OpensAt lines k x ∧ rules.ClosesAt lines t index x ∧
      (rules.run lines k).begun = r.start + 1 ∧
      r.stop = lastFolded folds ((rules.run lines t).begun - 1) := by
  obtain ⟨n, hn⟩ := List.mem_iff_getElem?.mp he
  obtain ⟨t, index, x, hcl, rfl⟩ := exists_closesAt hn hd
  obtain ⟨k, _, ho, _⟩ := exists_opensAt hi (getElem?_of_closesAt hcl)
  obtain ⟨c, hit, hop, _⟩ := opening_of_opensAt ho
  have hline := (rules.wf_run lines k c hop.place).1
  obtain ⟨q, hq, hclosed⟩ := closedIn_scan hcl
  obtain rfl := Option.some.inj (hn.symm.trans hq)
  obtain ⟨rule, hrule, _⟩ := hd
  rw [range?_eq hrule, foldedStop_of_closesAt hf hcl hn (hclosed.rule_eq ▸ hrule)] at hr
  split at hr
  · cases hr
    refine ⟨k, t, index, x, ho, hcl, ?_, rfl⟩
    rw [hclosed.start_eq, hop.line, hline]
  · cases hr

/-- Ranges of delimited rules do not cross. -/
theorem not_crossing {e₁ e₂ : Event} {r₁ r₂ : FoldRange} (he₁ : e₁ ∈ rules.scan lines)
    (he₂ : e₂ ∈ rules.scan lines) (hd₁ : rules.Delimited e₁.rule) (hd₂ : rules.Delimited e₂.rule)
    (hr₁ : rules.range? (lines.length - 1) e₁ = some r₁)
    (hr₂ : rules.range? (lines.length - 1) e₂ = some r₂) :
    ¬ (r₁.start < r₂.start ∧ r₂.start < r₁.stop ∧ r₁.stop < r₂.stop) := by
  rintro ⟨hstart, hinside, hstop⟩
  obtain ⟨k₁, t₁, i₁, x₁, ho₁, hcl₁, hfirst₁, hlast₁⟩ := exists_closesAt_of_range hi hf he₁ hd₁ hr₁
  obtain ⟨k₂, t₂, i₂, x₂, ho₂, hcl₂, hfirst₂, hlast₂⟩ := exists_closesAt_of_range hi hf he₂ hd₂ hr₂
  have hopen : k₁ < k₂ := rules.lt_of_begun_lt lines (by omega)
  have hclose : k₂ < t₁ := by
    have hle := lastFolded_le folds ((rules.run lines t₁).begun - 1)
    exact rules.lt_of_begun_lt lines (by omega)
  -- The second region closes no later than the first one, and so its range ends no later.
  have hle := le_of_opensAt_inside hi ho₁ hcl₁ ho₂ (getElem?_of_closesAt hcl₂) hopen hclose
  have hbegun := Nat.sub_le_sub_right (rules.begun_le_run lines hle) 1
  have hfolded := lastFolded_mono folds hbegun
  omega

/-- The range of a nested rule lies inside that of the region that lists it. -/
theorem nested_range_inside (hw : rules.WF) {n k v index : Nat} {e q : Event} {r : FoldRange}
    {x : OpenEntry} (he : (rules.scan lines)[n]? = some e) (ht : e.rule ∉ rules.topLevel)
    (hr : rules.range? (lines.length - 1) e = some r) (hb : rules.RegionBegins lines n k)
    (hx : (rules.run lines k).state.stack.lister? rules e.rule = some x) (hline : x.line ≤ e.start)
    (hcl : rules.ClosesAt lines v index x)
    (hq : (rules.scan lines)[(rules.run lines v).state.events.size]? = some q)
    (hclosed : q.ClosedIn x.rule x.line ((rules.run lines v).begun - 1)) :
    ∃ R, rules.range? (lines.length - 1) q = some R ∧ R.contains r = true := by
  obtain ⟨rule, hrule, hd⟩ := delimited_of_closing (closing_of_closesAt hcl)
  have hstop := nested_stop_le hi hw he hb ht hx hcl hrule
  rw [hf _ rule hrule hd] at hstop
  obtain ⟨hstart, hle, hlt⟩ := range?_spec hr
  rw [exists_range_contains (hclosed.rule_eq ▸ hrule) hlt, foldedStop_of_closesAt hf hcl hq hrule,
    hclosed.start_eq, hstart]
  exact ⟨hline, Nat.le_trans hle hstop⟩

end

/-- In a set without rules that leave inner regions open, in which the rules with delimiters all
fold the last line or all do not, the ranges of those rules do not cross. Every event of a nested
rule has a moment at which its region begins and then a lowest open region that lists its rule, and
if that region is closed by its end, the range of its event is around that of the nested rule. -/
theorem well_nested_scan (language : Language) (specific wildcard : List RuleEntry)
    (lines : List Line) (folds : Bool) :
    let rules := (RuleSet.compile language specific wildcard).1
    (∀ rule ∈ rules.rules.toList, rule.pairing = .innermost) →
    (∀ rule ∈ rules.rules.toList, rule.kind.isDelimited = true → rule.foldLastLine = folds) →
    (∀ e₁ ∈ rules.scan lines, ∀ e₂ ∈ rules.scan lines, rules.Delimited e₁.rule →
      rules.Delimited e₂.rule → ∀ r₁ r₂, rules.range? (lines.length - 1) e₁ = some r₁ →
        rules.range? (lines.length - 1) e₂ = some r₂ →
        ¬ (r₁.start < r₂.start ∧ r₂.start < r₁.stop ∧ r₁.stop < r₂.stop)) ∧
      ∀ (n : Nat) (e : Event) (r : FoldRange), (rules.scan lines)[n]? = some e →
        e.rule ∉ rules.topLevel → rules.range? (lines.length - 1) e = some r →
        (∃ k, rules.RegionBegins lines n k) ∧
          ∀ k, rules.RegionBegins lines n k →
            ∃ x, (rules.run lines k).state.stack.lister? rules e.rule = some x ∧
              ∀ v index, rules.ClosesAt lines v index x →
                ∃ q, (rules.scan lines)[(rules.run lines v).state.events.size]? = some q ∧
                  q.rule = x.rule ∧ q.start = x.line ∧
                  ∃ R, rules.range? (lines.length - 1) q = some R ∧ R.contains r = true := by
  intro rules hinner hfolds
  have hw : rules.WF := RuleSet.wf_compile language specific wildcard
  have hmem {id : RuleId} {rule : Rule} (hr : rules.rule? id = some rule) :
      rule ∈ rules.rules.toList := Array.mem_toList_iff.mpr (Array.mem_of_getElem? hr)
  have hi : ∀ id rule, rules.rule? id = some rule → rule.pairing = .innermost :=
    fun id rule hr => hinner rule (hmem hr)
  have hf : ∀ id rule, rules.rule? id = some rule → rule.kind.isDelimited = true →
      rule.foldLastLine = folds := fun id rule hr => hfolds rule (hmem hr)
  constructor
  · intro e₁ he₁ e₂ he₂ hd₁ hd₂ r₁ r₂ hr₁ hr₂
    exact not_crossing hi hf he₁ he₂ hd₁ hd₂ hr₁ hr₂
  · intro n e r he ht hr
    refine ⟨exists_regionBegins hi he, ?_⟩
    intro k hb
    obtain ⟨x, hx, hline⟩ := exists_lister_of_regionBegins hw he ht hb
    refine ⟨x, hx, ?_⟩
    intro v index hcl
    obtain ⟨q, hq, hclosed⟩ := closedIn_scan hcl
    exact ⟨q, hq, hclosed.rule_eq, hclosed.start_eq,
      nested_range_inside hi hf hw he ht hr hb hx hline hcl hq hclosed⟩

end RuleSet

/-- Rules three deep, none of which folds its last line. -/
def threeAlike : RuleSet :=
  (RuleSet.compile ⟨"test"⟩
    [.rule { opening := some "<<", closing := some ">>", foldLastLine := some false }
      (.rules (.one (.rule { opening := some "(", closing := some ")", foldLastLine := some false }
        (.rules (.one (.rule { opening := some "[", closing := some "]", foldLastLine := some false }
          .unset))))))] []).1

/-- Three regions close in one line, the events of the two inner ones are cut there, and the range
of the middle one is around that of the innermost one. -/
theorem well_nested_of_threeTogether :
    (∀ rule ∈ threeAlike.rules.toList, rule.pairing = .innermost) ∧
      (∀ rule ∈ threeAlike.rules.toList, rule.kind.isDelimited = true →
        rule.foldLastLine = false) ∧
      threeAlike.scan threeTogether = [⟨2, 2, 3, false⟩, ⟨1, 1, 3, false⟩, ⟨0, 0, 4, true⟩] ∧
      2 ∉ threeAlike.topLevel ∧ threeAlike.range? 4 ⟨2, 2, 3, false⟩ = some ⟨2, 3, .region⟩ ∧
      threeAlike.RegionBegins threeTogether 0 7 ∧
      ∃ x, (threeAlike.run threeTogether 7).state.stack.lister? threeAlike 2 = some x ∧
        threeAlike.ClosesAt threeTogether 13 1 x ∧
        ∃ q, (threeAlike.scan threeTogether)[(threeAlike.run threeTogether 13).state.events.size]? =
            some q ∧
          ∃ R, threeAlike.range? 4 q = some R ∧ R.contains ⟨2, 3, .region⟩ = true := by
  have hinner : ∀ rule ∈ threeAlike.rules.toList, rule.pairing = .innermost := by decide +kernel
  have hfolds : ∀ rule ∈ threeAlike.rules.toList, rule.kind.isDelimited = true →
      rule.foldLastLine = false := by decide +kernel
  have hbegins : threeAlike.RegionBegins threeTogether 0 7 :=
    .inl ⟨12, 2, _, rfl, ⟨⟨0, 1, .close 2⟩, by decide +kernel, rfl, rfl⟩, by decide +kernel⟩
  have hsame : (threeAlike.run threeTogether 13).state.stack[1]? =
      (threeAlike.run threeTogether 7).state.stack.lister? threeAlike 2 := rfl
  obtain ⟨_, hinside⟩ := RuleSet.well_nested_scan ⟨"test"⟩ _ [] threeTogether false hinner hfolds
  obtain ⟨x, hx, hcloses⟩ := (hinside 0 ⟨2, 2, 3, false⟩ ⟨2, 3, .region⟩ (by decide +kernel)
    (by decide +kernel) (by decide +kernel)).2 7 hbegins
  have hcl : threeAlike.ClosesAt threeTogether 13 1 x :=
    ⟨⟨2, 3, .close 1⟩, by decide +kernel, rfl, hsame.trans hx⟩
  obtain ⟨q, hq, _, _, hcontains⟩ := hcloses 13 1 hcl
  exact ⟨hinner, hfolds, by decide +kernel, by decide +kernel, by decide +kernel, hbegins, x, hx,
    hcl, q, hq, hcontains⟩

end CodeFold
