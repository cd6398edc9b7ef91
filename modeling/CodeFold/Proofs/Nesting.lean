import CodeFold.Fold
import CodeFold.Proofs.Regions

/-!
# Nested ranges

A rule that is listed by the rule of an open region, and that holds nowhere else, finds its
regions inside that region. When the outer region closes, the nested rule is out of reach, and
everything it has found is cut at the last line that the outer region folds. So the nested range
lies inside the outer one, unless the outer event is itself cut afterwards in the same line, when
a region around both closes there without folding its last line: the nested rule is out of reach
by then and is not cut a second time.
Specification: §8.
-/

namespace CodeFold

/-! ### Ranges of events -/

namespace RuleSet

variable {rules : RuleSet}

/-- The last line that a rule folds of an event. -/
def foldedStop (rule : Rule) (lastLine : Nat) (e : Event) : Nat :=
  min (if e.closed && !rule.foldLastLine then e.stop - 1 else e.stop) lastLine

/-- An event gives a range if lines below its first one are folded. -/
theorem range?_eq {e : Event} {rule : Rule} (hr : rules.rule? e.rule = some rule) (lastLine : Nat) :
    rules.range? lastLine e =
      if e.start < foldedStop rule lastLine e then
        some ⟨e.start, foldedStop rule lastLine e, rule.foldKind⟩
      else none := by
  unfold range? foldedStop
  rw [hr]
  dsimp only [bind, Option.bind]
  by_cases hc : (e.closed && !rule.foldLastLine) = true
  · rw [if_pos hc, if_pos hc]
    by_cases hz : e.stop = 0
    · simp [hz]
    · rw [if_neg hz]
  · rw [if_neg hc, if_neg hc]

/-- A range begins where its event does and ends not below it. -/
theorem range?_spec {e : Event} {lastLine : Nat} {r : FoldRange}
    (h : rules.range? lastLine e = some r) :
    r.start = e.start ∧ r.stop ≤ e.stop ∧ r.start < r.stop := by
  obtain ⟨rule, hr, _⟩ := Option.bind_eq_some_iff.mp h
  rw [range?_eq hr] at h
  split at h
  · next hlt =>
    cases h
    refine ⟨rfl, ?_, hlt⟩
    refine Nat.le_trans (Nat.min_le_left _ _) ?_
    split <;> omega
  · cases h

/-- An event gives a range around another one if it begins above that one and folds all of it. -/
theorem exists_range_contains {e : Event} {rule : Rule} (hr : rules.rule? e.rule = some rule)
    {lastLine : Nat} {r : FoldRange} (hlt : r.start < r.stop) :
    (∃ R, rules.range? lastLine e = some R ∧ R.contains r = true) ↔
      e.start ≤ r.start ∧ r.stop ≤ foldedStop rule lastLine e := by
  rw [range?_eq hr]
  constructor
  · rintro ⟨R, hR, hc⟩
    split at hR
    · cases hR
      simpa [FoldRange.contains] using hc
    · cases hR
  · rintro ⟨hs, he⟩
    rw [if_pos (by omega)]
    exact ⟨_, rfl, by simp [FoldRange.contains, hs, he]⟩

end RuleSet

/-! ### The region that lists a rule -/

namespace Stack

variable {rules : RuleSet} {stack : Stack} {id : RuleId}

/-- The lowest entry that lists a rule. -/
def lister? (rules : RuleSet) (stack : Stack) (id : RuleId) : Option OpenEntry :=
  stack.toList.find? fun e => id ∈ e.listed rules

private theorem lister?_eq_some {x : OpenEntry} (h : stack.lister? rules id = some x) :
    id ∈ x.listed rules ∧ ∃ below above, stack.toList = below ++ x :: above ∧
      ∀ y ∈ below, id ∉ y.listed rules := by
  obtain ⟨hx, below, above, hs, hb⟩ := List.find?_eq_some_iff_append.mp h
  refine ⟨by simpa using hx, below, above, hs, fun y hy => ?_⟩
  simpa using hb y hy

/-- A rule that can be reached and does not hold everywhere is listed by an entry. -/
theorem exists_lister (hid : id ∈ Scope.listing rules stack.toList) (ht : id ∉ rules.topLevel) :
    ∃ x, stack.lister? rules id = some x := by
  obtain ⟨e, he, hl⟩ := (Scope.mem_listing.mp hid).resolve_right ht
  apply Option.isSome_iff_exists.mp
  exact List.find?_isSome.mpr ⟨e, he, by simpa using hl⟩

end Stack

private theorem Event.stop_cut_le {left : List RuleId} {e : Event} (h : e.rule ∈ left)
    (last : Nat) : (e.cut left last).stop ≤ last := by
  unfold cut
  split
  · exact Nat.le_refl _
  · next hc => simpa [h] using hc

namespace RuleSet

variable {rules : RuleSet} {lines : List Line}

section

variable (hi : ∀ id rule, rules.rule? id = some rule → rule.pairing = .innermost) (hw : rules.WF)

include hi hw

/-- When the lowest region that lists a rule closes, the rule ends what it has pending, and nothing
that it has found reaches below the last line that the region folds. -/
theorem stop_le_of_closesAt {v index : Nat} {x : OpenEntry} {rule : Rule} {c : RuleId}
    (hcl : rules.ClosesAt lines v index x) (hr : rules.rule? x.rule = some rule)
    (hx : c ∈ x.listed rules) (ht : c ∉ rules.topLevel)
    (hb : ∀ y ∈ (rules.run lines v).state.stack.toList.take index, c ∉ y.listed rules) :
    ((rules.run lines (v + 1)).state.Pending fun id _ _ => id ≠ c) ∧
      ∀ e ∈ (rules.run lines (v + 1)).state.events.toList, e.rule = c → e.stop ≤
        if rule.foldLastLine then (rules.run lines v).begun - 1
        else (rules.run lines v).begun - 1 - 1 := by
  have hv := rules.valid_run lines v
  have hmem := getElem?_of_closesAt hcl
  have hlt := (List.getElem?_eq_some_iff.mp hmem).1
  have hpast := rules.past_lt_begun lines v
  rw [state_of_closesAt hcl]
  obtain ⟨hit, _, _, hx'⟩ := hcl
  obtain ⟨hpend, hpast', more, hcur, hmore⟩ :=
    ScanState.closeRegion_spec (rules.run lines v).state.pending_true
      ((rules.run lines v).begun - 1) hx' hr
  have hleft : c ∈ ScanState.outOfReach rules
      ((rules.run lines v).state.stack.scope rules).reachable
      (ScanState.closedStack rules rule.pairing (rules.run lines v).state.stack index) := by
    rw [hi x.rule rule hr, ScanState.outOfReach, List.mem_filter]
    have hbelow := (hv.below (by simpa using hlt)).reachable_eq hw.top.nodup
    refine ⟨?_, ?_⟩
    · rw [hv.reachable_eq hw.top.nodup]
      exact Scope.mem_listing.mpr (.inl ⟨x, List.mem_of_getElem? hmem, hx⟩)
    · rw [ScanState.closedStack, hbelow, Stack.toList_below]
      simp only [Bool.not_eq_true', List.contains_eq_mem, decide_eq_false_iff_not,
        Scope.mem_listing, not_or, not_exists, not_and]
      exact ⟨hb, ht⟩
  refine ⟨hpend.imp fun hne heq => hne.2 (heq ▸ hleft), ?_⟩
  intro e he hec
  rw [ScanState.toList_events, hpast', hcur] at he
  rcases List.mem_append.mp he with he | he
  · have hstop := hpast e he
    split <;> omega
  · rcases List.mem_append.mp he with he | he
    · obtain ⟨old, _, rfl⟩ := List.mem_map.mp he
      have hrule : old.rule = c := by
        rw [← hec]
        exact ((Event.trims_cut (Nat.le_succ _) _ old).rule_eq).symm
      exact Event.stop_cut_le (hrule ▸ hleft) _
    · exact (hmore e he).limited _ rfl

/-- What a rule finds inside the lowest region that lists it ends not below the last line that the
region folds when it closes. -/
theorem nested_stop_le {n k v index : Nat} {e : Event} {x : OpenEntry} {rule : Rule}
    (he : (rules.scan lines)[n]? = some e) (hb : rules.RegionBegins lines n k)
    (ht : e.rule ∉ rules.topLevel)
    (hl : (rules.run lines k).state.stack.lister? rules e.rule = some x)
    (hcl : rules.ClosesAt lines v index x) (hr : rules.rule? x.rule = some rule) :
    e.stop ≤ if rule.foldLastLine then (rules.run lines v).begun - 1
      else (rules.run lines v).begun - 1 - 1 := by
  obtain ⟨hx, below, above, hstack, hnot⟩ := Stack.lister?_eq_some hl
  have hk : (rules.run lines k).state.stack.toList[below.length]? = some x := by simp [hstack]
  -- The region is closed where it was when the nested one began, above the same entries.
  obtain ⟨rfl, hsame⟩ := stack_eq_of_mem hi hk (getElem?_of_closesAt hcl)
  have htake : (rules.run lines v).state.stack.toList.take below.length = below := by
    have htake' := congrArg (List.take below.length) hsame
    simpa [List.take_take, hstack] using htake'
  obtain ⟨hpend, hstop⟩ := stop_le_of_closesAt hi hw hcl hr hx ht (htake.symm ▸ hnot)
  -- The nested region is reported by then.
  have hn : n < (rules.run lines (v + 1)).state.events.toList.length := by
    rcases hb with ⟨t, i, y, ho, hc, rfl⟩ | ⟨e', he', hd, hline⟩
    · obtain ⟨k', hkt, ho', hlen, hbelow⟩ := exists_opensAt hi (getElem?_of_closesAt hc)
      obtain rfl := opensAt_unique ho ho'
      have hlt := (List.getElem?_eq_some_iff.mp hk).1
      have hxt : (rules.run lines t).state.stack.toList[below.length]? = some x := by
        have hidx := congrArg (fun l => l[below.length]?) (hbelow t hkt (Nat.le_refl t))
        rw [List.getElem?_append_left hlt, hk, List.getElem?_take, if_pos (by omega)] at hidx
        exact hidx
      have hle := le_of_closesAt hcl hxt
      have hne : t ≠ v := by
        rintro rfl
        have hidx := closesAt_unique hc hcl
        omega
      obtain ⟨q, hq, _⟩ := Moment.closing_next (next_of_closesAt hc) (rules.wf_run lines t)
        (closing_of_closesAt hc)
      obtain ⟨q', hq', _⟩ := trims_run (show t + 1 ≤ v + 1 by omega) hq
      exact (List.getElem?_eq_some_iff.mp hq').1
    · have heq : e' = e := Option.some.inj (he'.symm.trans he)
      subst heq
      have hle := le_of_closesAt hcl hk
      have hbegun := begun_of_closesAt hcl
      apply Nat.lt_of_not_le
      intro hge
      have hfirst := begun_le_start hd hpend (by simpa using hge) he rfl
      obtain ⟨hj, hj'⟩ := hline
      have hne : k ≠ v := by
        rintro rfl
        omega
      have hmono := rules.begun_le_run lines (show k + 1 ≤ v by omega)
      omega
  obtain ⟨old, hold⟩ : ∃ old, (rules.run lines (v + 1)).state.events.toList[n]? = some old :=
    ⟨_, List.getElem?_eq_getElem hn⟩
  obtain ⟨e', he', hrule, _, hle⟩ := scan_of_run hold
  have heq : e' = e := Option.some.inj (he'.symm.trans he)
  subst heq
  exact Nat.le_trans hle (hstop old (List.mem_of_getElem? hold) hrule.symm)

end

/-- Whether the event of a region that closed in line `l` folds a nested range that it reaches: it
does unless it was cut and the range reaches down to that line. -/
theorem contains_iff_of_closedIn {id : RuleId} {first l lastLine : Nat} {q : Event} {rule : Rule}
    {r : FoldRange} (hq : q.ClosedIn id first l) (hr : rules.rule? id = some rule)
    (hfirst : first ≤ r.start) (hlt : r.start < r.stop)
    (hstop : r.stop ≤ if rule.foldLastLine then l else l - 1) (hl : l ≤ lastLine) :
    (∃ R, rules.range? lastLine q = some R ∧ R.contains r = true) ↔
      ¬ (q.closed = false ∧ r.stop = l) := by
  rw [exists_range_contains (hq.rule_eq ▸ hr) hlt, hq.start_eq, foldedStop]
  rcases hq with rfl | ⟨hpos, rfl⟩
  · cases hf : rule.foldLastLine <;> simp [hf] at hstop ⊢ <;> omega
  · have hle : r.stop ≤ l := by split at hstop <;> omega
    simp only [Bool.false_and, Bool.false_eq_true, if_false, true_and]
    omega

/-- In a set without rules that leave inner regions open, every event of a nested rule has a
moment at which its region begins and then a lowest open region that lists its rule. If that
region is closed by its end, its event is in the scan, and its range is around the range of the
nested rule, unless the outer event was cut and the nested range reaches down to the line in which
the outer region closed. -/
theorem nested_range_inside_iff (language : Language) (specific wildcard : List RuleEntry)
    (lines : List Line) :
    let rules := (RuleSet.compile language specific wildcard).1
    (∀ rule ∈ rules.rules.toList, rule.pairing = .innermost) →
    ∀ (n : Nat) (e : Event) (r : FoldRange), (rules.scan lines)[n]? = some e →
      e.rule ∉ rules.topLevel → rules.range? (lines.length - 1) e = some r →
      (∃ k, rules.RegionBegins lines n k) ∧
        ∀ k, rules.RegionBegins lines n k →
          ∃ x, (rules.run lines k).state.stack.lister? rules e.rule = some x ∧
            ∀ v index, rules.ClosesAt lines v index x →
              ∃ q, (rules.scan lines)[(rules.run lines v).state.events.size]? = some q ∧
                q.rule = x.rule ∧ q.start = x.line ∧
                ((∃ R, rules.range? (lines.length - 1) q = some R ∧ R.contains r = true) ↔
                  ¬ (q.closed = false ∧ r.stop + 1 = (rules.run lines v).begun)) := by
  intro rules hinner n e r he ht hrange
  have hw : rules.WF := RuleSet.wf_compile language specific wildcard
  have hi : ∀ id rule, rules.rule? id = some rule → rule.pairing = .innermost :=
    fun id rule hr => hinner rule (Array.mem_toList_iff.mpr (Array.mem_of_getElem? hr))
  refine ⟨exists_regionBegins hi he, fun k hb => ?_⟩
  obtain ⟨hact, hbegun⟩ := active_of_regionBegins he hb
  have hlisting := (rules.valid_run lines k).mem_listing_of_mem_active hw.top.nodup hact
  obtain ⟨x, hx⟩ := Stack.exists_lister hlisting ht
  refine ⟨x, hx, fun v index hcl => ?_⟩
  obtain ⟨q, hq, hclosed⟩ := closedIn_scan hcl
  refine ⟨q, hq, hclosed.rule_eq, hclosed.start_eq, ?_⟩
  obtain ⟨rule, hr, _⟩ := (rules.wf_state lines _).delimited _ (mem_of_closesAt hcl)
  obtain ⟨hstart, hstop, hlt⟩ := range?_spec hrange
  have hmem : x ∈ (rules.run lines k).state.stack.toList := List.mem_of_find?_eq_some hx
  obtain ⟨i, hxi⟩ := List.mem_iff_getElem?.mp hmem
  have hline := line_lt_begun (List.mem_of_getElem? hxi)
  have hbv := (begun_of_closesAt hcl).2
  have hlen := rules.begun_add_rest lines v
  rw [contains_iff_of_closedIn hclosed hr (by omega) hlt
    (Nat.le_trans hstop (nested_stop_le hi hw he hb ht hx hcl hr)) (by omega)]
  have hsucc : r.stop = (rules.run lines v).begun - 1 ↔ r.stop + 1 = (rules.run lines v).begun := by
    omega
  rw [hsucc]

end RuleSet

/-- Rules three deep, the outermost of which does not fold its last line. -/
def threeDeep : RuleSet :=
  (RuleSet.compile ⟨"test"⟩
    [.rule { opening := some "<<", closing := some ">>", foldLastLine := some false }
      (.rules (.one (.rule { opening := some "(", closing := some ")" }
        (.rules (.one (.rule { opening := some "[", closing := some "]" } .unset))))))] []).1

/-- A document in which the innermost region closes one line above the other two. -/
def twoTogether : List Line :=
  [['<', '<'], ['('], ['['], ['x'], [']'], [')', ' ', '>', '>']]

/-- The event of the middle region is cut, but its range is around that of the innermost one. -/
theorem nested_range_of_twoTogether :
    (∀ rule ∈ threeDeep.rules.toList, rule.pairing = .innermost) ∧
      threeDeep.scan twoTogether = [⟨2, 2, 4, true⟩, ⟨1, 1, 4, false⟩, ⟨0, 0, 5, true⟩] ∧
      2 ∉ threeDeep.topLevel ∧ threeDeep.range? 5 ⟨2, 2, 4, true⟩ = some ⟨2, 4, .region⟩ ∧
      threeDeep.RegionBegins twoTogether 0 7 ∧
      ∃ x, (threeDeep.run twoTogether 7).state.stack.lister? threeDeep 2 = some x ∧
        threeDeep.ClosesAt twoTogether 15 1 x ∧
        ∃ q, (threeDeep.scan twoTogether)[(threeDeep.run twoTogether 15).state.events.size]? =
            some q ∧
          ∃ R, threeDeep.range? 5 q = some R ∧ R.contains ⟨2, 4, .region⟩ = true := by
  have hbegins : threeDeep.RegionBegins twoTogether 0 7 :=
    .inl ⟨12, 2, _, rfl, ⟨⟨0, 1, .close 2⟩, by decide +kernel, rfl, rfl⟩, by decide +kernel⟩
  have hsame : (threeDeep.run twoTogether 15).state.stack[1]? =
      (threeDeep.run twoTogether 7).state.stack.lister? threeDeep 2 := rfl
  obtain ⟨_, hinside⟩ := RuleSet.nested_range_inside_iff ⟨"test"⟩ _ [] twoTogether
    (show ∀ rule ∈ threeDeep.rules.toList, rule.pairing = .innermost by decide +kernel) 0
    ⟨2, 2, 4, true⟩ ⟨2, 4, .region⟩ (by decide +kernel) (by decide +kernel) (by decide +kernel)
  obtain ⟨x, hx, hcloses⟩ := hinside 7 hbegins
  have hcl : threeDeep.ClosesAt twoTogether 15 1 x :=
    ⟨⟨0, 1, .close 1⟩, by decide +kernel, rfl, hsame.trans hx⟩
  obtain ⟨q, hq, _, _, hiff⟩ := hcloses 15 1 hcl
  refine ⟨by decide +kernel, by decide +kernel, by decide +kernel, by decide +kernel, hbegins,
    x, hx, hcl, q, hq, hiff.mpr ?_⟩
  rintro ⟨_, hstop⟩
  exact absurd hstop (by decide +kernel)

/-- A document in which the three regions close in one line. -/
def threeTogether : List Line :=
  [['<', '<'], ['('], ['['], ['x'], [']', ' ', ')', ' ', '>', '>']]

/-- If three regions close in one line and the outermost does not fold it, the event of the middle
one is cut at the line above. The innermost one, which the middle one lists, is not cut, and its
range reaches out of that of the middle one. -/
theorem nested_range_outside :
    (∀ rule ∈ threeDeep.rules.toList, rule.pairing = .innermost) ∧
      threeDeep.scan threeTogether = [⟨2, 2, 4, true⟩, ⟨1, 1, 3, false⟩, ⟨0, 0, 4, true⟩] ∧
      2 ∉ threeDeep.topLevel ∧ threeDeep.RegionBegins threeTogether 0 7 ∧
      (∃ x, (threeDeep.run threeTogether 7).state.stack.lister? threeDeep 2 = some x ∧
        threeDeep.ClosesAt threeTogether 13 1 x) ∧
      (threeDeep.run threeTogether 13).state.events.size = 1 ∧
      threeDeep.range? 4 ⟨2, 2, 4, true⟩ = some ⟨2, 4, .region⟩ ∧
      threeDeep.range? 4 ⟨1, 1, 3, false⟩ = some ⟨1, 3, .region⟩ ∧
      FoldRange.contains ⟨1, 3, .region⟩ ⟨2, 4, .region⟩ = false := by
  refine ⟨by decide +kernel, by decide +kernel, by decide +kernel,
    .inl ⟨12, 2, _, rfl, ⟨⟨0, 1, .close 2⟩, by decide +kernel, rfl, rfl⟩, by decide +kernel⟩,
    ⟨_, rfl, ⟨2, 3, .close 1⟩, by decide +kernel, rfl, rfl⟩, by decide +kernel, by decide +kernel,
    by decide +kernel, by decide +kernel⟩

end CodeFold
