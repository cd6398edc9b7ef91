import CodeFold.Proofs.Append
import CodeFold.Proofs.Places

/-!
# Openings and closings balance

A closing takes the innermost entry with its key off the stack, alone or with all above it, and
reports its region. So the entries that have opened are those whose regions are reported, those that
were given up by a closing below them, and those that are still open. Every region that is reported
was opened by one step, and a step opens at most one region that is reported.
Specification: §4.2.
-/

namespace CodeFold

/-- Between the opening of an entry and a place in the same line something stands that is not white
space. -/
theorem OpenEntry.exists_not_blank {entry : OpenEntry} {lineNo start : Nat} {line : Line}
    (h : entry.onlyBlankBefore lineNo line start = false) (hline : entry.line = lineNo)
    (hbody : entry.body ≤ start) :
    ∃ c ∈ Pattern.slice line (entry.body, start), isBlank c = false := by
  simpa [onlyBlankBefore, hline, hbody, allBlank] using h

/-- The end of an entry of a strict rule does not follow its opening after white space only. -/
theorem Rule.not_onlyBlankBefore_of_findClosingFrom {rule : Rule} (hs : rule.strict = true)
    {entry : OpenEntry} {lineNo : Nat} {line : Line} {fuel pos start stop : Nat}
    (h : rule.findClosingFrom entry lineNo line fuel pos = some (start, stop)) :
    entry.onlyBlankBefore lineNo line start = false := by
  induction fuel generalizing pos with
  | zero => cases h
  | succ fuel ih =>
    rw [findClosingFrom] at h
    cases hm : rule.closingMatch entry line pos with
    | none => simp [hm] at h
    | some found =>
      obtain ⟨start', stop'⟩ := found
      simp only [hm, hs, Bool.true_and] at h
      split at h
      · obtain ⟨next, _, hf⟩ := Option.bind_eq_some_iff.mp h
        exact ih hf
      · next hb =>
        cases h
        simpa using hb

namespace Moment

/-- What the step to `m'` does that handles a hit in which the entry at a position of the stack
closes. -/
structure Closing (rules : RuleSet) (m m' : Moment) (c : Cursor) (hit : Hit) (index : Nat)
    (x : OpenEntry) (rule : Rule) : Prop where
  entry : m.state.stack[index]? = some x
  known : rules.rule? x.rule = some rule
  delimited : rules.Delimited x.rule
  /-- The entry has a key, and no entry above it has the same one. -/
  key : ∃ key, x.key? rules = some key ∧
    ∀ j y, index < j → m.state.stack[j]? = some y → y.key? rules ≠ some key
  innermost : rule.pairing = .innermost →
    m'.state.stack.toList = m.state.stack.toList.take index
  /-- All other entries stay as they are, apart from their scopes. -/
  nearest : rule.pairing = .nearest →
    m'.state.stack.toList.map OpenEntry.bare =
      (m.state.stack.toList.eraseIdx index).map OpenEntry.bare
  /-- The region is reported behind the events so far; then the events of the line are cut whose
  rules are out of reach, and those rules report what they have pending. -/
  events : ∃ more : List Event, m'.state.events.toList = m.state.past.toList ++
      (m.state.current.toList ++ [Event.mk x.rule x.line c.lineNo true]).map
        (Event.cut
          (ScanState.outOfReach rules (m.state.stack.scope rules).reachable m'.state.stack)
          (if rule.foldLastLine then c.lineNo else c.lineNo - 1)) ++ more ∧
    ∀ e ∈ more, ¬ rules.Delimited e.rule
  /-- If the rule is strict and the entry opened in this line, something stands between its opening
  and the end. -/
  apart : rule.strict = true → x.line = c.lineNo →
    ∃ ch ∈ Pattern.slice c.line (x.body, hit.start), isBlank ch = false

/-- The number of entries that the next step opens. -/
def openings (rules : RuleSet) (m : Moment) : Nat :=
  match (m.hit? rules).map Hit.action with
  | some (.open_ _ _) => 1
  | _ => 0

/-- The number of entries that the next step gives up: those above an entry that it closes in the
way of innermost regions. -/
def givesUp (rules : RuleSet) (m : Moment) : Nat :=
  match (m.hit? rules).map Hit.action with
  | some (.close index) =>
    match (m.state.stack[index]?.bind fun x => rules.rule? x.rule).map Rule.pairing with
    | some .innermost => m.state.stack.size - index - 1
    | _ => 0
  | _ => 0

variable {rules : RuleSet} {m m' : Moment}

private theorem closing_of_hit (hm : m.WF) (hl : m.Laid) (hv : m.state.stack.Valid rules)
    (hd : ∀ x ∈ m.state.stack.toList, rules.Delimited x.rule)
    (hp : m.state.Pending fun id _ _ => ¬ rules.Delimited id) {c : Cursor} {hit : Hit} {index : Nat}
    (hc : m.cursor = some c) (hh : m.hit? rules = some hit) (ha : hit.action = .close index)
    (h : m.next? rules = some m') : ∃ x rule, Closing rules m m' c hit index x rule := by
  have hnext : m.state.stack.nextHit rules c.lineNo c.line c.pos = some hit := by
    simpa [hit?, hc] using hh
  have hm' : m'.state = m.state.closeRegion rules c.lineNo index := by
    simp only [next?, hc, hnext, Option.some.injEq] at h
    rw [← h]
    simp only [ScanState.handle, ha]
  rcases Stack.nextHit_cases hnext with ⟨key, index', hmem, hcl⟩ | ⟨id, _, ho⟩
  · obtain ⟨x, rule, hx, hr, hf, ha'⟩ := Stack.closingHit_eq_some hcl
    obtain rfl : index' = index := Action.close.inj (ha'.symm.trans ha)
    have hstack : m'.state.stack =
        ScanState.closedStack rules rule.pairing m.state.stack index' := by
      rw [hm', ScanState.stack_closeRegion hx hr]
    refine ⟨x, rule, hx, hr, ?_, ?_, ?_, ?_, ?_, ?_⟩
    · exact hd x (Array.mem_toList_iff.mpr (Array.mem_of_getElem? hx))
    · obtain ⟨⟨x', hx', hk⟩, habove⟩ := hv.highest_of_mem_ends hmem
      rw [Array.getElem?_toList, hx, Option.some.injEq] at hx'
      subst hx'
      refine ⟨key, hk, fun j y hj hy => habove j y hj ?_⟩
      rwa [Array.getElem?_toList]
    · intro hpair
      rw [hstack, hpair]
      exact Stack.toList_below _ _
    · intro hpair
      rw [hstack, hpair]
      exact Stack.bare_removeAt _ _ _
    · obtain ⟨_, hpast, more, hcur, hmore⟩ := ScanState.closeRegion_spec hp c.lineNo hx hr
      refine ⟨more, ?_, ?_⟩
      · rw [hstack, hm', ScanState.toList_events, hpast, hcur, ← List.append_assoc]
      · intro e he
        obtain ⟨_, _, hnd⟩ := (hmore e he).pending
        exact hnd
    · intro hs hline
      have hmem : x ∈ m.state.stack.toList := Array.mem_toList_iff.mpr (Array.mem_of_getElem? hx)
      have hbody := hl.body_le hm hc hmem hline
      have hlo := (Stack.inside_nextHit hnext).lo_le
      exact OpenEntry.exists_not_blank (Rule.not_onlyBlankBefore_of_findClosingFrom hs hf) hline
        (by omega)
  · obtain ⟨_, _, _, _, rfl⟩ := Stack.openingHit_eq_some ho
    cases ha

/-- A step adds the events of the region that it closes and of rules on whole lines, and changes no
event but in its end. -/
theorem countP_next (hm : m.WF) (hp : m.state.Pending fun id _ _ => ¬ rules.Delimited id)
    (hown : ∀ own, m.closing? rules = some own → rules.Delimited own.rule)
    (h : m.next? rules = some m') :
    m'.state.events.toList.countP (fun e => rules.Delimited e.rule) =
      m.state.events.toList.countP (fun e => rules.Delimited e.rule) +
        (m.closing? rules).toList.length := by
  obtain ⟨_, left, last, more, hev, _, hmore⟩ := cut_next h hm hp (fun _ _ _ _ hx => hx)
    fun _ _ _ _ hr hk => RuleSet.not_delimited hr hk
  have hzero : more.countP (fun e => decide (rules.Delimited e.rule)) = 0 := by
    apply List.countP_eq_zero.mpr
    intro e he
    obtain ⟨_, _, hnd⟩ := (hmore e he).pending
    simpa using hnd
  have hclosing : (m.closing? rules).toList.countP (fun e => decide (rules.Delimited e.rule)) =
      (m.closing? rules).toList.length := by
    apply List.countP_eq_length.mpr
    intro own ho
    simpa using hown own (Option.mem_toList.mp ho)
  have hcut (e : Event) : (e.cut left last).rule = e.rule :=
    (Event.trims_cut (Nat.zero_le _) left e).rule_eq
  rw [hev, ScanState.toList_events]
  simp only [List.countP_append, List.countP_map, Function.comp_def, hcut, hzero, hclosing]
  omega

/-- A step balances what it opens, reports and gives up with the change of the stack. -/
theorem openings_add_size (h : m.next? rules = some m') :
    m.openings rules + m.state.stack.size =
      (m.closing? rules).toList.length + m.givesUp rules + m'.state.stack.size := by
  rcases stack_next h with
    ⟨c, hit, x, ho, ha, _, hs⟩ | ⟨c, hit, index, x, rule, hc, hh, ha, hx, hr, hs⟩ | ⟨hs, hno⟩
  · have hsize := congrArg List.length hs
    rw [List.length_append, Array.length_toList, Array.length_toList] at hsize
    simp only [openings, givesUp, closing?, ho.place, ho.found, ha, Option.map_some,
      Option.bind_some, Option.toList_none, List.length_nil, List.length_singleton] at hsize ⊢
    omega
  · have hlt := (Array.getElem?_eq_some_iff.mp hx).1
    have hbare := congrArg Array.size hs
    simp only [openings, givesUp, closing?, hc, hh, ha, hx, hr, Option.map_some, Option.bind_some,
      Option.toList_some, List.length_singleton]
    cases hpair : rule.pairing with
    | innermost =>
      rw [hpair] at hbare
      simp only [ScanState.closedStack, Stack.below, Array.size_extract] at hbare
      dsimp only
      omega
    | nearest =>
      have hremoved := congrArg List.length (Stack.bare_removeAt rules m.state.stack index)
      simp only [List.length_map, Array.length_toList, List.length_eraseIdx, hlt, if_true]
        at hremoved
      rw [hpair] at hbare
      simp only [ScanState.closedStack] at hbare
      dsimp only
      omega
  · have hnone : m.hit? rules = none := Option.eq_none_iff_forall_ne_some.mpr hno
    have hclosing : m.closing? rules = none := by
      cases hc : m.cursor with
      | none => simp [closing?, hc]
      | some c => simp [closing?, hc, hnone]
    simp [openings, givesUp, hnone, hclosing, hs]

end Moment

namespace RuleSet

variable {rules : RuleSet} {lines : List Line}

/-- The number of entries that open before a moment. -/
def opened (rules : RuleSet) (lines : List Line) : Nat → Nat
  | 0 => 0
  | k + 1 => rules.opened lines k + (rules.run lines k).openings rules

/-- The number of entries that are given up before a moment. -/
def givenUp (rules : RuleSet) (lines : List Line) : Nat → Nat
  | 0 => 0
  | k + 1 => rules.givenUp lines k + (rules.run lines k).givesUp rules

/-- At every moment the entries that have opened are those that are reported, those that were given
up and those on the stack. -/
theorem opened_eq (rules : RuleSet) (lines : List Line) (k : Nat) :
    rules.opened lines k =
      (rules.run lines k).state.events.toList.countP (fun e => rules.Delimited e.rule) +
        rules.givenUp lines k + (rules.run lines k).state.stack.size := by
  induction k with
  | zero => simp [opened, givenUp, run, Moment.after, Moment.start, ScanState.start, ScanState.events]
  | succ k ih =>
    cases hn : (rules.run lines k).next? rules with
    | none =>
      have hnone : (rules.run lines k).hit? rules = none := by
        cases hh : (rules.run lines k).hit? rules with
        | none => rfl
        | some hit => simp [next_of_hit hh] at hn
      have heq : rules.run lines (k + 1) = rules.run lines k := run_succ_of_end hn
      rw [opened, givenUp, heq, ih]
      simp [Moment.openings, Moment.givesUp, hnone]
    | some m =>
      have hstep := Moment.openings_add_size hn
      have hcount := Moment.countP_next (rules.wf_run lines k) (rules.pending_not_delimited lines k)
        (fun _ => delimited_of_closing) hn
      rw [run_succ hn, opened, givenUp, hcount]
      omega

/-- The step after moment `k` opens a region that is reported as the event with number `n`. -/
def Reports (rules : RuleSet) (lines : List Line) (k n : Nat) : Prop :=
  ∃ x t index, rules.Opens lines k x ∧ rules.ClosesAt lines t index x ∧
    (rules.run lines t).state.events.size = n

/-- Closings come one after the other in the events. -/
theorem closesAt_of_size {t t' index index' : Nat} {x y : OpenEntry}
    (h : rules.ClosesAt lines t index x) (h' : rules.ClosesAt lines t' index' y)
    (hs : (rules.run lines t).state.events.size = (rules.run lines t').state.events.size) :
    t = t' := by
  have hlt {t u index : Nat} {x : OpenEntry} (h : rules.ClosesAt lines t index x) (htu : t < u) :
      (rules.run lines t).state.events.size < (rules.run lines u).state.events.size := by
    obtain ⟨e, he, _⟩ :=
      Moment.closing_next (next_of_closesAt h) (rules.wf_run lines t) (closing_of_closesAt h)
    obtain ⟨e', he', _⟩ := trims_run (show t + 1 ≤ u from htu) he
    simpa using (List.getElem?_eq_some_iff.mp he').1
  rcases Nat.lt_trichotomy t t' with htt | heq | htt
  · have := hlt h htt
    omega
  · exact heq
  · have := hlt h' htt
    omega

/-- A region that is reported was opened by one step. -/
theorem existsUnique_reports {n : Nat} {e : Event} (he : (rules.scan lines)[n]? = some e)
    (hd : rules.Delimited e.rule) : ∃! k, rules.Reports lines k n := by
  obtain ⟨t, index, x, hcl, hn⟩ := exists_closesAt he hd
  obtain ⟨k, _, ho⟩ := exists_opens (mem_of_closesAt hcl)
  refine ⟨k, ⟨x, t, index, ho, hcl, hn⟩, ?_⟩
  rintro k' ⟨x', t', index', ho', hcl', hn'⟩
  obtain rfl := closesAt_of_size hcl hcl' (hn.trans hn'.symm)
  obtain rfl := closesAt_unique hcl hcl'
  have hx := (getElem?_of_closesAt hcl').symm.trans (getElem?_of_closesAt hcl)
  exact opens_unique ho' ho (by rw [Option.some.inj hx])

/-- A step opens one region, and that is reported once at most. -/
theorem reports_unique {k n n' : Nat} (h : rules.Reports lines k n)
    (h' : rules.Reports lines k n') : n = n' := by
  obtain ⟨x, t, index, ho, hcl, rfl⟩ := h
  obtain ⟨x', t', index', ho', hcl', rfl⟩ := h'
  obtain ⟨c, hit, hc, hh, _, hline, hcol, _⟩ := ho
  obtain ⟨c', hit', hc', hh', _, hline', hcol', _⟩ := ho'
  obtain rfl : c = c' := Option.some.inj (hc.symm.trans hc')
  obtain rfl : hit = hit' := Option.some.inj (hh.symm.trans hh')
  have hplace : x.place = x'.place := by
    rw [OpenEntry.place, OpenEntry.place, hline, hline', hcol, hcol']
  rw [closesAt_of_place hcl hcl' hplace]

/-- Wherever a scan handles an end, the entry that closes is the innermost one with its key; it is
taken off with all above it or alone, as its rule says, and its region is reported. Over a whole scan
the entries that open are as many as the events of rules with delimiters, the entries that are given
up and those that stay open together; every such event reports a region that one step opened, and no
step opens a region that is reported twice. -/
theorem closings_balance (rules : RuleSet) (lines : List Line) :
    (∀ k c hit index, (rules.run lines k).cursor = some c →
      (rules.run lines k).hit? rules = some hit → hit.action = .close index →
      ∃ x rule, Moment.Closing rules (rules.run lines k) (rules.run lines (k + 1)) c hit index x
        rule) ∧
    (∃ k, (rules.run lines k).next? rules = none) ∧
    (∀ k, (rules.run lines k).next? rules = none →
      rules.opened lines k = (rules.delimitedEvents lines).length + rules.givenUp lines k +
        (rules.run lines k).state.stack.size) ∧
    (∀ n e, (rules.scan lines)[n]? = some e → rules.Delimited e.rule →
      ∃! k, rules.Reports lines k n) ∧
    ∀ k n n', rules.Reports lines k n → rules.Reports lines k n' → n = n' := by
  refine ⟨?_, ?_, ?_, fun n e => existsUnique_reports, fun k n n' => reports_unique⟩
  · intro k c hit index hc hh ha
    exact Moment.closing_of_hit (rules.wf_run lines k) (rules.laid_run lines k)
      (rules.valid_run lines k) (rules.wf_state lines k).delimited
      (rules.pending_not_delimited lines k) hc hh ha (next_of_hit hh)
  · obtain ⟨k, _, hend, _⟩ := rules.scan_eq_finish lines 0
    exact ⟨k, hend⟩
  · intro k hend
    rw [opened_eq, delimitedEvents_of_end hend, List.countP_eq_length_filter]

end RuleSet

/-- Parentheses, of which an empty pair is no region, and brackets, which close alone. -/
def parensAndBrackets : RuleSet :=
  (RuleSet.compile ⟨"test"⟩
    [.rule { opening := some "(", closing := some ")", strict := some true } .unset,
      .rule { opening := some "[", nearestClosingRegex := some "\\]" } .unset] []).1

/-- A document in which brackets and parentheses cross. -/
def crossedBrackets : List Line := Line.split "([(] x)\n[ ) ("

/-- The first bracket closes below a parenthesis, which stays open. Of the five entries three are
reported, the second bracket is given up and the last parenthesis stays open. -/
theorem closings_balance_of_crossedBrackets :
    (∃ hit x rule, (parensAndBrackets.run crossedBrackets 4).hit? parensAndBrackets = some hit ∧
      hit.action = .close 1 ∧
      Moment.Closing parensAndBrackets (parensAndBrackets.run crossedBrackets 4)
        (parensAndBrackets.run crossedBrackets 5) ⟨0, "([(] x)".toList, 3⟩ hit 1 x rule) ∧
      (parensAndBrackets.run crossedBrackets 12).next? parensAndBrackets = none ∧
      parensAndBrackets.opened crossedBrackets 12 = 3 + 1 + 1 ∧
      (parensAndBrackets.scan crossedBrackets)[2]? = some ⟨0, 0, 1, true⟩ ∧
      ∃! k, parensAndBrackets.Reports crossedBrackets k 2 := by
  obtain ⟨hclosing, _, hbalance, hreports, _⟩ :=
    parensAndBrackets.closings_balance crossedBrackets
  have hhit : (parensAndBrackets.run crossedBrackets 4).hit? parensAndBrackets =
      some ⟨3, 4, .close 1⟩ := by decide +kernel
  have hend : (parensAndBrackets.run crossedBrackets 12).next? parensAndBrackets = none := rfl
  have hevent : (parensAndBrackets.scan crossedBrackets)[2]? = some ⟨0, 0, 1, true⟩ := by
    decide +kernel
  obtain ⟨x, rule, hx⟩ := hclosing 4 ⟨0, "([(] x)".toList, 3⟩ _ 1 rfl hhit rfl
  refine ⟨⟨_, x, rule, hhit, rfl, hx⟩, hend, ?_, hevent, hreports 2 _ hevent (by decide +kernel)⟩
  have hdel : (parensAndBrackets.delimitedEvents crossedBrackets).length = 3 := by decide +kernel
  have hgiven : parensAndBrackets.givenUp crossedBrackets 12 = 1 := by decide +kernel
  have hopen : (parensAndBrackets.run crossedBrackets 12).state.stack.size = 1 := by
    decide +kernel
  rw [hbalance 12 hend, hdel, hgiven, hopen]

end CodeFold
