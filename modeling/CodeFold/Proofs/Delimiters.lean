import CodeFold.Proofs.Regions
import CodeFold.Proofs.Translation

/-!
# Rules on whole lines do not matter to delimiters

Rules on whole lines neither open nor close regions, and what they have pending touches no event of
another rule. So if they are taken out of all lists, a scan goes through the same stacks, up to the
lists in the scopes, and reports the same regions of rules with delimiters.
-/

namespace CodeFold

/-- Keeps some of the rules that a nesting lists. -/
def Nesting.filter (keep : RuleId → Bool) : Nesting → Nesting
  | .rules ids => .rules (ids.filter keep)
  | nesting => nesting

/-- Keeps some of the rules of a scope; ends are looked for as before. -/
def Scope.filter (keep : RuleId → Bool) (s : Scope) : Scope where
  active := s.active.filter keep
  reachable := s.reachable.filter keep
  ends := s.ends

private theorem prepend_filter (keep : RuleId → Bool) (ids rest : List RuleId) :
    prepend (ids.filter keep) (rest.filter keep) = (prepend ids rest).filter keep := by
  rw [prepend, ← List.filter_append, unique_filter, prepend]

private theorem Scope.filter_enter (keep : RuleId → Bool) (below : Scope) (rule : Rule)
    (key : Option EndKey) (index : Nat) :
    (below.enter rule key index).filter keep =
      (below.filter keep).enter { rule with nesting := rule.nesting.filter keep } key index := by
  unfold enter filter enterEnds
  cases rule.nesting with
  | inherit => rfl
  | sealed => rfl
  | rules ids => simp only [Nesting.filter, prepend_filter]

namespace RuleSet

/-- Whether a rule looks at lines as a whole. -/
def isLineRule (rules : RuleSet) (id : RuleId) : Bool :=
  (rules.rule? id).any (!·.kind.isDelimited)

/-- The same rules under the same numbers, but those on whole lines hold nowhere. -/
def withoutLineRules (rules : RuleSet) : RuleSet where
  language := rules.language
  rules := rules.rules.map fun rule =>
    { rule with nesting := rule.nesting.filter (!rules.isLineRule ·) }
  topLevel := rules.topLevel.filter (!rules.isLineRule ·)

instance (rules : RuleSet) : DecidablePred rules.Delimited := fun id =>
  decidable_of_iff ((rules.rule? id).any (·.kind.isDelimited) = true)
    (by simp [Delimited, Option.any_eq_true])

/-- The events of rules with delimiters. -/
def delimitedEvents (rules : RuleSet) (lines : List Line) : List Event :=
  (rules.scan lines).filter fun e => rules.Delimited e.rule

variable {rules : RuleSet}

private theorem rule?_withoutLineRules (rules : RuleSet) (id : RuleId) :
    rules.withoutLineRules.rule? id = (rules.rule? id).map fun rule =>
      { rule with nesting := rule.nesting.filter (!rules.isLineRule ·) } :=
  Array.getElem?_map

private theorem isLineRule_withoutLineRules (rules : RuleSet) (id : RuleId) :
    rules.withoutLineRules.isLineRule id = rules.isLineRule id := by
  unfold isLineRule
  rw [rule?_withoutLineRules]
  cases rules.rule? id <;> rfl

private theorem not_isLineRule {id : RuleId} (h : rules.Delimited id) :
    rules.isLineRule id = false := by
  obtain ⟨rule, hr, hk⟩ := h
  simp [isLineRule, hr, hk]

/-- A known rule has delimiters or looks at lines as a whole. -/
theorem delimited_iff {id : RuleId} {rule : Rule} (hr : rules.rule? id = some rule) :
    rules.Delimited id ↔ rules.isLineRule id = false := by
  constructor
  · exact not_isLineRule
  · intro h
    exact ⟨rule, hr, by simpa [isLineRule, hr] using h⟩

/-- Only rules on whole lines have anything pending. -/
theorem pending_isLineRule (rules : RuleSet) (lines : List Line) (k : Nat) :
    (rules.run lines k).state.Pending fun id _ _ => rules.isLineRule id = true := by
  have hknown := (rules.known_run lines k).pending
  have hnot := rules.pending_not_delimited lines k
  have hline {id : RuleId} (hd : ¬ rules.Delimited id) (hk : ∃ rule, rules.rule? id = some rule) :
      rules.isLineRule id = true := by
    obtain ⟨rule, hr⟩ := hk
    rw [delimited_iff hr, Bool.not_eq_false] at hd
    exact hd
  exact ⟨fun x hx => hline (hnot.runs x hx) (hknown.runs x hx),
    fun x hx o ho => hline (hnot.blocks x hx o ho) (hknown.blocks x hx o ho)⟩

/-- A rule on whole lines opens nothing. -/
theorem openingHit_of_isLineRule {id : RuleId} (h : rules.isLineRule id = true) (line : Line)
    (pos : Nat) : Stack.openingHit rules line pos id = none := by
  cases ho : Stack.openingHit rules line pos id with
  | none => rfl
  | some hit =>
    obtain ⟨rule, om, hr, hfind, _⟩ := Stack.openingHit_eq_some ho
    have hd := not_isLineRule ⟨rule, hr, Moment.delimited_of_findOpening hfind⟩
    rw [h] at hd
    cases hd

/-- Taking out the rules on whole lines leads from stacks to stacks. -/
def dropLineRules (rules : RuleSet) : Translation rules rules.withoutLineRules where
  nesting := Nesting.filter (!rules.isLineRule ·)
  scope := Scope.filter (!rules.isLineRule ·)
  offset := 0
  rule?_eq := rules.rule?_withoutLineRules
  scope_base := rfl
  scope_enter := Scope.filter_enter _
  ends_scope _ := rfl
  openings_scope s l pos := by
    have hopen (id : RuleId) : Stack.openingHit rules.withoutLineRules l pos id =
        Stack.openingHit rules l pos id := by
      unfold Stack.openingHit
      rw [rule?_withoutLineRules]
      cases rules.rule? id <;> rfl
    simp only [Scope.filter, List.filterMap_filter, hopen]
    apply List.filterMap_congr
    intro id _
    split
    · rfl
    · next h => exact (openingHit_of_isLineRule (by simpa using h) l pos).symm

end RuleSet

/-! ### States with nothing pending -/

namespace ScanState

variable {rules : RuleSet} {s : ScanState}

/-- A state in which no rule has anything pending. -/
structure Idle (s : ScanState) : Prop where
  runs : s.runs = []
  blocks : s.blocks = []

private theorem Idle.closeRun (h : s.Idle) (limit : Option Nat) (id : RuleId) :
    s.closeRun limit id = s := by
  simp [ScanState.closeRun, h.runs]

private theorem Idle.flushBlocks (h : s.Idle) (limit : Option Nat) (id : RuleId) :
    s.flushBlocks limit id = s := by
  simp [ScanState.flushBlocks, h.blocks]

private theorem feedRule_of_not_isLineRule {id : RuleId} (h : rules.isLineRule id = false)
    (lineNo : Nat) (line : Line) (s : ScanState) : s.feedRule rules lineNo line id = s := by
  unfold feedRule
  cases hr : rules.rule? id with
  | none => rfl
  | some rule =>
    have hk : rule.kind.isDelimited = true := by simpa [RuleSet.isLineRule, hr] using h
    dsimp only
    cases hkind : rule.kind with
    | delimited opening closing => rfl
    | paired p => rfl
    | consecutive p => simp [hkind, RuleKind.isDelimited] at hk
    | indentation => simp [hkind, RuleKind.isDelimited] at hk

/-- If no active rule looks at lines as a whole and nothing is pending, nothing happens when a line
begins. -/
theorem Idle.feedLine (h : s.Idle)
    (ha : ∀ id ∈ (s.stack.scope rules).active, rules.isLineRule id = false) (lineNo : Nat)
    (line : Line) : s.feedLine rules lineNo line = s := by
  have hfed : (s.stack.scope rules).active.foldl (feedRule rules lineNo line) s = s := by
    refine List.foldlRecOn (motive := (· = s)) _ _ rfl ?_
    rintro _ rfl id hid
    exact feedRule_of_not_isLineRule (ha id hid) lineNo line _
  unfold ScanState.feedLine
  simp only [hfed, h.runs]
  rfl

/-- If nothing is pending, leaving a scope only cuts the events of the line. -/
theorem Idle.leaveScope (h : s.Idle) (before : List RuleId) (last : Nat) :
    s.leaveScope rules before last =
      { s with current := s.current.map (Event.cut (outOfReach rules before s.stack) last) } := by
  rw [leaveScope_eq]
  refine List.foldlRecOn (motive := (· = _)) _ _ rfl ?_
  rintro _ rfl id _
  have hidle : Idle { s with
      current := s.current.map (Event.cut (outOfReach rules before s.stack) last) } :=
    ⟨h.runs, h.blocks⟩
  rw [hidle.closeRun, hidle.flushBlocks]

/-- If nothing is pending, closing a region reports it and cuts the events of the line. -/
theorem Idle.closeRegion (h : s.Idle) (lineNo : Nat) {index : Nat} {entry : OpenEntry} {rule : Rule}
    (he : s.stack[index]? = some entry) (hr : rules.rule? entry.rule = some rule) :
    let left := outOfReach rules (s.stack.scope rules).reachable
      (closedStack rules rule.pairing s.stack index)
    let last := if rule.foldLastLine then lineNo else lineNo - 1
    let s' := s.closeRegion rules lineNo index
    s'.Idle ∧ s'.past = s.past ∧ s'.current.toList =
      (s.current.toList ++ [(⟨entry.rule, entry.line, lineNo, true⟩ : Event)]).map
        (Event.cut left last) := by
  intro left last s'
  have hidle : Idle ({ s with stack := closedStack rules rule.pairing s.stack index }.emit
      [⟨entry.rule, entry.line, lineNo, true⟩]) := ⟨h.runs, h.blocks⟩
  have hs' : s' = _ := (closeRegion_eq he hr).trans (hidle.leaveScope _ last)
  rw [hs']
  refine ⟨⟨h.runs, h.blocks⟩, rfl, ?_⟩
  dsimp only
  rw [Array.toList_map, toList_emit]
  rfl

/-- If nothing is pending, nothing is added at the end. -/
theorem Idle.finish (h : s.Idle) : s.finish = { s with stack := #[] } := by
  simp [ScanState.finish, h.runs, h.blocks, SortedMap.keys]

end ScanState

/-! ### Scanning with and without rules on whole lines -/

/-- The events of rules that do not look at lines as a whole. -/
def RuleSet.withDelimiters (rules : RuleSet) (events : List Event) : List Event :=
  events.filter fun e => !rules.isLineRule e.rule

namespace RuleSet

variable {rules : RuleSet}

private theorem withDelimiters_append (a b : List Event) :
    rules.withDelimiters (a ++ b) = rules.withDelimiters a ++ rules.withDelimiters b :=
  List.filter_append a b

/-- Ending what rules on whole lines have pending adds no event of another rule. -/
theorem withDelimiters_of_ending {limit : Option Nat} {more : List Event}
    (h : ∀ e ∈ more, e.Ending (fun id _ _ => rules.isLineRule id = true) limit) :
    rules.withDelimiters more = [] := by
  apply List.filter_eq_nil_iff.mpr
  intro e he
  obtain ⟨_, _, hline⟩ := (h e he).pending
  simp [hline]

/-- If two lists of rules agree on those that do not look at lines as a whole, the events of these
rules are cut in the same way. -/
theorem withDelimiters_map_cut {left left' : List RuleId}
    (h : ∀ id, rules.isLineRule id = false → (id ∈ left' ↔ id ∈ left)) (last : Nat)
    (events : List Event) :
    rules.withDelimiters (events.map (Event.cut left last)) =
      (rules.withDelimiters events).map (Event.cut left' last) := by
  have hrule (e : Event) : (e.cut left last).rule = e.rule := by
    unfold Event.cut
    split <;> rfl
  unfold withDelimiters
  rw [List.filter_map]
  simp only [Function.comp_def, hrule]
  apply List.map_congr_left
  intro e he
  have hline : rules.isLineRule e.rule = false := by simpa using (List.mem_filter.mp he).2
  simp only [Event.cut, List.contains_eq_mem, h e.rule hline]

end RuleSet

namespace ScanState

/-- What is left of a state when rules on whole lines hold nowhere. -/
structure Restricts (rules : RuleSet) (s s' : ScanState) : Prop where
  stack : s'.stack = rules.dropLineRules.stack s.stack
  idle : s'.Idle
  past : s'.past.toList = rules.withDelimiters s.past.toList
  current : s'.current.toList = rules.withDelimiters s.current.toList

variable {rules : RuleSet} {s s' : ScanState}

private theorem Restricts.events (h : Restricts rules s s') :
    s'.events.toList = rules.withDelimiters s.events.toList := by
  rw [toList_events, toList_events, h.past, h.current, RuleSet.withDelimiters_append]

private theorem Restricts.beginLine (h : Restricts rules s s')
    (hp : s.Pending fun id _ _ => rules.isLineRule id = true) (lineNo : Nat) (line : Line) :
    Restricts rules (s.beginLine rules lineNo line)
      (s'.beginLine rules.withoutLineRules lineNo line) := by
  have hactive : ∀ id ∈ (s'.stack.scope rules.withoutLineRules).active,
      rules.withoutLineRules.isLineRule id = false := by
    intro id hid
    rw [h.stack, rules.dropLineRules.scope_stack] at hid
    rw [rules.isLineRule_withoutLineRules]
    simpa using (List.mem_filter.mp hid).2
  have hidle : s'.settle.Idle := ⟨h.idle.runs, h.idle.blocks⟩
  have hbegin : s'.beginLine rules.withoutLineRules lineNo line = s'.settle :=
    hidle.feedLine hactive lineNo line
  have hends : Ends (fun id _ _ => rules.isLineRule id = true) none s.settle
      (s.beginLine rules lineNo line) :=
    ends_beginLine (fun _ _ _ hx => hx) line
      (fun id _ rule hr hk => by simp [RuleSet.isLineRule, hr, hk]) hp
  obtain ⟨_, _, more, hcur, hmore⟩ := hends
  rw [hbegin]
  refine ⟨?_, hidle, ?_, ?_⟩
  · rw [stack_beginLine]
    exact h.stack
  · rw [past_beginLine]
    exact h.events
  · rw [hcur, RuleSet.withDelimiters_append, RuleSet.withDelimiters_of_ending hmore]
    rfl

/-- Among the rules that do not look at lines as a whole the same ones are out of reach. -/
theorem mem_outOfReach_dropLineRules {id : RuleId} (h : rules.isLineRule id = false)
    (before : Scope) (stack : Stack) :
    id ∈ outOfReach rules.withoutLineRules (rules.dropLineRules.scope before).reachable
        (rules.dropLineRules.stack stack) ↔
      id ∈ outOfReach rules before.reachable stack := by
  unfold outOfReach
  rw [rules.dropLineRules.scope_stack]
  simp [RuleSet.dropLineRules, Scope.filter, h]

private theorem Restricts.closeRegion (h : Restricts rules s s')
    (hp : s.Pending fun id _ _ => rules.isLineRule id = true) (lineNo : Nat) {index : Nat}
    {entry : OpenEntry} {rule : Rule} (he : s.stack[index]? = some entry)
    (hr : rules.rule? entry.rule = some rule) (hd : rules.Delimited entry.rule) :
    Restricts rules (s.closeRegion rules lineNo index)
      (s'.closeRegion rules.withoutLineRules lineNo index) := by
  let T := rules.dropLineRules
  have he' : s'.stack[index]? = some (T.entry entry) := by
    rw [h.stack, T.getElem?_stack, he]
    rfl
  have hr' : rules.withoutLineRules.rule? (T.entry entry).rule = some (T.rule rule) :=
    T.rule?_of_some hr
  obtain ⟨_, hpast, more, hcur, hmore⟩ := closeRegion_spec hp lineNo he hr
  obtain ⟨hidle', hpast', hcur'⟩ := h.idle.closeRegion lineNo he' hr'
  refine ⟨T.stack_closeRegion s s' h.stack lineNo index, hidle', ?_, ?_⟩
  · rw [hpast', hpast]
    exact h.past
  · have hown : rules.withDelimiters [⟨entry.rule, entry.line, lineNo, true⟩] =
        [⟨entry.rule, entry.line, lineNo, true⟩] := by
      simp [RuleSet.withDelimiters, RuleSet.not_isLineRule hd]
    have hclosed : closedStack rules.withoutLineRules (T.rule rule).pairing (T.stack s.stack) index =
        T.stack (closedStack rules rule.pairing s.stack index) :=
      (T.stack_closedStack rule.pairing s.stack index).symm
    rw [h.stack, T.scope_stack, hclosed] at hcur'
    rw [hcur, RuleSet.withDelimiters_append, RuleSet.withDelimiters_of_ending hmore,
      List.append_nil, RuleSet.withDelimiters_map_cut fun id hid =>
        mem_outOfReach_dropLineRules hid (s.stack.scope rules) _,
      RuleSet.withDelimiters_append, hown, ← h.current]
    exact hcur'

private theorem Restricts.handle (h : Restricts rules s s') (hw : s.WF rules)
    (hp : s.Pending fun id _ _ => rules.isLineRule id = true) {lineNo pos : Nat} {line : Line}
    {hit : Hit} (hh : s.stack.nextHit rules lineNo line pos = some hit) :
    Restricts rules (s.handle rules lineNo hit)
      (s'.handle rules.withoutLineRules lineNo hit) := by
  unfold ScanState.handle
  rcases Stack.nextHit_cases hh with ⟨key, index, _, hc⟩ | ⟨id, hid, ho⟩
  · obtain ⟨entry, rule, he, hr, _, ha⟩ := Stack.closingHit_eq_some hc
    have hmem : entry ∈ s.stack.toList := Array.mem_toList_iff.mpr (Array.mem_of_getElem? he)
    rw [ha]
    exact h.closeRegion hp lineNo he hr (hw.delimited entry hmem)
  · obtain ⟨rule, om, hr, _, rfl⟩ := Stack.openingHit_eq_some ho
    exact ⟨rules.dropLineRules.stack_openRegion s s' h.stack lineNo _ id om.captures,
      ⟨h.idle.runs, h.idle.blocks⟩, h.past, h.current⟩

private theorem Restricts.finish (h : Restricts rules s s')
    (hp : s.Pending fun id _ _ => rules.isLineRule id = true) :
    s'.finish.events.toList = rules.withDelimiters s.finish.events.toList := by
  obtain ⟨_, hpast, more, hcur, hmore⟩ := ends_finish hp
  rw [h.idle.finish, toList_events s.finish, hpast, hcur, ← List.append_assoc, ← toList_events,
    RuleSet.withDelimiters_append, RuleSet.withDelimiters_of_ending hmore, List.append_nil]
  exact h.events

end ScanState

namespace RuleSet

variable (rules : RuleSet) (lines : List Line)

/-- A scan with rules on whole lines and one without them run in step. -/
theorem restricts_run (k : Nat) :
    Moment.InStep rules.dropLineRules (ScanState.Restricts rules) (rules.run lines k)
      (rules.withoutLineRules.run lines k) := by
  refine Moment.InStep.after ⟨rfl, rfl, rfl, Array.map_empty.symm, ⟨rfl, rfl⟩, rfl, rfl⟩ ?_ k
  intro j h
  have hw := rules.wf_state lines j
  have hp := rules.pending_isLineRule lines j
  refine h.next h.state.stack ?_ ?_
  · intro lineNo line pos hit hh
    exact h.state.handle hw hp hh
  · intro lineNo line
    exact h.state.beginLine hp lineNo line

/-- Without rules on whole lines a scan reports what it reported of other rules with them. -/
theorem scan_withoutLineRules :
    rules.withoutLineRules.scan lines = rules.withDelimiters (rules.scan lines) := by
  obtain ⟨k, hk⟩ := rules.run_end lines
  have hr := rules.restricts_run lines k
  have hend : (rules.run lines k).next? rules = none := by
    rw [hk]
    rfl
  rw [scan_eq_of_end hend, scan_eq_of_end (hr.next?_eq_none hend)]
  exact hr.state.finish (rules.pending_isLineRule lines k)

/-- Rules on whole lines do not matter to those with delimiters: taken out of the outermost rules and
of all lists of nested rules, they leave a scan that reports the same regions of rules with
delimiters, in the same order and cut in the same way, and nothing else. -/
theorem delimitedEvents_withoutLineRules :
    rules.withoutLineRules.delimitedEvents lines = rules.delimitedEvents lines ∧
      rules.withoutLineRules.scan lines = rules.delimitedEvents lines := by
  have hscan : rules.withoutLineRules.scan lines = rules.delimitedEvents lines := by
    rw [scan_withoutLineRules]
    apply List.filter_congr
    intro e he
    obtain ⟨rule, hr⟩ := found_scan (fun _ _ _ _ hx _ => hx) (rules.known_run lines) e he
    by_cases hline : rules.isLineRule e.rule = true <;> simp [delimited_iff hr, hline]
  refine ⟨?_, hscan⟩
  rw [delimitedEvents, hscan]
  apply List.filter_eq_self.mpr
  intro e he
  have hd : rules.Delimited e.rule := by simpa using (List.mem_filter.mp he).2
  obtain ⟨rule, hr, hk⟩ := hd
  have hr' := rules.dropLineRules.rule?_of_some hr
  exact decide_eq_true ⟨_, hr', hk⟩

end RuleSet

end CodeFold
