import CodeFold.Proofs.Arena
import CodeFold.Proofs.Literal
import CodeFold.Proofs.Matching
import CodeFold.Proofs.PlainSearch
import CodeFold.Proofs.Share
import CodeFold.Proofs.TemplateText

/-!
# Scanning for brackets

A set of one rule that opens with a character and closes with another one finds brackets. Every open
region has the same key, so the only end that is looked for is that of the innermost one, and the
next hit is the next bracket, but for closing ones outside all regions. A scan goes through a document
as a matcher goes through its brackets, so its events are the pairs that match.
Specification: §8.
-/

namespace CodeFold

/-- The fields of a rule that opens with one character and closes with another one, that is not
strict and that leaves open what is nested in it. -/
structure RuleFields.IsBrackets (f : RuleFields) (b e : Char) : Prop where
  opening : f.opening = some (String.singleton b)
  closing : f.closing = some (String.singleton e)
  openingRegex : f.openingRegex = none
  closingRegex : f.closingRegex = none
  nearestClosingRegex : f.nearestClosingRegex = none
  pairRegex : f.pairRegex = none
  consecutive : f.consecutive ≠ some true
  offSide : f.offSide ≠ some true
  strict : f.strict ≠ some true
  descendants : f.descendants = none

/-- An entry with such fields whose regions are open to the same rule. -/
def RuleEntry.IsBrackets (b e : Char) : RuleEntry → Prop
  | .rule fields nested => fields.IsBrackets b e ∧ (nested = .unset ∨ nested = .flag true)
  | .malformed _ _ => False

/-- A set of one rule, for brackets. -/
structure RuleSet.IsBrackets (rules : RuleSet) (b e : Char) : Prop where
  topLevel : rules.topLevel = [0]
  rule : ∃ rule, rules.rule? 0 = some rule ∧
    rule.kind = .delimited (.ofChar b) (.fixed (.ofChar e)) ∧ rule.pairing = .innermost ∧
    rule.nesting = .inherit ∧ rule.strict = false

/-! ### Compiling -/

private theorem getD_of_ne_some_true {o : Option Bool} (h : o ≠ some true) :
    o.getD false = false := by
  cases o with
  | none => rfl
  | some b =>
    cases b with
    | false => rfl
    | true => exact absurd rfl h

private theorem compilePattern_escape_singleton (c : Char) :
    compilePattern (Pattern.escape (String.singleton c)) = .ok (.ofChar c) := by
  have hne : (Pattern.escape (String.singleton c)).isEmpty = false := by
    apply Bool.eq_false_iff.mpr
    intro hempty
    have hlist := Pattern.toList_escape_singleton c
    rw [String.isEmpty_iff.mp hempty, Pattern.escapeChars] at hlist
    split at hlist <;> cases hlist
  rw [compilePattern, hne, Pattern.compile_escape_singleton]
  rfl

private theorem RuleFields.IsBrackets.compileKind {f : RuleFields} {b e : Char}
    (h : f.IsBrackets b e) : compileKind f = .ok (.delimited (.ofChar b) (.fixed (.ofChar e))) := by
  have hopening : f.openingSource? = some (Pattern.escape (String.singleton b)) := by
    simp [openingSource?, h.openingRegex, h.opening]
  have hclosing : f.closingSource? = .ok (some (Pattern.escape (String.singleton e))) := by
    simp [closingSource?, h.closingRegex, h.nearestClosingRegex, h.closing]
  have hkinds : f.declaredKinds = ["begin/end"] := by
    simp [declaredKinds, getD_of_ne_some_true h.offSide, getD_of_ne_some_true h.consecutive,
      h.pairRegex, hopening]
  simp only [CodeFold.compileKind, hkinds, getD_of_ne_some_true h.offSide,
    getD_of_ne_some_true h.consecutive, h.pairRegex, hclosing, hopening,
    compilePattern_escape_singleton, compileClosing, Template.parse?_escape]
  rfl

private theorem compileEntry_of_isBrackets {entry : RuleEntry} {b e : Char}
    (h : entry.IsBrackets b e) (label : String) {built : Build} (hempty : built.rules = #[]) :
    ∃ rule built', compileEntry label entry built = (⟨[0], []⟩, built') ∧ built'.rules = #[rule] ∧
      rule.kind = .delimited (.ofChar b) (.fixed (.ofChar e)) ∧ rule.pairing = .innermost ∧
      rule.nesting = .inherit ∧ rule.strict = false := by
  cases entry with
  | malformed value fault => exact h.elim
  | rule fields nested =>
    obtain ⟨hfields, hnested⟩ := h
    rcases hnested with rfl | rfl <;>
      simp [compileEntry, hfields.compileKind, RuleKind.isDelimited, compileNested,
        hfields.descendants, Build.push, Build.reportDescendants, Build.setNesting, hempty,
        RuleFields.rule, hfields.nearestClosingRegex, getD_of_ne_some_true hfields.strict]

/-- The set compiled from one entry for brackets is one for brackets. -/
theorem RuleSet.isBrackets_compile {entry : RuleEntry} {b e : Char} (h : entry.IsBrackets b e)
    (language : Language) {specific wildcard : List RuleEntry}
    (hone : specific ++ wildcard = [entry]) :
    (RuleSet.compile language specific wildcard).1.IsBrackets b e := by
  have hempty : Build.empty.rules = #[] := rfl
  rcases List.append_eq_singleton_iff.mp hone with ⟨rfl, rfl⟩ | ⟨rfl, rfl⟩
  · obtain ⟨rule, built, heq, hrules, hrule⟩ :=
      compileEntry_of_isBrackets h (entry.label "*" 0) hempty
    have hset : (RuleSet.compile language [] [entry]).1 = ⟨language, #[rule], [0]⟩ := by
      simp [RuleSet.compile, compileEntries, heq, Siblings.append, Siblings.none, Siblings.close,
        hrules]
    rw [hset]
    exact ⟨rfl, rule, rfl, hrule⟩
  · obtain ⟨rule, built, heq, hrules, hrule⟩ :=
      compileEntry_of_isBrackets h (entry.label language.key 0) hempty
    have hset : (RuleSet.compile language [entry] []).1 = ⟨language, #[rule], [0]⟩ := by
      simp [RuleSet.compile, compileEntries, heq, Siblings.append, Siblings.none, Siblings.close,
        hrules]
    rw [hset]
    exact ⟨rfl, rule, rfl, hrule⟩

/-! ### The next bracket -/

namespace RuleSet.IsBrackets

variable {rules : RuleSet} {b e : Char} (hr : rules.IsBrackets b e)

include hr

/-- Inside brackets the rule is active and can be reached, and the end of the innermost region is
looked for. -/
theorem ofEntries_eq {es : List OpenEntry} (hes : ∀ x ∈ es, x.rule = 0) :
    ∃ key, Scope.ofEntries rules es = ⟨[0], [0], if es = [] then [] else [(key, es.length - 1)]⟩ := by
  obtain ⟨rule, hrule, hkind, _, hnesting, _⟩ := hr.rule
  refine ⟨.rule rule.id, ?_⟩
  induction es using List.reverseRecOn with
  | nil => simp [Scope.base, hr.topLevel]
  | append_singleton es x ih =>
    have hx : rules.rule? x.rule = some rule := by rw [hes x (by simp), hrule]
    rw [Scope.ofEntries_append_singleton, ih fun y hy => hes y (by simp [hy])]
    simp [Scope.enterEntry, hx, Scope.enter, Scope.enterEnds, hnesting, endKey?, hkind]

private theorem openingHit_eq (line : Line) (pos : Nat) :
    Stack.openingHit rules line pos 0 =
      (Pattern.placeOf? b line pos).map fun i => ⟨i, i + 1, .open_ 0 []⟩ := by
  obtain ⟨rule, hrule, hkind, _⟩ := hr.rule
  have hfind : rule.findOpening line pos =
      (Pattern.placeOf? b line pos).map fun i => ⟨i, i + 1, []⟩ := by
    simp only [Rule.findOpening, hkind, Pattern.matchAt_ofChar, Option.map_map]
    rfl
  simp only [Stack.openingHit, hrule, hfind, Option.bind_eq_bind, Option.bind_some]
  cases Pattern.placeOf? b line pos <;> rfl

private theorem closingHit_eq {stack : Stack} {index : Nat} {x : OpenEntry}
    (hx : stack[index]? = some x) (hzero : x.rule = 0) (lineNo : Nat) (line : Line) (pos : Nat) :
    stack.closingHit rules lineNo line pos index =
      (Pattern.placeOf? e line pos).map fun i => ⟨i, i + 1, .close index⟩ := by
  obtain ⟨rule, hrule, hkind, _, _, hstrict⟩ := hr.rule
  have hfind : rule.findClosing x lineNo line pos =
      (Pattern.placeOf? e line pos).map fun i => (i, i + 1) := by
    rw [Rule.findClosing_of_not_strict hstrict]
    simp only [Rule.closingMatch, hkind, Pattern.matchAt_ofChar, Option.map_map]
    rfl
  simp only [Stack.closingHit, hx, hzero, hrule, hfind, Option.bind_eq_bind, Option.bind_some]
  cases Pattern.placeOf? e line pos <;> rfl

variable {stack : Stack} (hv : stack.Valid rules) (hes : ∀ x ∈ stack.toList, x.rule = 0)

include hv hes

private theorem reachable_eq : (stack.scope rules).reachable = [0] := by
  obtain ⟨key, hscope⟩ := hr.ofEntries_eq hes
  rw [hv.coherent.scope_eq, hscope]

/-- The next hit is the first closing bracket, if a region is open, or the first opening one. -/
theorem nextHit_eq (lineNo : Nat) (line : Line) (pos : Nat) :
    stack.nextHit rules lineNo line pos =
      Hit.earliest
        ((if stack = #[] then none
          else (Pattern.placeOf? e line pos).map fun i =>
            (⟨i, i + 1, .close (stack.size - 1)⟩ : Hit)).toList ++
        ((Pattern.placeOf? b line pos).map fun i => (⟨i, i + 1, .open_ 0 []⟩ : Hit)).toList) := by
  obtain ⟨key, hscope⟩ := hr.ofEntries_eq hes
  have hopenings : [0].filterMap (Stack.openingHit rules line pos) =
      ((Pattern.placeOf? b line pos).map fun i => (⟨i, i + 1, .open_ 0 []⟩ : Hit)).toList := by
    rw [List.filterMap_cons, hr.openingHit_eq]
    cases Pattern.placeOf? b line pos <;> rfl
  rw [Stack.nextHit, hv.coherent.scope_eq, hscope]
  dsimp only
  rw [hopenings]
  by_cases hs : stack = #[]
  · simp [hs]
  · have hlt : stack.size - 1 < stack.size := by
      have hpos := Array.size_pos_iff.mpr hs
      omega
    have hx : stack[stack.size - 1]? = some stack[stack.size - 1] := Array.getElem?_eq_getElem hlt
    have hzero := hes _ (Array.mem_toList_iff.mpr (Array.getElem_mem hlt))
    have hnil : stack.toList ≠ [] := by simpa using hs
    rw [if_neg hnil, if_neg hs, Array.length_toList, List.filterMap_cons,
      hr.closingHit_eq hx hzero]
    cases Pattern.placeOf? e line pos <;> rfl

/-! One character of a line decides whether it is the next hit. -/

section

variable (lineNo : Nat) {pos : Nat} {line rest : Line} {c : Char}

private theorem nextHit_of_nil (h : line.drop pos = []) :
    stack.nextHit rules lineNo line pos = none := by
  rw [hr.nextHit_eq hv hes, Pattern.placeOf?_of_nil h, Pattern.placeOf?_of_nil h]
  split <;> rfl

private theorem nextHit_of_opening (hne : b ≠ e) (h : line.drop pos = b :: rest) :
    stack.nextHit rules lineNo line pos = some ⟨pos, pos + 1, .open_ 0 []⟩ := by
  rw [hr.nextHit_eq hv hes, Pattern.placeOf?_of_eq h, Pattern.placeOf?_of_ne h hne]
  split
  · rfl
  · cases hp : Pattern.placeOf? e line (pos + 1) with
    | none => rfl
    | some i =>
      have hle := Pattern.le_of_placeOf? hp
      simp [Hit.earliest, show pos < i by omega]

private theorem nextHit_of_closing (hne : b ≠ e) (hs : stack ≠ #[])
    (h : line.drop pos = e :: rest) :
    stack.nextHit rules lineNo line pos = some ⟨pos, pos + 1, .close (stack.size - 1)⟩ := by
  rw [hr.nextHit_eq hv hes, Pattern.placeOf?_of_eq h, Pattern.placeOf?_of_ne h hne.symm,
    if_neg hs]
  cases hp : Pattern.placeOf? b line (pos + 1) with
  | none => rfl
  | some i =>
    have hle := Pattern.le_of_placeOf? hp
    simp [Hit.earliest, show ¬ i < pos by omega]

private theorem nextHit_of_other (h : line.drop pos = c :: rest) (hb : c ≠ b)
    (he : c = e → stack = #[]) :
    stack.nextHit rules lineNo line pos = stack.nextHit rules lineNo line (pos + 1) := by
  rw [hr.nextHit_eq hv hes, hr.nextHit_eq hv hes, Pattern.placeOf?_of_ne h hb]
  by_cases hs : stack = #[]
  · rw [if_pos hs, if_pos hs]
  · rw [Pattern.placeOf?_of_ne h fun hc => hs (he hc)]

end

end RuleSet.IsBrackets

/-! ### Scanning -/

/-- The event of a pair of brackets. -/
def BracketPair.event (x : BracketPair) : Event := ⟨0, x.first, x.last, true⟩

/-- What a character is as a bracket. -/
def bracket? (b e c : Char) : Option DyckStep :=
  if c = b then some .U else if c = e then some .D else none

/-- The brackets in some lines, the first of which has number `lineNo`, from left to right and each
with its line. -/
def bracketsFrom (b e : Char) (lineNo : Nat) : List Line → List (Nat × DyckStep)
  | [] => []
  | line :: lines =>
    (line.filterMap (bracket? b e)).map (lineNo, ·) ++ bracketsFrom b e (lineNo + 1) lines

/-- The state of a scan stands for that of a matcher: the same brackets are open, and the pairs
found are the events. -/
structure ScanState.Follows (rules : RuleSet) (s : ScanState) (m : Matcher) : Prop where
  wf : s.WF rules
  runs : s.runs = []
  blocks : s.blocks = []
  entries : ∀ x ∈ s.stack.toList, x.rule = 0
  lines : s.stack.toList.map OpenEntry.line = (m.opens.map Prod.snd).reverse
  events : s.events.toList = m.pairs.map BracketPair.event

namespace ScanState

variable {rules : RuleSet} {b e : Char} (hr : rules.IsBrackets b e) {s : ScanState} {m : Matcher}
  (h : s.Follows rules m) {lineNo pos : Nat} {line : Line}

include hr h

private theorem Follows.opening
    (hh : s.stack.nextHit rules lineNo line pos = some ⟨pos, pos + 1, .open_ 0 []⟩) :
    (s.handle rules lineNo ⟨pos, pos + 1, .open_ 0 []⟩).Follows rules (m.step (lineNo, .U)) := by
  obtain ⟨rule, hrule, _⟩ := hr.rule
  obtain ⟨x, hzero, hline, hstack⟩ : ∃ x : OpenEntry, x.rule = 0 ∧ x.line = lineNo ∧
      (s.handle rules lineNo ⟨pos, pos + 1, .open_ 0 []⟩).stack.toList =
        s.stack.toList ++ [x] := by
    simp [handle, openRegion, Stack.enter, hrule]
  refine ⟨wf_handle h.wf hh, h.runs, h.blocks, ?_, ?_, h.events⟩
  · intro y hy
    rw [hstack] at hy
    rcases List.mem_append.mp hy with hy | hy
    · exact h.entries y hy
    · rw [List.mem_singleton.mp hy, hzero]
  · rw [hstack, List.map_append, h.lines, List.map_singleton, hline]
    simp [Matcher.step]

private theorem Follows.closing {p first : Nat} {opens : List (Nat × Nat)}
    (ho : m.opens = (p, first) :: opens)
    (hh : s.stack.nextHit rules lineNo line pos =
      some ⟨pos, pos + 1, .close (s.stack.size - 1)⟩) :
    (s.handle rules lineNo ⟨pos, pos + 1, .close (s.stack.size - 1)⟩).Follows rules
      (m.step (lineNo, .D)) := by
  obtain ⟨rule, hrule, _, hpair, _⟩ := hr.rule
  -- The innermost entry is that of the bracket that the matcher takes off.
  have hlines : s.stack.toList.map OpenEntry.line = (opens.map Prod.snd).reverse ++ [first] := by
    rw [h.lines, ho]
    simp
  obtain ⟨below, top, hsplit, hbelow, htop⟩ := List.map_eq_append_iff.mp hlines
  obtain ⟨x, rfl, hline⟩ := List.map_eq_singleton_iff.mp htop
  have hsize : s.stack.size - 1 = below.length := by
    rw [← Array.length_toList, hsplit]
    simp
  have hx : s.stack[s.stack.size - 1]? = some x := by
    rw [← Array.getElem?_toList, hsize, hsplit]
    simp
  have hzero : x.rule = 0 := h.entries x (by simp [hsplit])
  have hxrule : rules.rule? x.rule = some rule := by rw [hzero, hrule]
  have hwf := wf_handle h.wf hh
  simp only [handle] at hwf ⊢
  have hstack : (s.closeRegion rules lineNo (s.stack.size - 1)).stack.toList = below := by
    rw [stack_closeRegion hx hxrule, hpair, closedStack, Stack.toList_below, hsize, hsplit,
      List.take_left]
  have hentries : ∀ y ∈ below, y.rule = 0 := fun y hy => h.entries y (by simp [hsplit, hy])
  -- The rule stays in reach, so that nothing is cut and nothing else is reported.
  have hreach := hr.reachable_eq hwf.valid (by rwa [hstack])
  rw [stack_closeRegion hx hxrule] at hreach
  have hclose : s.closeRegion rules lineNo (s.stack.size - 1) =
      { s with stack := closedStack rules rule.pairing s.stack (s.stack.size - 1) }.emit
        [⟨x.rule, x.line, lineNo, true⟩] := by
    rw [closeRegion_eq hx hxrule, leaveScope_of_outOfReach]
    simp [outOfReach, hr.reachable_eq h.wf.valid h.entries, emit, hreach]
  refine ⟨hwf, ?_, ?_, ?_, ?_, ?_⟩
  · rw [hclose]
    exact h.runs
  · rw [hclose]
    exact h.blocks
  · rwa [hstack]
  · rw [hstack, hbelow]
    simp [Matcher.step, ho]
  · rw [hclose, toList_events_emit, hzero, hline]
    change s.events.toList ++ _ = _
    rw [h.events]
    simp [Matcher.step, ho, BracketPair.event]

omit hr in
private theorem Follows.opens_of_stack (hs : s.stack ≠ #[]) :
    ∃ p first opens, m.opens = (p, first) :: opens := by
  cases ho : m.opens with
  | nil =>
    have hnil := h.lines
    rw [ho] at hnil
    exact absurd (by simpa using hnil) hs
  | cons top opens => exact ⟨top.1, top.2, opens, rfl⟩

omit hr in
/-- A closing bracket outside all regions changes nothing. -/
theorem Follows.skip (hs : s.stack = #[]) (lineNo : Nat) : s.Follows rules (m.step (lineNo, .D)) := by
  have ho : m.opens = [] := by simpa [hs] using h.lines
  have hstep : m.step (lineNo, .D) = ⟨m.seen + 1, [], m.pairs⟩ := by simp [Matcher.step, ho]
  rw [hstep]
  exact ⟨h.wf, h.runs, h.blocks, h.entries, ho ▸ h.lines, h.events⟩

/-- Scanning the rest of a line reads its brackets. -/
theorem Follows.scanHits (hne : b ≠ e) {rest : Line} (hrest : line.drop pos = rest) {fuel : Nat}
    (hfuel : rest.length < fuel) :
    (s.scanHits rules lineNo line fuel pos).Follows rules
      (((rest.filterMap (bracket? b e)).map (lineNo, ·)).foldl Matcher.step m) := by
  obtain ⟨fuel, rfl⟩ := Nat.exists_eq_add_one_of_ne_zero (show fuel ≠ 0 by omega)
  induction rest generalizing s m pos fuel with
  | nil =>
    rw [ScanState.scanHits, hr.nextHit_of_nil h.wf.valid h.entries lineNo hrest]
    exact h
  | cons c rest ih =>
    have hnext : line.drop (pos + 1) = rest := by rw [← List.drop_drop, hrest]; rfl
    have hpos : nextPos? line pos (pos + 1) = some (pos + 1) := by simp [nextPos?]
    rw [List.length_cons] at hfuel
    by_cases hhit : c = b ∨ c = e ∧ s.stack ≠ #[]
    · -- A hit takes one unit of fuel, and there is more than the rest of the line needs.
      obtain ⟨fuel, rfl⟩ := Nat.exists_eq_add_one_of_ne_zero (show fuel ≠ 0 by omega)
      rcases hhit with rfl | ⟨rfl, hs⟩
      · have hh := hr.nextHit_of_opening h.wf.valid h.entries lineNo hne hrest
        rw [ScanState.scanHits, hh]
        simp only [hpos]
        simpa [bracket?] using ih (h.opening hr hh) hnext fuel (by omega)
      · obtain ⟨p, first, opens, ho⟩ := h.opens_of_stack hs
        have hh := hr.nextHit_of_closing h.wf.valid h.entries lineNo hne hs hrest
        rw [ScanState.scanHits, hh]
        simp only [hpos]
        simpa [bracket?, hne.symm] using ih (h.closing hr ho hh) hnext fuel (by omega)
    · -- The search passes over the character, and the matcher over a bracket that closes nothing.
      have hb : c ≠ b := fun hb => hhit (.inl hb)
      have hs : c = e → s.stack = #[] := fun he => by
        by_contra hs
        exact hhit (.inr ⟨he, hs⟩)
      rw [ScanState.scanHits, hr.nextHit_of_other h.wf.valid h.entries lineNo hrest hb hs,
        ← ScanState.scanHits]
      by_cases he : c = e
      · subst he
        simpa [bracket?, hne.symm] using ih (h.skip (hs rfl) lineNo) hnext fuel (by omega)
      · simpa [bracket?, hb, he] using ih h hnext fuel (by omega)

/-- At the start of a line nothing happens. -/
theorem Follows.feedLine_eq (lineNo : Nat) (line : Line) : s.feedLine rules lineNo line = s := by
  obtain ⟨rule, hrule, hkind, _⟩ := hr.rule
  have hactive : (s.stack.scope rules).active = [0] := by
    obtain ⟨key, hscope⟩ := hr.ofEntries_eq h.entries
    rw [h.wf.valid.coherent.scope_eq, hscope]
  have hfed : s.feedRule rules lineNo line 0 = s := by
    simp only [feedRule, hrule, hkind]
  simp [ScanState.feedLine, hactive, hfed, h.runs, SortedMap.keys]

/-- Scanning lines reads their brackets. -/
theorem Follows.scanLines (hne : b ≠ e) (lineNo : Nat) (lines : List Line) :
    (s.scanLines rules lineNo lines).Follows rules
      ((bracketsFrom b e lineNo lines).foldl Matcher.step m) := by
  induction lines generalizing s m lineNo with
  | nil => exact h
  | cons line lines ih =>
    have hsettled : ({ s with past := s.past ++ s.current, current := #[] } : ScanState).Follows
        rules m := by
      refine ⟨⟨h.wf.valid, h.wf.delimited, ⟨h.wf.ordered.runs, h.wf.ordered.blocks,
        h.wf.ordered.opens⟩⟩, h.runs, h.blocks, h.entries, h.lines, ?_⟩
      simpa [ScanState.events] using h.events
    have hline : (s.scanLine rules lineNo line).Follows rules
        (((line.filterMap (bracket? b e)).map (lineNo, ·)).foldl Matcher.step m) := by
      rw [scanLine, hsettled.feedLine_eq hr]
      exact hsettled.scanHits hr hne List.drop_zero (Nat.lt_succ_self _)
    rw [ScanState.scanLines, bracketsFrom, List.foldl_append]
    exact ih hline (lineNo + 1)

end ScanState

/-- The brackets of a document, from left to right and each with its line. -/
def brackets (b e : Char) (lines : List Line) : List (Nat × DyckStep) := bracketsFrom b e 0 lines

namespace RuleSet

/-- A scan for brackets finds the pairs that a matcher finds. -/
theorem IsBrackets.scan_eq {rules : RuleSet} {b e : Char} (hr : rules.IsBrackets b e) (hne : b ≠ e)
    (lines : List Line) :
    rules.scan lines =
      ((brackets b e lines).foldl Matcher.step .start).pairs.map BracketPair.event := by
  have hstart : ScanState.start.Follows rules .start :=
    ⟨ScanState.wf_start, rfl, rfl, by simp [ScanState.start], rfl, rfl⟩
  have hend := hstart.scanLines hr hne 0 lines
  rw [scan, ScanState.finish]
  simp only [hend.runs, SortedMap.keys, List.map_nil, List.foldl_nil, hend.blocks]
  exact hend.events

/-- With one rule that is not strict, opens with a character, closes with another one and lets itself
in, the events of a scan are the pairs of brackets that match in the document, in the order in which
they close: there is one event for each occurrence of the first character and each later one of the
second between which a Dyck word stands, and no other event. -/
theorem scan_brackets (language : Language) (specific wildcard : List RuleEntry) (entry : RuleEntry)
    (b e : Char) (lines : List Line) (hentry : entry.IsBrackets b e) (hne : b ≠ e)
    (hone : specific ++ wildcard = [entry]) :
    ∃ pairs : List BracketPair,
      (RuleSet.compile language specific wildcard).1.scan lines =
        pairs.map BracketPair.event ∧
      (∀ x : BracketPair, x ∈ pairs ↔ x.Matches (brackets b e lines)) ∧
      pairs.Pairwise fun x y => x.closing < y.closing := by
  obtain ⟨hpairs, hsorted⟩ := Matcher.pairs_foldl (brackets b e lines)
  exact ⟨_, (isBrackets_compile hentry language hone).scan_eq hne lines, hpairs, hsorted⟩

end RuleSet

/-- Parentheses. -/
def parenEntry : RuleEntry := .rule { opening := some "(", closing := some ")" } .unset

/-- A document with a closing parenthesis too many in its second line and an opening one that stays
open in its third. -/
def unbalancedParens : List Line := Line.split "( ( ) (\n) ) )\n( ( )"

/-- The second parenthesis of the second line closes the first one of the document, and two pairs stand
between them. -/
theorem scan_brackets_of_unbalancedParens :
    parenEntry.IsBrackets '(' ')' ∧ '(' ≠ ')' ∧ [parenEntry] ++ [] = [parenEntry] ∧
      brackets '(' ')' unbalancedParens =
        [(0, .U), (0, .U), (0, .D), (0, .U), (1, .D), (1, .D), (1, .D), (2, .U), (2, .U), (2, .D)] ∧
      ∃ pairs : List BracketPair,
        pairs.map BracketPair.event =
          [⟨0, 0, 0, true⟩, ⟨0, 0, 1, true⟩, ⟨0, 0, 1, true⟩, ⟨0, 2, 2, true⟩] ∧
        (∀ x : BracketPair, x ∈ pairs ↔ x.Matches (brackets '(' ')' unbalancedParens)) ∧
        pairs.Pairwise fun x y => x.closing < y.closing := by
  have hentry : parenEntry.IsBrackets '(' ')' :=
    ⟨⟨rfl, rfl, rfl, rfl, rfl, rfl, by decide, by decide, by decide, rfl⟩, .inl rfl⟩
  obtain ⟨pairs, hscan, hpairs, hsorted⟩ := RuleSet.scan_brackets ⟨"test"⟩ [parenEntry] []
    parenEntry '(' ')' unbalancedParens hentry (by decide) rfl
  refine ⟨hentry, by decide, rfl, by decide +kernel, pairs, ?_, hpairs, hsorted⟩
  rw [← hscan]
  decide +kernel

end CodeFold
