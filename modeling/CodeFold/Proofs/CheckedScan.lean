import CodeFold.Fold
import CodeFold.Proofs.CheckedCompile
import CodeFold.Proofs.Events

/-!
# Scanning and folding with checked accesses

The scan and the step from events to ranges are done once more with the partial accesses of
`CodeFold.Checked`. Places count bytes. All events stand in one array, beside the number of those
that were there when the line began. Taking an entry out shifts the scopes above it in place, one
position after the other, and leaving a scope cuts the events from that number on. Compiled rules
refer to known rules only, every moment of a scan has a valid stack whose entries opened inside
their lines, a line only adds events, and every event belongs to a known rule. So no access is out
of range, and the ranges are those that folding gives.
Specification: §7.
-/

namespace CodeFold.Checked

/-! ### The stack -/

/-- Puts an entry on top with the scope that holds inside it. -/
def enter (rules : RuleSet) (stack : Stack) (e : OpenEntry) : Except Fault Stack := do
  let r ← rule rules e.rule
  let scope := (stack.scope rules).enter r (endKey? r e.closing) stack.size
  return stack.push { e with scope }

/-- What holds right below a position of the stack. -/
def scopeBelow (rules : RuleSet) (stack : Stack) : Nat → Except Fault Scope
  | 0 => .ok (.base rules)
  | prev + 1 => do return (← entry stack prev).scope

/-- Computes the scope of the entry at a position again from the entry below it. -/
def rebuildAt (rules : RuleSet) (stack : Stack) (index : Nat) : Except Fault Stack := do
  let below ← scopeBelow rules stack index
  let e ← entry stack index
  let r ← rule rules e.rule
  return stack.set! index { e with scope := below.enter r (endKey? r e.closing) index }

/-- Takes the entry at a position out and computes the scopes above it again. -/
def removeAt (rules : RuleSet) (stack : Stack) (index : Nat) : Except Fault Stack := do
  let _ ← entry stack index
  let rest := stack.eraseIdxIfInBounds index
  (List.range' index (rest.size - index)).foldlM (rebuildAt rules) rest

/-- The stack after the entry at a position has closed. -/
def closedStack (rules : RuleSet) (pairing : Pairing) (stack : Stack) (index : Nat) :
    Except Fault Stack :=
  match pairing with
  | .innermost => if index < stack.size then .ok (stack.below index) else .error (.entry index)
  | .nearest => removeAt rules stack index

/-! ### The state -/

/-- What is known between two lines and between two hits. -/
structure State where
  stack : Stack
  runs : SortedMap RuleId Run
  blocks : SortedMap RuleId Blocks
  /-- All events. -/
  events : Array Event
  /-- The number of events when the line began. -/
  lineEvents : Nat

namespace State

/-- Before the first line. -/
def start : State := ⟨#[], [], [], #[], 0⟩

/-- Adds events. -/
def emit (s : State) (events : List Event) : State := { s with events := s.events ++ events }

/-- Ends the run of a rule, at `limit` at the latest. -/
def closeRun (limit : Option Nat) (s : State) (id : RuleId) : State :=
  match s.runs.lookup id with
  | none => s
  | some run => { s with runs := s.runs.erase id }.emit (run.event? id limit).toList

/-- Ends the blocks of a rule, at `limit` at the latest. -/
def flushBlocks (limit : Option Nat) (s : State) (id : RuleId) : State :=
  match s.blocks.lookup id with
  | none => s
  | some b => { s with blocks := s.blocks.erase id }.emit (b.flush id limit)

/-- Begins the run of a rule or makes it longer. -/
def extendRun (lineNo : Nat) (s : State) (id : RuleId) : State :=
  let run := ((s.runs.lookup id).map fun r => { r with last := lineNo }).getD ⟨lineNo, lineNo⟩
  { s with runs := s.runs.insert id run }

/-- Lets an indentation rule look at a line. -/
def feedBlocks (lineNo width : Nat) (s : State) (id : RuleId) : State :=
  let (b, ended) := ((s.blocks.lookup id).getD .empty).feed id lineNo width
  { s with blocks := s.blocks.insert id b }.emit ended

/-- Ends what rules on whole lines have pending. -/
def finish (s : State) : State :=
  let s := { s with stack := #[] }
  let s := s.runs.keys.foldl (closeRun none) s
  s.blocks.keys.foldl (flushBlocks none) s

/-- A state of the scan over characters, with the places of its entries in bytes. -/
def ofScan (lineAt : Nat → Line) (s : ScanState) : State :=
  ⟨s.stack.map (entryBytes lineAt), s.runs, s.blocks, s.events, s.past.size⟩

end State

/-- Opens a region. -/
def openRegion (rules : RuleSet) (lineNo : Nat) (hit : Hit) (id : RuleId)
    (captures : List (Option String)) (s : State) : Except Fault State := do
  let r ← rule rules id
  let stack ← enter rules s.stack
    { rule := id, line := lineNo, column := hit.start, body := hit.stop, captures
      closing := ScanState.closingFor r captures, scope := .base rules }
  return { s with stack }

/-- Cuts the events of this line, which are those from a place in the array of all events on. -/
def cutEvents (left : List RuleId) (last : Nat) (s : State) : Except Fault State :=
  if s.lineEvents ≤ s.events.size then
    let earlier := s.events.extract 0 s.lineEvents
    let current := s.events.extract s.lineEvents s.events.size
    .ok { s with events := earlier ++ current.map (Event.cut left last) }
  else .error (.events s.lineEvents)

/-- Ends what the rules have pending that could be reached before and no longer can. -/
def leaveScope (rules : RuleSet) (before : List RuleId) (last : Nat) (s : State) :
    Except Fault State := do
  let reachable := (s.stack.scope rules).reachable
  let left := before.filter (!reachable.contains ·)
  let s ← if left.isEmpty then pure s else cutEvents left last s
  return left.foldl (fun s id => (s.closeRun (some last) id).flushBlocks (some last) id) s

/-- Closes the region at a position of the stack. -/
def closeRegion (rules : RuleSet) (lineNo index : Nat) (s : State) : Except Fault State := do
  let e ← entry s.stack index
  let r ← rule rules e.rule
  let before := (s.stack.scope rules).reachable
  let stack ← closedStack rules r.pairing s.stack index
  let last := if r.foldLastLine then lineNo else lineNo - 1
  leaveScope rules before last ({ s with stack }.emit [⟨e.rule, e.line, lineNo, true⟩])

/-- Handles a hit. -/
def handle (rules : RuleSet) (lineNo : Nat) (s : State) (hit : Hit) : Except Fault State :=
  match hit.action with
  | .close index => closeRegion rules lineNo index s
  | .open_ id captures => openRegion rules lineNo hit id captures s

/-- Handles the hits of a line from an offset on. -/
def scanHits (rules : RuleSet) (lineNo : Nat) (line : Line) :
    Nat → Nat → State → Except Fault State
  | 0, _, _ => .error .unfinished
  | fuel + 1, pos, s => do
    match ← nextHit rules s.stack lineNo line pos with
    | none => return s
    | some hit =>
      let s ← handle rules lineNo s hit
      match nextPos? line hit.start hit.stop with
      | none => return s
      | some pos => scanHits rules lineNo line fuel pos s

/-- Lets one rule look at a line as a whole. -/
def feedRule (rules : RuleSet) (lineNo : Nat) (line : Line) (s : State) (id : RuleId) :
    Except Fault State := do
  let r ← rule rules id
  return match r.kind with
    | .consecutive p => if p.isMatch line then s.extendRun lineNo id else s
    | .indentation => (Line.indentWidth line).elim s fun width => s.feedBlocks lineNo width id
    | .delimited _ _ | .paired _ => s

/-- Lets the active rules look at a line as a whole, and ends the runs that it does not make
longer. -/
def feedLine (rules : RuleSet) (lineNo : Nat) (line : Line) (s : State) :
    Except Fault State := do
  let s ← (s.stack.scope rules).active.foldlM (feedRule rules lineNo line) s
  let ended := SortedMap.keys (s.runs.filter (·.2.last ≠ lineNo))
  return ended.foldl (State.closeRun none) s

/-- Scans lines, the first of which has number `lineNo`. -/
def scanLines (rules : RuleSet) (lineNo : Nat) (s : State) : List Line → Except Fault State
  | [] => .ok s
  | line :: lines => do
    let s ← feedLine rules lineNo line { s with lineEvents := s.events.size }
    let s ← scanHits rules lineNo line (line.length + 1) 0 s
    scanLines rules (lineNo + 1) s lines

/-! ### Ranges -/

/-- The range of an event together with its rule. -/
def range (rules : RuleSet) (lastLine : Nat) (e : Event) :
    Except Fault (Option (FoldRange × RuleId)) := do
  let _ ← rule rules e.rule
  return (rules.range? lastLine e).map (·, e.rule)

/-- The ranges of a document given by its lines. -/
def foldLines (rules : RuleSet) (lines : List Line) : Except Fault (List FoldRange) := do
  let s ← scanLines rules 0 .start lines
  if lines.length = 0 then return []
  else
    let found ← s.finish.events.toList.mapM (range rules (lines.length - 1))
    return dropRepeats (((found.filterMap id).mergeSort rangeLE).map (·.1))

/-! ### The stack stays in range -/

variable {rules : RuleSet} {stack : Stack}

private theorem enter_eq_ok {e : OpenEntry} {r : Rule} (hr : rules.rule? e.rule = some r) :
    enter rules stack e = .ok (stack.enter rules e) := by
  rw [enter, rule_eq_ok hr, Stack.enter, hr]
  rfl

/-- Right below a position holds the scope of the entries up to it. -/
private theorem scopeBelow_eq_ok {acc : Stack} (h : ∀ i < acc.size, stack[i]? = acc[i]?) :
    scopeBelow rules stack acc.size = .ok (acc.scope rules) := by
  unfold Stack.scope
  rw [Array.back?_eq_getElem?]
  cases hn : acc.size with
  | zero =>
    rw [Array.eq_empty_of_size_eq_zero hn]
    rfl
  | succ prev =>
    have hlt : prev < acc.size := by omega
    have hprev := (h prev hlt).trans (Array.getElem?_eq_getElem hlt)
    rw [scopeBelow, entry_eq_ok hprev, Nat.add_sub_cancel, Array.getElem?_eq_getElem hlt]
    rfl

/-- Computing the scope of the first entry behind `acc` again puts this entry on top of `acc`. -/
private theorem rebuildAt_eq_ok {acc : Stack} {e : OpenEntry} {rest : List OpenEntry} {r : Rule}
    (hr : rules.rule? e.rule = some r) (hs : stack.toList = acc.toList ++ e :: rest) :
    ∃ stack', rebuildAt rules stack acc.size = .ok stack' ∧
      stack'.toList = (acc.enter rules e).toList ++ rest := by
  have he : stack[acc.size]? = some e := by
    rw [← Array.getElem?_toList, hs, List.getElem?_append_right (by simp)]
    simp
  have hscope : scopeBelow rules stack acc.size = .ok (acc.scope rules) :=
    scopeBelow_eq_ok fun i hi => by
      rw [← Array.getElem?_toList, hs, List.getElem?_append_left (by simpa using hi),
        Array.getElem?_toList]
  refine ⟨stack.set! acc.size
    { e with scope := (acc.scope rules).enter r (endKey? r e.closing) acc.size }, ?_, ?_⟩
  · rw [rebuildAt, hscope, entry_eq_ok he]
    dsimp only [bind, Except.bind]
    rw [rule_eq_ok hr]
    rfl
  · simp only [Stack.enter, hr]
    rw [Array.set!_eq_setIfInBounds, Array.toList_setIfInBounds, hs,
      List.set_append_right _ _ (by simp)]
    simp

/-- Shifting all scopes behind `acc` puts the entries behind it on top again. -/
private theorem foldlM_rebuildAt {acc : Stack} {entries : List OpenEntry}
    (hk : ∀ e ∈ entries, ∃ r, rules.rule? e.rule = some r)
    (hs : stack.toList = acc.toList ++ entries) :
    (List.range' acc.size entries.length).foldlM (rebuildAt rules) stack =
      .ok (acc.rebuild rules entries) := by
  induction entries generalizing stack acc with
  | nil =>
    rw [List.append_nil] at hs
    rw [Array.toList_inj.mp hs]
    rfl
  | cons e rest ih =>
    obtain ⟨r, hr⟩ := hk e List.mem_cons_self
    obtain ⟨stack', hstep, hs'⟩ := rebuildAt_eq_ok hr hs
    rw [List.length_cons, List.range'_succ, List.foldlM_cons, hstep]
    have hrest := ih (fun x hx => hk x (List.mem_cons_of_mem _ hx)) hs'
    rw [Stack.size_enter] at hrest
    exact hrest

private theorem removeAt_eq_ok {index : Nat} (hi : index < stack.size)
    (hk : ∀ e ∈ stack.toList, ∃ r, rules.rule? e.rule = some r) :
    removeAt rules stack index = .ok (stack.removeAt rules index) := by
  have hlist : (stack.eraseIdxIfInBounds index).toList =
      (stack.below index).toList ++ stack.toList.drop (index + 1) := by
    rw [Array.toList_eraseIdxIfInBounds, List.eraseIdx_eq_take_drop_succ, Stack.toList_below]
  have hbelow : (stack.below index).size = index := by
    simp [Stack.below]
    omega
  have hsize : (stack.eraseIdxIfInBounds index).size - index =
      (stack.toList.drop (index + 1)).length := by
    rw [← Array.length_toList, hlist, List.length_append, Array.length_toList, hbelow]
    omega
  have hdrop : ∀ e ∈ stack.toList.drop (index + 1), ∃ r, rules.rule? e.rule = some r :=
    fun e he => hk e (List.mem_of_mem_drop he)
  have hfold := foldlM_rebuildAt hdrop hlist
  rw [hbelow] at hfold
  rw [removeAt, entry_eq_ok (Array.getElem?_eq_getElem hi)]
  dsimp only [bind, Except.bind]
  rw [hsize]
  exact hfold

private theorem closedStack_eq_ok (pairing : Pairing) {index : Nat} (hi : index < stack.size)
    (hk : ∀ e ∈ stack.toList, ∃ r, rules.rule? e.rule = some r) :
    closedStack rules pairing stack index =
      .ok (ScanState.closedStack rules pairing stack index) := by
  cases pairing with
  | innermost => exact if_pos hi
  | nearest => exact removeAt_eq_ok hi hk

/-! ### The stack in bytes -/

variable {lineAt : Nat → Line}

/-- Entering a region does not look at places. -/
private theorem enter_map_entryBytes (stack : Stack) (e : OpenEntry) :
    Stack.enter rules (stack.map (entryBytes lineAt)) (entryBytes lineAt e) =
      (stack.enter rules e).map (entryBytes lineAt) := by
  unfold Stack.enter
  rw [scope_map_entryBytes, Array.size_map]
  dsimp only [entryBytes]
  cases rules.rule? e.rule <;> simp [entryBytes]

/-- Closing a region does not look at places. -/
private theorem closedStack_map_entryBytes (pairing : Pairing) (stack : Stack) (index : Nat) :
    ScanState.closedStack rules pairing (stack.map (entryBytes lineAt)) index =
      (ScanState.closedStack rules pairing stack index).map (entryBytes lineAt) := by
  have hbelow : Stack.below (stack.map (entryBytes lineAt)) index =
      (stack.below index).map (entryBytes lineAt) := by
    simp [Stack.below]
  have hrebuild (es : List OpenEntry) (acc : Stack) :
      Stack.rebuild rules (acc.map (entryBytes lineAt)) (es.map (entryBytes lineAt)) =
        (acc.rebuild rules es).map (entryBytes lineAt) := by
    induction es generalizing acc with
    | nil => rfl
    | cons e es ih =>
      rw [List.map_cons, Stack.rebuild, List.foldl_cons, enter_map_entryBytes]
      exact ih (acc.enter rules e)
  cases pairing with
  | innermost => exact hbelow
  | nearest =>
    rw [ScanState.closedStack, ScanState.closedStack, Stack.removeAt, Stack.removeAt, hbelow,
      Array.toList_map, ← List.map_drop, hrebuild]

/-- Entries that stay after a hit opened inside their lines, and so does a new one. -/
private theorem placed_handle {s : ScanState} {lineNo pos : Nat} {hit : Hit}
    (hb : Placed lineAt s.stack)
    (hh : s.stack.nextHit rules lineNo (lineAt lineNo) pos = some hit) :
    Placed lineAt (s.handle rules lineNo hit).stack := by
  have hi := Stack.inside_nextHit hh
  intro x hx
  rcases Stack.nextHit_cases hh with ⟨key, index, _, hc⟩ | ⟨id, _, ho⟩
  · obtain ⟨e, r, he, hr, _, ha⟩ := Stack.closingHit_eq_some hc
    simp only [ScanState.handle, ha, ScanState.stack_closeRegion he hr] at hx
    obtain ⟨y, hy, hxy⟩ := ScanState.exists_of_mem_closedStack hx
    -- Only the scopes of entries that stay can change.
    have hfields := OpenEntry.mk.inj hxy
    rw [hfields.2.1, hfields.2.2.2.1]
    exact hb y hy
  · obtain ⟨r, m, hr, _, rfl⟩ := Stack.openingHit_eq_some ho
    simp only [ScanState.handle, ScanState.openRegion, Stack.enter, hr, Array.toList_push,
      List.mem_append, List.mem_singleton] at hx
    rcases hx with hx | rfl
    · exact hb x hx
    · exact hi.le_hi

/-! ### The state stays in range -/

variable {s : ScanState} {lineNo : Nat} {line : Line}

namespace State

/-- What holds inside the innermost region does not depend on places. -/
private theorem scope_ofScan (s : ScanState) :
    Stack.scope rules (ofScan lineAt s).stack = s.stack.scope rules :=
  scope_map_entryBytes lineAt s.stack

private theorem ofScan_start : ofScan lineAt .start = start := by
  simp [ofScan, start, ScanState.start, ScanState.events]

private theorem ofScan_emit (s : ScanState) (events : List Event) :
    ofScan lineAt (s.emit events) = (ofScan lineAt s).emit events := by
  have hevents : s.past ++ (s.current ++ events) = s.past ++ s.current ++ events :=
    Array.toList_inj.mp (by simp)
  simp only [ofScan, ScanState.emit, emit, ScanState.events, hevents]

private theorem ofScan_closeRun (limit : Option Nat) (s : ScanState) (id : RuleId) :
    ofScan lineAt (s.closeRun limit id) = (ofScan lineAt s).closeRun limit id := by
  unfold closeRun ScanState.closeRun
  dsimp only [ofScan]
  cases s.runs.lookup id with
  | none => rfl
  | some run => exact ofScan_emit _ _

private theorem ofScan_flushBlocks (limit : Option Nat) (s : ScanState) (id : RuleId) :
    ofScan lineAt (s.flushBlocks limit id) = (ofScan lineAt s).flushBlocks limit id := by
  unfold flushBlocks ScanState.flushBlocks
  dsimp only [ofScan]
  cases s.blocks.lookup id with
  | none => rfl
  | some b => exact ofScan_emit _ _

private theorem ofScan_feedBlocks (lineNo width : Nat) (s : ScanState) (id : RuleId) :
    ofScan lineAt (s.feedBlocks lineNo width id) = (ofScan lineAt s).feedBlocks lineNo width id :=
  ofScan_emit _ _

/-- Steps that agree on states one by one agree on lists of them. -/
private theorem ofScan_foldl (lineAt : Nat → Line) {α : Type} {f : ScanState → α → ScanState}
    {g : State → α → State}
    (h : ∀ s x, ofScan lineAt (f s x) = g (ofScan lineAt s) x) (xs : List α) (s : ScanState) :
    ofScan lineAt (xs.foldl f s) = xs.foldl g (ofScan lineAt s) := by
  induction xs generalizing s with
  | nil => rfl
  | cons x xs ih => rw [List.foldl_cons, ih, h, List.foldl_cons]

private theorem ofScan_finish (s : ScanState) :
    ofScan lineAt s.finish = (ofScan lineAt s).finish := by
  have hclear : ofScan lineAt { s with stack := #[] } = { ofScan lineAt s with stack := #[] } := by
    simp [ofScan, ScanState.events]
  have hruns := ofScan_foldl lineAt (ofScan_closeRun none) s.runs.keys { s with stack := #[] }
  rw [hclear] at hruns
  unfold finish
  dsimp only [ofScan] at hruns ⊢
  rw [← hruns]
  exact ofScan_foldl lineAt (ofScan_flushBlocks none) _ _

end State

private theorem openRegion_offset {id : RuleId} {r : Rule} (hr : rules.rule? id = some r)
    (hline : lineAt lineNo = line) (hit : Hit) (captures : List (Option String)) (s : ScanState) :
    openRegion rules lineNo (hitBytes line hit) id captures (.ofScan lineAt s) =
      .ok (.ofScan lineAt (s.openRegion rules lineNo hit id captures)) := by
  subst hline
  rw [openRegion, rule_eq_ok hr, ScanState.openRegion, hr]
  dsimp only [bind, Except.bind]
  rw [enter_eq_ok hr]
  simp only [pure, Except.pure, Except.ok.injEq, State.ofScan, ScanState.events,
    ← enter_map_entryBytes]
  rfl

/-- The events of the line are those from the number of earlier events on. -/
private theorem cutEvents_ofScan (left : List RuleId) (last : Nat) (s : ScanState) :
    cutEvents left last (.ofScan lineAt s) =
      .ok (.ofScan lineAt { s with current := s.current.map (Event.cut left last) }) := by
  have hle : s.past.size ≤ s.events.size := by simp [ScanState.events]
  rw [cutEvents,
    if_pos (show (State.ofScan lineAt s).lineEvents ≤ (State.ofScan lineAt s).events.size from hle)]
  simp [State.ofScan, ScanState.events]

/-- A line whose events would begin behind the last event is caught. -/
example : cutEvents [0] 0 { State.start with lineEvents := 1 } = .error (.events 1) := rfl

private theorem leaveScope_ofScan (rules : RuleSet) (before : List RuleId) (last : Nat)
    (s : ScanState) :
    leaveScope rules before last (.ofScan lineAt s) =
      .ok (.ofScan lineAt (s.leaveScope rules before last)) := by
  have hend (s : ScanState) (id : RuleId) :
      State.ofScan lineAt ((s.closeRun (some last) id).flushBlocks (some last) id) =
        ((State.ofScan lineAt s).closeRun (some last) id).flushBlocks (some last) id := by
    rw [State.ofScan_flushBlocks, State.ofScan_closeRun]
  unfold leaveScope ScanState.leaveScope
  dsimp only
  rw [State.ofScan_foldl lineAt
    (g := fun s id => (s.closeRun (some last) id).flushBlocks (some last) id) hend,
    State.scope_ofScan]
  split
  · rfl
  · rw [cutEvents_ofScan]
    rfl

private theorem closeRegion_ofScan {index : Nat} {e : OpenEntry} {r : Rule}
    (he : s.stack[index]? = some e) (hr : rules.rule? e.rule = some r)
    (hk : ∀ x ∈ s.stack.toList, ∃ r, rules.rule? x.rule = some r) (lineNo : Nat) :
    closeRegion rules lineNo index (.ofScan lineAt s) =
      .ok (.ofScan lineAt (s.closeRegion rules lineNo index)) := by
  have hi : index < (State.ofScan lineAt s).stack.size := by
    simpa [State.ofScan] using (Array.getElem?_eq_some_iff.mp he).1
  have heb : (State.ofScan lineAt s).stack[index]? = some (entryBytes lineAt e) := by
    rw [State.ofScan, Array.getElem?_map, he]
    rfl
  have hkb : ∀ x ∈ (State.ofScan lineAt s).stack.toList, ∃ r, rules.rule? x.rule = some r := by
    intro x hx
    rw [State.ofScan, Array.toList_map] at hx
    obtain ⟨y, hy, rfl⟩ := List.mem_map.mp hx
    exact hk y hy
  have hstack := (closedStack_eq_ok r.pairing hi hkb).trans
    (congrArg Except.ok (closedStack_map_entryBytes r.pairing s.stack index))
  rw [closeRegion, entry_eq_ok heb, ScanState.closeRegion_eq he hr, ← leaveScope_ofScan,
    State.ofScan_emit]
  dsimp only [bind, Except.bind]
  rw [rule_eq_ok (show rules.rule? (entryBytes lineAt e).rule = some r from hr)]
  dsimp only
  rw [hstack, State.scope_ofScan]
  rfl

private theorem handle_ofScan (hv : s.stack.Valid rules) {pos : Nat} {hit : Hit}
    (hh : s.stack.nextHit rules lineNo line pos = some hit) (hline : lineAt lineNo = line) :
    handle rules lineNo (.ofScan lineAt s) (hitBytes line hit) =
      .ok (.ofScan lineAt (s.handle rules lineNo hit)) := by
  unfold handle ScanState.handle
  dsimp only [hitBytes]
  rcases Stack.nextHit_cases hh with ⟨key, index, _, hc⟩ | ⟨id, _, ho⟩
  · obtain ⟨e, r, he, hr, _, ha⟩ := Stack.closingHit_eq_some hc
    rw [ha]
    exact closeRegion_ofScan he hr (fun x hx => (hv.proper x hx).known) lineNo
  · obtain ⟨r, m, hr, _, rfl⟩ := Stack.openingHit_eq_some ho
    exact openRegion_offset hr hline _ _ _

/-- The hits of a line are handled in range and before the fuel is used up, and leave the stack
valid. -/
private theorem scanHits_offset (hw : rules.WF) (hv : s.stack.Valid rules)
    (hb : Placed lineAt s.stack) (hline : lineAt lineNo = line) (fuel : Nat) {pos : Nat}
    (hp : pos ≤ line.length) (hf : line.length - pos < fuel) :
    scanHits rules lineNo line fuel (Text.offset line pos) (.ofScan lineAt s) =
        .ok (.ofScan lineAt (s.scanHits rules lineNo line fuel pos)) ∧
      (s.scanHits rules lineNo line fuel pos).stack.Valid rules ∧
      Placed lineAt (s.scanHits rules lineNo line fuel pos).stack := by
  induction fuel generalizing s pos with
  | zero => omega
  | succ fuel ih =>
    have hnext := nextHit_offset hw hv hb hline hp
    rw [scanHits, ScanState.scanHits]
    dsimp only [State.ofScan] at hnext ⊢
    rw [hnext]
    dsimp only [bind, Except.bind]
    cases hh : s.stack.nextHit rules lineNo line pos with
    | none => exact ⟨rfl, hv, hb⟩
    | some hit =>
      have hi := Stack.inside_nextHit hh
      have hv' := ScanState.valid_handle hv hh
      have hb' := placed_handle hb (hline.symm ▸ hh)
      have hstep := handle_ofScan hv hh hline
      dsimp only [Option.map_some]
      rw [State.ofScan] at hstep
      rw [hstep]
      dsimp only
      have hpos := nextPos?_offset hi
      dsimp only [hitBytes]
      rw [hpos]
      cases hn : CodeFold.nextPos? line hit.start hit.stop with
      | none => exact ⟨rfl, hv', hb'⟩
      | some next =>
        have hs := nextPos?_spec hi hn
        have hl := hi.lo_le
        exact ih hv' hb' hs.2.2 (by omega)

private theorem feedRule_ofScan {id : RuleId} {r : Rule} (hr : rules.rule? id = some r)
    (lineNo : Nat) (line : Line) (s : ScanState) :
    feedRule rules lineNo line (.ofScan lineAt s) id =
      .ok (.ofScan lineAt (s.feedRule rules lineNo line id)) := by
  rw [feedRule, rule_eq_ok hr]
  simp only [ScanState.feedRule, hr]
  dsimp only [bind, Except.bind, pure, Except.pure]
  cases r.kind with
  | consecutive p => dsimp only; split <;> rfl
  | indentation =>
    cases Line.indentWidth line with
    | none => rfl
    | some width => exact congrArg Except.ok (State.ofScan_feedBlocks _ _ _ _).symm
  | delimited opening closing => rfl
  | paired p => rfl

private theorem feedLine_ofScan (hw : rules.WF) (hv : s.stack.Valid rules) (lineNo : Nat)
    (line : Line) :
    feedLine rules lineNo line (.ofScan lineAt s) =
      .ok (.ofScan lineAt (s.feedLine rules lineNo line)) := by
  have hfed := foldlM_eq_ok (State.ofScan lineAt) (feedRule rules lineNo line)
    (ScanState.feedRule rules lineNo line) (s.stack.scope rules).active (fun _ => True) ?_ (s := s)
    trivial
  · rw [feedLine, State.scope_ofScan, hfed]
    exact congrArg Except.ok (State.ofScan_foldl lineAt (State.ofScan_closeRun none) _ _).symm
  · intro s' id hid _
    obtain ⟨r, hr⟩ := hw.known_of_mem_listing (hv.mem_listing_of_mem_active hw.top.nodup hid)
    exact ⟨feedRule_ofScan hr lineNo line s', trivial⟩

/-- Scanning lines stays in range. -/
private theorem scanLines_ofScan (hw : rules.WF) (hv : s.stack.Valid rules)
    (hb : Placed lineAt s.stack) (lines : List Line)
    (hlines : ∀ i line, lines[i]? = some line → lineAt (lineNo + i) = line) :
    scanLines rules lineNo (.ofScan lineAt s) lines =
      .ok (.ofScan lineAt (s.scanLines rules lineNo lines)) := by
  induction lines generalizing s lineNo with
  | nil => rfl
  | cons line lines ih =>
    have hline : lineAt lineNo = line := hlines 0 line rfl
    have hbegin : { State.ofScan lineAt s with lineEvents := (State.ofScan lineAt s).events.size } =
        State.ofScan lineAt s.settle := by
      simp [State.ofScan, ScanState.settle, ScanState.events]
    have hsame : (s.settle.feedLine rules lineNo line).stack = s.stack :=
      ScanState.stack_feedLine rules lineNo line s.settle
    obtain ⟨hhits, hv', hb'⟩ := scanHits_offset hw (hsame.symm ▸ hv) (hsame.symm ▸ hb)
      hline (line.length + 1) (Nat.zero_le _) (by omega)
    rw [scanLines, hbegin, feedLine_ofScan (s := s.settle) hw hv]
    dsimp only [bind, Except.bind]
    rw [Text.offset_zero] at hhits
    rw [hhits]
    refine ih hv' hb' fun i line' hi => ?_
    rw [← hlines (i + 1) line' hi]
    congr 1
    omega

/-! ### Ranges stay in range -/

private theorem foldLines_eq_ok (hw : rules.WF) (lines : List Line) :
    foldLines rules lines = .ok (rules.foldLines lines) := by
  have hknown : ∀ e ∈ rules.scan lines, range rules (lines.length - 1) e =
      .ok ((rules.range? (lines.length - 1) e).map (·, e.rule)) := by
    intro e he
    obtain ⟨r, hr⟩ := RuleSet.found_scan (fun _ _ _ _ hk _ => hk) (rules.known_run lines) e he
    rw [range, rule_eq_ok hr]
    rfl
  have hscan : scanLines rules 0 .start lines =
      .ok (.ofScan (lines.getD · []) (ScanState.start.scanLines rules 0 lines)) := by
    rw [← State.ofScan_start]
    refine scanLines_ofScan hw Stack.valid_empty (fun e he => by cases he) lines ?_
    intro i line hi
    rw [Nat.zero_add, List.getD_eq_getElem?_getD, hi]
    rfl
  rw [foldLines, hscan, RuleSet.foldLines, RuleSet.assemble]
  dsimp only [bind, Except.bind]
  split
  · rfl
  · have hevents : (State.ofScan (lines.getD · [])
        (ScanState.start.scanLines rules 0 lines)).finish.events.toList = rules.scan lines :=
      by rw [← State.ofScan_finish]; rfl
    rw [hevents, mapM_eq_ok hknown]
    simp [pure, Except.pure, List.filterMap_map]

/-- Compiles rules and folds a document with them. -/
def run (language : Language) (specific wildcard : List RuleEntry) (lines : List Line) :
    Except Fault (List FoldRange × List Diagnostic) := do
  let (rules, diagnostics) ← compile language specific wildcard
  return (← foldLines rules lines, diagnostics)

/-- Whatever the entries and the lines are, compiling and folding never make an access out of range
and never use up the fuel of a loop; they give the ranges and the reports that they give without
checks. -/
theorem run_eq_ok (language : Language) (specific wildcard : List RuleEntry) (lines : List Line) :
    run language specific wildcard lines =
      .ok ((RuleSet.compile language specific wildcard).1.foldLines lines,
        (RuleSet.compile language specific wildcard).2) := by
  rw [run, compile_eq_ok]
  dsimp only [bind, Except.bind]
  rw [foldLines_eq_ok (RuleSet.wf_compile language specific wildcard)]
  rfl

/-- A set that lists a rule it does not have is caught at the first line. -/
example : foldLines ⟨⟨"text"⟩, #[], [0]⟩ [['a']] = .error (.rule 0) := rfl

end CodeFold.Checked
