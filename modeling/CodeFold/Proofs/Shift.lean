import CodeFold.Proofs.Delimiters

/-!
# Line numbers are relative

A scan that has nothing open and nothing pending goes on as if the next line were the first one; only
the numbers of the lines are higher. The first line of a document is an exception: there is no line
above it, so a region that is cut there ends in the line itself. Such a region is not longer than
one line, and the two scans agree on all longer events.
-/

namespace CodeFold

/-! ### Maps with other values -/

namespace SortedMap

variable {α β : Type}

/-- Changes all values and keeps the keys. -/
def mapValues (f : α → β) (m : SortedMap RuleId α) : SortedMap RuleId β :=
  m.map fun x => (x.1, f x.2)

private theorem keys_mapValues (f : α → β) (m : SortedMap RuleId α) :
    (m.mapValues f).keys = m.keys := by
  simp [keys, mapValues, Function.comp_def]

private theorem lookup_mapValues (f : α → β) (m : SortedMap RuleId α) (id : RuleId) :
    (m.mapValues f).lookup id = (m.lookup id).map f := by
  induction m with
  | nil => rfl
  | cons x rest ih =>
    change List.lookup id ((x.1, f x.2) :: mapValues f rest) = _
    rw [lookup_cons, lookup_cons, ih]
    split <;> rfl

private theorem filter_mapValues (f : α → β) (p : RuleId × β → Bool) (m : SortedMap RuleId α) :
    (m.mapValues f).filter p = mapValues f (m.filter fun x => p (x.1, f x.2)) := by
  simp [mapValues, List.filter_map, Function.comp_def]

private theorem insert_mapValues (f : α → β) (m : SortedMap RuleId α) (id : RuleId) (value : α) :
    (m.mapValues f).insert id (f value) = (m.insert id value).mapValues f := by
  induction m with
  | nil => rfl
  | cons x rest ih =>
    change SortedMap.insert id (f value) ((x.1, f x.2) :: mapValues f rest) = _
    rw [SortedMap.insert, SortedMap.insert, ih]
    by_cases hlt : id < x.1
    · rw [if_pos hlt, if_pos hlt]
      rfl
    · rw [if_neg hlt, if_neg hlt]
      by_cases heq : id = x.1
      · rw [if_pos heq, if_pos heq]
        rfl
      · rw [if_neg heq, if_neg heq]
        rfl

end SortedMap

/-! ### Events of more than one line -/

namespace Event

/-- The event moved down by some lines. -/
def shift (n : Nat) (e : Event) : Event := { e with start := e.start + n, stop := e.stop + n }

/-- The events of more than one line. -/
def long (events : List Event) : List Event := events.filter fun e => e.start < e.stop

/-- Two lists agree on all events of more than one line, up to a shift. -/
def Shifted (n : Nat) (events events' : List Event) : Prop :=
  long events' = (long events).map (shift n)

/-- The line at which events are cut, moved down. Above the first line there is none, so a cut there
is made in that line or, after the shift, in the line above it. -/
def ShiftedLast (n last last' : Nat) : Prop := last' = last + n ∨ last = 0 ∧ last' < n

private theorem long_append (a b : List Event) :
    long (a ++ b) = long a ++ long b := List.filter_append a b

private theorem Shifted.append {n : Nat} {a b a' b' : List Event} (ha : Shifted n a a')
    (hb : Shifted n b b') : Shifted n (a ++ b) (a' ++ b') := by
  unfold Shifted at *
  rw [long_append, long_append, ha, hb, List.map_append]

private theorem shifted_singleton (n : Nat) (e : Event) : Shifted n [e] [e.shift n] := by
  by_cases h : e.start < e.stop <;> simp [Shifted, long, shift, h]

/-- Lists whose members agree one by one agree. -/
theorem shifted_map {α : Type} {n : Nat} {f f' : α → Event} {xs : List α}
    (h : ∀ x ∈ xs, f' x = (f x).shift n ∨
      (f x).stop ≤ (f x).start ∧ (f' x).stop ≤ (f' x).start) :
    Shifted n (xs.map f) (xs.map f') := by
  unfold Shifted long
  induction xs with
  | nil => rfl
  | cons x xs ih =>
    have ih := ih fun y hy => h y (List.mem_cons_of_mem _ hy)
    rw [List.map_cons, List.map_cons, List.filter_cons, List.filter_cons]
    rcases h x List.mem_cons_self with heq | ⟨hs, hs'⟩
    · rw [heq]
      by_cases hl : (f x).start < (f x).stop
      · rw [if_pos (by simpa [shift] using hl), if_pos (by simpa using hl), ih, List.map_cons]
      · rw [if_neg (by simpa [shift] using hl), if_neg (by simpa using hl), ih]
    · rw [if_neg (by simpa using hs'), if_neg (by simpa using hs), ih]

/-- Cutting makes no event longer. -/
theorem long_map_cut (left : List RuleId) (last : Nat) (events : List Event) :
    long (events.map (cut left last)) = long ((long events).map (cut left last)) := by
  unfold long
  induction events with
  | nil => rfl
  | cons e events ih =>
    by_cases hl : e.start < e.stop
    · rw [List.filter_cons, if_pos (by simpa using hl), List.map_cons, List.map_cons,
        List.filter_cons, List.filter_cons, ih]
    · have hcut : ¬ (e.cut left last).start < (e.cut left last).stop := by
        unfold cut
        split
        · next hc =>
          rw [Bool.and_eq_true, decide_eq_true_eq] at hc
          dsimp only
          omega
        · exact hl
      rw [List.filter_cons, if_neg (by simpa using hl), List.map_cons, List.filter_cons,
        if_neg (by simpa using hcut), ih]

private theorem Shifted.cut {n last last' : Nat} {events events' : List Event}
    (h : Shifted n events events') (hl : ShiftedLast n last last') (left : List RuleId) :
    Shifted n (events.map (Event.cut left last)) (events'.map (Event.cut left last')) := by
  unfold Shifted at *
  rw [long_map_cut left last', h, List.map_map, long_map_cut left last]
  apply shifted_map
  intro e he
  have hlong : e.start < e.stop := by simpa using (List.mem_filter.mp he).2
  rw [Function.comp_apply]
  have hrule : (e.shift n).rule = e.rule := rfl
  have hstop : (e.shift n).stop = e.stop + n := rfl
  by_cases hmem : e.rule ∈ left
  · by_cases hlast : last < e.stop
    · have hlast' : last' < (e.shift n).stop := by unfold ShiftedLast at hl; omega
      rw [cut_of_lt hlast hmem, cut_of_lt hlast' (hrule ▸ hmem)]
      rcases hl with rfl | ⟨rfl, hlt⟩
      · exact .inl rfl
      · -- A cut in the first line leaves one line at most, here and in the longer document.
        right
        dsimp only [shift]
        omega
    · have hle : (e.shift n).stop ≤ last' := by unfold ShiftedLast at hl; omega
      rw [cut_of_stop_le (Nat.le_of_not_lt hlast), cut_of_stop_le hle]
      exact .inl rfl
  · rw [cut_of_not_mem hmem, cut_of_not_mem (hrule ▸ hmem)]
    exact .inl rfl

end Event

/-! ### Runs and blocks -/

/-- The run moved down by some lines. -/
def Run.shift (n : Nat) (r : Run) : Run := ⟨r.first + n, r.last + n⟩

/-- The blocks moved down by some lines. -/
def Blocks.shift (n : Nat) (b : Blocks) : Blocks :=
  ⟨b.opens.map fun o => (o.1, o.2 + n), b.lastLine + n⟩

/-- The last line of what ends at a limit, moved down. -/
theorem Event.shiftedLast_elim {n : Nat} {limit limit' : Option Nat}
    (h : Option.Rel (ShiftedLast n) limit limit') (last : Nat) :
    ShiftedLast n (limit.elim last (min last)) (limit'.elim (last + n) (min (last + n))) := by
  unfold ShiftedLast at *
  cases h with
  | none => exact .inl rfl
  | some h =>
    simp only [Option.elim_some]
    omega

private theorem Run.shifted_event {n : Nat} {limit limit' : Option Nat}
    (h : Option.Rel (Event.ShiftedLast n) limit limit') (id : RuleId) (r : Run) :
    Event.Shifted n (r.event? id limit).toList ((r.shift n).event? id limit').toList := by
  have hlast := Event.shiftedLast_elim h r.last
  unfold event? shift
  dsimp only
  generalize limit.elim r.last (min r.last) = last at hlast ⊢
  generalize limit'.elim (r.last + n) (min (r.last + n)) = last' at hlast ⊢
  rcases hlast with rfl | ⟨rfl, hlt⟩
  · by_cases hl : r.first < last
    · rw [if_pos hl, if_pos (Nat.add_lt_add_right hl n)]
      exact Event.shifted_singleton n _
    · rw [if_neg hl, if_neg (by omega)]
      rfl
  · rw [if_neg (Nat.not_lt_zero _), if_neg (by omega)]
    rfl

private theorem Blocks.shifted_flush {n : Nat} {limit limit' : Option Nat}
    (h : Option.Rel (Event.ShiftedLast n) limit limit') (id : RuleId) (b : Blocks) :
    Event.Shifted n (b.flush id limit) ((b.shift n).flush id limit') := by
  have hlast := Event.shiftedLast_elim h b.lastLine
  unfold flush shift
  dsimp only
  generalize limit.elim b.lastLine (min b.lastLine) = last at hlast ⊢
  generalize limit'.elim (b.lastLine + n) (min (b.lastLine + n)) = last' at hlast ⊢
  rw [List.filter_map, List.map_map]
  rcases hlast with rfl | ⟨rfl, hlt⟩
  · have hsame : ((fun o : Nat × Nat => decide (o.2 ≤ last + n)) ∘
        fun o : Nat × Nat => (o.1, o.2 + n)) = fun o : Nat × Nat => decide (o.2 ≤ last) := by
      funext o
      simp
    rw [hsame]
    exact Event.shifted_map fun _ _ => .inl rfl
  · -- What ends in the first line has one line, and after the shift it is dropped.
    have hnone : ((fun o : Nat × Nat => decide (o.2 ≤ last')) ∘
        fun o : Nat × Nat => (o.1, o.2 + n)) = fun _ : Nat × Nat => false := by
      funext o
      simp only [Function.comp_apply, decide_eq_false_iff_not]
      omega
    rw [hnone]
    unfold Event.Shifted Event.long
    rw [List.filter_false, List.map_nil, List.filter_nil]
    symm
    rw [List.map_eq_nil_iff, List.filter_eq_nil_iff]
    intro e he
    obtain ⟨o, _, rfl⟩ := List.mem_map.mp he
    simp

/-- A line that is taken in ends the same blocks and opens one. Above the first line nothing ends. -/
theorem Blocks.shifted_feed {n : Nat} {b b' : Blocks}
    (h : b'.opens = b.opens.map fun o => (o.1, o.2 + n)) (id : RuleId) (lineNo width : Nat) :
    (b'.feed id (lineNo + n) width).1 = (b.feed id lineNo width).1.shift n ∧
      Event.Shifted n (b.feed id lineNo width).2 (b'.feed id (lineNo + n) width).2 := by
  rw [feed_eq, feed_eq, h, List.takeWhile_map, List.dropWhile_map]
  refine ⟨rfl, ?_⟩
  dsimp only
  rw [List.map_map]
  apply Event.shifted_map
  intro o _
  simp only [Function.comp_apply, Event.shift]
  rcases Nat.eq_zero_or_pos lineNo with rfl | hpos
  · right
    omega
  · left
    rw [Nat.sub_add_comm hpos]

/-! ### The state inside a line -/

namespace ScanState

/-- What is pending is the same, moved down, and so are the events of the line. -/
structure LineShifted (n : Nat) (s s' : ScanState) : Prop where
  runs : s'.runs = s.runs.mapValues (Run.shift n)
  blocks : s'.blocks = s.blocks.mapValues (Blocks.shift n)
  current : Event.Shifted n s.current.toList s'.current.toList

variable {n : Nat} {s s' : ScanState}

private theorem LineShifted.emit (h : LineShifted n s s') {more more' : List Event}
    (hm : Event.Shifted n more more') : LineShifted n (s.emit more) (s'.emit more') := by
  refine ⟨h.runs, h.blocks, ?_⟩
  rw [toList_emit, toList_emit]
  exact h.current.append hm

private theorem LineShifted.foldl {α : Type} {f f' : ScanState → α → ScanState} (xs : List α)
    (hf : ∀ s s' x, LineShifted n s s' → LineShifted n (f s x) (f' s' x))
    (h : LineShifted n s s') : LineShifted n (xs.foldl f s) (xs.foldl f' s') := by
  induction xs generalizing s s' with
  | nil => exact h
  | cons x xs ih => exact ih (hf s s' x h)

private theorem LineShifted.closeRun (h : LineShifted n s s') {limit limit' : Option Nat}
    (hl : Option.Rel (Event.ShiftedLast n) limit limit') (id : RuleId) :
    LineShifted n (s.closeRun limit id) (s'.closeRun limit' id) := by
  have hlook : s'.runs.lookup id = (s.runs.lookup id).map (Run.shift n) := by
    rw [h.runs, SortedMap.lookup_mapValues]
  unfold ScanState.closeRun
  cases hr : s.runs.lookup id with
  | none =>
    rw [hr, Option.map_none] at hlook
    rw [hlook]
    exact h
  | some run =>
    rw [hr, Option.map_some] at hlook
    rw [hlook]
    refine LineShifted.emit ?_ (Run.shifted_event hl id run)
    refine ⟨?_, h.blocks, h.current⟩
    dsimp only
    rw [h.runs, SortedMap.erase, SortedMap.filter_mapValues, SortedMap.erase]

private theorem LineShifted.flushBlocks (h : LineShifted n s s') {limit limit' : Option Nat}
    (hl : Option.Rel (Event.ShiftedLast n) limit limit') (id : RuleId) :
    LineShifted n (s.flushBlocks limit id) (s'.flushBlocks limit' id) := by
  have hlook : s'.blocks.lookup id = (s.blocks.lookup id).map (Blocks.shift n) := by
    rw [h.blocks, SortedMap.lookup_mapValues]
  unfold ScanState.flushBlocks
  cases hb : s.blocks.lookup id with
  | none =>
    rw [hb, Option.map_none] at hlook
    rw [hlook]
    exact h
  | some b =>
    rw [hb, Option.map_some] at hlook
    rw [hlook]
    refine LineShifted.emit ?_ (Blocks.shifted_flush hl id b)
    refine ⟨h.runs, ?_, h.current⟩
    dsimp only
    rw [h.blocks, SortedMap.erase, SortedMap.filter_mapValues, SortedMap.erase]

private theorem LineShifted.extendRun (h : LineShifted n s s') (lineNo : Nat) (id : RuleId) :
    LineShifted n (s.extendRun lineNo id) (s'.extendRun (lineNo + n) id) := by
  refine ⟨?_, h.blocks, h.current⟩
  simp only [ScanState.extendRun]
  rw [h.runs, ← SortedMap.insert_mapValues, SortedMap.lookup_mapValues]
  congr 1
  cases s.runs.lookup id <;> rfl

private theorem LineShifted.feedBlocks (h : LineShifted n s s') (lineNo width : Nat) (id : RuleId) :
    LineShifted n (s.feedBlocks lineNo width id) (s'.feedBlocks (lineNo + n) width id) := by
  have hopens : ((s'.blocks.lookup id).getD .empty).opens =
      ((s.blocks.lookup id).getD .empty).opens.map fun o => (o.1, o.2 + n) := by
    rw [h.blocks, SortedMap.lookup_mapValues]
    cases s.blocks.lookup id <;> rfl
  obtain ⟨hblocks, hended⟩ := Blocks.shifted_feed hopens id lineNo width
  unfold ScanState.feedBlocks
  generalize ((s.blocks.lookup id).getD .empty).feed id lineNo width = fed at hblocks hended ⊢
  generalize ((s'.blocks.lookup id).getD .empty).feed id (lineNo + n) width = fed' at hblocks hended ⊢
  refine LineShifted.emit ?_ hended
  refine ⟨h.runs, ?_, h.current⟩
  dsimp only
  rw [hblocks, h.blocks, SortedMap.insert_mapValues]

private theorem LineShifted.feedRule (h : LineShifted n s s') (rules : RuleSet) (lineNo : Nat)
    (line : Line) (id : RuleId) :
    LineShifted n (s.feedRule rules lineNo line id) (s'.feedRule rules (lineNo + n) line id) := by
  unfold ScanState.feedRule
  cases rules.rule? id with
  | none => exact h
  | some rule =>
    dsimp only
    cases rule.kind with
    | delimited opening closing => exact h
    | paired p => exact h
    | consecutive p =>
      dsimp only
      split
      · exact h.extendRun lineNo id
      · exact h
    | indentation =>
      cases Line.indentWidth line with
      | none => exact h
      | some width => exact h.feedBlocks lineNo width id

private theorem LineShifted.feedLine (h : LineShifted n s s') {rules : RuleSet}
    (hscope : s'.stack.scope rules = s.stack.scope rules) (lineNo : Nat) (line : Line) :
    LineShifted n (s.feedLine rules lineNo line) (s'.feedLine rules (lineNo + n) line) := by
  have hfed := h.foldl (s.stack.scope rules).active
    fun _ _ id hs => hs.feedRule rules lineNo line id
  unfold ScanState.feedLine
  rw [hscope]
  dsimp only
  rw [hfed.runs, SortedMap.filter_mapValues, SortedMap.keys_mapValues]
  have hended (x : RuleId × Run) :
      decide ((x.2.shift n).last ≠ lineNo + n) = decide (x.2.last ≠ lineNo) := by
    simp [Run.shift]
  simp only [hended]
  exact hfed.foldl _ fun _ _ id hs => hs.closeRun .none id

private theorem LineShifted.leaveScope (h : LineShifted n s s') {rules : RuleSet}
    (hscope : s'.stack.scope rules = s.stack.scope rules) (before : List RuleId) {last last' : Nat}
    (hl : Event.ShiftedLast n last last') :
    LineShifted n (s.leaveScope rules before last) (s'.leaveScope rules before last') := by
  rw [leaveScope_eq, leaveScope_eq]
  have hleft : outOfReach rules before s'.stack = outOfReach rules before s.stack := by
    unfold outOfReach
    rw [hscope]
  rw [hleft]
  refine LineShifted.foldl _ ?_ ⟨h.runs, h.blocks, ?_⟩
  · intro t t' id ht
    exact (ht.closeRun (.some hl) id).flushBlocks (.some hl) id
  · dsimp only
    rw [Array.toList_map, Array.toList_map]
    exact h.current.cut hl _

end ScanState

/-! ### Scans that go on with nothing open -/

/-- Moving lines down leads from stacks to stacks. -/
def RuleSet.shiftLines (rules : RuleSet) (n : Nat) : Translation rules rules where
  nesting := id
  scope := id
  offset := n
  rule?_eq id := by cases rules.rule? id <;> rfl
  scope_base := rfl
  scope_enter _ _ _ _ := rfl
  ends_scope _ := rfl
  openings_scope _ _ _ := rfl

namespace ScanState

/-- A state inside a longer document, with the long events of an earlier part in front. -/
structure Shifted (rules : RuleSet) (n : Nat) (front : List Event) (s s' : ScanState) : Prop where
  stack : s'.stack = (rules.shiftLines n).stack s.stack
  line : LineShifted n s s'
  past : Event.long s'.past.toList = front ++ (Event.long s.past.toList).map (Event.shift n)

private theorem beginLine_settle (rules : RuleSet) (lineNo : Nat) (line : Line) (s : ScanState) :
    s.settle.beginLine rules lineNo line = s.beginLine rules lineNo line := by
  simp [beginLine, settle]

variable {rules : RuleSet} {n : Nat} {front : List Event} {s s' : ScanState}

private theorem Shifted.scope_eq (h : Shifted rules n front s s') :
    s'.stack.scope rules = s.stack.scope rules := by
  rw [h.stack]
  exact (rules.shiftLines n).scope_stack s.stack

private theorem Shifted.events (h : Shifted rules n front s s') :
    Event.long s'.events.toList = front ++ (Event.long s.events.toList).map (Event.shift n) := by
  rw [toList_events, toList_events, Event.long_append, Event.long_append, h.past, h.line.current,
    List.map_append, List.append_assoc]

private theorem Shifted.beginLine (h : Shifted rules n front s s') (lineNo : Nat) (line : Line) :
    Shifted rules n front (s.beginLine rules lineNo line)
      (s'.beginLine rules (lineNo + n) line) := by
  refine ⟨?_, ?_, ?_⟩
  · rw [stack_beginLine, stack_beginLine]
    exact h.stack
  · have hsettled : LineShifted n s.settle s'.settle := ⟨h.line.runs, h.line.blocks, rfl⟩
    exact hsettled.feedLine h.scope_eq lineNo line
  · rw [past_beginLine, past_beginLine]
    exact h.events

private theorem Shifted.closeRegion (h : Shifted rules n front s s') (lineNo : Nat) {index : Nat}
    {entry : OpenEntry} {rule : Rule} (he : s.stack[index]? = some entry)
    (hr : rules.rule? entry.rule = some rule) :
    Shifted rules n front (s.closeRegion rules lineNo index)
      (s'.closeRegion rules (lineNo + n) index) := by
  let T := rules.shiftLines n
  have he' : s'.stack[index]? = some (T.entry entry) := by
    rw [h.stack, T.getElem?_stack, he]
    rfl
  refine ⟨T.stack_closeRegion s s' h.stack lineNo index, ?_, ?_⟩
  · rw [closeRegion_eq he hr, closeRegion_eq he' hr, h.scope_eq]
    refine LineShifted.leaveScope (LineShifted.emit ?_ ?_) ?_ _ ?_
    · exact ⟨h.line.runs, h.line.blocks, h.line.current⟩
    · exact Event.shifted_singleton n ⟨entry.rule, entry.line, lineNo, true⟩
    · change (closedStack rules rule.pairing s'.stack index).scope rules =
        (closedStack rules rule.pairing s.stack index).scope rules
      rw [h.stack, ← T.stack_closedStack]
      exact T.scope_stack _
    · unfold Event.ShiftedLast
      split <;> omega
  · rw [(closeRegion_spec s.pending_true lineNo he hr).2.1,
      (closeRegion_spec s'.pending_true (lineNo + n) he' hr).2.1]
    exact h.past

private theorem Shifted.handle (h : Shifted rules n front s s') {lineNo pos : Nat} {line : Line}
    {hit : Hit} (hh : s.stack.nextHit rules lineNo line pos = some hit) :
    Shifted rules n front (s.handle rules lineNo hit) (s'.handle rules (lineNo + n) hit) := by
  unfold ScanState.handle
  rcases Stack.nextHit_cases hh with ⟨key, index, _, hc⟩ | ⟨id, hid, ho⟩
  · obtain ⟨entry, rule, he, hr, _, ha⟩ := Stack.closingHit_eq_some hc
    rw [ha]
    exact h.closeRegion lineNo he hr
  · obtain ⟨rule, om, hr, _, rfl⟩ := Stack.openingHit_eq_some ho
    exact ⟨(rules.shiftLines n).stack_openRegion s s' h.stack lineNo _ id om.captures,
      ⟨h.line.runs, h.line.blocks, h.line.current⟩, h.past⟩

private theorem LineShifted.finish (h : LineShifted n s s') : LineShifted n s.finish s'.finish := by
  have hcleared : LineShifted n { s with stack := #[] } { s' with stack := #[] } :=
    ⟨h.runs, h.blocks, h.current⟩
  have hruns := hcleared.foldl s.runs.keys fun _ _ id ht => ht.closeRun .none id
  have hkeys : s'.runs.keys = s.runs.keys := by rw [h.runs, SortedMap.keys_mapValues]
  unfold ScanState.finish
  dsimp only
  rw [hkeys, hruns.blocks, SortedMap.keys_mapValues]
  exact hruns.foldl _ fun _ _ id ht => ht.flushBlocks .none id

private theorem Shifted.finish (h : Shifted rules n front s s') :
    Event.long s'.finish.events.toList =
      front ++ (Event.long s.finish.events.toList).map (Event.shift n) := by
  have hpast : s.finish.past = s.past := (ends_finish s.pending_true).past
  have hpast' : s'.finish.past = s'.past := (ends_finish s'.pending_true).past
  rw [toList_events, toList_events, Event.long_append, Event.long_append, hpast, hpast', h.past,
    h.line.finish.current, List.map_append, List.append_assoc]

end ScanState

namespace Moment

/-- Whether events count as those of an earlier line does not matter when the next line begins. -/
theorem after_settle (rules : RuleSet) (begun : Nat) (line : Line) (rest : List Line)
    (s : ScanState) (k : Nat) :
    after rules ⟨none, begun, line :: rest, s.settle⟩ (k + 1) =
      after rules ⟨none, begun, line :: rest, s⟩ (k + 1) := by
  have hnext : next? rules ⟨none, begun, line :: rest, s.settle⟩ =
      next? rules ⟨none, begun, line :: rest, s⟩ := by
    simp only [next?, ScanState.beginLine_settle]
  rw [Nat.add_comm, after_add, after_add, after, after, after, after, hnext]
  rfl

end Moment

namespace RuleSet

variable {rules : RuleSet}

/-- With nothing open and nothing pending a scan goes on in step with one that begins there. -/
theorem inStep_settle (rules : RuleSet) {s : ScanState} (hstack : s.stack = #[]) (hidle : s.Idle)
    (n : Nat) (lines : List Line) (k : Nat) :
    Moment.InStep (rules.shiftLines n) (ScanState.Shifted rules n (Event.long s.events.toList))
      (rules.run lines k) (Moment.after rules ⟨none, n, lines, s.settle⟩ k) := by
  have hstart : Moment.InStep (rules.shiftLines n)
      (ScanState.Shifted rules n (Event.long s.events.toList)) (.start lines)
      ⟨none, n, lines, s.settle⟩ := by
    refine ⟨rfl, (Nat.zero_add n).symm, rfl, ?_, ⟨hidle.runs, hidle.blocks, rfl⟩, ?_⟩
    · exact hstack.trans Array.map_empty.symm
    · exact (List.append_nil _).symm
  refine hstart.after ?_ k
  intro j h
  refine h.next h.state.stack ?_ ?_
  · intro lineNo line pos hit hh
    exact h.state.handle hh
  · intro lineNo line
    exact h.state.beginLine lineNo line

/-- After a part at whose end nothing is open or pending a scan reports what it reports of the rest
alone, up to events of one line. -/
theorem long_scan_append {d₁ : List Line}
    (hstack : (ScanState.start.scanLines rules 0 d₁).stack = #[])
    (hidle : (ScanState.start.scanLines rules 0 d₁).Idle) (d₂ : List Line) :
    Event.long (rules.scan (d₁ ++ d₂)) =
      Event.long (rules.scan d₁) ++ (Event.long (rules.scan d₂)).map (Event.shift d₁.length) := by
  cases d₂ with
  | nil =>
    rw [List.append_nil]
    exact (List.append_nil _).symm
  | cons line rest =>
    have hfront : rules.scan d₁ = (ScanState.start.scanLines rules 0 d₁).events.toList := by
      unfold scan
      rw [hidle.finish]
      rfl
    -- Both scans are looked at after at least one step: by then the events of the first part count
    -- as those of earlier lines.
    obtain ⟨k₀, hk₀⟩ := rules.run_append d₁ (line :: rest)
    obtain ⟨k, _, hend, hscan⟩ := rules.scan_eq_finish (line :: rest) 1
    obtain ⟨j, rfl⟩ : ∃ j, k = j + 1 := Nat.exists_eq_add_one.mpr (by omega)
    have hstep := rules.inStep_settle hstack hidle d₁.length (line :: rest) (j + 1)
    have hrun := Moment.after_settle rules d₁.length line rest
      (ScanState.start.scanLines rules 0 d₁) j
    rw [← hk₀, run, ← Moment.after_add, ← run] at hrun
    rw [hrun] at hstep
    rw [hfront, hscan, scan_eq_of_end (hstep.next?_eq_none hend)]
    exact hstep.state.finish

end RuleSet

end CodeFold
