import CodeFold.Proofs.Nesting

/-!
# Assembling ranges

The ranges of events are sorted and each span is kept once. A rule decides the kind of its ranges,
so the order is antisymmetric on what the rules have found, and the sorted list depends only on which
ranges there are. Ranges that all come before others can be assembled apart from them.
Specification: §4.3.
-/

namespace CodeFold

/-- The first and the last line of a range. -/
def FoldRange.span (r : FoldRange) : Nat × Nat := (r.start, r.stop)

/-! ### Dropping repetitions -/

/-- A range is dropped if the one before it has its span. -/
theorem dropRepeatsAfter_cons (r t : FoldRange) (rest : List FoldRange) :
    dropRepeatsAfter r (t :: rest) =
      if r.span = t.span then dropRepeatsAfter r rest else r :: dropRepeatsAfter t rest := by
  simp only [dropRepeatsAfter, FoldRange.span, Prod.mk.injEq]

private theorem mem_span_dropRepeatsAfter {p : Nat × Nat} (r : FoldRange) (rest : List FoldRange) :
    p ∈ (dropRepeatsAfter r rest).map FoldRange.span ↔ p ∈ (r :: rest).map FoldRange.span := by
  induction rest generalizing r with
  | nil => rfl
  | cons t rest ih =>
    rw [dropRepeatsAfter_cons]
    by_cases h : r.span = t.span
    · rw [if_pos h, ih]
      simp [h]
    · rw [if_neg h, List.map_cons, List.mem_cons, ih]
      simp

/-- No span is lost. -/
theorem mem_span_dropRepeats {p : Nat × Nat} (ranges : List FoldRange) :
    p ∈ (dropRepeats ranges).map FoldRange.span ↔ p ∈ ranges.map FoldRange.span := by
  cases ranges with
  | nil => rfl
  | cons r rest => exact mem_span_dropRepeatsAfter r rest

/-- Lists of ranges that have no span in common keep apart. -/
theorem dropRepeats_append {a b : List FoldRange} (h : ∀ x ∈ a, ∀ y ∈ b, x.span ≠ y.span) :
    dropRepeats (a ++ b) = dropRepeats a ++ dropRepeats b := by
  cases a with
  | nil => rfl
  | cons r rest =>
    rw [List.cons_append, dropRepeats, dropRepeats]
    induction rest generalizing r with
    | nil =>
      cases b with
      | nil => rfl
      | cons t b =>
        have hne : r.span ≠ t.span := h r (by simp) t (by simp)
        rw [List.nil_append, dropRepeatsAfter_cons, if_neg hne]
        rfl
    | cons t rest ih =>
      rw [List.cons_append, dropRepeatsAfter_cons, dropRepeatsAfter_cons]
      by_cases hs : r.span = t.span
      · rw [if_pos hs, if_pos hs]
        refine ih r ?_
        intro x hx y hy
        refine h x ?_ y hy
        rcases List.mem_cons.mp hx with rfl | hx
        · exact List.mem_cons_self
        · exact List.mem_cons_of_mem _ (List.mem_cons_of_mem _ hx)
      · rw [if_neg hs, if_neg hs, List.cons_append]
        congr 1
        exact ih t fun x hx y hy => h x (List.mem_cons_of_mem _ hx) y hy

/-- A change of ranges that tells spans apart commutes with dropping repetitions. -/
theorem dropRepeats_map {f : FoldRange → FoldRange}
    (hf : ∀ a b, (f a).span = (f b).span ↔ a.span = b.span) (ranges : List FoldRange) :
    dropRepeats (ranges.map f) = (dropRepeats ranges).map f := by
  cases ranges with
  | nil => rfl
  | cons r rest =>
    rw [List.map_cons, dropRepeats, dropRepeats]
    induction rest generalizing r with
    | nil => rfl
    | cons t rest ih =>
      simp only [List.map_cons, dropRepeatsAfter_cons, hf]
      by_cases hs : r.span = t.span
      · rw [if_pos hs, if_pos hs]
        exact ih r
      · rw [if_neg hs, if_neg hs, List.map_cons]
        congr 1
        exact ih t

/-! ### The order of ranges -/

/-- Sorting depends only on what is sorted, if the order tells apart what is sorted. -/
theorem mergeSort_eq {α : Type} {le : α → α → Bool} {xs ys : List α}
    (trans : ∀ a b c, le a b = true → le b c = true → le a c = true)
    (total : ∀ a b, (le a b || le b a) = true)
    (antisymm : ∀ a ∈ xs, ∀ b ∈ xs, le a b = true → le b a = true → a = b)
    (hs : ys.Pairwise fun a b => le a b = true) (hp : xs.Perm ys) : xs.mergeSort le = ys := by
  have hperm : (xs.mergeSort le).Perm ys := (List.mergeSort_perm xs le).trans hp
  refine hperm.eq_of_pairwise ?_ (List.pairwise_mergeSort trans total xs) hs
  intro a b ha hb
  exact antisymm a (List.mem_mergeSort.mp ha) b (hp.mem_iff.mpr hb)

/-- Ranges come by their first line, then the longer one, then by their rule. -/
theorem rangeLE_iff {a b : FoldRange × RuleId} :
    rangeLE a b = true ↔ a.1.start < b.1.start ∨ a.1.start = b.1.start ∧
      (b.1.stop < a.1.stop ∨ a.1.stop = b.1.stop ∧ @LE.le Nat _ a.2 b.2) := by
  unfold rangeLE
  by_cases hs : a.1.start = b.1.start
  · by_cases he : a.1.stop = b.1.stop
    · simp [hs, he]
    · simp [hs, he]
  · simp [hs]

/-- The order of ranges is transitive. -/
theorem rangeLE_trans (a b c : FoldRange × RuleId) (hab : rangeLE a b = true)
    (hbc : rangeLE b c = true) : rangeLE a c = true := by
  rw [rangeLE_iff] at hab hbc ⊢
  omega

/-- The order of ranges is total. -/
theorem rangeLE_total (a b : FoldRange × RuleId) : (rangeLE a b || rangeLE b a) = true := by
  rw [Bool.or_eq_true, rangeLE_iff, rangeLE_iff]
  omega

namespace RuleSet

variable {rules : RuleSet}

/-- The ranges of events with the rules that found them. -/
def found (rules : RuleSet) (lastLine : Nat) (events : List Event) : List (FoldRange × RuleId) :=
  events.filterMap fun e => (rules.range? lastLine e).map (·, e.rule)

/-- A range found by a rule is of the kind that the rule gives. -/
def OwnKind (rules : RuleSet) (x : FoldRange × RuleId) : Prop :=
  ∃ rule, rules.rule? x.2 = some rule ∧ x.1.kind = rule.foldKind

/-- A range is found for every event that gives one. -/
theorem mem_found {lastLine : Nat} {events : List Event} {x : FoldRange × RuleId} :
    x ∈ rules.found lastLine events ↔
      ∃ e ∈ events, rules.range? lastLine e = some x.1 ∧ e.rule = x.2 := by
  simp only [found, List.mem_filterMap, Option.map_eq_some_iff]
  constructor
  · rintro ⟨e, he, r, hr, rfl⟩
    exact ⟨e, he, hr, rfl⟩
  · rintro ⟨e, he, hr, hx⟩
    exact ⟨e, he, x.1, hr, by rw [hx]⟩

/-- Ranges are found event by event. -/
theorem found_append (lastLine : Nat) (a b : List Event) :
    rules.found lastLine (a ++ b) = rules.found lastLine a ++ rules.found lastLine b :=
  List.filterMap_append

/-- A range that is found has the kind of its rule. -/
theorem ownKind_of_mem_found {lastLine : Nat} {events : List Event} {x : FoldRange × RuleId}
    (h : x ∈ rules.found lastLine events) : rules.OwnKind x := by
  obtain ⟨e, _, hrange, hx⟩ := mem_found.mp h
  obtain ⟨rule, hr, _⟩ := Option.bind_eq_some_iff.mp hrange
  rw [range?_eq hr] at hrange
  split at hrange
  · refine ⟨rule, hx ▸ hr, ?_⟩
    rw [← Option.some.inj hrange]
  · cases hrange

/-- Ranges of rules that come at one place are equal. -/
theorem rangeLE_antisymm {a b : FoldRange × RuleId} (ha : rules.OwnKind a) (hb : rules.OwnKind b)
    (hab : rangeLE a b = true) (hba : rangeLE b a = true) : a = b := by
  rw [rangeLE_iff] at hab hba
  obtain ⟨⟨start, stop, kind⟩, id⟩ := a
  obtain ⟨⟨start', stop', kind'⟩, id'⟩ := b
  dsimp only at hab hba
  have hid : id = id' := Nat.le_antisymm (by omega) (by omega)
  subst hid
  obtain ⟨rule, hr, hk⟩ := ha
  obtain ⟨rule', hr', hk'⟩ := hb
  have hkind : kind = kind' := by
    rw [hr] at hr'
    cases hr'
    exact hk.trans hk'.symm
  have hstart : start = start' := by omega
  have hstop : stop = stop' := by omega
  rw [hkind, hstart, hstop]

/-- Sorting depends only on what is sorted. -/
theorem mergeSort_eq_of_perm {xs ys : List (FoldRange × RuleId)} (hx : ∀ x ∈ xs, rules.OwnKind x)
    (hs : ys.Pairwise fun a b => rangeLE a b = true) (hp : xs.Perm ys) :
    xs.mergeSort rangeLE = ys := by
  apply mergeSort_eq rangeLE_trans rangeLE_total _ hs hp
  intro a ha b hb
  exact rangeLE_antisymm (hx a ha) (hx b hb)

/-- Ranges that all come before others are sorted apart from them. -/
theorem mergeSort_append {xs ys : List (FoldRange × RuleId)} (hx : ∀ x ∈ xs, rules.OwnKind x)
    (hy : ∀ y ∈ ys, rules.OwnKind y) (hle : ∀ x ∈ xs, ∀ y ∈ ys, rangeLE x y = true) :
    (xs ++ ys).mergeSort rangeLE = xs.mergeSort rangeLE ++ ys.mergeSort rangeLE := by
  have hxy : ∀ x ∈ xs ++ ys, rules.OwnKind x := fun x h =>
    (List.mem_append.mp h).elim (hx x) (hy x)
  refine mergeSort_eq_of_perm hxy (List.pairwise_append.mpr ⟨?_, ?_, ?_⟩) ?_
  · exact List.pairwise_mergeSort rangeLE_trans rangeLE_total xs
  · exact List.pairwise_mergeSort rangeLE_trans rangeLE_total ys
  · intro x h y h'
    exact hle x (List.mem_mergeSort.mp h) y (List.mem_mergeSort.mp h')
  · exact (List.mergeSort_perm xs rangeLE).symm.append (List.mergeSort_perm ys rangeLE).symm

/-! ### Assembling -/

/-- The ranges of a document are those of its events, in order and without repeats. -/
theorem assemble_eq {lineCount : Nat} (h : lineCount ≠ 0) (events : List Event) :
    rules.assemble lineCount events =
      dropRepeats (((rules.found (lineCount - 1) events).mergeSort rangeLE).map (·.1)) :=
  if_neg h

/-- The ranges of a document are those of its scan, in order and without repeats. -/
theorem foldLines_eq (rules : RuleSet) (lines : List Line) :
    rules.foldLines lines =
      dropRepeats (((rules.found (lines.length - 1) (rules.scan lines)).mergeSort rangeLE).map
        (·.1)) := by
  cases lines with
  | nil => simp [foldLines, assemble, scan, ScanState.scanLines, ScanState.start, ScanState.finish,
      ScanState.events, found, SortedMap.keys, dropRepeats]
  | cons line lines => exact assemble_eq (Nat.succ_ne_zero _) _

/-- The spans of the assembled ranges are those of the ranges of the events. -/
theorem mem_span_assemble {lineCount : Nat} {events : List Event} {p : Nat × Nat} :
    p ∈ (rules.assemble lineCount events).map FoldRange.span ↔
      lineCount ≠ 0 ∧ ∃ e ∈ events, ∃ r, rules.range? (lineCount - 1) e = some r ∧ r.span = p := by
  by_cases h : lineCount = 0
  · simp [assemble, h]
  · rw [assemble_eq h, mem_span_dropRepeats, List.map_map, List.mem_map]
    constructor
    · rintro ⟨x, hx, hp⟩
      obtain ⟨e, he, hr, _⟩ := mem_found.mp (List.mem_mergeSort.mp hx)
      exact ⟨h, e, he, x.1, hr, hp⟩
    · rintro ⟨_, e, he, r, hr, hp⟩
      exact ⟨(r, e.rule), List.mem_mergeSort.mpr (mem_found.mpr ⟨e, he, hr, rfl⟩), hp⟩

/-- An event that ends above the end of two documents has the same range in both. -/
theorem range?_of_stop_le {e : Event} {lastLine lastLine' : Nat} (h : e.stop ≤ lastLine)
    (h' : e.stop ≤ lastLine') : rules.range? lastLine e = rules.range? lastLine' e := by
  cases hr : rules.rule? e.rule with
  | none => simp [range?, hr]
  | some rule =>
    have hstop : foldedStop rule lastLine e = foldedStop rule lastLine' e := by
      unfold foldedStop
      split <;> omega
    rw [range?_eq hr, range?_eq hr, hstop]

/-- The last line of a document counts only for events that reach behind it. -/
theorem found_of_stop_le {events : List Event} {lastLine lastLine' : Nat}
    (h : ∀ e ∈ events, e.stop ≤ lastLine ∧ e.stop ≤ lastLine') :
    rules.found lastLine events = rules.found lastLine' events := by
  apply List.filterMap_congr
  intro e he
  rw [range?_of_stop_le (h e he).1 (h e he).2]

end RuleSet

end CodeFold
