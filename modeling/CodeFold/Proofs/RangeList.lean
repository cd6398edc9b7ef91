import CodeFold.Proofs.Assemble
import Mathlib.Data.List.Nodup

/-!
# The list of ranges

What the assembled list says about the events, without a word on how it is made: ranges stand in
strict order, each span of an event's range occurs, no other span does, and the kind of a span is
that of the first rule that found it. There is one such list, so neither the order of the events
nor their repetition matters.
Specification: §4.3, §8.
-/

namespace CodeFold

namespace FoldRange

/-- A range is listed before another one if it starts above it, or in its first line and ends
below it. -/
def Before (a b : FoldRange) : Prop :=
  a.start < b.start ∨ a.start = b.start ∧ b.stop < a.stop

private theorem Before.asymm {a b : FoldRange} (h : a.Before b) : ¬ b.Before a := by
  unfold Before at h ⊢
  omega

private theorem Before.span_ne {a b : FoldRange} (h : a.Before b) : a.span ≠ b.span := by
  intro hs
  obtain ⟨hstart, hstop⟩ := Prod.mk.inj hs
  unfold Before at h
  omega

private theorem nodup_of_before {ranges : List FoldRange} (h : ranges.Pairwise Before) :
    ranges.Nodup :=
  h.imp fun hb heq => hb.span_ne (by rw [heq])

end FoldRange

private theorem before_iff_of_rangeLE {a b : FoldRange × RuleId} (h : rangeLE a b = true) :
    a.1.Before b.1 ↔ a.1.span ≠ b.1.span := by
  refine ⟨FoldRange.Before.span_ne, fun hne => ?_⟩
  have hspan : ¬ (a.1.start = b.1.start ∧ a.1.stop = b.1.stop) := by
    rintro ⟨hs, he⟩
    exact hne (Prod.ext hs he)
  rw [rangeLE_iff] at h
  unfold FoldRange.Before
  omega

/-- Of ranges with one span the one that is listed first has the smallest number. -/
theorem le_of_rangeLE {a b : FoldRange × RuleId} (h : rangeLE a b = true)
    (hs : b.1.span = a.1.span) : a.2 ≤ b.2 := by
  obtain ⟨hstart, hstop⟩ := Prod.mk.inj hs
  rw [rangeLE_iff] at h
  have hle : @LE.le Nat _ a.2 b.2 := by omega
  exact hle

/-- In a sorted list dropping repetitions leaves every span once, with the smallest number that it
was found by. -/
theorem dropRepeatsAfter_of_sorted (x : FoldRange × RuleId) (xs : List (FoldRange × RuleId))
    (h : (x :: xs).Pairwise fun a b => rangeLE a b = true) :
    (dropRepeatsAfter x.1 (xs.map (·.1))).Pairwise FoldRange.Before ∧
      ∀ r ∈ dropRepeatsAfter x.1 (xs.map (·.1)), ∃ y ∈ x :: xs, y.1 = r ∧
        ∀ z ∈ x :: xs, z.1.span = r.span → y.2 ≤ z.2 := by
  induction xs generalizing x with
  | nil =>
    refine ⟨List.pairwise_singleton _ _, fun r hr => ?_⟩
    obtain rfl : r = x.1 := List.mem_singleton.mp hr
    refine ⟨x, List.mem_cons_self, rfl, fun z hz _ => ?_⟩
    obtain rfl : z = x := List.mem_singleton.mp hz
    exact Nat.le_refl _
  | cons t xs ih =>
    obtain ⟨hx, ht⟩ := List.pairwise_cons.mp h
    have hxt := hx t List.mem_cons_self
    rw [List.map_cons, dropRepeatsAfter_cons]
    by_cases hs : x.1.span = t.1.span
    · rw [if_pos hs]
      obtain ⟨hsorted, hfirst⟩ := ih x (h.sublist (by simp))
      refine ⟨hsorted, fun r hr => ?_⟩
      obtain ⟨y, hy, hyr, hmin⟩ := hfirst r hr
      refine ⟨y, by simp only [List.mem_cons] at hy ⊢; tauto, hyr, fun z hz hzr => ?_⟩
      rcases List.mem_cons.mp hz with rfl | hz
      · exact hmin z List.mem_cons_self hzr
      · rcases List.mem_cons.mp hz with rfl | hz
        · exact Nat.le_trans (hmin x List.mem_cons_self (hs.trans hzr)) (le_of_rangeLE hxt hs.symm)
        · exact hmin z (List.mem_cons_of_mem _ hz) hzr
    · rw [if_neg hs]
      obtain ⟨hsorted, hfirst⟩ := ih t ht
      have hbefore : ∀ z ∈ t :: xs, x.1.Before z.1 := by
        intro z hz
        have hxb := (before_iff_of_rangeLE hxt).mpr hs
        rcases List.mem_cons.mp hz with rfl | hz
        · exact hxb
        · have htz := (List.pairwise_cons.mp ht).1 z hz
          rw [rangeLE_iff] at htz
          unfold FoldRange.Before at hxb ⊢
          omega
      refine ⟨List.pairwise_cons.mpr ⟨fun r hr => ?_, hsorted⟩, fun r hr => ?_⟩
      · obtain ⟨y, hy, rfl, _⟩ := hfirst r hr
        exact hbefore y hy
      · rcases List.mem_cons.mp hr with rfl | hr
        · refine ⟨x, List.mem_cons_self, rfl, fun z hz hzs => ?_⟩
          rcases List.mem_cons.mp hz with rfl | hz
          · exact Nat.le_refl _
          · exact le_of_rangeLE (hx z hz) hzs
        · obtain ⟨y, hy, hyr, hmin⟩ := hfirst r hr
          refine ⟨y, List.mem_cons_of_mem _ hy, hyr, fun z hz hzs => ?_⟩
          rcases List.mem_cons.mp hz with rfl | hz
          · exact absurd (hzs.trans (by rw [hyr])) (hbefore y hy).span_ne
          · exact hmin z hz hzs

private theorem dropRepeats_of_sorted {xs : List (FoldRange × RuleId)}
    (h : xs.Pairwise fun a b => rangeLE a b = true) :
    (dropRepeats (xs.map (·.1))).Pairwise FoldRange.Before ∧
      ∀ r ∈ dropRepeats (xs.map (·.1)), ∃ y ∈ xs, y.1 = r ∧
        ∀ z ∈ xs, z.1.span = r.span → y.2 ≤ z.2 := by
  cases xs with
  | nil => exact ⟨List.Pairwise.nil, by simp [dropRepeats]⟩
  | cons x xs => exact dropRepeatsAfter_of_sorted x xs h

namespace RuleSet

variable {rules : RuleSet} {lineCount : Nat} {events events' : List Event}
  {ranges ranges' : List FoldRange}

/-- The range of an event in a document of that many lines has a span. -/
def SpanOf (rules : RuleSet) (lineCount : Nat) (e : Event) (p : Nat × Nat) : Prop :=
  ∃ r, rules.range? (lineCount - 1) e = some r ∧ r.span = p

/-- A list of ranges is in strict order and inside the document, has the spans of the events, and
gives every span the kind of the rule with the smallest number that found it. -/
structure ListsRanges (rules : RuleSet) (lineCount : Nat) (events : List Event)
    (ranges : List FoldRange) : Prop where
  sorted : ranges.Pairwise FoldRange.Before
  inside : ∀ r ∈ ranges, r.start < r.stop ∧ r.stop ≤ lineCount - 1
  spans : ∀ p, p ∈ ranges.map FoldRange.span ↔ ∃ e ∈ events, rules.SpanOf lineCount e p
  kinds : ∀ r ∈ ranges, ∃ e ∈ events, rules.SpanOf lineCount e r.span ∧
    (∀ e' ∈ events, rules.SpanOf lineCount e' r.span → e.rule ≤ e'.rule) ∧
    ∃ rule, rules.rule? e.rule = some rule ∧ r.kind = rule.foldKind

/-- Ranges end with the document. -/
theorem stop_le_of_range? {lastLine : Nat} {e : Event} {r : FoldRange}
    (h : rules.range? lastLine e = some r) : r.stop ≤ lastLine := by
  obtain ⟨rule, hr, _⟩ := Option.bind_eq_some_iff.mp h
  rw [range?_eq hr] at h
  split at h
  · cases h
    exact Nat.min_le_right _ _
  · cases h

/-- The assembled ranges are such a list. -/
theorem listsRanges_assemble (rules : RuleSet) (lineCount : Nat) (events : List Event) :
    rules.ListsRanges lineCount events (rules.assemble lineCount events) := by
  have hspans (p : Nat × Nat) : p ∈ (rules.assemble lineCount events).map FoldRange.span ↔
      ∃ e ∈ events, rules.SpanOf lineCount e p := by
    rw [mem_span_assemble, and_iff_right_of_imp]
    · rfl
    · -- In a document without lines no event has a range.
      rintro ⟨e, _, r, hr, _⟩ rfl
      have hlt := (range?_spec hr).2.2
      have hle := stop_le_of_range? hr
      omega
  by_cases hzero : lineCount = 0
  · have hnil : rules.assemble lineCount events = [] := if_pos hzero
    exact ⟨by simp [hnil], by simp [hnil], hspans, by simp [hnil]⟩
  · have hsort := List.pairwise_mergeSort rangeLE_trans rangeLE_total
      (rules.found (lineCount - 1) events)
    obtain ⟨hsorted, hfirst⟩ := dropRepeats_of_sorted hsort
    rw [← assemble_eq hzero] at hsorted hfirst
    refine ⟨hsorted, ?_, hspans, ?_⟩
    · intro r hr
      obtain ⟨y, hy, rfl, _⟩ := hfirst r hr
      obtain ⟨e, _, hrange, _⟩ := mem_found.mp (List.mem_mergeSort.mp hy)
      exact ⟨(range?_spec hrange).2.2, stop_le_of_range? hrange⟩
    · intro r hr
      obtain ⟨y, hy, rfl, hmin⟩ := hfirst r hr
      have hfound := List.mem_mergeSort.mp hy
      obtain ⟨e, he, hrange, hrule⟩ := mem_found.mp hfound
      refine ⟨e, he, ⟨y.1, hrange, rfl⟩, ?_, hrule ▸ ownKind_of_mem_found hfound⟩
      rintro e' he' ⟨r', hr', hs⟩
      have hmem : (r', e'.rule) ∈ rules.found (lineCount - 1) events :=
        mem_found.mpr ⟨e', he', hr', rfl⟩
      rw [hrule]
      exact hmin _ (List.mem_mergeSort.mpr hmem) hs

/-- A range of one list is in every other list for the same events. -/
theorem ListsRanges.mem (h : rules.ListsRanges lineCount events ranges)
    (h' : rules.ListsRanges lineCount events ranges') {r : FoldRange} (hr : r ∈ ranges) :
    r ∈ ranges' := by
  have hspan := (h'.spans r.span).mpr ((h.spans r.span).mp (List.mem_map.mpr ⟨r, hr, rfl⟩))
  obtain ⟨r', hr', hs⟩ := List.mem_map.mp hspan
  obtain ⟨e, he, hes, hmin, rule, hrule, hk⟩ := h.kinds r hr
  obtain ⟨e', he', hes', hmin', rule', hrule', hk'⟩ := h'.kinds r' hr'
  rw [hs] at hes' hmin'
  -- Both kinds come from the smallest number, so they are the same.
  have hid : e.rule = e'.rule := Nat.le_antisymm (hmin e' he' hes') (hmin' e he hes)
  rw [hid, hrule', Option.some.injEq] at hrule
  subst hrule
  have hkind : r'.kind = r.kind := hk'.trans hk.symm
  obtain ⟨start, stop, kind⟩ := r
  obtain ⟨start', stop', kind'⟩ := r'
  obtain ⟨rfl, rfl⟩ := Prod.mk.inj hs
  obtain rfl : kind' = kind := hkind
  exact hr'

/-- There is one such list. -/
theorem ListsRanges.eq (h : rules.ListsRanges lineCount events ranges)
    (h' : rules.ListsRanges lineCount events ranges') : ranges = ranges' := by
  have hperm : ranges.Perm ranges' :=
    (List.perm_ext_iff_of_nodup (FoldRange.nodup_of_before h.sorted)
      (FoldRange.nodup_of_before h'.sorted)).mpr fun _ => ⟨h.mem h', h'.mem h⟩
  exact hperm.eq_of_pairwise (fun a b _ _ hab hba => absurd hba hab.asymm) h.sorted h'.sorted

private theorem ListsRanges.congr (h : rules.ListsRanges lineCount events ranges)
    (hsame : ∀ e, e ∈ events ↔ e ∈ events') : rules.ListsRanges lineCount events' ranges where
  sorted := h.sorted
  inside := h.inside
  spans := by simpa only [hsame] using h.spans
  kinds := by simpa only [hsame] using h.kinds

/-- The assembled ranges are in strict order, so no span occurs twice, and lie inside the document;
a span occurs if and only if the range of an event has it, and its kind is that of the rule with the
smallest number among those events. This leaves one list only, and events in another order or with
repetitions give the same one. -/
theorem assemble_unique (rules : RuleSet) (lineCount : Nat) (events : List Event) :
    (∀ ranges, rules.ListsRanges lineCount events ranges ↔
      ranges = rules.assemble lineCount events) ∧
    ∀ events', (∀ e, e ∈ events' ↔ e ∈ events) →
      rules.assemble lineCount events' = rules.assemble lineCount events := by
  have hlist := rules.listsRanges_assemble lineCount events
  constructor
  · intro ranges
    constructor
    · exact fun h => h.eq hlist
    · rintro rfl
      exact hlist
  · intro events' hsame
    exact ((rules.listsRanges_assemble lineCount events').congr hsame).eq hlist

end RuleSet

/-- Braces, of which the last line is not folded, and comments. -/
def bracesAndComments : RuleSet :=
  (RuleSet.compile ⟨"test"⟩
    [.rule { opening := some "\x7b", closing := some "\x7d", foldLastLine := some false } .unset,
      .rule { opening := some "/*", closing := some "*/", kind := some .comment } .unset] []).1

/-- A comment and braces that reach over the end of the document have one span there, which is a
region in whatever order and however often they are reported. -/
theorem assemble_of_repeatedComment :
    (∀ e, e ∈ [⟨1, 0, 7, true⟩, ⟨0, 0, 9, true⟩, ⟨1, 0, 7, true⟩] ↔
      e ∈ [(⟨0, 0, 9, true⟩ : Event), ⟨1, 0, 7, true⟩]) ∧
      bracesAndComments.assemble 5 [⟨1, 0, 7, true⟩, ⟨0, 0, 9, true⟩, ⟨1, 0, 7, true⟩] =
        [⟨0, 4, .region⟩] ∧
      bracesAndComments.ListsRanges 5 [⟨0, 0, 9, true⟩, ⟨1, 0, 7, true⟩] [⟨0, 4, .region⟩] := by
  obtain ⟨hlists, hsame⟩ :=
    bracesAndComments.assemble_unique 5 [⟨0, 0, 9, true⟩, ⟨1, 0, 7, true⟩]
  have hfound : bracesAndComments.found (5 - 1) [⟨0, 0, 9, true⟩, ⟨1, 0, 7, true⟩] =
      [(⟨0, 4, .region⟩, 0), (⟨0, 4, .comment⟩, 1)] := by decide +kernel
  have hassemble : bracesAndComments.assemble 5 [⟨0, 0, 9, true⟩, ⟨1, 0, 7, true⟩] =
      [⟨0, 4, .region⟩] := by
    rw [RuleSet.assemble_eq (by decide), hfound, List.mergeSort_of_pairwise (by decide)]
    rfl
  have hmem : ∀ e, e ∈ [⟨1, 0, 7, true⟩, ⟨0, 0, 9, true⟩, ⟨1, 0, 7, true⟩] ↔
      e ∈ [(⟨0, 0, 9, true⟩ : Event), ⟨1, 0, 7, true⟩] := by
    intro e
    simp only [List.mem_cons, List.not_mem_nil, or_false]
    tauto
  exact ⟨hmem, (hsame _ hmem).trans hassemble, (hlists _).mpr hassemble.symm⟩

end CodeFold
