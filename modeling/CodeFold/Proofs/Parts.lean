import CodeFold.Proofs.Append
import CodeFold.Proofs.Shift

/-!
# Folding in parts

The range of an event that is moved down is moved down with it. So if nothing is open or pending after
the first lines of a document, these lines and the other ones can be folded apart.
-/

namespace CodeFold

/-- The range moved down by some lines. -/
def FoldRange.shift (n : Nat) (r : FoldRange) : FoldRange :=
  { r with start := r.start + n, stop := r.stop + n }

private theorem FoldRange.span_shift (n : Nat) (a b : FoldRange) :
    (a.shift n).span = (b.shift n).span ↔ a.span = b.span := by
  simp [span, shift]

namespace RuleSet

variable {rules : RuleSet}

/-- Events of one line give no range. -/
theorem found_long (lastLine : Nat) (events : List Event) :
    rules.found lastLine (Event.long events) = rules.found lastLine events := by
  unfold found Event.long
  rw [List.filterMap_filter]
  apply List.filterMap_congr
  intro e _
  by_cases hl : e.start < e.stop
  · rw [if_pos (by simpa using hl)]
  · rw [if_neg (by simpa using hl)]
    cases hr : rules.range? lastLine e with
    | none => rfl
    | some r =>
      have hspec := range?_spec hr
      omega

private theorem range?_shift (n lastLine : Nat) (e : Event) :
    rules.range? (lastLine + n) (e.shift n) = (rules.range? lastLine e).map (FoldRange.shift n) := by
  cases hr : rules.rule? e.rule with
  | none =>
    have hr' : rules.rule? (e.shift n).rule = none := hr
    simp [range?, hr, hr']
  | some rule =>
    have hr' : rules.rule? (e.shift n).rule = some rule := hr
    rw [range?_eq hr, range?_eq hr']
    unfold foldedStop Event.shift
    dsimp only
    by_cases hc : (e.closed && !rule.foldLastLine) = true
    · rw [if_pos hc, if_pos hc]
      by_cases hl : e.start < min (e.stop - 1) lastLine
      · have hstop : min (e.stop + n - 1) (lastLine + n) = min (e.stop - 1) lastLine + n := by omega
        rw [if_pos hl, hstop, if_pos (by omega)]
        rfl
      · rw [if_neg hl, if_neg (by omega)]
        rfl
    · rw [if_neg hc, if_neg hc]
      have hstop : min (e.stop + n) (lastLine + n) = min e.stop lastLine + n := by omega
      rw [hstop]
      by_cases hl : e.start < min e.stop lastLine
      · rw [if_pos hl, if_pos (by omega)]
        rfl
      · rw [if_neg hl, if_neg (by omega)]
        rfl

private theorem found_shift (n lastLine : Nat) (events : List Event) :
    rules.found (lastLine + n) (events.map (Event.shift n)) =
      (rules.found lastLine events).map fun x => (x.1.shift n, x.2) := by
  unfold found
  rw [List.filterMap_map, List.map_filterMap]
  apply List.filterMap_congr
  intro e _
  rw [Function.comp_apply, range?_shift, Option.map_map, Option.map_map]
  rfl

/-- What is found in a document whose first part leaves nothing open or pending. -/
theorem found_append_shift {d₁ : List Line}
    (hstack : (ScanState.start.scanLines rules 0 d₁).stack = #[])
    (hidle : (ScanState.start.scanLines rules 0 d₁).Idle) (d₂ : List Line) :
    rules.found ((d₁ ++ d₂).length - 1) (rules.scan (d₁ ++ d₂)) =
      rules.found (d₁.length - 1) (rules.scan d₁) ++
        (rules.found (d₂.length - 1) (rules.scan d₂)).map fun x => (x.1.shift d₁.length, x.2) := by
  have hlen : (d₁ ++ d₂).length = d₁.length + d₂.length := List.length_append
  have hlong {lines : List Line} {e : Event} (he : e ∈ Event.long (rules.scan lines)) :
      e.stop < lines.length := rules.stop_lt_length lines e (List.mem_filter.mp he).1
  rw [← found_long, long_scan_append hstack hidle, found_append, ← found_long _ (rules.scan d₁),
    ← found_long _ (rules.scan d₂), ← found_shift]
  congr 1
  · apply found_of_stop_le
    intro e he
    have hlt := hlong he
    omega
  · apply found_of_stop_le
    intro e he
    obtain ⟨e₂, he₂, rfl⟩ := List.mem_map.mp he
    have hlt := hlong he₂
    dsimp only [Event.shift]
    omega

/-- Ranges that begin above a line are sorted apart from ranges that are moved below it. -/
theorem mergeSort_append_shift {n : Nat} {xs ys : List (FoldRange × RuleId)}
    (hx : ∀ x ∈ xs, rules.OwnKind x) (hy : ∀ y ∈ ys, rules.OwnKind y)
    (hlt : ∀ x ∈ xs, x.1.start < n) :
    (xs ++ ys.map fun y => (y.1.shift n, y.2)).mergeSort rangeLE =
      xs.mergeSort rangeLE ++ (ys.mergeSort rangeLE).map fun y => (y.1.shift n, y.2) := by
  have hsame : ∀ a ∈ ys, ∀ b ∈ ys,
      rangeLE a b = rangeLE (a.1.shift n, a.2) (b.1.shift n, b.2) := by
    intro a _ b _
    rw [Bool.eq_iff_iff, rangeLE_iff, rangeLE_iff]
    dsimp only [FoldRange.shift]
    omega
  rw [List.map_mergeSort hsame]
  refine mergeSort_append hx ?_ ?_
  · intro z hz
    obtain ⟨y, hmem, rfl⟩ := List.mem_map.mp hz
    exact hy y hmem
  · intro x hmem z hz
    obtain ⟨y, _, rfl⟩ := List.mem_map.mp hz
    have hstart := hlt x hmem
    rw [rangeLE_iff]
    dsimp only [FoldRange.shift]
    omega

/-- A document can be folded in parts: if nothing is open or pending after its first lines, its ranges
are those of these lines and then those of the other lines, moved down. -/
theorem foldLines_append (rules : RuleSet) (d₁ d₂ : List Line)
    (hstack : (ScanState.start.scanLines rules 0 d₁).stack = #[])
    (hruns : (ScanState.start.scanLines rules 0 d₁).runs = [])
    (hblocks : (ScanState.start.scanLines rules 0 d₁).blocks = []) :
    rules.foldLines (d₁ ++ d₂) =
      rules.foldLines d₁ ++ (rules.foldLines d₂).map (FoldRange.shift d₁.length) := by
  have habove : ∀ x ∈ rules.found (d₁.length - 1) (rules.scan d₁), x.1.start < d₁.length := by
    intro x hx
    obtain ⟨e, he, hrange, _⟩ := mem_found.mp hx
    have hstop := rules.stop_lt_length d₁ e he
    have hspec := range?_spec hrange
    omega
  rw [foldLines_eq, found_append_shift hstack ⟨hruns, hblocks⟩,
    mergeSort_append_shift (fun _ => ownKind_of_mem_found) (fun _ => ownKind_of_mem_found) habove,
    List.map_append, dropRepeats_append, ← foldLines_eq, List.map_map, foldLines_eq rules d₂,
    ← dropRepeats_map (FoldRange.span_shift d₁.length), List.map_map]
  · rfl
  · -- A range of the first part begins above all those of the second one.
    intro r hr r' hr' hspan
    obtain ⟨x, hx, rfl⟩ := List.mem_map.mp hr
    obtain ⟨z, hz, rfl⟩ := List.mem_map.mp hr'
    obtain ⟨y, _, rfl⟩ := List.mem_map.mp hz
    have hstart := habove x (List.mem_mergeSort.mp hx)
    have hsame : x.1.start = y.1.start + d₁.length := congrArg Prod.fst hspan
    omega

end RuleSet

/-- A document after which nothing is open or pending. -/
def bracketClosed : List Line := Line.split "(\na\n)"

/-- After the brackets a run of comments and other brackets are folded as in a document of their
own. -/
theorem foldLines_of_bracketClosed :
    let s := ScanState.start.scanLines comments 0 bracketClosed
    let others := Line.split "// b\n// c (\nd\n)"
    s.stack = #[] ∧ s.runs = [] ∧ s.blocks = [] ∧ bracketClosed.length = 3 ∧
      comments.foldLines others = [⟨0, 1, .comment⟩, ⟨1, 2, .region⟩] ∧
      comments.foldLines (bracketClosed ++ others) =
        [⟨0, 1, .region⟩, ⟨3, 4, .comment⟩, ⟨4, 5, .region⟩] := by
  intro s others
  have hstack : s.stack = #[] := rfl
  have hruns : s.runs = [] := by decide +kernel
  have hblocks : s.blocks = [] := by decide +kernel
  have hothers : comments.foldLines others = [⟨0, 1, .comment⟩, ⟨1, 2, .region⟩] := by
    have hfound : comments.found (others.length - 1) (comments.scan others) =
        [(⟨0, 1, .comment⟩, 0), (⟨1, 2, .region⟩, 2)] := by decide +kernel
    rw [RuleSet.foldLines_eq, hfound, List.mergeSort_of_pairwise (by decide)]
    rfl
  have hfirst : comments.foldLines bracketClosed = [⟨0, 1, .region⟩] := by decide +kernel
  have hlength : bracketClosed.length = 3 := by decide +kernel
  refine ⟨hstack, hruns, hblocks, hlength, hothers, ?_⟩
  rw [comments.foldLines_append bracketClosed others hstack hruns hblocks, hfirst, hothers, hlength]
  rfl

end CodeFold
