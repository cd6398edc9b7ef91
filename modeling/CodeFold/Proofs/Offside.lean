import CodeFold.Proofs.Share
import Mathlib.Data.List.TakeWhile

/-!
# Blocks of indented lines

An indentation rule that holds everywhere reports one block for every line that it sees: the line
is not blank, and no sealed region is open at its start. The block ends above the next line seen
that is indented no further, and without such a line at the last line seen. Other rules and the
regions that open and close in between make no difference.
Specification: §8.
-/

namespace CodeFold

/-! ### Where blocks end -/

namespace Offside

variable (width : Nat → Option Nat)

/-- The lines below `n` that have a width. -/
def seen (n : Nat) : List Nat := (List.range n).filter fun l => (width l).isSome

/-- Whether line `d` comes after line `l` and is indented no further. -/
def dedents (l d : Nat) : Bool := l < d && (width d).any fun w => (width l).any (w ≤ ·)

/-- The last line of the block that a line opens: the one above the first line that is indented no
further, or else the last one of all. -/
def lastLine (n l : Nat) : Nat :=
  match (List.range n).find? (dedents width l) with
  | some d => d - 1
  | none => (seen width n).max?.getD 0

/-- The events of an indentation rule for the lines below `n`. -/
def blocks (id : RuleId) (n : Nat) : List Event :=
  (seen width n).map fun l => ⟨id, l, lastLine width n l, false⟩

end Offside

/-- The blocks of a rule that are still open. -/
def Share.opens (v : Share) : List (Nat × Nat) := (v.blocks.getD .empty).opens

/-- What a rule has pending and has reported after the lines below `n`: every line seen has opened
one block, which is reported if a line is indented no further and is open otherwise. -/
structure Offside.Tracks (width : Nat → Option Nat) (id : RuleId) (n : Nat) (v : Share) :
    Prop where
  run : v.run = none
  starts : (v.events.map (·.start) ++ v.opens.map (·.2)).Perm (seen width n)
  events : ∀ e ∈ v.events, ∃ d < n, dedents width e.start d = true ∧
    (∀ j < d, dedents width e.start j = false) ∧ e = ⟨id, e.start, d - 1, false⟩
  opens : ∀ o ∈ v.opens, width o.2 = some o.1 ∧ ∀ d < n, dedents width o.2 d = false
  narrower : v.opens.Pairwise fun a b => b.1 < a.1
  last : ∀ b, v.blocks = some b → (seen width n).max? = some b.lastLine

namespace Offside

variable {width : Nat → Option Nat} {id : RuleId} {n : Nat} {v : Share}

private theorem seen_succ_of_none (h : width n = none) : seen width (n + 1) = seen width n := by
  simp [seen, List.range_succ, h]

private theorem seen_succ_of_some {w : Nat} (h : width n = some w) :
    seen width (n + 1) = seen width n ++ [n] := by
  simp [seen, List.range_succ, h]

private theorem lt_of_mem_seen {l : Nat} (h : l ∈ seen width n) : l < n :=
  List.mem_range.mp (List.mem_filter.mp h).1

private theorem dedents_eq {l d w w' : Nat} (hl : width l = some w) (hd : width d = some w') :
    dedents width l d = decide (l < d ∧ w' ≤ w) := by
  simp [dedents, hl, hd]

private theorem dedents_of_none {d : Nat} (hd : width d = none) (l : Nat) :
    dedents width l d = false := by
  simp [dedents, hd]

private theorem tracks_zero (width : Nat → Option Nat) (id : RuleId) :
    Tracks width id 0 ⟨none, none, []⟩ where
  run := rfl
  starts := List.Perm.refl _
  events := by simp
  opens := by simp [Share.opens, Blocks.empty]
  narrower := List.Pairwise.nil
  last := by simp

/-- A line that is not seen changes nothing. -/
theorem Tracks.skip (h : Tracks width id n v) (hn : width n = none) : Tracks width id (n + 1) v := by
  constructor
  · exact h.run
  · rw [seen_succ_of_none hn]
    exact h.starts
  · intro e he
    obtain ⟨d, hd, hrest⟩ := h.events e he
    exact ⟨d, Nat.lt_succ_of_lt hd, hrest⟩
  · intro o ho
    refine ⟨(h.opens o ho).1, ?_⟩
    intro d hd
    by_cases hdn : d = n
    · subst hdn
      exact dedents_of_none hn o.2
    · exact (h.opens o ho).2 d (by omega)
  · exact h.narrower
  · rw [seen_succ_of_none hn]
    exact h.last

/-- The blocks that stay open when a line is taken in are narrower than the line. -/
theorem lt_of_mem_dropWhile {opens : List (Nat × Nat)} (h : opens.Pairwise fun a b => b.1 < a.1)
    {w : Nat} {o : Nat × Nat} (ho : o ∈ opens.dropWhile (w ≤ ·.1)) : o.1 < w := by
  induction opens with
  | nil => simp at ho
  | cons x opens ih =>
    obtain ⟨hx, hrest⟩ := List.pairwise_cons.mp h
    rw [List.dropWhile_cons] at ho
    split at ho
    · exact ih hrest ho
    · next hw =>
      have hlt : x.1 < w := by simpa using hw
      rcases List.mem_cons.mp ho with rfl | ho
      · exact hlt
      · exact Nat.lt_trans (hx o ho) hlt

private theorem Tracks.lt_of_mem_opens (h : Tracks width id n v) {o : Nat × Nat}
    (ho : o ∈ v.opens) : o.2 < n := by
  have hmem : o.2 ∈ v.events.map (·.start) ++ v.opens.map (·.2) :=
    List.mem_append_right _ (List.mem_map_of_mem ho)
  exact lt_of_mem_seen (h.starts.mem_iff.mp hmem)

/-- A line that is seen ends the blocks that are as wide or wider and opens one. -/
theorem Tracks.feed (h : Tracks width id n v) {w : Nat} (hn : width n = some w) :
    Tracks width id (n + 1)
      { v with
        blocks := some ⟨(w, n) :: v.opens.dropWhile (w ≤ ·.1), n⟩
        events := v.events ++
          (v.opens.takeWhile (w ≤ ·.1)).map fun o => ⟨id, o.2, n - 1, false⟩ } := by
  constructor
  · exact h.run
  · have hopens : (v.opens.takeWhile (w ≤ ·.1)).map (·.2) ++
        (v.opens.dropWhile (w ≤ ·.1)).map (·.2) = v.opens.map (·.2) := by
      rw [← List.map_append, List.takeWhile_append_dropWhile]
    have hstarts := h.starts
    rw [← hopens, ← List.append_assoc] at hstarts
    rw [seen_succ_of_some hn]
    simp only [Share.opens, Option.getD_some, List.map_append, List.map_map, List.map_cons]
    exact List.perm_middle.trans ((hstarts.cons n).trans (List.perm_append_singleton n _).symm)
  · intro e he
    rcases List.mem_append.mp he with he | he
    · obtain ⟨d, hd, hrest⟩ := h.events e he
      exact ⟨d, Nat.lt_succ_of_lt hd, hrest⟩
    · -- The line is the first one that is indented no further than the block.
      obtain ⟨o, ho, rfl⟩ := List.mem_map.mp he
      have hopen := (List.takeWhile_sublist _).mem ho
      have hwidth : w ≤ o.1 := by simpa using List.mem_takeWhile_imp ho
      refine ⟨n, Nat.lt_succ_self n, ?_, (h.opens o hopen).2, rfl⟩
      rw [dedents_eq (h.opens o hopen).1 hn]
      exact decide_eq_true ⟨h.lt_of_mem_opens hopen, hwidth⟩
  · intro o ho
    rcases List.mem_cons.mp ho with rfl | hrest
    · refine ⟨hn, ?_⟩
      intro d hd
      have hle : ¬ n < d := by omega
      simp [dedents, hle]
    · have hopen := (List.dropWhile_sublist _).mem hrest
      have hwidth := lt_of_mem_dropWhile h.narrower hrest
      refine ⟨(h.opens o hopen).1, ?_⟩
      intro d hd
      by_cases hdn : d = n
      · rw [hdn, dedents_eq (h.opens o hopen).1 hn]
        apply decide_eq_false
        omega
      · exact (h.opens o hopen).2 d (by omega)
  · apply List.pairwise_cons.mpr
    constructor
    · intro o ho
      exact lt_of_mem_dropWhile h.narrower ho
    · exact h.narrower.sublist (List.dropWhile_sublist _)
  · intro b hb
    cases hb
    rw [seen_succ_of_some hn]
    apply List.max?_eq_some_iff.mpr
    refine ⟨by simp, ?_⟩
    intro l hl
    rcases List.mem_append.mp hl with hl | hl
    · exact Nat.le_of_lt (lt_of_mem_seen hl)
    · exact Nat.le_of_eq (by simpa using hl)

/-- An indentation rule has no run to end. -/
theorem Tracks.settle (h : Tracks width id n v) (lineNo : Nat) : v.settle id lineNo = v := by
  simp [Share.settle, h.run]

/-- What an indentation rule takes in is what `Tracks.feed` describes. -/
theorem feed_eq (v : Share) (id : RuleId) (n : Nat) {line : Line} {w : Nat}
    (hw : Line.indentWidth line = some w) :
    v.feed id .indentation n line =
      { v with
        blocks := some ⟨(w, n) :: v.opens.dropWhile (w ≤ ·.1), n⟩
        events := v.events ++
          (v.opens.takeWhile (w ≤ ·.1)).map fun o => ⟨id, o.2, n - 1, false⟩ } := by
  simp only [Share.feed, hw, Option.elim, Blocks.feed_eq]
  rfl

/-- The blocks that are open at the end reach down to the last line seen. -/
theorem Tracks.flush_eq (h : Tracks width id n v) :
    v.blocks.elim [] (·.flush id none) =
      v.opens.map fun o => (⟨id, o.2, lastLine width n o.2, false⟩ : Event) := by
  cases hb : v.blocks with
  | none => simp [Share.opens, hb, Blocks.empty]
  | some b =>
    have hopens : v.opens = b.opens := by simp [Share.opens, hb]
    have hmax := h.last b hb
    have hall : b.opens.filter (·.2 ≤ b.lastLine) = b.opens := by
      apply List.filter_eq_self.mpr
      intro o ho
      have hmem : o.2 ∈ seen width n := by
        apply h.starts.mem_iff.mp
        exact List.mem_append_right _ (List.mem_map_of_mem (hopens ▸ ho))
      simpa using (List.max?_eq_some_iff.mp hmax).2 o.2 hmem
    have hflush : b.flush id none = b.opens.map fun o => ⟨id, o.2, b.lastLine, false⟩ := by
      show (b.opens.filter (·.2 ≤ b.lastLine)).map _ = _
      rw [hall]
      rfl
    rw [hopens]
    refine hflush.trans (List.map_congr_left ?_)
    intro o ho
    have hnone : (List.range n).find? (dedents width o.2) = none := by
      apply List.find?_range_eq_none.mpr
      intro d hd
      rw [(h.opens o (hopens ▸ ho)).2 d hd]
      rfl
    simp [lastLine, hnone, hmax]

/-- An event that has been reported ends above the first line that is indented no further. -/
theorem Tracks.event_eq (h : Tracks width id n v) {e : Event} (he : e ∈ v.events) :
    e = ⟨id, e.start, lastLine width n e.start, false⟩ := by
  obtain ⟨d, hd, hded, hfirst, heq⟩ := h.events e he
  have hfind : (List.range n).find? (dedents width e.start) = some d := by
    apply List.find?_range_eq_some.mpr
    refine ⟨hded, List.mem_range.mpr hd, ?_⟩
    intro j hj
    rw [hfirst j hj]
    rfl
  rw [lastLine, hfind]
  exact heq

/-- At the end every line seen has its block reported, once. -/
theorem Tracks.perm_blocks (h : Tracks width id n v) :
    ((v.endRun id).endBlocks id).events.Perm (blocks width id n) := by
  have hevents : v.events =
      (v.events.map (·.start)).map fun l => ⟨id, l, lastLine width n l, false⟩ := by
    rw [List.map_map]
    conv_lhs => rw [← List.map_id v.events]
    apply List.map_congr_left
    intro e he
    exact h.event_eq he
  have hall : ((v.endRun id).endBlocks id).events =
      (v.events.map (·.start) ++ v.opens.map (·.2)).map
        fun l => ⟨id, l, lastLine width n l, false⟩ := by
    rw [List.map_append, ← hevents, List.map_map]
    simp only [Share.endBlocks, Share.endRun, h.run, h.flush_eq, Option.bind_none,
      Option.toList_none, List.append_nil]
    rfl
  rw [hall]
  exact h.starts.map _

end Offside

/-! ### Indentation rules of a scan -/

namespace RuleSet

/-- The width of a line that an indentation rule sees. -/
def seenWidth? (rules : RuleSet) (lines : List Line) (l : Nat) : Option Nat :=
  if rules.sees lines l then lines[l]?.bind Line.indentWidth else none

/-- After any number of lines an indentation rule that holds everywhere has reported the blocks that
have ended and has the others open. -/
theorem tracks_stateAt {rules : RuleSet} {lines : List Line} {r : RuleId} {rule : Rule}
    (ht : rules.topLevel.Nodup) (hr : r ∈ rules.topLevel) (hrule : rules.rule? r = some rule)
    (hk : rule.kind = .indentation) {n : Nat} (hn : n ≤ lines.length) :
    Offside.Tracks (rules.seenWidth? lines) r n ((rules.stateAt lines n).share r) := by
  induction n with
  | zero => exact Offside.tracks_zero _ r
  | succ n ih =>
    have h := ih (Nat.le_of_succ_le hn)
    have hline : lines[n]? = some lines[n] := List.getElem?_eq_getElem hn
    rw [share_stateAt_succ ht hr hrule (by rw [hk]; rfl) hline, hk]
    split
    · next hs =>
      cases hw : Line.indentWidth lines[n] with
      | none =>
        have hskip : rules.seenWidth? lines n = none := by simp [seenWidth?, hs, hline, hw]
        simp only [Share.feed, hw, Option.elim]
        rw [h.settle]
        exact h.skip hskip
      | some w =>
        have hseen : rules.seenWidth? lines n = some w := by simp [seenWidth?, hs, hline, hw]
        rw [Offside.feed_eq _ r n hw, (h.feed hseen).settle]
        exact h.feed hseen
    · next hs =>
      have hskip : rules.seenWidth? lines n = none := by simp [seenWidth?, hs]
      rw [h.settle]
      exact h.skip hskip

/-- In a scan with compiled rules, whatever the other rules are, the events of an indentation rule
that holds everywhere are one block for each line that is not blank and at whose start no sealed
region is open. -/
theorem offside_scan (language : Language) (specific wildcard : List RuleEntry)
    (lines : List Line) :
    let rules := (RuleSet.compile language specific wildcard).1
    ∀ r ∈ rules.topLevel, ∀ rule, rules.rule? r = some rule → rule.kind = .indentation →
      ((rules.scan lines).filter (·.rule = r)).Perm
        (Offside.blocks (rules.seenWidth? lines) r lines.length) := by
  intro rules r hr rule hrule hk
  have ht : rules.topLevel.Nodup := (RuleSet.wf_compile language specific wildcard).top.nodup
  rw [filter_scan]
  exact (tracks_stateAt ht hr hrule hk (Nat.le_refl _)).perm_blocks

end RuleSet

/-- Indented lines, comments, and brackets with indented lines of their own inside. -/
def outline : RuleSet :=
  (RuleSet.compile ⟨"test"⟩
    [.rule { offSide := some true } .unset,
      .rule { opening := some "/*", closing := some "*/" } (.flag false),
      .rule { opening := some "(", closing := some ")" }
        (.rules (.one (.rule { offSide := some true } .unset)))] []).1

/-- A document in which a comment hides a line that is not indented. -/
def outlined : List Line := Line.split "a\n b (\n  c /*\nd\n*/ e\n\n  )\n f"

/-- Lines inside a comment and blank lines open no blocks and end none. -/
theorem offside_scan_of_outline :
    0 ∈ outline.topLevel ∧
      (∃ rule, outline.rule? 0 = some rule ∧ rule.kind = .indentation) ∧
      ((outline.scan outlined).filter (·.rule = 0)).Perm
        [⟨0, 0, 7, false⟩, ⟨0, 1, 6, false⟩, ⟨0, 2, 5, false⟩, ⟨0, 6, 6, false⟩,
          ⟨0, 7, 7, false⟩] := by
  have htop : 0 ∈ outline.topLevel := by decide +kernel
  have hblocks : Offside.blocks (outline.seenWidth? outlined) 0 outlined.length =
      [⟨0, 0, 7, false⟩, ⟨0, 1, 6, false⟩, ⟨0, 2, 5, false⟩, ⟨0, 6, 6, false⟩,
        ⟨0, 7, 7, false⟩] := by decide +kernel
  refine ⟨htop, ⟨_, rfl, rfl⟩, ?_⟩
  rw [← hblocks]
  exact RuleSet.offside_scan ⟨"test"⟩ _ [] outlined 0 htop _ rfl rfl

end CodeFold
