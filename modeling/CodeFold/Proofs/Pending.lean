import CodeFold.Proofs.Frame
import CodeFold.Proofs.SortedMap
import Mathlib.Data.List.TakeDrop

/-!
# Pending regions

A rule on whole lines has a run of lines or blocks of indented lines pending until they end and
are reported. `Pending` asks a condition on rule, first and last line of all of them, and `Ends`
relates two states between which some of them ended. What a line or a closing adds to the events
is described by such a condition; a closing first cuts the events of its line that reach too far.
-/

namespace CodeFold

/-- An event ends a pending region at its last line or before, and not below a limit. -/
structure Event.Ending (P : RuleId → Nat → Nat → Prop) (limit : Option Nat) (e : Event) : Prop where
  pending : ∃ last, e.stop ≤ last ∧ P e.rule e.start last
  limited : ∀ l, limit = some l → e.stop ≤ l

/-- The event of a pending region that is cut at the limit. -/
theorem Event.Ending.of_elim {P : RuleId → Nat → Nat → Prop} {limit : Option Nat} {e : Event}
    {last : Nat} (h : P e.rule e.start last) (hs : e.stop = limit.elim last (min last)) :
    e.Ending P limit where
  pending := by
    refine ⟨last, ?_, h⟩
    rw [hs]
    cases limit with
    | none => exact Nat.le_refl _
    | some l => exact Nat.min_le_left _ _
  limited := by
    rintro l rfl
    rw [hs]
    exact Nat.min_le_right _ _

/-- A line ends the blocks that are indented as far as it or farther, and opens its own. -/
theorem Blocks.feed_eq (id : RuleId) (lineNo width : Nat) (b : Blocks) :
    b.feed id lineNo width =
      (⟨(width, lineNo) :: b.opens.dropWhile (width ≤ ·.1), lineNo⟩,
        (b.opens.takeWhile (width ≤ ·.1)).map fun o => ⟨id, o.2, lineNo - 1, false⟩) := by
  simp [feed, List.span_eq_takeWhile_dropWhile]

namespace ScanState

/-- A condition on rule, first and last line holds of all runs and blocks that have not ended. -/
structure Pending (P : RuleId → Nat → Nat → Prop) (s : ScanState) : Prop where
  runs : ∀ x ∈ s.runs, P x.1 x.2.first x.2.last
  blocks : ∀ x ∈ s.blocks, ∀ o ∈ x.2.opens, P x.1 o.2 x.2.lastLine

/-- Between two states nothing happened but that pending regions ended and were reported. -/
abbrev Ends (P : RuleId → Nat → Nat → Prop) (limit : Option Nat) (s s' : ScanState) : Prop :=
  Adds (Pending P) (Event.Ending P limit) s s'

private theorem runs_flushBlocks (limit : Option Nat) (s : ScanState) (id : RuleId) :
    (s.flushBlocks limit id).runs = s.runs := by
  unfold flushBlocks
  split <;> rfl

section

variable {P Q : RuleId → Nat → Nat → Prop} {s : ScanState}

/-- Nothing is pending at the start. -/
theorem pending_start (P : RuleId → Nat → Nat → Prop) : start.Pending P where
  runs := by simp [start]
  blocks := by simp [start]

/-- What is pending meets the condition that always holds. -/
theorem pending_true (s : ScanState) : s.Pending fun _ _ _ => True :=
  ⟨fun _ _ => trivial, fun _ _ _ _ => trivial⟩

/-- A condition on what is pending can be weakened. -/
theorem Pending.imp (h : s.Pending P) (hq : ∀ {id first last}, P id first last → Q id first last) :
    s.Pending Q where
  runs x hx := hq (h.runs x hx)
  blocks x hx o ho := hq (h.blocks x hx o ho)

/-- A rule reports what it had pending. -/
theorem reports_pending (P : RuleId → Nat → Nat → Prop) (limit : Option Nat) :
    Reports (Pending P) (Event.Ending P limit) limit where
  run {s id run} h hr := by
    refine ⟨⟨fun x hx => h.runs x (List.mem_filter.mp hx).1, h.blocks⟩, fun e he => ?_⟩
    have hrun := h.runs _ (SortedMap.mem_of_lookup hr)
    rw [Run.event?] at he
    split at he
    · cases he
      exact .of_elim hrun rfl
    · cases he
  blocks {s id b} h hb := by
    refine ⟨⟨h.runs, fun x hx => h.blocks x (List.mem_filter.mp hx).1⟩, fun e he => ?_⟩
    obtain ⟨o, ho, rfl⟩ := List.mem_map.mp he
    have hblock := h.blocks _ (SortedMap.mem_of_lookup hb) o (List.mem_filter.mp ho).1
    exact .of_elim hblock rfl

/-- After a rule has ended what it has pending, it has nothing pending. -/
theorem pending_ended (h : s.Pending P) (limit : Option Nat) (id : RuleId) :
    ((s.closeRun limit id).flushBlocks limit id).Pending
      fun i first last => P i first last ∧ i ≠ id := by
  have hrun := adds_closeRun (reports_pending P limit) h id
  have hp := (adds_flushBlocks (reports_pending P limit) hrun.kept id).kept
  refine ⟨fun x hx => ⟨hp.runs x hx, ?_⟩, fun x hx o ho => ⟨hp.blocks x hx o ho, ?_⟩⟩
  · rw [runs_flushBlocks, closeRun] at hx
    split at hx
    · next hn =>
      exact (bne_iff_ne.mp (List.lookup_eq_none_iff.mp hn x hx)).symm
    · simpa using (List.mem_filter.mp hx).2
  · rw [flushBlocks] at hx
    split at hx
    · next hn =>
      exact (bne_iff_ne.mp (List.lookup_eq_none_iff.mp hn x hx)).symm
    · simpa using (List.mem_filter.mp hx).2

/-- After some rules have ended what they have pending, only others have anything pending. -/
theorem pending_foldl_ended (h : s.Pending P) (limit : Option Nat) (ids : List RuleId) :
    (ids.foldl (fun s id => (s.closeRun limit id).flushBlocks limit id) s).Pending
      fun i first last => P i first last ∧ i ∉ ids := by
  induction ids generalizing s P with
  | nil => exact h.imp fun hp => ⟨hp, List.not_mem_nil⟩
  | cons id ids ih =>
    refine (ih (pending_ended h limit id)).imp ?_
    rintro i first last ⟨⟨hp, hne⟩, hi⟩
    exact ⟨hp, by simp [hne, hi]⟩

/-! ### Closing a region -/

/-- What leaving a scope does to the events of the line and to what is pending. -/
theorem leaveScope_spec (h : s.Pending P) (rules : RuleSet) (before : List RuleId) (last : Nat) :
    let left := outOfReach rules before s.stack
    let s' := s.leaveScope rules before last
    s'.Pending (fun i first last => P i first last ∧ i ∉ left) ∧ s'.past = s.past ∧
      ∃ more : List Event, s'.current.toList = s.current.toList.map (Event.cut left last) ++ more ∧
        ∀ e ∈ more, e.Ending P (some last) := by
  intro left s'
  have hs' := leaveScope_eq rules before last s
  have hp : { s with current := s.current.map (Event.cut left last) }.Pending P :=
    ⟨h.runs, h.blocks⟩
  have he := adds_leaveScope (reports_pending P (some last)) rules before hp
  refine ⟨?_, he.past, ?_⟩
  · dsimp only [s']
    rw [hs']
    exact pending_foldl_ended hp _ left
  · obtain ⟨more, hm, hmore⟩ := he.current
    exact ⟨more, by simpa using hm, hmore⟩

/-- Closing a region reports it, cuts the events of the line and ends what the rules out of reach
have pending. -/
theorem closeRegion_spec (h : s.Pending P) {rules : RuleSet} (lineNo : Nat) {index : Nat}
    {entry : OpenEntry} {rule : Rule} (he : s.stack[index]? = some entry)
    (hr : rules.rule? entry.rule = some rule) :
    let left := outOfReach rules (s.stack.scope rules).reachable
      (closedStack rules rule.pairing s.stack index)
    let last := if rule.foldLastLine then lineNo else lineNo - 1
    let s' := s.closeRegion rules lineNo index
    s'.Pending (fun i first last => P i first last ∧ i ∉ left) ∧ s'.past = s.past ∧
      ∃ more : List Event, s'.current.toList =
          (s.current.toList ++ [(⟨entry.rule, entry.line, lineNo, true⟩ : Event)]).map
            (Event.cut left last) ++ more ∧
        ∀ e ∈ more, e.Ending P (some last) := by
  intro left last s'
  have hp : ({ s with stack := closedStack rules rule.pairing s.stack index }.emit
      [⟨entry.rule, entry.line, lineNo, true⟩]).Pending P := ⟨h.runs, h.blocks⟩
  have hspec := leaveScope_spec hp rules (s.stack.scope rules).reachable last
  rw [← closeRegion_eq he hr] at hspec
  obtain ⟨hpend, hpast, hcur⟩ := hspec
  simp only [toList_emit] at hcur
  exact ⟨hpend, hpast, hcur⟩

/-! ### Lines as a whole -/

section

variable {lineNo : Nat} {id : RuleId}
  (hext : ∀ id first last, P id first last → P id first lineNo)

include hext

private theorem pending_extendRun (hnew : P id lineNo lineNo) (h : s.Pending P) :
    (s.extendRun lineNo id).Pending P := by
  refine ⟨?_, h.blocks⟩
  intro x hx
  rcases SortedMap.eq_or_mem_of_mem_insert hx with rfl | hx
  · cases hr : s.runs.lookup id with
    | none => exact hnew
    | some run => exact hext id run.first run.last (h.runs _ (SortedMap.mem_of_lookup hr))
  · exact h.runs x hx

/-- Blocks that a line ends were pending, and those that stay pending last up to the line. -/
theorem ends_feedBlocks (width : Nat) (hnew : P id lineNo lineNo) (h : s.Pending P) :
    Ends P none s (s.feedBlocks lineNo width id) := by
  have hold : ∀ o ∈ ((s.blocks.lookup id).getD .empty).opens, P id o.2 lineNo := by
    cases hb : s.blocks.lookup id with
    | none => simp [Blocks.empty]
    | some b => exact fun o ho => hext id o.2 _ (h.blocks _ (SortedMap.mem_of_lookup hb) o ho)
  rw [feedBlocks, Blocks.feed_eq]
  refine ⟨⟨h.runs, ?_⟩, rfl, _, toList_emit _ _, ?_⟩
  · intro x hx o ho
    rcases SortedMap.eq_or_mem_of_mem_insert hx with rfl | hx
    · rcases List.mem_cons.mp ho with rfl | ho
      · exact hnew
      · exact hold o ((List.dropWhile_sublist _).mem ho)
    · exact h.blocks x hx o ho
  · intro e he
    obtain ⟨o, ho, rfl⟩ := List.mem_map.mp he
    exact ⟨⟨lineNo, Nat.sub_le _ _, hold o ((List.takeWhile_sublist _).mem ho)⟩, by simp⟩

/-- What is reported at the start of a line was pending, and what is pending then lasted up to the
line or was taken up there by an active rule on whole lines. -/
theorem ends_feedLine {rules : RuleSet} (line : Line)
    (hnew : ∀ id ∈ (s.stack.scope rules).active, ∀ rule, rules.rule? id = some rule →
      rule.kind.isDelimited = false → P id lineNo lineNo)
    (h : s.Pending P) : Ends P none s (s.feedLine rules lineNo line) := by
  refine adds_feedLine (reports_pending P none) (Adds.foldl _ _ (fun s id hid hs => ?_) h)
  exact adds_feedRule line hs
    (fun rule p hr hk => pending_extendRun hext (hnew id hid rule hr (by rw [hk]; rfl)) hs)
    fun rule width hr hk => ends_feedBlocks hext width (hnew id hid rule hr (by rw [hk]; rfl)) hs

/-- The start of a line ends pending regions, after the events so far are put aside. -/
theorem ends_beginLine {rules : RuleSet} (line : Line)
    (hnew : ∀ id ∈ (s.stack.scope rules).active, ∀ rule, rules.rule? id = some rule →
      rule.kind.isDelimited = false → P id lineNo lineNo)
    (h : s.Pending P) : Ends P none s.settle (s.beginLine rules lineNo line) := by
  have hsettled : s.settle.Pending P := ⟨h.runs, h.blocks⟩
  exact ends_feedLine hext line hnew hsettled

end

/-- At the end of a scan everything that is pending is reported. -/
theorem ends_finish (h : s.Pending P) : Ends P none s s.finish :=
  adds_finish (reports_pending P none) ⟨h.runs, h.blocks⟩

end

end ScanState

end CodeFold
