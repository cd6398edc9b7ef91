import CodeFold.Proofs.HitSpan
import CodeFold.Scan.Basic

/-!
# Scans step by step

A scan is run one step at a time: it begins a line, handles a hit, or leaves a line without a
further hit. `RuleSet.run` gives the moment after a number of steps. It comes to a halt in the
state that scanning all lines gives, because every hit moves the position, so what holds at the
start and is kept by every step holds whenever a scan is looked at.
-/

namespace CodeFold

/-- Where the next hit is looked for. -/
structure Cursor where
  lineNo : Nat
  line : Line
  pos : Nat

/-- A scan between two of its steps. -/
structure Moment where
  /-- The place inside a line; between lines there is none. -/
  cursor : Option Cursor
  /-- The number of lines that have begun. -/
  begun : Nat
  /-- The lines that have not begun. -/
  rest : List Line
  state : ScanState

/-- Begins a line: the events so far are those of earlier lines, and rules on whole lines look at
it. -/
def ScanState.beginLine (rules : RuleSet) (lineNo : Nat) (line : Line) (s : ScanState) :
    ScanState :=
  { s with past := s.past ++ s.current, current := #[] }.feedLine rules lineNo line

namespace Moment

/-- Before the first line. -/
def start (lines : List Line) : Moment := ⟨none, 0, lines, .start⟩

/-- The hit that the next step handles. -/
def hit? (rules : RuleSet) (m : Moment) : Option Hit :=
  m.cursor.bind fun c => m.state.stack.nextHit rules c.lineNo c.line c.pos

/-- The moment after the next step, unless the scan is over. -/
def next? (rules : RuleSet) (m : Moment) : Option Moment :=
  match m.cursor with
  | some c =>
    match m.state.stack.nextHit rules c.lineNo c.line c.pos with
    | some hit =>
      some { m with
        cursor := (nextPos? c.line hit.start hit.stop).map fun pos => { c with pos }
        state := m.state.handle rules c.lineNo hit }
    | none => some { m with cursor := none }
  | none =>
    match m.rest with
    | line :: rest =>
      some ⟨some ⟨m.begun, line, 0⟩, m.begun + 1, rest, m.state.beginLine rules m.begun line⟩
    | [] => none

/-- What a step can be: it handles a hit, leaves a line, or begins one. -/
theorem next?_cases {rules : RuleSet} {m m' : Moment} (h : m.next? rules = some m') :
    (∃ c hit, m.cursor = some c ∧ m.state.stack.nextHit rules c.lineNo c.line c.pos = some hit ∧
      m' = { m with
        cursor := (nextPos? c.line hit.start hit.stop).map fun pos => { c with pos }
        state := m.state.handle rules c.lineNo hit }) ∨
    (∃ c, m.cursor = some c ∧ m.state.stack.nextHit rules c.lineNo c.line c.pos = none ∧
      m' = { m with cursor := none }) ∨
    ∃ line rest, m.cursor = none ∧ m.rest = line :: rest ∧
      m' = ⟨some ⟨m.begun, line, 0⟩, m.begun + 1, rest, m.state.beginLine rules m.begun line⟩ := by
  unfold next? at h
  split at h
  · next c hc =>
    split at h
    · next hit hh =>
      cases h
      exact .inl ⟨c, hit, hc, hh, rfl⟩
    · next hh =>
      cases h
      exact .inr (.inl ⟨c, hc, hh, rfl⟩)
  · next hc =>
    split at h
    · next line rest hr =>
      cases h
      exact .inr (.inr ⟨line, rest, hc, hr, rfl⟩)
    · cases h

/-- A step takes no line back. -/
theorem begun_le_next {rules : RuleSet} {m m' : Moment} (h : m.next? rules = some m') :
    m.begun ≤ m'.begun := by
  rcases next?_cases h with ⟨c, hit, _, _, rfl⟩ | ⟨c, _, _, rfl⟩ | ⟨line, rest, _, _, rfl⟩
  · exact Nat.le_refl _
  · exact Nat.le_refl _
  · exact Nat.le_succ _

/-- Between lines the next step begins one. -/
theorem begun_next {rules : RuleSet} {m m' : Moment} (h : m.next? rules = some m')
    (hc : m.cursor = none) : m'.begun = m.begun + 1 := by
  rcases next?_cases h with ⟨c, hit, hc', _⟩ | ⟨c, hc', _⟩ | ⟨line, rest, _, _, rfl⟩
  · rw [hc] at hc'
    cases hc'
  · rw [hc] at hc'
    cases hc'
  · rfl

/-- The line of the place is the last one that has begun, and the place is inside it. -/
def WF (m : Moment) : Prop :=
  ∀ c, m.cursor = some c → c.lineNo + 1 = m.begun ∧ c.pos ≤ c.line.length

private theorem wf_start (lines : List Line) : (start lines).WF := by
  intro c hc
  cases hc

/-- A step keeps the place inside the line that has begun last. -/
theorem wf_next {rules : RuleSet} {m m' : Moment} (hm : m.WF) (h : m.next? rules = some m') :
    m'.WF := by
  rcases next?_cases h with ⟨c, hit, hc, hh, rfl⟩ | ⟨c, hc, _, rfl⟩ | ⟨line, rest, _, _, rfl⟩
  · intro c' hc'
    obtain ⟨pos, hp, rfl⟩ := Option.map_eq_some_iff.mp hc'
    exact ⟨(hm c hc).1, (nextPos?_spec (Stack.inside_nextHit hh) hp).2.2⟩
  · intro c' hc'
    cases hc'
  · intro c' hc'
    cases hc'
    exact ⟨rfl, Nat.zero_le _⟩

/-! ### Several steps -/

/-- The moment after a number of further steps; after the last step nothing changes. -/
def after (rules : RuleSet) (m : Moment) : Nat → Moment
  | 0 => m
  | k + 1 => ((after rules m k).next? rules).getD (after rules m k)

/-- Some steps and then some more are as many steps as both together. -/
theorem after_add (rules : RuleSet) (m : Moment) (j k : Nat) :
    m.after rules (j + k) = (m.after rules j).after rules k := by
  induction k with
  | zero => rfl
  | succ k ih => rw [← Nat.add_assoc, after, ih, after]

private theorem after_succ {rules : RuleSet} {m m' : Moment} (h : m.next? rules = some m')
    (k : Nat) : m.after rules (k + 1) = m'.after rules k := by
  rw [Nat.add_comm, after_add]
  congr 1
  rw [after, after, h]
  rfl

/-- After its end a scan stays as it is. -/
theorem after_of_end {rules : RuleSet} {m : Moment} (h : m.next? rules = none) (k : Nat) :
    m.after rules k = m := by
  induction k with
  | zero => rfl
  | succ k ih => rw [after, ih, h]; rfl

/-- A scan has one end. -/
theorem after_eq_of_end {rules : RuleSet} {m : Moment} {j k : Nat}
    (hj : (m.after rules j).next? rules = none) (hk : (m.after rules k).next? rules = none) :
    m.after rules j = m.after rules k := by
  rcases Nat.le_total j k with hle | hle
  · obtain ⟨i, rfl⟩ := Nat.exists_eq_add_of_le hle
    rw [after_add, after_of_end hj]
  · obtain ⟨i, rfl⟩ := Nat.exists_eq_add_of_le hle
    rw [after_add, after_of_end hk]

/-- The steps inside a line handle the hits that are handled when the line is scanned. -/
theorem after_scanHits (rules : RuleSet) (lineNo : Nat) (line : Line) (fuel pos begun : Nat)
    (rest : List Line) (s : ScanState) (hf : line.length - pos < fuel) :
    ∃ k, after rules ⟨some ⟨lineNo, line, pos⟩, begun, rest, s⟩ k =
      ⟨none, begun, rest, s.scanHits rules lineNo line fuel pos⟩ := by
  induction fuel generalizing pos s with
  | zero => omega
  | succ fuel ih =>
    rw [ScanState.scanHits]
    cases hh : s.stack.nextHit rules lineNo line pos with
    | none =>
      refine ⟨1, ?_⟩
      rw [after, after, next?]
      simp only [hh]
      rfl
    | some hit =>
      have hi := Stack.inside_nextHit hh
      have hs : next? rules ⟨some ⟨lineNo, line, pos⟩, begun, rest, s⟩ =
          some ⟨(nextPos? line hit.start hit.stop).map fun pos => ⟨lineNo, line, pos⟩, begun, rest,
            s.handle rules lineNo hit⟩ := by
        rw [next?]
        simp only [hh]
      dsimp only
      cases hn : nextPos? line hit.start hit.stop with
      | none =>
        rw [hn] at hs
        exact ⟨1, after_succ hs 0⟩
      | some next =>
        rw [hn] at hs
        -- A hit moves the position, so one unit of fuel less is enough.
        have hp := nextPos?_spec hi hn
        have hl := hi.lo_le
        obtain ⟨k, hk⟩ := ih next (s.handle rules lineNo hit) (by omega)
        exact ⟨k + 1, (after_succ hs k).trans hk⟩

/-- The steps of a scan take up its lines one after the other. -/
theorem after_scanLines (rules : RuleSet) (lineNo : Nat) (front rest : List Line) (s : ScanState) :
    ∃ k, after rules ⟨none, lineNo, front ++ rest, s⟩ k =
      ⟨none, lineNo + front.length, rest, s.scanLines rules lineNo front⟩ := by
  induction front generalizing lineNo s with
  | nil => exact ⟨0, rfl⟩
  | cons line front ih =>
    have hb : next? rules ⟨none, lineNo, line :: front ++ rest, s⟩ =
        some ⟨some ⟨lineNo, line, 0⟩, lineNo + 1, front ++ rest, s.beginLine rules lineNo line⟩ := rfl
    obtain ⟨j, hj⟩ := after_scanHits rules lineNo line (line.length + 1) 0 (lineNo + 1)
      (front ++ rest) (s.beginLine rules lineNo line) (by omega)
    obtain ⟨k, hk⟩ := ih (lineNo + 1) (s.scanLine rules lineNo line)
    refine ⟨j + k + 1, ?_⟩
    rw [after_succ hb, after_add, hj, List.length_cons, Nat.add_comm front.length, ← Nat.add_assoc]
    exact hk

end Moment

namespace RuleSet

/-- The moment of a scan after a number of steps; after the last step nothing changes. -/
def run (rules : RuleSet) (lines : List Line) (k : Nat) : Moment :=
  (Moment.start lines).after rules k

variable {rules : RuleSet} {lines : List Line}

/-- Where the scan goes on, one more moment is that of the next step. -/
theorem run_succ {k : Nat} {m : Moment} (h : (rules.run lines k).next? rules = some m) :
    rules.run lines (k + 1) = m := by
  have hstep : rules.run lines (k + 1) =
      ((rules.run lines k).next? rules).getD (rules.run lines k) := rfl
  rw [hstep, h]
  rfl

/-- Where the scan is over, one more moment changes nothing. -/
theorem run_succ_of_end {k : Nat} (h : (rules.run lines k).next? rules = none) :
    rules.run lines (k + 1) = rules.run lines k := by
  have hadd := Moment.after_add rules (.start lines) k 1
  exact hadd.trans (Moment.after_of_end h 1)

/-- What holds at some moment and is kept by every step from then on holds at all later moments. -/
theorem run_invariant_from {I : Moment → Prop} {u v : Nat} (huv : u ≤ v)
    (hu : I (rules.run lines u))
    (hstep : ∀ j m, u ≤ j → I (rules.run lines j) → (rules.run lines j).next? rules = some m →
      I m) :
    I (rules.run lines v) := by
  induction huv with
  | refl => exact hu
  | step huv ih =>
    cases hn : (rules.run lines _).next? rules with
    | none =>
      rw [run_succ_of_end hn]
      exact ih
    | some m =>
      rw [run_succ hn]
      exact hstep _ m huv ih hn

/-- What holds at the start and is kept by every step holds at all moments. -/
theorem run_invariant {I : Moment → Prop} (hstart : I (.start lines))
    (hstep : ∀ j m, I (rules.run lines j) → (rules.run lines j).next? rules = some m → I m)
    (k : Nat) : I (rules.run lines k) :=
  run_invariant_from (Nat.zero_le k) hstart fun j m _ => hstep j m

/-- Throughout a scan the place is inside the line that has begun last. -/
theorem wf_run (rules : RuleSet) (lines : List Line) (k : Nat) : (rules.run lines k).WF :=
  run_invariant (Moment.wf_start lines) (fun _ _ => Moment.wf_next) k

/-- The number of lines that have begun never falls. -/
theorem begun_le_run (rules : RuleSet) (lines : List Line) {u v : Nat} (huv : u ≤ v) :
    (rules.run lines u).begun ≤ (rules.run lines v).begun :=
  run_invariant_from (I := fun m => (rules.run lines u).begun ≤ m.begun) huv (Nat.le_refl _)
    fun _ _ _ hp hn => Nat.le_trans hp (Moment.begun_le_next hn)

/-- A line has begun or is still to come. -/
theorem begun_add_rest (rules : RuleSet) (lines : List Line) (k : Nat) :
    (rules.run lines k).begun + (rules.run lines k).rest.length = lines.length := by
  refine run_invariant (I := fun m => m.begun + m.rest.length = lines.length) (Nat.zero_add _) ?_ k
  intro j m hm h
  rcases Moment.next?_cases h with ⟨c, hit, _, _, rfl⟩ | ⟨c, _, _, rfl⟩ | ⟨line, rest, _, hr, rfl⟩
  · exact hm
  · exact hm
  · rw [hr, List.length_cons] at hm
    dsimp only
    omega

/-- A scan comes to the end of every part of its lines that comes first. -/
theorem run_append (rules : RuleSet) (front rest : List Line) :
    ∃ k, rules.run (front ++ rest) k =
      ⟨none, front.length, rest, ScanState.start.scanLines rules 0 front⟩ := by
  obtain ⟨k, hk⟩ := Moment.after_scanLines rules 0 front rest .start
  rw [Nat.zero_add] at hk
  exact ⟨k, hk⟩

/-- A scan comes to its end, and its last moment has the state that scanning all lines gives. -/
theorem run_end (rules : RuleSet) (lines : List Line) :
    ∃ k, rules.run lines k = ⟨none, lines.length, [], ScanState.start.scanLines rules 0 lines⟩ := by
  obtain ⟨k, hk⟩ := rules.run_append lines []
  rw [List.append_nil] at hk
  exact ⟨k, hk⟩

/-- When a scan is over, it has come to the state that is finished. -/
theorem scan_eq_of_end {k : Nat} (h : (rules.run lines k).next? rules = none) :
    rules.scan lines = (rules.run lines k).state.finish.events.toList := by
  obtain ⟨last, hl⟩ := rules.run_end lines
  have hend : (rules.run lines last).next? rules = none := by rw [hl]; rfl
  have hlast : rules.run lines k = rules.run lines last := Moment.after_eq_of_end h hend
  rw [hlast, hl]
  rfl

/-- From some moment on a scan is over and has come to the state that is finished. -/
theorem scan_eq_finish (rules : RuleSet) (lines : List Line) (k : Nat) :
    ∃ k' ≥ k, (rules.run lines k').next? rules = none ∧
      rules.scan lines = (rules.run lines k').state.finish.events.toList := by
  obtain ⟨last, hl⟩ := rules.run_end lines
  have hend : (rules.run lines (last + k)).next? rules = none := by
    rw [run, Moment.after_add, ← run, hl, Moment.after_of_end rfl]
    rfl
  exact ⟨last + k, Nat.le_add_left _ _, hend, scan_eq_of_end hend⟩

end RuleSet

end CodeFold
