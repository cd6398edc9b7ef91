import CodeFold.Proofs.Places

/-!
# Searches and hits move along a line

Three loops work on a line: the one that handles its hits, the one that looks for an end which is not
passed over, and the one that looks for a match in which a group took part. They are bounded by the
length of the line. Here they are given without a bound, as what holds when they come to an end, and
are shown to come to an end with the results of the bounded ones. The measure is the part of the line
behind the position: a match is found at or behind it, and `nextPos?` goes behind the start of a match,
also if the match is empty. So hits lie one behind the other, and there is at most one hit more than
characters.
Specification: §5, §12.
-/

namespace CodeFold

/-! ### Searches -/

/-- The loop of a search from a position on. What is found there is taken or passed over; after a match
that is passed over the search goes on, if there is a place to go on from. -/
inductive Seeks (line : Line) (find : Nat → Option ((Nat × Nat) × Bool)) :
    Nat → Option (Nat × Nat) → Prop where
  | nothing {pos : Nat} : find pos = none → Seeks line find pos none
  | taken {pos : Nat} {span : Nat × Nat} :
    find pos = some (span, true) → Seeks line find pos (some span)
  | atEnd {pos : Nat} {span : Nat × Nat} :
    find pos = some (span, false) → nextPos? line span.1 span.2 = none → Seeks line find pos none
  | further {pos next : Nat} {span : Nat × Nat} {r : Option (Nat × Nat)} :
    find pos = some (span, false) → nextPos? line span.1 span.2 = some next →
    Seeks line find next r → Seeks line find pos r

/-- The loop of a search, as long as there is fuel. -/
def seekFrom (line : Line) (find : Nat → Option ((Nat × Nat) × Bool)) :
    Nat → Nat → Option (Nat × Nat)
  | 0, _ => none
  | fuel + 1, pos =>
    match find pos with
    | none => none
    | some (span, taken) =>
      if taken then some span
      else (nextPos? line span.1 span.2).bind (seekFrom line find fuel)

/-- What a search finds from a position on lies behind it and inside the line. -/
def FindsInside (line : Line) (find : Nat → Option ((Nat × Nat) × Bool)) : Prop :=
  ∀ pos span taken, find pos = some (span, taken) → Inside pos line.length span.1 span.2

section Search

variable {line : Line} {find : Nat → Option ((Nat × Nat) × Bool)} {fuel pos : Nat}
  {r : Option (Nat × Nat)}

/-- With more fuel than there are characters left, the search comes to an end. -/
theorem seeks_seekFrom (hi : FindsInside line find) (hf : line.length - pos < fuel) :
    Seeks line find pos (seekFrom line find fuel pos) := by
  induction fuel generalizing pos with
  | zero => omega
  | succ fuel ih =>
    cases hfind : find pos with
    | none =>
      simp only [seekFrom, hfind]
      exact .nothing hfind
    | some found =>
      obtain ⟨span, taken⟩ := found
      have hspan := hi pos span taken hfind
      cases taken with
      | true =>
        simp only [seekFrom, hfind]
        exact .taken hfind
      | false =>
        cases hn : nextPos? line span.1 span.2 with
        | none =>
          simp only [seekFrom, hfind, hn]
          exact .atEnd hfind hn
        | some next =>
          simp only [seekFrom, hfind, hn]
          have hnext := nextPos?_spec hspan hn
          have hlo := hspan.lo_le
          apply Seeks.further hfind hn
          apply ih
          omega

/-- However a search comes to an end, it does so with the result of the bounded one. -/
theorem Seeks.eq_seekFrom (h : Seeks line find pos r) (hi : FindsInside line find)
    (hf : line.length - pos < fuel) : r = seekFrom line find fuel pos := by
  induction h generalizing fuel with
  | nothing hfind =>
    cases fuel with
    | zero => omega
    | succ fuel => simp only [seekFrom, hfind]
  | taken hfind =>
    cases fuel with
    | zero => omega
    | succ fuel => simp only [seekFrom, hfind, if_true]
  | atEnd hfind hn =>
    cases fuel with
    | zero => omega
    | succ fuel => simp [seekFrom, hfind, hn]
  | @further pos next span r hfind hn _ ih =>
    cases fuel with
    | zero => omega
    | succ fuel =>
      have hspan := hi pos span false hfind
      have hnext := nextPos?_spec hspan hn
      have hlo := hspan.lo_le
      rw [ih (by omega : line.length - next < fuel)]
      simp [seekFrom, hfind, hn]

private theorem seeks_iff (hi : FindsInside line find) (hf : line.length - pos < fuel) :
    Seeks line find pos r ↔ r = seekFrom line find fuel pos := by
  constructor
  · intro h
    exact h.eq_seekFrom hi hf
  · rintro rfl
    exact seeks_seekFrom hi hf

end Search

/-- A match from a position on, and whether a group took part in it. -/
def Pattern.groupMatch (p : Pattern) (line : Line) (group pos : Nat) :
    Option ((Nat × Nat) × Bool) :=
  (p.matchAt line pos).map fun m => ((m.start, m.stop), (m.group? group).isSome)

/-- A match of what closes an entry, from a position on, and whether it counts as its end. -/
def Rule.closingAttempt (rule : Rule) (entry : OpenEntry) (lineNo : Nat) (line : Line) (pos : Nat) :
    Option ((Nat × Nat) × Bool) :=
  (rule.closingMatch entry line pos).map fun span =>
    (span, !(rule.strict && entry.onlyBlankBefore lineNo line span.1))

private theorem Pattern.findsInside_groupMatch (p : Pattern) (line : Line) (group : Nat) :
    FindsInside line (p.groupMatch line group) := by
  intro pos span taken h
  obtain ⟨m, hm, heq⟩ := Option.map_eq_some_iff.mp h
  cases heq
  exact Pattern.inside_matchAt hm

private theorem Rule.findsInside_closingAttempt (rule : Rule) (entry : OpenEntry) (lineNo : Nat)
    (line : Line) : FindsInside line (rule.closingAttempt entry lineNo line) := by
  intro pos span taken h
  obtain ⟨span', hm, heq⟩ := Option.map_eq_some_iff.mp h
  cases heq
  exact rule.inside_closingMatch hm

private theorem findGroupFrom_eq_seekFrom (p : Pattern) (line : Line) (group fuel pos : Nat) :
    findGroupFrom p line group fuel pos = seekFrom line (p.groupMatch line group) fuel pos := by
  induction fuel generalizing pos with
  | zero => rfl
  | succ fuel ih =>
    have hrest : findGroupFrom p line group fuel = seekFrom line (p.groupMatch line group) fuel :=
      funext ih
    cases hm : p.matchAt line pos with
    | none => simp [findGroupFrom, seekFrom, Pattern.groupMatch, hm]
    | some m => simp [findGroupFrom, seekFrom, Pattern.groupMatch, hm, hrest]

private theorem Rule.findClosingFrom_eq_seekFrom (rule : Rule) (entry : OpenEntry) (lineNo : Nat)
    (line : Line) (fuel pos : Nat) : rule.findClosingFrom entry lineNo line fuel pos =
      seekFrom line (rule.closingAttempt entry lineNo line) fuel pos := by
  induction fuel generalizing pos with
  | zero => rfl
  | succ fuel ih =>
    have hrest : rule.findClosingFrom entry lineNo line fuel =
        seekFrom line (rule.closingAttempt entry lineNo line) fuel := funext ih
    cases hm : rule.closingMatch entry line pos with
    | none => simp [findClosingFrom, seekFrom, closingAttempt, hm]
    | some span =>
      cases hp : rule.strict && entry.onlyBlankBefore lineNo line span.1 with
      | true =>
        simp only [findClosingFrom, seekFrom, closingAttempt, hm, hp, hrest, Option.map_some]
        rfl
      | false =>
        simp only [findClosingFrom, seekFrom, closingAttempt, hm, hp, Option.map_some]
        rfl

/-- The search for a match in which a group took part comes to its end. -/
theorem seeks_findGroup {p : Pattern} {name : String} {group : Nat}
    (hg : p.groupIndex? name = some group) (line : Line) (pos : Nat) (r : Option (Nat × Nat)) :
    Seeks line (p.groupMatch line group) pos r ↔ r = findGroup p line name pos := by
  rw [findGroup, hg, Option.bind_some, findGroupFrom_eq_seekFrom]
  apply seeks_iff (p.findsInside_groupMatch line group)
  omega

/-- The search for the end of an entry comes to its end. -/
theorem Rule.seeks_findClosing (rule : Rule) (entry : OpenEntry) (lineNo : Nat) (line : Line)
    (pos : Nat) (r : Option (Nat × Nat)) :
    Seeks line (rule.closingAttempt entry lineNo line) pos r ↔
      r = rule.findClosing entry lineNo line pos := by
  rw [findClosing, findClosingFrom_eq_seekFrom]
  apply seeks_iff (rule.findsInside_closingAttempt entry lineNo line)
  omega

/-! ### The hits of a line -/

/-- A hit starts behind another one: not before its end, and behind it if that one is empty. -/
def Hit.Clears (a b : Hit) : Prop := a.stop ≤ b.start ∧ (a.start = a.stop → a.stop < b.start)

/-- The loop over the hits of a line from a position on. It handles `hits`, one after the other, and
comes to an end in the state `s'`. -/
inductive Handles (rules : RuleSet) (lineNo : Nat) (line : Line) :
    Nat → ScanState → List Hit → ScanState → Prop where
  | nothing {pos : Nat} {s : ScanState} :
    s.stack.nextHit rules lineNo line pos = none → Handles rules lineNo line pos s [] s
  | atEnd {pos : Nat} {s : ScanState} {hit : Hit} :
    s.stack.nextHit rules lineNo line pos = some hit → nextPos? line hit.start hit.stop = none →
    Handles rules lineNo line pos s [hit] (s.handle rules lineNo hit)
  | further {pos next : Nat} {s s' : ScanState} {hit : Hit} {hits : List Hit} :
    s.stack.nextHit rules lineNo line pos = some hit →
    nextPos? line hit.start hit.stop = some next →
    Handles rules lineNo line next (s.handle rules lineNo hit) hits s' →
    Handles rules lineNo line pos s (hit :: hits) s'

section Hits

variable {rules : RuleSet} {lineNo : Nat} {line : Line} {fuel pos : Nat} {s s' : ScanState}
  {hits : List Hit}

/-- With more fuel than there are characters left, all hits are handled. -/
theorem exists_handles_scanHits (hf : line.length - pos < fuel) :
    ∃ hits, Handles rules lineNo line pos s hits (s.scanHits rules lineNo line fuel pos) := by
  induction fuel generalizing pos s with
  | zero => omega
  | succ fuel ih =>
    cases hh : s.stack.nextHit rules lineNo line pos with
    | none =>
      simp only [ScanState.scanHits, hh]
      exact ⟨[], .nothing hh⟩
    | some hit =>
      have hi := Stack.inside_nextHit hh
      cases hn : nextPos? line hit.start hit.stop with
      | none =>
        simp only [ScanState.scanHits, hh, hn]
        exact ⟨[hit], .atEnd hh hn⟩
      | some next =>
        simp only [ScanState.scanHits, hh, hn]
        have hnext := nextPos?_spec hi hn
        have hlo := hi.lo_le
        obtain ⟨hits, hhits⟩ := ih (by omega : line.length - next < fuel)
        exact ⟨hit :: hits, .further hh hn hhits⟩

private theorem Handles.eq_scanHits (h : Handles rules lineNo line pos s hits s')
    (hf : line.length - pos < fuel) : s' = s.scanHits rules lineNo line fuel pos := by
  induction h generalizing fuel with
  | nothing hh =>
    cases fuel with
    | zero => omega
    | succ fuel => simp only [ScanState.scanHits, hh]
  | atEnd hh hn =>
    cases fuel with
    | zero => omega
    | succ fuel => simp only [ScanState.scanHits, hh, hn]
  | @further pos next s s' hit hits hh hn _ ih =>
    cases fuel with
    | zero => omega
    | succ fuel =>
      have hi := Stack.inside_nextHit hh
      have hnext := nextPos?_spec hi hn
      have hlo := hi.lo_le
      rw [ih (by omega : line.length - next < fuel)]
      simp only [ScanState.scanHits, hh, hn]

private theorem Handles.inside (h : Handles rules lineNo line pos s hits s') :
    ∀ hit ∈ hits, Inside pos line.length hit.start hit.stop := by
  induction h with
  | nothing => simp
  | atEnd hh =>
    intro hit hm
    rw [List.mem_singleton.mp hm]
    exact Stack.inside_nextHit hh
  | further hh hn _ ih =>
    intro hit hm
    rcases List.mem_cons.mp hm with rfl | hm
    · exact Stack.inside_nextHit hh
    · exact (Stack.inside_nextHit hh).of_next hn (ih hit hm)

/-- Hits that are handled later start behind those that are handled before. -/
theorem Handles.pairwise (h : Handles rules lineNo line pos s hits s') :
    hits.Pairwise Hit.Clears := by
  induction h with
  | nothing => exact List.Pairwise.nil
  | atEnd => exact List.pairwise_singleton _ _
  | further hh hn hrest ih =>
    apply List.pairwise_cons.mpr
    refine ⟨?_, ih⟩
    intro later hm
    have hnext := nextPos?_spec (Stack.inside_nextHit hh) hn
    have hlater := (hrest.inside later hm).lo_le
    constructor
    · omega
    · intro hempty
      omega

/-- Every hit but the last one takes a character of the line. -/
theorem Handles.length_le (h : Handles rules lineNo line pos s hits s') (hp : pos ≤ line.length) :
    hits.length + pos ≤ line.length + 1 := by
  induction h with
  | nothing =>
    rw [List.length_nil]
    omega
  | atEnd =>
    rw [List.length_singleton]
    omega
  | further hh hn _ ih =>
    have hi := Stack.inside_nextHit hh
    have hnext := nextPos?_spec hi hn
    have hlo := hi.lo_le
    have hrest := ih hnext.2.2
    rw [List.length_cons]
    omega

end Hits

/-- At every moment inside a line, the loop over the rest of its hits and the loops of the searches in
it come to an end. The hits lie one behind the other, so there is at most one more of them than there
are characters left; and no end is found before the end of the opening of its entry in the same
line. -/
theorem RuleSet.loops_progress (rules : RuleSet) (lines : List Line) (k : Nat) {c : Cursor}
    (hc : (rules.run lines k).cursor = some c) :
    (∀ s', (∃ hits, Handles rules c.lineNo c.line c.pos (rules.run lines k).state hits s') ↔
      s' = (rules.run lines k).state.scanHits rules c.lineNo c.line (c.line.length + 1) c.pos) ∧
    (∀ hits s', Handles rules c.lineNo c.line c.pos (rules.run lines k).state hits s' →
      hits.Pairwise Hit.Clears ∧
      (∀ hit ∈ hits, Inside c.pos c.line.length hit.start hit.stop) ∧
      hits.length + c.pos ≤ c.line.length + 1) ∧
    (∀ x ∈ (rules.run lines k).state.stack.toList, ∀ rule, rules.rule? x.rule = some rule →
      ∀ pos, (∀ r, Seeks c.line (rule.closingAttempt x c.lineNo c.line) pos r ↔
        r = rule.findClosing x c.lineNo c.line pos) ∧
      (x.line = c.lineNo → c.pos ≤ pos →
        ∀ span, rule.closingMatch x c.line pos = some span → x.body ≤ span.1)) ∧
    ∀ (p : Pattern) (name : String) (group : Nat), p.groupIndex? name = some group →
      ∀ pos r, Seeks c.line (p.groupMatch c.line group) pos r ↔
        r = findGroup p c.line name pos := by
  have hwf := rules.wf_run lines k
  refine ⟨?_, ?_, ?_, ?_⟩
  · intro s'
    constructor
    · rintro ⟨hits, h⟩
      apply h.eq_scanHits
      omega
    · rintro rfl
      apply exists_handles_scanHits
      omega
  · intro hits s' h
    exact ⟨h.pairwise, h.inside, h.length_le (hwf c hc).2⟩
  · intro x hx rule _ pos
    refine ⟨rule.seeks_findClosing x c.lineNo c.line pos, ?_⟩
    intro hline hpos span hspan
    have hbody := (rules.laid_run lines k).body_le hwf hc hx hline
    have hlo := (rule.inside_closingMatch hspan).lo_le
    omega
  · intro p name group hg pos r
    exact seeks_findGroup hg c.line pos r

/-- A rule whose opening matches also where nothing stands. -/
def emptyOpenings : RuleSet :=
  (RuleSet.compile ⟨"text"⟩
    [.rule { openingRegex := some "x*", closingRegex := some "y" } .unset] []).1

/-- In a line without the character that the opening repeats, a region opens before each of its three
characters and at its end. -/
theorem loops_progress_of_emptyOpenings :
    (emptyOpenings.run ["aéc".toList] 1).cursor = some ⟨0, "aéc".toList, 0⟩ ∧
    ∃ hits s', Handles emptyOpenings 0 "aéc".toList 0
        (emptyOpenings.run ["aéc".toList] 1).state hits s' ∧
      s'.stack.size = 4 ∧ hits.Pairwise Hit.Clears ∧ hits.length ≤ 4 := by
  have hc : (emptyOpenings.run ["aéc".toList] 1).cursor = some ⟨0, "aéc".toList, 0⟩ := rfl
  obtain ⟨hall, hhits, _⟩ := emptyOpenings.loops_progress ["aéc".toList] 1 hc
  obtain ⟨hits, h⟩ := (hall _).mpr rfl
  obtain ⟨hclear, _, hlength⟩ := hhits hits _ h
  exact ⟨hc, hits, _, h, by decide +kernel, hclear, hlength⟩

end CodeFold
