import CodeFold.Proofs.Regions

/-!
# What is pending can be reached

At every moment of a scan only rules that can be reached have anything pending. So when the last
open region that lists a rule closes, by whichever pairing, nothing of that rule is left, and a
region of whole lines lies inside one stretch of the scan in which its rule could be reached.
-/

namespace CodeFold

namespace ScanState

/-- The rules that have a run or blocks pending. -/
def holders (s : ScanState) : List RuleId := s.runs.keys ++ s.blocks.keys

/-- What holds of all rules with a pending region holds of all holders. -/
theorem Pending.of_mem_holders {s : ScanState} {P : RuleId → Prop}
    (h : s.Pending fun id _ _ => P id) (ho : s.Ordered) {id : RuleId} (hid : id ∈ s.holders) :
    P id := by
  rcases List.mem_append.mp hid with hid | hid
  · obtain ⟨x, hx, rfl⟩ := List.mem_map.mp hid
    exact h.runs x hx
  · obtain ⟨x, hx, rfl⟩ := List.mem_map.mp hid
    obtain ⟨o, hopen⟩ := List.exists_mem_of_ne_nil _ (ho.opens x hx)
    exact h.blocks x hx o hopen

private theorem Pending.and {s : ScanState} {P Q : RuleId → Nat → Nat → Prop} (hp : s.Pending P)
    (hq : s.Pending Q) : s.Pending fun id first last => P id first last ∧ Q id first last where
  runs x hx := ⟨hp.runs x hx, hq.runs x hx⟩
  blocks x hx o ho := ⟨hp.blocks x hx o ho, hq.blocks x hx o ho⟩

end ScanState

namespace Stack

variable {rules : RuleSet} {stack : Stack}

/-- What can be reached outside a region can be reached inside it. -/
theorem mem_reachable_enter {id : RuleId} (h : id ∈ (stack.scope rules).reachable)
    {e : OpenEntry} {rule : Rule} (hr : rules.rule? e.rule = some rule) :
    id ∈ ((stack.enter rules e).scope rules).reachable := by
  simp only [enter, hr, scope, Array.back?_push, Scope.enter]
  split
  · exact h
  · exact h
  · rw [prepend, mem_unique]
    exact List.mem_append_right _ h

private theorem Valid.mem_reachable_of_mem_active (h : stack.Valid rules)
    (ht : rules.topLevel.Nodup)
    {id : RuleId} (hid : id ∈ (stack.scope rules).active) : id ∈ (stack.scope rules).reachable := by
  rw [h.reachable_eq ht]
  exact h.mem_listing_of_mem_active ht hid

end Stack

namespace RuleSet

variable {rules : RuleSet} {lines : List Line}

/-- The rules that can be reached at a moment. -/
def reachableAt (rules : RuleSet) (lines : List Line) (k : Nat) : List RuleId :=
  ((rules.run lines k).state.stack.scope rules).reachable

/-- A rule could be reached at all moments up to `k` at which a line had begun. -/
def ReachedSince (rules : RuleSet) (lines : List Line) (k : Nat) (id : RuleId) (first : Nat) :
    Prop :=
  ∀ t ≤ k, first < (rules.run lines t).begun → id ∈ rules.reachableAt lines t

/-- A rule could be reached at all moments from the start of one line to the start of another. -/
def ReachedBetween (rules : RuleSet) (lines : List Line) (id : RuleId) (first last : Nat) : Prop :=
  ∀ t, first < (rules.run lines t).begun → (rules.run lines t).begun ≤ last →
    id ∈ rules.reachableAt lines t

private theorem reachedSince_new (rules : RuleSet) (lines : List Line) (k : Nat) (id : RuleId) :
    rules.ReachedSince lines k id (rules.run lines k).begun := by
  intro t htk hlt
  have hle := rules.begun_le_run lines htk
  omega

/-- A line that has not begun by the next moment begins after all moments so far. -/
theorem ReachedSince.between {k : Nat} {id : RuleId} {first last : Nat}
    (h : rules.ReachedSince lines k id first) (hlast : last < (rules.run lines (k + 1)).begun) :
    rules.ReachedBetween lines id first last := by
  intro t hfirst hle
  refine h t ?_ hfirst
  apply Nat.le_of_not_lt
  intro hkt
  have hmono := rules.begun_le_run lines (show k + 1 ≤ t from hkt)
  omega

private theorem ReachedBetween.mono {id : RuleId} {first last last' : Nat}
    (h : rules.ReachedBetween lines id first last) (hle : last' ≤ last) :
    rules.ReachedBetween lines id first last' :=
  fun t hfirst hlast => h t hfirst (Nat.le_trans hlast hle)

section

variable (ht : rules.topLevel.Nodup)

include ht

/-- Only rules that can be reached have anything pending. -/
theorem pending_reachable (k : Nat) :
    (rules.run lines k).state.Pending fun id _ _ => id ∈ rules.reachableAt lines k := by
  refine run_invariant (I := fun m => m.state.Pending
    fun id _ _ => id ∈ (m.state.stack.scope rules).reachable) (ScanState.pending_start _) ?_ k
  intro j m hp h
  have hw := rules.wf_state lines j
  have hnext := (Moment.events_next h (rules.wf_run lines j) hp (fun _ _ _ _ hx => hx)
    fun _ _ hid _ _ _ => hw.valid.mem_reachable_of_mem_active ht hid).1
  rcases Moment.next?_cases h with ⟨c, hit, _, hh, rfl⟩ | ⟨c, _, _, rfl⟩ | ⟨line, rest, _, _, rfl⟩
  · rcases Stack.nextHit_cases hh with ⟨key, index, _, hc⟩ | ⟨id, hid, ho⟩
    · -- What is out of reach after the closing has ended.
      obtain ⟨entry, rule, he, hr, _, ha⟩ := Stack.closingHit_eq_some hc
      obtain ⟨hleft, _⟩ := ScanState.closeRegion_spec hp c.lineNo he hr
      simp only [ScanState.handle, ha, ScanState.stack_closeRegion he hr]
      refine hleft.imp ?_
      rintro id _ _ ⟨hreach, hout⟩
      simpa [ScanState.outOfReach, hreach] using hout
    · obtain ⟨rule, om, hr, _, rfl⟩ := Stack.openingHit_eq_some ho
      exact hnext.imp fun hreach => Stack.mem_reachable_enter hreach hr
  · exact hnext
  · dsimp only at hnext ⊢
    rw [ScanState.stack_beginLine]
    exact hnext

/-- A rule that has a region pending could be reached ever since the region began. -/
theorem pending_since (k : Nat) :
    (rules.run lines k).state.Pending fun id first _ => rules.ReachedSince lines k id first := by
  induction k with
  | zero => exact ScanState.pending_start _
  | succ k ih =>
    have hkept : (rules.run lines (k + 1)).state.Pending
        fun id first _ => rules.ReachedSince lines k id first := by
      cases hn : (rules.run lines k).next? rules with
      | none =>
        rw [run_succ_of_end hn]
        exact ih
      | some m =>
        rw [run_succ hn]
        exact (Moment.events_next hn (rules.wf_run lines k) ih (fun _ _ _ _ hx => hx)
          fun _ id _ _ _ _ => rules.reachedSince_new lines k id).1
    refine (hkept.and (pending_reachable ht (k + 1))).imp ?_
    rintro id first _ ⟨hsince, hnow⟩ t htk hlt
    rcases Nat.lt_or_eq_of_le htk with htk | rfl
    · exact hsince t (Nat.le_of_lt_succ htk) hlt
    · exact hnow

/-- Every region of whole lines found so far lies in a stretch in which its rule could be reached.
-/
theorem found_in_reach (k : Nat) :
    (rules.run lines k).Found fun id first last =>
      rules.Delimited id ∨ rules.ReachedBetween lines id first last := by
  constructor
  · refine ((pending_since ht k).and (rules.last_lt_begun lines k).pending).imp ?_
    rintro id first last ⟨hsince, hlast⟩
    exact .inr (hsince.between
      (Nat.lt_of_lt_of_le hlast (rules.begun_le_run lines (Nat.le_succ k))))
  · induction k with
    | zero => simp [run, Moment.after, Moment.start, ScanState.start, ScanState.events]
    | succ k ih =>
      have hlast := (rules.last_lt_begun lines (k + 1)).events
      cases hn : (rules.run lines k).next? rules with
      | none =>
        rw [run_succ_of_end hn]
        exact ih
      | some m =>
        intro e he
        have hstop := hlast e he
        rw [run_succ hn] at he
        obtain ⟨n, hpos⟩ := List.mem_iff_getElem?.mp he
        have hdown : ∀ id first last last', rules.Delimited id ∨
            rules.ReachedBetween lines id first last → last' ≤ last →
            rules.Delimited id ∨ rules.ReachedBetween lines id first last' :=
          fun _ _ _ _ h hle => h.imp_right fun h => h.mono hle
        rcases Moment.event_next_cases hn (rules.wf_run lines k) (pending_since ht k)
          (fun _ _ _ _ hx => hx) (fun _ id _ _ _ _ => rules.reachedSince_new lines k id) hpos with
          ⟨old, ho, htr⟩ | ⟨own, ho, _, htr⟩ | ⟨_, hend⟩
        · exact htr.inherit hdown (ih old (List.mem_of_getElem? ho))
        · exact htr.inherit hdown (.inl (delimited_of_closing ho))
        · obtain ⟨_, _, hsince⟩ := hend.pending
          exact .inr (hsince.between hstop)

end

/-- At every moment of a scan with compiled rules, what has a run or blocks pending can be reached.
So a nested rule has nothing pending while no open region lists it, as after the last such region
has closed, whatever its pairing; and every region of whole lines begins at the start of a line and
from then to the start of its last line its rule could be reached without a break. -/
theorem pending_in_reach (language : Language) (specific wildcard : List RuleEntry)
    (lines : List Line) :
    let rules := (RuleSet.compile language specific wildcard).1
    (∀ k, ∀ id ∈ (rules.run lines k).state.holders, id ∈ rules.reachableAt lines k) ∧
      (∀ k, ∀ c ∉ rules.topLevel,
        (∀ x ∈ (rules.run lines k).state.stack.toList, c ∉ x.listed rules) →
        c ∉ (rules.run lines k).state.holders) ∧
      ∀ e ∈ rules.scan lines, ¬ rules.Delimited e.rule →
        ∃ i, rules.BeginsLine lines i e.start ∧
          ∀ t ≥ i, (rules.run lines t).begun ≤ e.stop → e.rule ∈ rules.reachableAt lines t := by
  intro rules
  have ht : rules.topLevel.Nodup := (RuleSet.wf_compile language specific wildcard).top.nodup
  have hreach : ∀ k, ∀ id ∈ (rules.run lines k).state.holders, id ∈ rules.reachableAt lines k :=
    fun k id hid => (pending_reachable ht k).of_mem_holders (rules.wf_state lines k).ordered hid
  refine ⟨hreach, ?_, ?_⟩
  · intro k c hc hnot hheld
    have hmem := hreach k c hheld
    rw [reachableAt, (rules.valid_run lines k).reachable_eq ht] at hmem
    rcases Scope.mem_listing.mp hmem with ⟨x, hx, hl⟩ | htop
    · exact hnot x hx hl
    · exact hc htop
  · intro e he hd
    obtain ⟨i, hi, hact⟩ :=
      (found_scan (fun _ _ _ _ hx _ => hx) found_line_region e he).resolve_left hd
    have hbetween := (found_scan (fun _ _ _ _ h hle => h.imp_right fun h => h.mono hle)
      (found_in_reach ht) e he).resolve_left hd
    refine ⟨i, hi, ?_⟩
    intro t hit hle
    rcases Nat.lt_or_eq_of_le hit with hlt | rfl
    · have hmono := rules.begun_le_run lines (show i + 1 ≤ t from hlt)
      rw [hi.2] at hmono
      exact hbetween t hmono hle
    · exact (rules.valid_run lines i).mem_reachable_of_mem_active ht hact

end RuleSet

end CodeFold
