import CodeFold.Proofs.Places

/-!
# The history of an entry

If every rule closes its innermost region, an entry stays on the stack, and everything below it
stays as it is, from the step that opens it to the step that closes it or an entry below it. So
wherever an entry is on the stack, it has the same entries below it.
-/

namespace CodeFold

namespace Moment

variable {rules : RuleSet} {m m' : Moment}

/-- If every rule closes its innermost region, a step puts an entry on top, takes off the entry that
it closes and all above it, or leaves the stack alone. -/
theorem stack_next_cases
    (hi : ∀ id rule, rules.rule? id = some rule → rule.pairing = .innermost)
    (h : m.next? rules = some m') :
    (∃ c hit x, Opening rules m c hit x ∧ m'.state.stack.toList = m.state.stack.toList ++ [x]) ∨
      (∃ c hit index x, m.cursor = some c ∧ m.hit? rules = some hit ∧ hit.action = .close index ∧
        m.state.stack[index]? = some x ∧
        m'.state.stack.toList = m.state.stack.toList.take index) ∨
      (m'.state.stack = m.state.stack ∧ ∀ hit, m.hit? rules ≠ some hit) := by
  rcases stack_next h with
    ⟨c, hit, x, ho, _, _, hs⟩ | ⟨c, hit, index, x, rule, hc, hh, ha, hx, hr, hs⟩ | hs
  · exact .inl ⟨c, hit, x, ho, hs⟩
  · refine .inr (.inl ⟨c, hit, index, x, hc, hh, ha, hx, ?_⟩)
    rw [hs, hi x.rule rule hr]
    exact Stack.toList_below _ _
  · exact .inr (.inr hs)

end Moment

namespace RuleSet

/-! ### Opening and closing -/

/-- The step after moment `k` puts an entry on the stack. -/
def OpensAt (rules : RuleSet) (lines : List Line) (k : Nat) (x : OpenEntry) : Prop :=
  (rules.run lines (k + 1)).state.stack.toList = (rules.run lines k).state.stack.toList ++ [x]

variable {rules : RuleSet} {lines : List Line}

/-- Only an opening makes the stack longer. -/
theorem opening_of_opensAt {k : Nat} {x : OpenEntry} (h : rules.OpensAt lines k x) :
    ∃ c hit, Moment.Opening rules (rules.run lines k) c hit x ∧
      hit.action = .open_ x.rule x.captures ∧ x.body = hit.stop := by
  cases hn : (rules.run lines k).next? rules with
  | none =>
    rw [OpensAt, run_succ_of_end hn] at h
    simp at h
  | some m =>
    rw [OpensAt, run_succ hn] at h
    rcases Moment.stack_next hn with
      ⟨c, hit, y, ho, ha, hbody, hs⟩ | ⟨c, hit, index, y, rule, _, _, _, _, _, hs⟩ | ⟨hs, _⟩
    · obtain rfl : x = y := by simpa using h.symm.trans hs
      exact ⟨c, hit, ho, ha, hbody⟩
    · have hle := (ScanState.places_closedStack rules rule.pairing
        (rules.run lines k).state.stack index).length_le
      rw [← hs, List.length_map, h, List.length_append, List.length_singleton] at hle
      have herase := List.length_eraseIdx_le
        ((rules.run lines k).state.stack.toList.map OpenEntry.place) index
      rw [List.length_map] at herase
      omega
    · rw [hs] at h
      simp at h

/-- An entry that is put on the stack is opened. -/
theorem opens_of_opensAt {k : Nat} {x : OpenEntry} (h : rules.OpensAt lines k x) :
    rules.Opens lines k x := by
  obtain ⟨c, hit, ho, ha, hbody⟩ := opening_of_opensAt h
  exact ⟨c, hit, ho.place, ho.found, ha, ho.line, ho.column, hbody⟩

/-- An entry is put on the stack by one step only. -/
theorem opensAt_unique {k k' : Nat} {x : OpenEntry} (h : rules.OpensAt lines k x)
    (h' : rules.OpensAt lines k' x) : k = k' :=
  opens_unique (opens_of_opensAt h) (opens_of_opensAt h') rfl

/-- After an entry has closed it is on no later stack. -/
theorem le_of_closesAt {v index t i : Nat} {x : OpenEntry} (hc : rules.ClosesAt lines v index x)
    (ht : (rules.run lines t).state.stack.toList[i]? = some x) : t ≤ v := by
  apply Nat.le_of_not_lt
  intro hvt
  exact place_ne_of_closesAt hc hvt (List.mem_of_getElem? ht) rfl

section

variable (hi : ∀ id rule, rules.rule? id = some rule → rule.pairing = .innermost)

include hi

/-- An entry on the stack was opened before, and since then it and all below it are as they were. -/
theorem exists_opensAt {t i : Nat} {x : OpenEntry}
    (h : (rules.run lines t).state.stack.toList[i]? = some x) :
    ∃ k < t, rules.OpensAt lines k x ∧ (rules.run lines k).state.stack.toList.length = i ∧
      ∀ u, k < u → u ≤ t → (rules.run lines u).state.stack.toList.take (i + 1) =
        (rules.run lines k).state.stack.toList ++ [x] := by
  induction t with
  | zero => simp [run, Moment.after, Moment.start, ScanState.start] at h
  | succ t ih =>
    -- An entry that was there already and is not touched keeps its history.
    have hkeep (hx : (rules.run lines t).state.stack.toList[i]? = some x)
        (htake : (rules.run lines (t + 1)).state.stack.toList.take (i + 1) =
          (rules.run lines t).state.stack.toList.take (i + 1)) :
        ∃ k < t + 1, rules.OpensAt lines k x ∧ (rules.run lines k).state.stack.toList.length = i ∧
          ∀ u, k < u → u ≤ t + 1 → (rules.run lines u).state.stack.toList.take (i + 1) =
            (rules.run lines k).state.stack.toList ++ [x] := by
      obtain ⟨k, hk, ho, hl, hsame⟩ := ih hx
      refine ⟨k, Nat.lt_succ_of_lt hk, ho, hl, fun u hku hut => ?_⟩
      rcases Nat.lt_or_eq_of_le hut with hut | rfl
      · exact hsame u hku (Nat.le_of_lt_succ hut)
      · rw [htake]
        exact hsame t hk (Nat.le_refl t)
    cases hn : (rules.run lines t).next? rules with
    | none =>
      have heq : rules.run lines (t + 1) = rules.run lines t := run_succ_of_end hn
      exact hkeep (heq ▸ h) (by rw [heq])
    | some m =>
      have hm := run_succ hn
      rcases Moment.stack_next_cases hi hn with
        ⟨c, hit, y, ho, hs⟩ | ⟨c, hit, index, y, _, _, _, _, hs⟩ | ⟨hs, _⟩
      · rw [hm, hs, List.getElem?_append] at h
        split at h
        · next hlt =>
          refine hkeep h ?_
          rw [hm, hs, List.take_append_of_le_length hlt]
        · next hge =>
          -- The entry is the one that was put on top.
          have hz : i - (rules.run lines t).state.stack.toList.length = 0 := by
            have := (List.getElem?_eq_some_iff.mp h).1
            simpa using this
          have hxy : y = x := by rw [hz] at h; exact Option.some.inj h
          subst hxy
          have hopen : rules.OpensAt lines t y := by rw [OpensAt, hm, hs]
          refine ⟨t, Nat.lt_succ_self t, hopen, by omega, fun u htu hut => ?_⟩
          have hu : u = t + 1 := by omega
          rw [hu, hopen]
          refine List.take_of_length_le ?_
          rw [List.length_append, List.length_singleton]
          omega
      · rw [hm, hs, List.getElem?_take] at h
        split at h
        · next hlt =>
          refine hkeep h ?_
          rw [hm, hs, List.take_take, Nat.min_eq_left hlt]
        · cases h
      · rw [hm, hs] at h
        exact hkeep h (by rw [hm, hs])

/-- Wherever an entry is on the stack, it has the same position and the same entries below it. -/
theorem stack_eq_of_mem {u v i j : Nat} {x : OpenEntry}
    (hu : (rules.run lines u).state.stack.toList[i]? = some x)
    (hv : (rules.run lines v).state.stack.toList[j]? = some x) :
    j = i ∧ (rules.run lines v).state.stack.toList.take (i + 1) =
      (rules.run lines u).state.stack.toList.take (i + 1) := by
  obtain ⟨k, hk, ho, hl, hsame⟩ := exists_opensAt hi hu
  obtain ⟨k', hk', ho', hl', hsame'⟩ := exists_opensAt hi hv
  obtain rfl := opensAt_unique ho ho'
  have hij : j = i := by rw [← hl', hl]
  subst hij
  exact ⟨rfl, (hsame' v hk' (Nat.le_refl v)).trans (hsame u hk (Nat.le_refl u)).symm⟩

/-- A closing takes its entry and all above it off the stack. -/
theorem stack_of_closesAt {k index : Nat} {x : OpenEntry} (h : rules.ClosesAt lines k index x) :
    (rules.run lines (k + 1)).state.stack.toList =
      (rules.run lines k).state.stack.toList.take index := by
  obtain ⟨hit, hh, ha, _⟩ := h
  rcases Moment.stack_next_cases hi (next_of_hit hh) with
    ⟨c, hit', y, ho, _⟩ | ⟨c, hit', index', y, _, hh', ha', _, hs⟩ | ⟨_, hno⟩
  · obtain ⟨captures, ho'⟩ := ho.opens
    rw [Option.some.inj (ho.found.symm.trans hh), ha] at ho'
    cases ho'
  · rw [Option.some.inj (hh'.symm.trans hh), ha] at ha'
    rw [hs, Action.close.inj ha']
  · exact absurd hh (hno hit)

end

end RuleSet

end CodeFold
