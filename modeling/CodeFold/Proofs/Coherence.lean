import CodeFold.Proofs.Arena
import CodeFold.Proofs.Frame
import CodeFold.Proofs.Scope

/-!
# The scopes that entries keep

Every entry on the stack keeps the scope that held when it was put there. At every moment of a
scan this is the scope computed from scratch out of the entries below it and itself, whether
regions above it closed or regions below it were taken out. So a sealed entry is always the
innermost one, and what is active, what can be reached and which ends are looked for can be read
off the entries.
-/

namespace CodeFold

namespace OpenEntry

/-- An entry apart from the scope that it keeps. -/
def bare (e : OpenEntry) : OpenEntry := { e with scope := ⟨[], [], []⟩ }

/-- The rule of an entry is known, and a closing pattern is what its source compiles to. -/
structure Proper (rules : RuleSet) (e : OpenEntry) : Prop where
  known : ∃ rule, rules.rule? e.rule = some rule
  made : ∀ p, e.closing = some p → Pattern.compile p.source = .ok p

variable {rules : RuleSet} {a b : OpenEntry}

/-- Entries that agree apart from their scopes have one rule. -/
theorem rule_of_bare (h : a.bare = b.bare) : a.rule = b.rule := (OpenEntry.mk.inj h).1

private theorem closing_of_bare (h : a.bare = b.bare) : a.closing = b.closing :=
  (OpenEntry.mk.inj h).2.2.2.2.2.1

/-- Entries that agree apart from their scopes are sealed alike. -/
theorem isSealed_of_bare (h : a.bare = b.bare) : a.isSealed rules = b.isSealed rules := by
  rw [isSealed, isSealed, rule_of_bare h]

private theorem Proper.of_bare (hb : b.Proper rules) (h : a.bare = b.bare) : a.Proper rules := by
  obtain ⟨hk, hm⟩ := hb
  rw [← rule_of_bare h] at hk
  rw [← closing_of_bare h] at hm
  exact ⟨hk, hm⟩

end OpenEntry

namespace Stack

variable {rules : RuleSet} {stack : Stack}

/-- Every entry keeps the scope over the entries up to it. -/
def Coherent (rules : RuleSet) (stack : Stack) : Prop :=
  ∀ (i : Nat) (e : OpenEntry), stack[i]? = some e →
    e.scope = .ofEntries rules (stack.toList.take (i + 1))

/-- Only the innermost entry can be sealed. -/
def SealedLast (rules : RuleSet) (stack : Stack) : Prop :=
  ∀ (i : Nat) (e : OpenEntry), stack[i]? = some e → e.isSealed rules = true → i + 1 = stack.size

/-- Whether the innermost entry is sealed. -/
def endsSealed (rules : RuleSet) (stack : Stack) : Bool := stack.back?.any (·.isSealed rules)

/-- What holds of the stack throughout a scan. -/
structure Valid (rules : RuleSet) (stack : Stack) : Prop where
  proper : ∀ e ∈ stack.toList, e.Proper rules
  coherent : stack.Coherent rules
  sealedLast : stack.SealedLast rules

/-! ### Entries apart from their scopes -/

/-- The stack below a position holds the entries before it. -/
theorem toList_below (stack : Stack) (index : Nat) :
    (stack.below index).toList = stack.toList.take index := by
  simp [below, Array.toList_extract, List.extract_eq_take_drop]

/-- An entry is put on top, and the entries below it stay as they are. -/
theorem bare_enter (rules : RuleSet) (stack : Stack) (e : OpenEntry) :
    (stack.enter rules e).toList.map OpenEntry.bare =
      stack.toList.map OpenEntry.bare ++ [e.bare] := by
  unfold enter
  split <;> simp [OpenEntry.bare]

private theorem bare_rebuild (rules : RuleSet) (stack : Stack) (entries : List OpenEntry) :
    (stack.rebuild rules entries).toList.map OpenEntry.bare =
      stack.toList.map OpenEntry.bare ++ entries.map OpenEntry.bare := by
  unfold rebuild
  induction entries generalizing stack with
  | nil => simp
  | cons e entries ih => rw [List.foldl_cons, ih, bare_enter, List.append_assoc]; rfl

/-- Taking an entry out leaves all others as they are, apart from their scopes. -/
theorem bare_removeAt (rules : RuleSet) (stack : Stack) (index : Nat) :
    (stack.removeAt rules index).toList.map OpenEntry.bare =
      (stack.toList.eraseIdx index).map OpenEntry.bare := by
  rw [removeAt, bare_rebuild, toList_below, ← List.map_append,
    List.eraseIdx_eq_take_drop_succ]

/-- An entry of a list that agrees with another one apart from scopes has a counterpart there. -/
theorem exists_bare {es fs : List OpenEntry} (h : es.map OpenEntry.bare = fs.map OpenEntry.bare)
    {i : Nat} {e : OpenEntry} (he : es[i]? = some e) : ∃ f, fs[i]? = some f ∧ e.bare = f.bare := by
  have hm : (fs.map OpenEntry.bare)[i]? = some e.bare := by
    rw [← h, List.getElem?_map, he]
    rfl
  rw [List.getElem?_map] at hm
  obtain ⟨f, hf, hb⟩ := Option.map_eq_some_iff.mp hm
  exact ⟨f, hf, hb.symm⟩

/-! ### Coherence -/

/-- In a coherent stack the innermost scope is the scope over all entries. -/
theorem Coherent.scope_eq (h : stack.Coherent rules) :
    stack.scope rules = .ofEntries rules stack.toList := by
  unfold scope
  cases hb : stack.back? with
  | none =>
    rw [Array.back?_eq_none_iff.mp hb]
    rfl
  | some e =>
    rw [Array.back?_eq_getElem?] at hb
    have hl := (Array.getElem?_eq_some_iff.mp hb).1
    dsimp only
    rw [h _ e hb, Nat.sub_add_cancel (by omega), ← Array.length_toList, List.take_length]

private theorem coherent_empty : Coherent rules #[] := by
  intro i e he
  simp at he

/-- A stack stays coherent when entries are taken off its top. -/
theorem Coherent.below (h : stack.Coherent rules) (index : Nat) :
    Coherent rules (stack.below index) := by
  intro i e he
  rw [← Array.getElem?_toList, toList_below, List.getElem?_take] at he
  split at he
  · next hi =>
    rw [toList_below, List.take_take, Nat.min_eq_left (by omega)]
    exact h i e (by rwa [← Array.getElem?_toList])
  · cases he

/-- An entry that is put on top gets the scope over all entries up to it. -/
theorem Coherent.enter (h : stack.Coherent rules) {e : OpenEntry} {rule : Rule}
    (hr : rules.rule? e.rule = some rule) : Coherent rules (stack.enter rules e) := by
  intro i x hx
  simp only [Stack.enter, hr, Array.getElem?_push] at hx
  simp only [Stack.enter, hr, Array.toList_push]
  split at hx
  · next hi =>
    cases hx
    subst hi
    rw [List.take_of_length_le (by simp), Scope.ofEntries_append_singleton, Array.length_toList,
      Scope.enterEntry, h.scope_eq]
    simp only [hr]
  · have hl := (Array.getElem?_eq_some_iff.mp hx).1
    rw [List.take_append_of_le_length (by rw [Array.length_toList]; omega)]
    exact h i x hx

private theorem Coherent.rebuild (h : stack.Coherent rules) {entries : List OpenEntry}
    (hk : ∀ e ∈ entries, ∃ rule, rules.rule? e.rule = some rule) :
    Coherent rules (stack.rebuild rules entries) := by
  unfold Stack.rebuild
  induction entries generalizing stack with
  | nil => exact h
  | cons e entries ih =>
    obtain ⟨rule, hr⟩ := hk e (by simp)
    exact ih (h.enter hr) (fun x hx => hk x (by simp [hx]))

/-! ### What steps keep -/

/-- The empty stack is valid. -/
theorem valid_empty : Valid rules #[] where
  proper := by simp
  coherent := coherent_empty
  sealedLast := by intro i e he; simp at he

/-- The entries below the innermost one are not sealed. -/
theorem Valid.not_sealed_of_lt (h : Valid rules stack) {i : Nat} {e : OpenEntry}
    (he : stack[i]? = some e) (hi : i + 1 < stack.size) : e.isSealed rules = false := by
  cases hs : e.isSealed rules with
  | false => rfl
  | true =>
    have hl := h.sealedLast i e he hs
    omega

/-- If the innermost entry is not sealed, none is. -/
theorem Valid.not_sealed (h : Valid rules stack) (hs : stack.endsSealed rules = false) :
    ∀ e ∈ stack.toList, e.isSealed rules = false := by
  intro e he
  obtain ⟨i, hi⟩ := List.mem_iff_getElem?.mp he
  rw [Array.getElem?_toList] at hi
  have hl := (Array.getElem?_eq_some_iff.mp hi).1
  by_cases hlast : i + 1 < stack.size
  · exact h.not_sealed_of_lt hi hlast
  · have hb : stack.back? = some e := by
      rw [Array.back?_eq_getElem?, ← hi]
      congr 1
      omega
    simpa [endsSealed, hb] using hs

/-- The innermost entry is the last one of the list. -/
theorem toList_of_back {e : OpenEntry} (h : stack.back? = some e) :
    ∃ es, stack.toList = es ++ [e] ∧ es.length + 1 = stack.size := by
  rw [← Array.getLast?_toList] at h
  obtain ⟨es, hes⟩ := List.getLast?_eq_some_iff.mp h
  refine ⟨es, hes, ?_⟩
  rw [← Array.length_toList, hes, List.length_append, List.length_singleton]

/-- Inside a sealed entry nothing opens. -/
theorem Coherent.active_of_endsSealed (h : stack.Coherent rules)
    (hs : stack.endsSealed rules = true) : (stack.scope rules).active = [] := by
  cases hb : stack.back? with
  | none => simp [endsSealed, hb] at hs
  | some e =>
    obtain ⟨es, hes, _⟩ := toList_of_back hb
    rw [h.scope_eq, hes]
    exact Scope.active_of_isSealed (by simpa [endsSealed, hb] using hs)

/-- An entry that is put on top makes the stack longer by one. -/
theorem size_enter (stack : Stack) (e : OpenEntry) :
    (stack.enter rules e).size = stack.size + 1 := by
  have hl := congrArg List.length (bare_enter rules stack e)
  simpa using hl

/-- An entry that opens where nothing is sealed keeps the stack valid. -/
theorem Valid.enter (h : Valid rules stack) {e : OpenEntry} (he : e.Proper rules)
    (hs : stack.endsSealed rules = false) : Valid rules (stack.enter rules e) where
  proper := by
    intro x hx
    obtain ⟨i, hi⟩ := List.mem_iff_getElem?.mp hx
    have hb := bare_enter rules stack e
    have hm : stack.toList.map OpenEntry.bare ++ [e.bare] =
        (stack.toList ++ [e]).map OpenEntry.bare := by simp
    obtain ⟨y, hy, hxy⟩ := exists_bare (hb.trans hm) hi
    refine OpenEntry.Proper.of_bare ?_ hxy
    rcases List.mem_append.mp (List.mem_of_getElem? hy) with hy | hy
    · exact h.proper y hy
    · have hye : y = e := by simpa using hy
      exact hye ▸ he
  coherent := by
    obtain ⟨rule, hr⟩ := he.known
    exact h.coherent.enter hr
  sealedLast := by
    obtain ⟨rule, hr⟩ := he.known
    intro i x hx hxs
    rw [size_enter]
    simp only [Stack.enter, hr, Array.getElem?_push] at hx
    split at hx
    · omega
    · have hn := h.not_sealed hs x (Array.mem_toList_iff.mpr (Array.mem_of_getElem? hx))
      rw [hn] at hxs
      cases hxs

/-- The entries below an entry form a valid stack without a sealed one. -/
theorem Valid.below (h : Valid rules stack) {index : Nat} (hi : index < stack.size) :
    Valid rules (stack.below index) where
  proper := by
    intro e he
    rw [toList_below] at he
    exact h.proper e (List.mem_of_mem_take he)
  coherent := h.coherent.below index
  sealedLast := by
    intro i e he hs
    rw [← Array.getElem?_toList, toList_below, List.getElem?_take] at he
    split at he
    · rw [Array.getElem?_toList] at he
      rw [h.not_sealed_of_lt he (by omega)] at hs
      cases hs
    · cases he

/-- Taking an entry out keeps the stack valid. -/
theorem Valid.removeAt (h : Valid rules stack) {index : Nat} (hi : index < stack.size) :
    Valid rules (stack.removeAt rules index) := by
  have hb := bare_removeAt rules stack index
  have hsize : (stack.removeAt rules index).size = stack.size - 1 := by
    have hl := congrArg List.length hb
    simpa [List.length_eraseIdx, hi] using hl
  constructor
  · intro e he
    obtain ⟨i, hi⟩ := List.mem_iff_getElem?.mp he
    obtain ⟨f, hf, hef⟩ := exists_bare hb hi
    exact (h.proper f (List.mem_of_mem_eraseIdx (List.mem_of_getElem? hf))).of_bare hef
  · refine (h.coherent.below index).rebuild ?_
    intro e he
    exact (h.proper e (List.mem_of_mem_drop he)).known
  · intro i e he hs
    rw [← Array.getElem?_toList] at he
    obtain ⟨f, hf, hef⟩ := exists_bare hb he
    rw [OpenEntry.isSealed_of_bare hef] at hs
    rw [List.getElem?_eraseIdx] at hf
    rw [hsize]
    split at hf
    · rw [Array.getElem?_toList] at hf
      have hl := h.sealedLast i f hf hs
      omega
    · rw [Array.getElem?_toList] at hf
      have hl := h.sealedLast (i + 1) f hf hs
      omega

end Stack

/-! ### What holds throughout a scan -/

namespace ScanState

/-- A closing pattern that is made for an entry is what its source compiles to. -/
theorem compile_of_closingFor {rule : Rule} {captures : List (Option String)} {p : Pattern}
    (h : closingFor rule captures = some p) : Pattern.compile p.source = .ok p := by
  unfold closingFor at h
  split at h
  · next opening t hk =>
    cases hr : t.resolve opening captures with
    | error fault => simp [hr, Except.toOption] at h
    | ok q =>
      have hq : q = p := by simpa [hr, Except.toOption] using h
      subst hq
      have hs : q.source = t.resolvedSource opening captures := by
        unfold Template.resolve Pattern.compile at hr
        cases he : Pattern.expr (t.resolvedSource opening captures).toList with
        | error fault => simp [he, bind, Except.bind] at hr
        | ok e =>
          simp only [he, bind, Except.bind, pure, Except.pure, Except.ok.injEq] at hr
          rw [← hr]
      rw [hs]
      exact hr
  · cases h

/-- An entry that stays on the stack when a region closes was there before, apart from its scope. -/
theorem exists_of_mem_closedStack {rules : RuleSet} {pairing : Pairing} {stack : Stack}
    {index : Nat} {x : OpenEntry} (hx : x ∈ (closedStack rules pairing stack index).toList) :
    ∃ y ∈ stack.toList, x.bare = y.bare := by
  unfold closedStack at hx
  split at hx
  · rw [Stack.toList_below] at hx
    exact ⟨x, List.mem_of_mem_take hx, rfl⟩
  · obtain ⟨i, hi⟩ := List.mem_iff_getElem?.mp hx
    obtain ⟨y, hy, hb⟩ := Stack.exists_bare (Stack.bare_removeAt rules stack index) hi
    exact ⟨y, List.mem_of_mem_eraseIdx (List.mem_of_getElem? hy), hb⟩

/-- Handling a hit keeps the stack valid. -/
theorem valid_handle {rules : RuleSet} {s : ScanState} {lineNo pos : Nat} {line : Line} {hit : Hit}
    (hv : s.stack.Valid rules) (hh : s.stack.nextHit rules lineNo line pos = some hit) :
    (s.handle rules lineNo hit).stack.Valid rules := by
  rcases Stack.nextHit_cases hh with ⟨key, index, _, hc⟩ | ⟨id, hid, ho⟩
  · obtain ⟨entry, rule, he, hr, _, ha⟩ := Stack.closingHit_eq_some hc
    have hi := (Array.getElem?_eq_some_iff.mp he).1
    rw [handle, ha]
    dsimp only
    rw [stack_closeRegion he hr]
    unfold closedStack
    split
    · exact hv.below hi
    · exact hv.removeAt hi
  · obtain ⟨rule, m, hr, _, rfl⟩ := Stack.openingHit_eq_some ho
    refine hv.enter ⟨⟨rule, hr⟩, ?_⟩ ?_
    · intro p hp
      obtain ⟨rule', _, hp⟩ := Option.bind_eq_some_iff.mp hp
      exact compile_of_closingFor hp
    · cases hs : s.stack.endsSealed rules with
      | false => rfl
      | true =>
        rw [hv.coherent.active_of_endsSealed hs] at hid
        cases hid

end ScanState

/-- The stack is valid at every moment of a scan. -/
theorem RuleSet.valid_run (rules : RuleSet) (lines : List Line) (k : Nat) :
    (rules.run lines k).state.stack.Valid rules := by
  refine run_invariant (I := fun m => m.state.stack.Valid rules) Stack.valid_empty ?_ k
  intro m m' hm h
  rcases Moment.next?_cases h with ⟨c, hit, _, hh, rfl⟩ | ⟨c, _, _, rfl⟩ | ⟨line, rest, _, _, rfl⟩
  · exact ScanState.valid_handle hm hh
  · exact hm
  · dsimp only
    rw [ScanState.stack_beginLine]
    exact hm

/-- The ends inside a sealed entry are at most its own. -/
theorem Stack.Valid.ends_of_endsSealed {rules : RuleSet} {stack : Stack} (h : stack.Valid rules)
    (hs : stack.endsSealed rules = true) :
    ∃ es e, stack.toList = es ++ [e] ∧ es.length + 1 = stack.size ∧
      (stack.scope rules).ends = (e.key? rules).toList.map (·, es.length) := by
  cases hb : stack.back? with
  | none => simp [endsSealed, hb] at hs
  | some e =>
    obtain ⟨es, hes, hl⟩ := toList_of_back hb
    refine ⟨es, e, hes, hl, ?_⟩
    rw [h.coherent.scope_eq, hes]
    exact Scope.ends_of_isSealed (by simpa [endsSealed, hb] using hs)

/-- Every end that is looked for stands at the highest position of its key. -/
theorem Stack.Valid.highest_of_mem_ends {rules : RuleSet} {stack : Stack} (h : stack.Valid rules)
    {key : EndKey} {i : Nat} (hm : (key, i) ∈ (stack.scope rules).ends) :
    Scope.Highest rules stack.toList key i := by
  cases hs : stack.endsSealed rules with
  | false =>
    rw [h.coherent.scope_eq] at hm
    exact (Scope.mem_ends_ofEntries (fun e he => (h.proper e he).known) (h.not_sealed hs)).mp hm
  | true =>
    obtain ⟨es, e, hes, _, hends⟩ := h.ends_of_endsSealed hs
    rw [hends] at hm
    obtain ⟨key', hk, heq⟩ := List.mem_map.mp hm
    cases heq
    rw [hes]
    exact Scope.highest_append_singleton.mpr (.inl ⟨Option.mem_toList.mp hk, rfl⟩)

/-- The positions of the ends that are looked for go down, and their keys differ. -/
theorem Stack.Valid.ends_descending {rules : RuleSet} {stack : Stack} (h : stack.Valid rules) :
    (stack.scope rules).ends.Pairwise (fun a b => b.2 < a.2 ∧ a.1 ≠ b.1) := by
  cases hs : stack.endsSealed rules with
  | false =>
    rw [h.coherent.scope_eq]
    exact Scope.ends_ofEntries_descending (fun e he => (h.proper e he).known) (h.not_sealed hs)
  | true =>
    obtain ⟨es, e, _, _, hends⟩ := h.ends_of_endsSealed hs
    rw [hends]
    cases e.key? rules <;> simp

/-- What can be reached is what the entries list. -/
theorem Stack.Valid.reachable_eq {rules : RuleSet} {stack : Stack} (h : stack.Valid rules)
    (ht : rules.topLevel.Nodup) :
    (stack.scope rules).reachable = Scope.listing rules stack.toList := by
  rw [h.coherent.scope_eq]
  exact Scope.reachable_ofEntries ht stack.toList

/-- Unless the innermost entry is sealed, what is active is what can be reached. -/
theorem Stack.Valid.active_eq {rules : RuleSet} {stack : Stack} (h : stack.Valid rules)
    (ht : rules.topLevel.Nodup) :
    (stack.scope rules).active =
      if stack.endsSealed rules then [] else Scope.listing rules stack.toList := by
  cases hs : stack.endsSealed rules with
  | true => exact h.coherent.active_of_endsSealed hs
  | false =>
    rw [h.coherent.scope_eq, Scope.active_eq_reachable (h.not_sealed hs),
      Scope.reachable_ofEntries ht]
    rfl

/-- What is active can be reached. -/
theorem Stack.Valid.mem_listing_of_mem_active {rules : RuleSet} {stack : Stack}
    (h : stack.Valid rules) (ht : rules.topLevel.Nodup) {id : RuleId}
    (hid : id ∈ (stack.scope rules).active) : id ∈ Scope.listing rules stack.toList := by
  rw [h.active_eq ht] at hid
  split at hid
  · cases hid
  · exact hid

/-- The rules that entries list are known. -/
theorem RuleSet.WF.known_of_mem_listing {rules : RuleSet} (hw : rules.WF) {es : List OpenEntry}
    {id : RuleId} (hid : id ∈ Scope.listing rules es) : ∃ rule, rules.rule? id = some rule := by
  suffices hlt : id < rules.size from ⟨_, Array.getElem?_eq_getElem hlt⟩
  rcases Scope.mem_listing.mp hid with ⟨e, _, he⟩ | ht
  · unfold OpenEntry.listed at he
    split at he
    · next ids hn =>
      obtain ⟨r, hr, hn⟩ := Option.map_eq_some_iff.mp hn
      exact ((hw.sound _ r hr).2 ids hn).lt id he
    · cases he
  · exact hw.top.lt id ht

/-- At every moment of a scan with compiled rules each entry keeps the scope over the entries up
to it, and only the innermost one can be sealed. What can be reached is listed by the entries,
innermost first, and by the outermost rules, and all of it is active unless the innermost entry is
sealed. The ends have distinct keys at descending positions, each the highest of its key; no key
is left out, but a sealed entry hides all keys below it. -/
theorem RuleSet.scope_of_run (language : Language) (specific wildcard : List RuleEntry)
    (lines : List Line) (k : Nat) :
    let rules := (RuleSet.compile language specific wildcard).1
    let stack := (rules.run lines k).state.stack
    let scope := stack.scope rules
    stack.Coherent rules ∧ stack.SealedLast rules ∧
      scope.active =
        (if stack.endsSealed rules then [] else Scope.listing rules stack.toList) ∧
      scope.reachable = Scope.listing rules stack.toList ∧
      (scope.ends.map (·.1)).Nodup ∧ (scope.ends.map (·.2)).Pairwise (· > ·) ∧
      (∀ key i, (key, i) ∈ scope.ends →
        i < stack.size ∧ Scope.Highest rules stack.toList key i) ∧
      (stack.endsSealed rules = false →
        ∀ e ∈ stack.toList, ∀ key, e.key? rules = some key → key ∈ scope.ends.map (·.1)) ∧
      (stack.endsSealed rules = true → ∀ key i, (key, i) ∈ scope.ends → i + 1 = stack.size) := by
  intro rules stack scope
  have ht : rules.topLevel.Nodup := (RuleSet.wf_compile language specific wildcard).top.nodup
  have hv : stack.Valid rules := rules.valid_run lines k
  have hscope : scope = .ofEntries rules stack.toList := hv.coherent.scope_eq
  refine ⟨hv.coherent, hv.sealedLast, hv.active_eq ht, hv.reachable_eq ht, ?_, ?_, ?_, ?_, ?_⟩
  · exact List.pairwise_map.mpr (hv.ends_descending.imp fun h => h.2)
  · exact List.pairwise_map.mpr (hv.ends_descending.imp fun h => h.1)
  · intro key i hm
    have hh := hv.highest_of_mem_ends hm
    exact ⟨by simpa using hh.lt, hh⟩
  · intro hs e he key hk
    obtain ⟨i, hi⟩ := Scope.exists_highest he hk
    have hm := (Scope.mem_ends_ofEntries (fun e he => (hv.proper e he).known)
      (hv.not_sealed hs)).mpr hi
    rw [hscope]
    exact List.mem_map.mpr ⟨(key, i), hm, rfl⟩
  · intro hs key i hm
    obtain ⟨es, e, _, hl, hends⟩ := hv.ends_of_endsSealed hs
    have hm' : (key, i) ∈ (e.key? rules).toList.map (·, es.length) := hends ▸ hm
    obtain ⟨key', _, heq⟩ := List.mem_map.mp hm'
    cases heq
    exact hl

end CodeFold
