import CodeFold.Proofs.Events
import Mathlib.Data.List.InsertIdx
import Mathlib.Data.List.Nodup

/-!
# The places of entries

An entry is known by the place where it opened: no two entries on a stack have one place, and the
scan has gone past all of them. This holds for every way of closing, because an entry that is put on
top stands where the scan has not been yet, and taking entries out keeps the others apart from their
scopes. So every entry was opened by one earlier step, and once it is taken out no entry with its
place comes back.
-/

namespace CodeFold

/-- The line and the column where an entry opened. -/
def OpenEntry.place (e : OpenEntry) : Nat × Nat := (e.line, e.column)

private theorem OpenEntry.place_of_bare {a b : OpenEntry} (h : a.bare = b.bare) :
    a.place = b.place := by
  obtain ⟨_, hline, hcolumn, _⟩ := OpenEntry.mk.inj h
  rw [place, place, hline, hcolumn]

/-- Closing an entry leaves entries behind that were there beside it, in their order. -/
theorem ScanState.places_closedStack (rules : RuleSet) (pairing : Pairing) (stack : Stack)
    (index : Nat) :
    ((closedStack rules pairing stack index).toList.map OpenEntry.place).Sublist
      ((stack.toList.map OpenEntry.place).eraseIdx index) := by
  rw [List.eraseIdx_map]
  cases pairing with
  | innermost =>
    rw [closedStack, Stack.toList_below, List.eraseIdx_eq_take_drop_succ, List.map_append]
    exact List.sublist_append_left _ _
  | nearest =>
    have hbare := congrArg (List.map OpenEntry.place) (Stack.bare_removeAt rules stack index)
    rw [List.map_map, List.map_map] at hbare
    exact hbare ▸ List.Sublist.refl _

namespace Moment

/-! ### Places -/

/-- The scan has gone past a place. -/
def Passed (m : Moment) (lineNo column : Nat) : Prop :=
  lineNo + 1 < m.begun ∨ lineNo + 1 = m.begun ∧ ∀ c, m.cursor = some c → column < c.pos

variable {rules : RuleSet} {m m' : Moment} {lineNo column : Nat}

/-- A step does not go back. -/
theorem passed_next (h : m.next? rules = some m') (hp : m.Passed lineNo column) :
    m'.Passed lineNo column := by
  rcases next?_cases h with ⟨c, hit, hc, hh, rfl⟩ | ⟨c, hc, _, rfl⟩ | ⟨line, rest, _, _, rfl⟩
  · refine hp.imp_right fun ⟨hl, hpos⟩ => ⟨hl, fun c' hc' => ?_⟩
    obtain ⟨next, hn, rfl⟩ := Option.map_eq_some_iff.mp hc'
    have hi := Stack.inside_nextHit hh
    have hlo := hi.lo_le
    have hspec := nextPos?_spec hi hn
    have hlt := hpos c hc
    dsimp only
    omega
  · exact hp.imp_right fun ⟨hl, _⟩ => ⟨hl, fun c' hc' => by cases hc'⟩
  · rcases hp with hp | ⟨hp, _⟩
    · exact .inl (Nat.lt_succ_of_lt hp)
    · exact .inl (by dsimp only; omega)

/-- The step that handles a hit goes past its start and all of its characters. -/
theorem passed_behind (hm : m.WF) (h : m.next? rules = some m') {c : Cursor} {hit : Hit}
    (hc : m.cursor = some c) (hh : m.hit? rules = some hit)
    (hcol : column ≤ hit.start ∨ column < hit.stop) : m'.Passed c.lineNo column := by
  have hh' : m.state.stack.nextHit rules c.lineNo c.line c.pos = some hit := by
    simpa [hit?, hc] using hh
  rcases next?_cases h with ⟨c', hit', hc', hh'', rfl⟩ | ⟨c', hc', hn, _⟩ | ⟨_, _, hn, _⟩
  · have hcc : c' = c := Option.some.inj (hc'.symm.trans hc)
    subst hcc
    have heq : hit' = hit := Option.some.inj (hh''.symm.trans hh')
    subst heq
    refine .inr ⟨(hm c' hc).1, fun c'' hc'' => ?_⟩
    obtain ⟨next, hn, rfl⟩ := Option.map_eq_some_iff.mp hc''
    have hspec := nextPos?_spec (Stack.inside_nextHit hh') hn
    dsimp only
    omega
  · have hcc : c' = c := Option.some.inj (hc'.symm.trans hc)
    subst hcc
    rw [hn] at hh'
    cases hh'
  · rw [hn] at hc
    cases hc

/-- The step that handles a hit goes past its place. -/
theorem passed_hit (hm : m.WF) (h : m.next? rules = some m') {c : Cursor} {hit : Hit}
    (hc : m.cursor = some c) (hh : m.hit? rules = some hit) :
    ¬ m.Passed c.lineNo hit.start ∧ m'.Passed c.lineNo hit.start := by
  refine ⟨?_, passed_behind hm h hc hh (.inl (Nat.le_refl _))⟩
  have hl := (hm c hc).1
  have hh' : m.state.stack.nextHit rules c.lineNo c.line c.pos = some hit := by
    simpa [hit?, hc] using hh
  have hlo := (Stack.inside_nextHit hh').lo_le
  rintro (hp | ⟨_, hpos⟩)
  · omega
  · have hlt := hpos c hc
    omega

/-! ### What a step does to the stack -/

/-- The opening of an entry by the next step. -/
structure Opening (rules : RuleSet) (m : Moment) (c : Cursor) (hit : Hit) (x : OpenEntry) :
    Prop where
  place : m.cursor = some c
  found : m.hit? rules = some hit
  opens : ∃ captures, hit.action = .open_ x.rule captures
  line : x.line = c.lineNo
  column : x.column = hit.start
  active : x.rule ∈ (m.state.stack.scope rules).active
  delimited : ∃ rule, rules.rule? x.rule = some rule ∧ rule.kind.isDelimited = true

/-- Only a rule with delimiters finds an opening. -/
theorem delimited_of_findOpening {rule : Rule} {line : Line} {pos : Nat} {om : OpeningMatch}
    (h : rule.findOpening line pos = some om) : rule.kind.isDelimited = true := by
  unfold Rule.findOpening at h
  split at h
  · next hk => rw [hk]; rfl
  · next hk => rw [hk]; rfl
  · next hk => rw [hk]; rfl
  · cases h
  · cases h

/-- A step puts an entry on top, closes an entry in the way of its rule, or leaves the stack
alone. -/
theorem stack_next (h : m.next? rules = some m') :
    (∃ c hit x, Opening rules m c hit x ∧ hit.action = .open_ x.rule x.captures ∧
        x.body = hit.stop ∧ m'.state.stack.toList = m.state.stack.toList ++ [x]) ∨
      (∃ c hit index x rule, m.cursor = some c ∧ m.hit? rules = some hit ∧
        hit.action = .close index ∧ m.state.stack[index]? = some x ∧
        rules.rule? x.rule = some rule ∧
        m'.state.stack = ScanState.closedStack rules rule.pairing m.state.stack index) ∨
      (m'.state.stack = m.state.stack ∧ ∀ hit, m.hit? rules ≠ some hit) := by
  rcases next?_cases h with ⟨c, hit, hc, hh, rfl⟩ | ⟨c, hc, hh, rfl⟩ | ⟨line, rest, hc, _, rfl⟩
  · have hhit : m.hit? rules = some hit := by rw [hit?, hc]; exact hh
    rcases Stack.nextHit_cases hh with ⟨key, index, _, hcl⟩ | ⟨id, hid, ho⟩
    · obtain ⟨x, rule, hx, hr, _, ha⟩ := Stack.closingHit_eq_some hcl
      refine .inr (.inl ⟨c, hit, index, x, rule, hc, hhit, ha, hx, hr, ?_⟩)
      dsimp only
      rw [ScanState.handle, ha]
      exact ScanState.stack_closeRegion hx hr
    · obtain ⟨rule, om, hr, hfind, rfl⟩ := Stack.openingHit_eq_some ho
      left
      dsimp only [ScanState.handle, ScanState.openRegion, Stack.enter]
      simp only [hr]
      exact ⟨c, _, _, ⟨hc, hhit, ⟨_, rfl⟩, rfl, rfl, hid, rule, hr,
        delimited_of_findOpening hfind⟩, rfl, rfl, Array.toList_push⟩
  · refine .inr (.inr ⟨rfl, fun hit hhit => ?_⟩)
    rw [hit?, hc] at hhit
    exact absurd (hhit.symm.trans hh) (by simp)
  · refine .inr (.inr ⟨ScanState.stack_beginLine _ _ _ _, fun hit hhit => ?_⟩)
    rw [hit?, hc] at hhit
    cases hhit

/-! ### Entries and their places -/

/-- The entries on the stack opened at different places, and the scan has gone past their
openings. -/
structure Laid (m : Moment) : Prop where
  distinct : (m.state.stack.toList.map OpenEntry.place).Nodup
  opening : ∀ x ∈ m.state.stack.toList, m.Passed x.line x.column
  body : ∀ x ∈ m.state.stack.toList, m.Passed x.line (x.body - 1)

private theorem laid_start (lines : List Line) : (start lines).Laid := by
  constructor <;> simp [start, ScanState.start]

private theorem Laid.next (hl : m.Laid) (hm : m.WF) (h : m.next? rules = some m') : m'.Laid := by
  have hold : ∀ x ∈ m.state.stack.toList,
      m'.Passed x.line x.column ∧ m'.Passed x.line (x.body - 1) := fun x hx =>
    ⟨passed_next h (hl.opening x hx), passed_next h (hl.body x hx)⟩
  rcases stack_next h with
    ⟨c, hit, x, ho, _, hbody, hs⟩ | ⟨c, hit, index, y, rule, _, _, _, _, _, hs⟩ | ⟨hs, _⟩
  · have hx := passed_hit hm h ho.place ho.found
    have hxb : m'.Passed x.line (x.body - 1) := by
      rw [ho.line]
      exact passed_behind hm h ho.place ho.found (by omega)
    rw [← ho.line, ← ho.column] at hx
    constructor
    · rw [hs, List.map_append, List.nodup_append]
      refine ⟨hl.distinct, by simp, ?_⟩
      -- The scan has gone past the old entries, but not past the new one.
      intro p hp q hq hpq
      obtain ⟨y, hy, rfl⟩ := List.mem_map.mp hp
      obtain rfl : q = x.place := by simpa using hq
      obtain ⟨hline, hcol⟩ := Prod.mk.inj hpq
      exact hx.1 (hline ▸ hcol ▸ hl.opening y hy)
    · intro y hy
      rw [hs] at hy
      rcases List.mem_append.mp hy with hy | hy
      · exact (hold y hy).1
      · rw [List.mem_singleton.mp hy]
        exact hx.2
    · intro y hy
      rw [hs] at hy
      rcases List.mem_append.mp hy with hy | hy
      · exact (hold y hy).2
      · rw [List.mem_singleton.mp hy]
        exact hxb
  · have hkept : ∀ x ∈ m'.state.stack.toList,
        m'.Passed x.line x.column ∧ m'.Passed x.line (x.body - 1) := by
      intro x hx
      rw [hs] at hx
      obtain ⟨z, hz, hb⟩ := ScanState.exists_of_mem_closedStack hx
      have hfields := OpenEntry.mk.inj hb
      rw [hfields.2.1, hfields.2.2.1, hfields.2.2.2.1]
      exact hold z hz
    refine ⟨?_, fun x hx => (hkept x hx).1, fun x hx => (hkept x hx).2⟩
    rw [hs]
    exact (hl.distinct.eraseIdx index).sublist (ScanState.places_closedStack _ _ _ _)
  · rw [← hs] at hold
    exact ⟨hs ▸ hl.distinct, fun x hx => (hold x hx).1, fun x hx => (hold x hx).2⟩

/-- Inside a line nothing is looked for before the body of an entry that opened there. -/
theorem Laid.body_le (hl : m.Laid) (hm : m.WF) {c : Cursor} (hc : m.cursor = some c)
    {x : OpenEntry} (hx : x ∈ m.state.stack.toList) (hline : x.line = c.lineNo) :
    x.body ≤ c.pos := by
  have hlast := (hm c hc).1
  rcases hl.body x hx with hlt | ⟨_, hpos⟩
  · omega
  · have hlt := hpos c hc
    omega

end Moment

namespace RuleSet

/-! ### Closing -/

/-- The step after moment `k` handles an end of the entry at a position. -/
def ClosesAt (rules : RuleSet) (lines : List Line) (k index : Nat) (x : OpenEntry) : Prop :=
  ∃ hit, (rules.run lines k).hit? rules = some hit ∧ hit.action = .close index ∧
    (rules.run lines k).state.stack[index]? = some x

variable {rules : RuleSet} {lines : List Line}

/-- An entry that closes is on the stack at its position. -/
theorem getElem?_of_closesAt {k index : Nat} {x : OpenEntry} (h : rules.ClosesAt lines k index x) :
    (rules.run lines k).state.stack.toList[index]? = some x := by
  obtain ⟨_, _, _, hx⟩ := h
  rwa [Array.getElem?_toList]

/-- An entry that closes is on the stack. -/
theorem mem_of_closesAt {t index : Nat} {x : OpenEntry} (h : rules.ClosesAt lines t index x) :
    x ∈ (rules.run lines t).state.stack.toList :=
  List.mem_of_getElem? (getElem?_of_closesAt h)

private theorem passed_run {u v lineNo column : Nat} (huv : u ≤ v)
    (h : (rules.run lines u).Passed lineNo column) : (rules.run lines v).Passed lineNo column :=
  run_invariant_from (I := fun m => m.Passed lineNo column) huv h
    fun _ _ _ hp hn => Moment.passed_next hn hp

/-- The region that a step closes is reported as one of the line that has begun last. -/
theorem closing_of_closesAt {k index : Nat} {x : OpenEntry} (h : rules.ClosesAt lines k index x) :
    (rules.run lines k).closing? rules =
      some ⟨x.rule, x.line, (rules.run lines k).begun - 1, true⟩ := by
  obtain ⟨hit, hh, ha, hx⟩ := h
  obtain ⟨c, hc, _⟩ := Option.bind_eq_some_iff.mp hh
  have hl := (rules.wf_run lines k c hc).1
  simp only [Moment.closing?, hc, hh, ha, hx, Option.bind_some, Option.map_some, Option.some.injEq]
  rw [← hl, Nat.add_sub_cancel]

/-- The event of a closing reports an entry that closes. -/
theorem closesAt_of_closing {k : Nat} {own : Event}
    (h : (rules.run lines k).closing? rules = some own) :
    ∃ index x, rules.ClosesAt lines k index x ∧
      own = ⟨x.rule, x.line, (rules.run lines k).begun - 1, true⟩ := by
  obtain ⟨c, hit, index, x, hc, hh, ha, hx, rfl⟩ := Moment.closing?_eq_some h
  have hl := (rules.wf_run lines k c hc).1
  exact ⟨index, x, ⟨hit, hh, ha, hx⟩, by rw [← hl, Nat.add_sub_cancel]⟩

/-- A step that has a hit to handle is taken. -/
theorem next_of_hit {k : Nat} {hit : Hit} (h : (rules.run lines k).hit? rules = some hit) :
    (rules.run lines k).next? rules = some (rules.run lines (k + 1)) := by
  obtain ⟨c, hc, hh⟩ := Option.bind_eq_some_iff.mp h
  cases hn : (rules.run lines k).next? rules with
  | none => simp [Moment.next?, hc, hh] at hn
  | some m => rw [run_succ hn]

/-- A step that closes a region is taken. -/
theorem next_of_closesAt {k index : Nat} {x : OpenEntry} (h : rules.ClosesAt lines k index x) :
    (rules.run lines k).next? rules = some (rules.run lines (k + 1)) := by
  obtain ⟨hit, hh, _⟩ := h
  exact next_of_hit hh

/-- A step handles an end of one entry only. -/
theorem closesAt_unique {k i j : Nat} {x y : OpenEntry} (h : rules.ClosesAt lines k i x)
    (h' : rules.ClosesAt lines k j y) : i = j := by
  obtain ⟨hit, hh, ha, _⟩ := h
  obtain ⟨hit', hh', ha', _⟩ := h'
  rw [Option.some.inj (hh'.symm.trans hh), ha] at ha'
  exact Action.close.inj ha'

/-- A step that closes a region stays in its line, which has begun. -/
theorem begun_of_closesAt {k index : Nat} {x : OpenEntry} (h : rules.ClosesAt lines k index x) :
    (rules.run lines (k + 1)).begun = (rules.run lines k).begun ∧
      0 < (rules.run lines k).begun := by
  obtain ⟨hit, hh, _⟩ := h
  obtain ⟨c, hc, hh'⟩ := Option.bind_eq_some_iff.mp hh
  have hl := (rules.wf_run lines k c hc).1
  have hn := next_of_hit hh
  simp only [Moment.next?, hc, hh', Option.some.injEq] at hn
  exact ⟨by rw [← hn], by omega⟩

/-- The step that handles an end closes the region of the entry in the line that has begun last. -/
theorem state_of_closesAt {k index : Nat} {x : OpenEntry} (h : rules.ClosesAt lines k index x) :
    (rules.run lines (k + 1)).state =
      (rules.run lines k).state.closeRegion rules ((rules.run lines k).begun - 1) index := by
  obtain ⟨hit, hh, ha, _⟩ := h
  have hn := next_of_hit hh
  obtain ⟨c, hc, hh'⟩ := Option.bind_eq_some_iff.mp hh
  have hl := (rules.wf_run lines k c hc).1
  simp only [Moment.next?, hc, hh', Option.some.injEq] at hn
  rw [← hn, ← hl, Nat.add_sub_cancel]
  simp only [ScanState.handle, ha]

/-! ### Opening -/

/-- Throughout a scan the entries have places of their own, which the scan has gone past. -/
theorem laid_run (rules : RuleSet) (lines : List Line) (k : Nat) : (rules.run lines k).Laid :=
  run_invariant (Moment.laid_start lines) (fun j _ hl h => hl.next (rules.wf_run lines j) h) k

/-- The entries on the stack opened in lines that have begun. -/
theorem line_lt_begun {t : Nat} {x : OpenEntry}
    (h : x ∈ (rules.run lines t).state.stack.toList) : x.line < (rules.run lines t).begun := by
  rcases (rules.laid_run lines t).opening x h with hlt | ⟨heq, _⟩ <;> omega

/-- The step after moment `k` opens the region of an entry. -/
def Opens (rules : RuleSet) (lines : List Line) (k : Nat) (x : OpenEntry) : Prop :=
  ∃ c hit, (rules.run lines k).cursor = some c ∧ (rules.run lines k).hit? rules = some hit ∧
    hit.action = .open_ x.rule x.captures ∧ x.line = c.lineNo ∧ x.column = hit.start ∧
    x.body = hit.stop

private theorem Opens.of_bare {k : Nat} {a b : OpenEntry} (hb : rules.Opens lines k b)
    (h : a.bare = b.bare) : rules.Opens lines k a := by
  obtain ⟨c, hit, hc, hh, ha, hline, hcolumn, hbody⟩ := hb
  obtain ⟨hrule, hl, hcol, hbod, hcap, _⟩ := OpenEntry.mk.inj h
  exact ⟨c, hit, hc, hh, by rw [ha, hrule, hcap], hl.trans hline, hcol.trans hcolumn,
    hbod.trans hbody⟩

/-- An entry on the stack was opened by an earlier step. -/
theorem exists_opens {t : Nat} {x : OpenEntry} (h : x ∈ (rules.run lines t).state.stack.toList) :
    ∃ k < t, rules.Opens lines k x := by
  induction t generalizing x with
  | zero => simp [run, Moment.after, Moment.start, ScanState.start] at h
  | succ t ih =>
    -- An entry that was there already was opened before that.
    have hkeep {y : OpenEntry} (hy : y ∈ (rules.run lines t).state.stack.toList)
        (hxy : x.bare = y.bare) : ∃ k < t + 1, rules.Opens lines k x := by
      obtain ⟨k, hk, ho⟩ := ih hy
      exact ⟨k, Nat.lt_succ_of_lt hk, ho.of_bare hxy⟩
    cases hn : (rules.run lines t).next? rules with
    | none =>
      rw [run_succ_of_end hn] at h
      exact hkeep h rfl
    | some m =>
      rw [run_succ hn] at h
      rcases Moment.stack_next hn with
        ⟨c, hit, y, ho, ha, hbody, hs⟩ | ⟨c, hit, index, y, rule, _, _, _, _, _, hs⟩ | ⟨hs, _⟩
      · rw [hs] at h
        rcases List.mem_append.mp h with h | h
        · exact hkeep h rfl
        · obtain rfl := List.mem_singleton.mp h
          exact ⟨t, Nat.lt_succ_self t, c, hit, ho.place, ho.found, ha, ho.line, ho.column, hbody⟩
      · rw [hs] at h
        obtain ⟨z, hz, hb⟩ := ScanState.exists_of_mem_closedStack h
        exact hkeep hz hb
      · rw [hs] at h
        exact hkeep h rfl

private theorem passed_of_opens {k : Nat} {x : OpenEntry} (h : rules.Opens lines k x) :
    ¬ (rules.run lines k).Passed x.line x.column ∧
      (rules.run lines (k + 1)).Passed x.line x.column := by
  obtain ⟨c, hit, hc, hh, _, hline, hcolumn, _⟩ := h
  rw [hline, hcolumn]
  exact Moment.passed_hit (rules.wf_run lines k) (next_of_hit hh) hc hh

/-- One step opens at a place. -/
theorem opens_unique {k k' : Nat} {x y : OpenEntry} (h : rules.Opens lines k x)
    (h' : rules.Opens lines k' y) (hp : x.place = y.place) : k = k' := by
  obtain ⟨hline, hcol⟩ := Prod.mk.inj hp
  have hx := passed_of_opens h
  have hy := passed_of_opens h'
  rw [hline, hcol] at hx
  rcases Nat.lt_trichotomy k k' with hlt | heq | hlt
  · exact absurd (passed_run hlt hx.2) hy.1
  · exact heq
  · exact absurd (passed_run hlt hy.2) hx.1

/-- After an entry has closed no entry with its place is on the stack. -/
theorem place_ne_of_closesAt {t u index : Nat} {x y : OpenEntry}
    (h : rules.ClosesAt lines t index x) (htu : t < u)
    (hy : y ∈ (rules.run lines u).state.stack.toList) : y.place ≠ x.place := by
  have hx := getElem?_of_closesAt h
  have hpassed := (rules.laid_run lines t).opening x (List.mem_of_getElem? hx)
  refine (run_invariant_from (I := fun m => m.Passed x.line x.column ∧
    ∀ y ∈ m.state.stack.toList, y.place ≠ x.place) (show t + 1 ≤ u from htu) ⟨?_, ?_⟩ ?_).2 y hy
  · exact passed_run (Nat.le_succ t) hpassed
  · intro y hy heq
    obtain ⟨hit, hh, ha, _⟩ := h
    rcases Moment.stack_next (next_of_hit hh) with
      ⟨_, hit', _, ho, ha', _⟩ | ⟨_, hit', index', _, rule, _, hh', ha', _, _, hs⟩ | ⟨_, hno⟩
    · rw [Option.some.inj (ho.found.symm.trans hh), ha] at ha'
      cases ha'
    · rw [Option.some.inj (hh'.symm.trans hh), ha] at ha'
      cases ha'
      -- The places that are left stand beside that of the entry, and all of them differ.
      rw [hs] at hy
      have hmem := (ScanState.places_closedStack _ _ _ _).mem (List.mem_map.mpr ⟨y, hy, heq⟩)
      have hplace : ((rules.run lines t).state.stack.toList.map OpenEntry.place)[index]? =
          some x.place := by rw [List.getElem?_map, hx]; rfl
      obtain ⟨hlt, hget⟩ := List.getElem?_eq_some_iff.mp hplace
      obtain ⟨j, hj, hne, hjx⟩ := List.mem_eraseIdx_iff_getElem.mp hmem
      exact hne ((List.Nodup.getElem_inj_iff (rules.laid_run lines t).distinct).mp
        (hjx.trans hget.symm))
    · exact hno hit hh
  · rintro j m _ ⟨hp, hne⟩ hn
    refine ⟨Moment.passed_next hn hp, fun y hy => ?_⟩
    rcases Moment.stack_next hn with
      ⟨c, hit, z, ho, _, _, hs⟩ | ⟨_, _, _, _, _, _, _, _, _, _, hs⟩ | ⟨hs, _⟩
    · rw [hs] at hy
      rcases List.mem_append.mp hy with hy | hy
      · exact hne y hy
      · obtain rfl := List.mem_singleton.mp hy
        intro heq
        obtain ⟨hline, hcol⟩ := Prod.mk.inj heq
        have hnew := (Moment.passed_hit (rules.wf_run lines j) hn ho.place ho.found).1
        rw [← ho.line, ← ho.column, hline, hcol] at hnew
        exact hnew hp
    · rw [hs] at hy
      obtain ⟨z, hz, hb⟩ := ScanState.exists_of_mem_closedStack hy
      rw [OpenEntry.place_of_bare hb]
      exact hne z hz
    · rw [hs] at hy
      exact hne y hy

/-- One step closes an entry with a place. -/
theorem closesAt_of_place {t t' index index' : Nat} {x y : OpenEntry}
    (h : rules.ClosesAt lines t index x) (h' : rules.ClosesAt lines t' index' y)
    (hp : x.place = y.place) : t = t' := by
  rcases Nat.lt_trichotomy t t' with hlt | heq | hlt
  · exact absurd hp.symm (place_ne_of_closesAt h hlt (mem_of_closesAt h'))
  · exact heq
  · exact absurd hp (place_ne_of_closesAt h' hlt (mem_of_closesAt h))

end RuleSet

end CodeFold
