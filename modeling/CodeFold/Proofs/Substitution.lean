import CodeFold.Proofs.Holes

/-!
# Escaped text in holes

Text that is put into the holes of a pattern means the same as it does in groups of their own,
provided a hole in front of a repetition sign holds one character. Two readers, one for each of the
patterns, take the same tokens between the holes, and what they have read means the same at every
moment.
Specification: §10.
-/

namespace CodeFold.Pattern.Parser

open CodeFold.Pattern.Tree

/-! ### Readers of patterns with the same meaning -/

/-- Two groups that are being read have the same kind and mean the same. -/
structure Level.Mirrors (l l' : Level) : Prop where
  kind : l.kind = l'.kind
  verbose : l.verbose = l'.verbose
  branches : List.Forall₂ (Alike 2) l.branches l'.branches
  items : SameItems l.items l'.items

/-- A repetition sign finds items that mean the same. -/
def Aligned (items items' : List Tree) : Prop :=
  ∀ t ts, takeRepeated items = .ok (t, ts) → ∃ t' ts', takeRepeated items' = .ok (t', ts') ∧
    Alike 1 t t' ∧ SameItems ts ts'

/-- No holes are aligned with any items. -/
theorem aligned_nil (items : List Tree) : Aligned [] items := nofun

private theorem takeRepeated_cons {t : Tree} {ts : List Tree} {x : Tree × List Tree}
    (h : takeRepeated (t :: ts) = .ok x) (us : List Tree) :
    x = (t, ts) ∧ takeRepeated (t :: us) = .ok (t, us) := by
  cases t with
  | empty | directive => cases h
  | char | dot | anchor | shorthand | property | bracket | loop | group | cat | alt =>
    cases h
    exact ⟨rfl, rfl⟩

private theorem aligned_cons_self (t : Tree) {ts ts' : List Tree} (h : SameItems ts ts') :
    Aligned (t :: ts) (t :: ts') := by
  intro u us hu
  obtain ⟨hx, hu'⟩ := takeRepeated_cons hu ts'
  cases hx
  exact ⟨_, _, hu', .refl _, h⟩

private theorem aligned_cons {t t' : Tree} {ts ts' : List Tree} (ht : Alike 1 t t')
    (h : SameItems ts ts')
    (hrep : takeRepeated (t' :: ts') = .ok (t', ts')) : Aligned (t :: ts) (t' :: ts') := by
  intro u us hu
  obtain ⟨hx, -⟩ := takeRepeated_cons hu []
  cases hx
  exact ⟨_, _, hrep, ht, h⟩

namespace Reader

/-- Two readers in the same state that have read what means the same. -/
structure Mirrors (r r' : Reader) : Prop where
  state : r.state = r'.state
  levels : List.Forall₂ Level.Mirrors r.levels r'.levels
  branches : List.Forall₂ (Alike 2) r.branches r'.branches
  items : SameItems r.items r'.items

variable {r r' m : Reader} {tok : Token} {st : State} {rest : List Char}

private theorem Mirrors.body (h : r.Mirrors r') : Alike 2 r.body r'.body :=
  alike_closeBranches h.branches h.items

/-- A token that one reader can take can be taken by the other. -/
theorem Mirrors.take? (h : r.Mirrors r') (htake : r.take? tok st rest = some m)
    (halign : (∃ least most greedy, tok = .repetition least most greedy) →
      Aligned r.items r'.items) (rest' : List Char) :
    ∃ m', r'.take? tok st rest' = some m' ∧ m.Mirrors m' ∧ Aligned m.items m'.items := by
  cases tok with
  | finish => cases htake
  | close =>
    obtain ⟨rst, levels, branches, items, text⟩ := r
    obtain ⟨rst', levels', branches', items', text'⟩ := r'
    have hlevels : List.Forall₂ Level.Mirrors levels levels' := h.levels
    cases hlevels with
    | nil => cases htake
    | cons hl hls =>
      cases htake
      obtain ⟨hkind, hverbose, hbranches, hitems⟩ := hl
      have hgroup := h.body.group
      refine ⟨_, rfl, ⟨?_, hls, hbranches, ?_⟩, ?_⟩
      · rw [hverbose]
      · rw [hkind]
        exact hitems.cons (hgroup _)
      · rw [hkind]
        exact aligned_cons (hgroup _) hitems rfl
  | branch =>
    cases htake
    exact ⟨_, rfl, ⟨rfl, h.levels, .cons h.items.ofItems h.branches, .nil⟩, aligned_nil _⟩
  | directive changes =>
    cases htake
    exact ⟨_, rfl, ⟨rfl, h.levels, h.branches, h.items.cons (.refl _)⟩, nofun⟩
  | opening kind =>
    cases htake
    refine ⟨_, rfl, ⟨rfl, .cons ⟨rfl, ?_, h.branches, h.items⟩ h.levels, .nil, .nil⟩, aligned_nil _⟩
    rw [h.state]
  | item t =>
    cases htake
    exact ⟨_, rfl, ⟨rfl, h.levels, h.branches, h.items.cons (.refl _)⟩, aligned_cons_self t h.items⟩
  | repetition least most greedy =>
    unfold Reader.take? at htake ⊢
    dsimp only at htake ⊢
    split at htake
    · next t items hrep =>
      cases htake
      obtain ⟨t', items', hrep', ht, hitems⟩ := halign ⟨_, _, _, rfl⟩ t items hrep
      rw [hrep']
      refine ⟨_, rfl, ⟨rfl, h.levels, h.branches, hitems.cons (ht.loop ..)⟩, ?_⟩
      exact aligned_cons (ht.loop ..) hitems rfl
    · cases htake

/-- A repetition sign is the first character of its token. -/
theorem sign_of_repetition {cs : List Char} {least : Nat} {most : Option Nat} {greedy : Bool}
    {st' : State} (h : st.token cs = .ok (.repetition least most greedy, st', rest)) :
    (st.skip cs).head?.any isRepetition = true := by
  rw [State.token] at h
  unfold State.tokenAt at h
  split at h
  case h_4 =>
    obtain ⟨⟨_ | kind, inside, w⟩, -, h⟩ := bind_eq_ok.mp h <;> cases h
  case h_5 =>
    obtain ⟨x, -, h⟩ := bind_eq_ok.mp h
    obtain ⟨y, -, h⟩ := bind_eq_ok.mp h
    cases h
  case h_6 hs =>
    rw [hs]
    rfl
  case h_7 hs =>
    rw [hs]
    rfl
  case h_8 hs =>
    rw [hs]
    rfl
  case h_9 hs =>
    rw [hs]
    rfl
  case h_10 =>
    obtain ⟨x, -, h⟩ := bind_eq_ok.mp h
    cases h
  all_goals cases h

/-- Readers of one text that have read what means the same before it read what means the same. -/
theorem Mirrors.reads (h : r.Mirrors r') (hrest : r.rest = r'.rest)
    (halign : Aligned r.items r'.items ∨ (r.state.skip r.rest).head?.any isRepetition = false)
    {tree : Tree} (hr : Reads r tree) : ∃ tree', Reads r' tree' ∧ Alike 2 tree tree' := by
  induction hr generalizing r' with
  | @finish r st rest htok hl =>
    refine ⟨r'.body, .finish (h.state ▸ hrest ▸ htok) ?_, h.body⟩
    have hlevels := h.levels
    rw [hl] at hlevels
    exact List.forall₂_nil_left_iff.mp hlevels
  | @step r m tree hstep _ ih =>
    obtain ⟨tok, st, rest, htok, htake⟩ := hstep
    obtain ⟨m', htake', hm, hm'⟩ := h.take? htake
      (by
        rintro ⟨least, most, greedy, rfl⟩
        apply halign.resolve_right
        simp [sign_of_repetition htok]) rest
    have hrest' : m.rest = m'.rest := (rest_of_take? htake).1.trans (rest_of_take? htake').1.symm
    obtain ⟨tree', htree, halike⟩ := ih hm hrest' (.inl hm')
    exact ⟨tree', .step ⟨tok, st, rest, h.state ▸ hrest ▸ htok, htake'⟩ htree, halike⟩

/-- The modes of a reader and of the groups that it is in. -/
def SameModes (o r : Reader) : Prop :=
  o.state = r.state ∧ o.levels.map (·.verbose) = r.levels.map (·.verbose)

private theorem SameModes.take? {o o' : Reader} (h : o.SameModes r) {w : List Char}
    (ho : o.take? tok st w = some o') (hr : r.take? tok st rest = some m) : o'.SameModes m := by
  obtain ⟨hstate, hlevels⟩ := h
  cases tok with
  | finish => cases ho
  | close =>
    obtain ⟨ost, olevels, obranches, oitems, otext⟩ := o
    obtain ⟨rst, levels, branches, items, text⟩ := r
    obtain _ | ⟨l, levels⟩ := levels
    · cases hr
    · obtain _ | ⟨l', olevels⟩ := olevels
      · cases ho
      · cases ho
        cases hr
        simp only [List.map_cons, List.cons.injEq] at hlevels
        exact ⟨by simp [hlevels.1], hlevels.2⟩
  | branch | directive | item =>
    cases ho
    cases hr
    exact ⟨rfl, hlevels⟩
  | opening kind =>
    cases ho
    cases hr
    exact ⟨rfl, by simp [hstate, hlevels]⟩
  | repetition least most greedy =>
    unfold Reader.take? at ho hr
    dsimp only at ho hr
    split at ho <;> cases ho
    split at hr <;> cases hr
    exact ⟨rfl, hlevels⟩

/-! ### Three readers of a pattern with holes -/

/-- A reader of the outline, a reader of the pattern with escaped text in the holes, and a reader of
the pattern with that text in groups stand at the same place. -/
structure Parallel (o r r' : Reader) (cs : List Char) (hs : List Hole) : Prop where
  visits : o.Visits hs
  outline : o.rest = fill emptyGroup cs hs
  modes : o.SameModes r
  mirrors : r.Mirrors r'
  plain : r.rest = fill escapeChars cs hs
  grouped : r'.rest = fill inGroup cs hs
  aligned : Aligned r.items r'.items ∨ (r.state.skip r.rest).head?.any isRepetition = false

variable {o : Reader} {cs : List Char} {h : Hole} {hs : List Hole} {tree : Tree}

/-- All three readers pass a hole. -/
theorem Parallel.hole (hp : Parallel o r r' cs (h :: hs))
    (hat : o.state.skip o.rest = fill emptyGroup [] (h :: hs)) (hr : Reads r tree) :
    ∃ k k', Parallel (o.behind h hs) k k' h.after hs ∧ Reads k tree ∧
      ∀ tree', Reads k' tree' → Reads r' tree' := by
  obtain ⟨hv, ho, ⟨hstate, hlevels⟩, hm, hplain, hgrouped, -⟩ := hp
  -- What stands before the hole is skipped.
  have hskip (put : List Char → List Char) :
      r.state.skip (fill put cs (h :: hs)) = r.state.skip (put h.text ++ fill put h.after hs) := by
    rw [hstate, ho] at hat
    obtain ⟨p, hne, hp⟩ | hp := skip_fill (Nat.le_of_eq (congrArg List.length hat.symm))
    · rw [hp] at hat
      have := congrArg List.length hat
      rw [List.length_append] at this
      exact absurd (List.eq_nil_of_length_eq_zero (by omega)) hne
    · rw [hp, fill_cons, List.nil_append]
  refine ⟨{ r with items := (charItems (r.state.visible h.text)).reverse ++ r.items,
                   rest := fill escapeChars h.after hs },
    { r' with items := .group (.plain []) (Tree.ofItems (charItems (r.state.visible h.text))) ::
                r'.items,
              rest := fill inGroup h.after hs }, ⟨hv.behind hat, rfl, ⟨hstate, hlevels⟩,
      ⟨hm.state, hm.levels, hm.branches, hm.items.chars _⟩, rfl, rfl, ?_⟩, ?_, ?_⟩
  · by_cases hsign : (o.state.skip (fill emptyGroup h.after hs)).head?.any isRepetition = true
    · left
      have hone := hv.single_of_sign hat hsign
      rw [hstate] at hone
      obtain ⟨c, hc⟩ := List.length_eq_one_iff.mp hone
      rw [hc]
      exact aligned_cons (.char c) hm.items rfl
    · right
      rw [Bool.eq_false_iff]
      intro hany
      obtain ⟨c, hhead, hc⟩ := (Option.any_eq_true _ _).mp hany
      rw [← hstate] at hhead
      have hcalm := calm_escapeChars (hv.behind hat) rfl c hc hhead
      apply hsign
      rw [show (o.state.skip (fill emptyGroup h.after hs)).head? = some c from hcalm]
      exact hc
  · exact (reads_escapeChars _ _).mp (hr.congr (by rw [hplain, hskip]))
  · intro tree' htree
    have hskip' : r'.state.skip r'.rest = inGroup h.text ++ fill inGroup h.after hs := by
      rw [hgrouped, ← hm.state, hskip]
      exact State.skip_of_ne (fun _ => rfl) (by decide) _
    rw [hm.state] at htree
    exact (reads_inGroup hskip').mpr htree

/-- All three readers take a token in front of a hole. -/
theorem Parallel.token (hp : Parallel o r r' cs (h :: hs))
    (hat : o.state.skip o.rest ≠ fill emptyGroup [] (h :: hs)) (hr : Reads r tree) :
    ∃ o₁ k k' cs', Parallel o₁ k k' cs' (h :: hs) ∧ cs'.length < cs.length ∧ Reads k tree ∧
      ∀ tree', Reads k' tree' → Reads r' tree' := by
  obtain ⟨hv, ho, hmodes, hm, hplain, hgrouped, halign⟩ := hp
  obtain ⟨tok, st, cs', o₁, hotake, hlen, hv₁, hread⟩ := hv.token_fill ho hat
  have hrest₁ := (rest_of_take? hotake).1
  obtain ⟨w, htok, hw⟩ := hread escapeChars (calm_escapeChars hv₁ hrest₁)
  obtain ⟨w', htok', hw'⟩ := hread inGroup (calm_inGroup (hrest₁ ▸ hv₁.length_le))
  rw [hmodes.1, ← hplain] at htok
  rw [hmodes.1, hm.state, ← hgrouped] at htok'
  -- The reader of the pattern takes that token.
  obtain ⟨k, htake, hk⟩ : ∃ k, r.take? tok st w = some k ∧ Reads k tree := by
    cases hr with
    | finish hf =>
      rw [htok] at hf
      cases hf
      exact absurd rfl (rest_of_take? hotake).2
    | step hstep hk =>
      obtain ⟨tok', st', rest', htok'', htake⟩ := hstep
      rw [htok] at htok''
      cases htok''
      exact ⟨_, htake, hk⟩
  obtain ⟨k', htake', hmk, halign'⟩ := hm.take? htake
    (by
      rintro ⟨least, most, greedy, rfl⟩
      apply halign.resolve_right
      simp [sign_of_repetition htok]) w'
  have hmodes₁ := hmodes.take? hotake htake
  refine ⟨o₁, { k with rest := fill escapeChars cs' (h :: hs) },
    { k' with rest := fill inGroup cs' (h :: hs) }, cs', ⟨hv₁, hrest₁, hmodes₁,
      ⟨hmk.state, hmk.levels, hmk.branches, hmk.items⟩, rfl, rfl, .inl halign'⟩, hlen, ?_, ?_⟩
  · apply hk.congr
    rw [(rest_of_take? htake).1, ← hmodes₁.1, hw]
  · intro tree' htree
    refine .step ⟨tok, st, w', htok', htake'⟩ (htree.congr (w := k'.rest) ?_)
    rw [(rest_of_take? htake').1, ← hmk.state, ← hmodes₁.1, hw']

/-- Escaped text in the holes means the same as escaped text in groups of its own. -/
theorem Parallel.reads (hp : Parallel o r r' cs hs) (hr : Reads r tree) :
    ∃ tree', Reads r' tree' ∧ Alike 2 tree tree' := by
  induction hn : o.rest.length using Nat.strongRecOn generalizing o r r' cs hs with
  | ind n ih =>
    obtain _ | ⟨h, hs⟩ := hs
    · have hrest : r.rest = r'.rest := by rw [hp.plain, hp.grouped, fill_nil, fill_nil]
      exact hp.mirrors.reads hrest hp.aligned hr
    by_cases hat : o.state.skip o.rest = fill emptyGroup [] (h :: hs)
    · obtain ⟨k, k', hk, hkr, hback⟩ := hp.hole hat hr
      have hlt : (o.behind h hs).rest.length < n := by
        have hle := o.state.length_skip_le o.rest
        rw [hat, fill_cons] at hle
        simp only [List.nil_append, emptyGroup, List.length_append, List.length_cons] at hle
        simp only [behind]
        omega
      obtain ⟨tree', htree, halike⟩ := ih _ hlt hk hkr rfl
      exact ⟨tree', hback tree' htree, halike⟩
    · obtain ⟨o₁, k, k', cs', hk, hlen, hkr, hback⟩ := hp.token hat hr
      have hlt : o₁.rest.length < n := by
        rw [← hn, hk.outline, hp.outline]
        simpa [fill] using hlen
      obtain ⟨tree', htree, halike⟩ := ih _ hlt hk hkr rfl
      exact ⟨tree', hback tree' htree, halike⟩

end Reader

end CodeFold.Pattern.Parser
