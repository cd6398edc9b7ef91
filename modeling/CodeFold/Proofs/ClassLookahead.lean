import CodeFold.Proofs.Lookahead

/-!
# How far ahead a class is read

A class is read up to its closing bracket and no further. A member of it can look at the hyphen
behind it and at what follows that, but the closing bracket always comes first.
-/

namespace CodeFold.Pattern.Parser

variable {st : State}

private theorem parseClass_congr {cs cs' : List Char} (h : st.skip cs = st.skip cs') (fuel : Nat)
    (left : Option (ClassOp × ClassTree)) (members : List ClassTree) :
    parseClass st fuel left members cs = parseClass st fuel left members cs' := by
  cases fuel with
  | zero => rfl
  | succ fuel => rw [parseClass, parseClass, h]

/-! ### Members and ranges -/

private theorem dropWhile_isBlank_append {u : List Char} (h : ']' ∈ u) (w : List Char) :
    (u ++ w).dropWhile isBlank = u.dropWhile isBlank ++ w ∧ ']' ∈ u.dropWhile isBlank := by
  have hmem : ']' ∈ u.dropWhile isBlank := by
    rw [← List.takeWhile_append_dropWhile (p := isBlank) (l := u), List.mem_append] at h
    refine h.resolve_left fun hblank => ?_
    exact absurd (List.all_eq_true.mp List.all_takeWhile _ hblank) (by decide)
  refine ⟨?_, hmem⟩
  rw [List.dropWhile_append, if_neg]
  simpa using List.ne_nil_of_mem hmem

/-- In front of a closing bracket the reader looks no further than to it. -/
theorem State.peek_append {u : List Char} (h : ']' ∈ u) (w w' : List Char) :
    st.peek (u ++ w) = st.peek (u ++ w') := by
  have hhead {v : List Char} (hv : ']' ∈ v) (w : List Char) : (v ++ w).head? = v.head? := by
    cases v with
    | nil => cases hv
    | cons c v => rfl
  obtain ⟨hw, hmem⟩ := dropWhile_isBlank_append h w
  obtain ⟨hw', -⟩ := dropWhile_isBlank_append h w'
  unfold State.peek
  rw [hw, hw', hhead h, hhead h]
  cases hd : u.dropWhile isBlank with
  | nil => rw [hd] at hmem; cases hmem
  | cons c v =>
    rw [hd] at hmem
    by_cases hc : c = '#'
    · subst hc
      have hv : ']' ∈ v := by simpa using hmem
      obtain ⟨hv₁, hv'⟩ := dropWhile_isBlank_append hv w
      obtain ⟨hv₂, -⟩ := dropWhile_isBlank_append hv w'
      simp only [List.cons_append, hv₁, hv₂, hhead hv']
    · simp

/-- A member is a character or an escape. -/
theorem parseMember_cases {a : Atom} {cs rest : List Char} (h : parseMember st cs = .ok (a, rest)) :
    a = .anchor .wordBoundary ∨ Splits st (parseMember st) cs a rest := by
  unfold parseMember at h
  split at h
  · cases h
  · next cs =>
    obtain ⟨ha, -⟩ | hs := parseEscape_cases h
    · exact .inl ha
    · exact .inr (hs.cons fun _ => rfl)
  · next c cs hc =>
    cases h
    exact .inr <| .single fun w => by unfold parseMember; split <;> simp_all

private theorem Splits.of_member {a : Atom} {m : ClassTree} {cs rest : List Char}
    (h : parseMember st cs = .ok (a, rest)) (ha : a.member = .ok m) :
    Splits st (parseMember st) cs a rest := by
  refine (parseMember_cases h).resolve_left ?_
  rintro rfl
  cases ha

private theorem Splits.of_bound {a : Atom} {c : Char} {cs rest : List Char}
    (h : parseMember st cs = .ok (a, rest)) (ha : a.bound = .ok c) :
    Splits st (parseMember st) cs a rest := by
  refine (parseMember_cases h).resolve_left ?_
  rintro rfl
  cases ha

/-- What is read as a member of a class or as a range: a member in front of a hyphen that comes
last, two members with a hyphen between them, or one member. -/
inductive RangeForm (st : State) (cs : List Char) : ClassTree → List Char → Prop where
  | beforeHyphen {a : Atom} {m : ClassTree} {r after : List Char}
    (hfirst : parseMember st cs = .ok (a, r)) (hs : st.skip r = '-' :: after)
    (hpeek : (st.peek after = some ']' || st.peek after = some '-') = true)
    (hm : a.member = .ok m) : RangeForm st cs m ('-' :: after)
  | range {a b : Atom} {lo hi : Char} {r after r' : List Char}
    (hfirst : parseMember st cs = .ok (a, r)) (hs : st.skip r = '-' :: after)
    (hpeek : ¬ (st.peek after = some ']' || st.peek after = some '-') = true)
    (hne : st.skip after ≠ []) (hsecond : parseMember st (st.skip after) = .ok (b, r'))
    (hlo : a.bound = .ok lo) (hhi : b.bound = .ok hi) (hle : lo ≤ hi) :
    RangeForm st cs (.range lo hi) r'
  | single {a : Atom} {m : ClassTree} {r : List Char} (hfirst : parseMember st cs = .ok (a, r))
    (hne : st.skip r ≠ []) (hs : (st.skip r).head? ≠ some '-') (hm : a.member = .ok m) :
    RangeForm st cs m (st.skip r)

private theorem parseRange_eq_ok_iff {t : ClassTree} {cs rest : List Char} :
    parseRange st cs = .ok (t, rest) ↔ RangeForm st cs t rest := by
  constructor
  · intro hrange
    obtain ⟨⟨a, r⟩, hfirst, h⟩ := bind_eq_ok.mp hrange
    dsimp only at h
    split at h
    · cases h
    · next after hs =>
      split at h
      · next hpeek =>
        obtain ⟨m, hm, h⟩ := bind_eq_ok.mp h
        cases h
        exact .beforeHyphen hfirst hs hpeek hm
      · next hpeek =>
        split at h
        · cases h
        · next hne =>
          obtain ⟨⟨b, r'⟩, hsecond, h⟩ := bind_eq_ok.mp h
          obtain ⟨lo, hlo, h⟩ := bind_eq_ok.mp h
          obtain ⟨hi, hhi, h⟩ := bind_eq_ok.mp h
          dsimp only at h
          split at h
          · next hle =>
            cases h
            exact .range hfirst hs hpeek hne hsecond hlo hhi hle
          · cases h
    · next hne hhyphen =>
      obtain ⟨m, hm, h⟩ := bind_eq_ok.mp h
      cases h
      refine .single hfirst hne (fun hhead => ?_) hm
      obtain ⟨after, hs⟩ := List.head?_eq_some_iff.mp hhead
      exact hhyphen after hs
  · intro h
    cases h with
    | beforeHyphen hfirst hs hpeek hm =>
      refine bind_eq_ok.mpr ⟨_, hfirst, ?_⟩
      dsimp only
      rw [hs]
      exact (if_pos hpeek).trans (bind_eq_ok.mpr ⟨_, hm, rfl⟩)
    | range hfirst hs hpeek hne hsecond hlo hhi hle =>
      refine bind_eq_ok.mpr ⟨_, hfirst, ?_⟩
      dsimp only
      rw [hs]
      refine (if_neg hpeek).trans ?_
      split
      · next hnil => exact absurd hnil hne
      · exact bind_eq_ok.mpr ⟨_, hsecond, bind_eq_ok.mpr ⟨_, hlo, bind_eq_ok.mpr ⟨_, hhi,
          if_pos hle⟩⟩⟩
    | @single a m r hfirst hne hs hm =>
      refine bind_eq_ok.mpr ⟨_, hfirst, ?_⟩
      dsimp only
      split
      · next hnil => exact absurd hnil hne
      · next after hs' =>
        rw [hs'] at hs
        exact absurd rfl hs
      · exact bind_eq_ok.mpr ⟨_, hm, rfl⟩

/-- A member or a range in front of text up to a closing bracket. -/
theorem RangeForm.append {t : ClassTree} {cs u rest : List Char}
    (h : RangeForm st cs t (u ++ rest)) (hu : ']' ∈ u) :
    ∃ v, cs = v ++ (u ++ rest) ∧ v ≠ [] ∧ ∀ w, ∃ w', RangeForm st (v ++ (u ++ w)) t w' ∧
      st.skip w' = st.skip (u ++ w) := by
  have hu' : u ≠ [] := List.ne_nil_of_mem hu
  generalize hrest : u ++ rest = text at h
  cases h with
  | beforeHyphen hfirst hs hpeek hm =>
    obtain ⟨v, rfl, hv, hread⟩ := Splits.of_member hfirst hm
    obtain ⟨s, rfl, hskip⟩ := State.skip_append_cons hs
    obtain ⟨d, u, rfl⟩ := List.exists_cons_of_ne_nil hu'
    rw [List.cons_append] at hrest
    obtain ⟨rfl, rfl⟩ := List.cons.inj hrest
    refine ⟨v ++ s, by simp, by simp [hv], fun w => ?_⟩
    obtain ⟨w₁, hw₁, hsame⟩ := hread (by simp) (s ++ '-' :: (u ++ w))
    rw [hskip] at hsame
    rw [State.peek_append (by simpa using hu) rest w] at hpeek
    exact ⟨_, .beforeHyphen (by simpa using hw₁) hsame hpeek hm, rfl⟩
  | range hfirst hs hpeek hne hsecond hlo hhi hle =>
    subst hrest
    obtain ⟨v, rfl, hv, hread⟩ := Splits.of_bound hfirst hlo
    obtain ⟨s, rfl, hskip⟩ := State.skip_append_cons hs
    obtain ⟨v₂, hv₂, hne₂, hread₂⟩ := Splits.of_bound hsecond hhi
    obtain ⟨s₂, rfl, hskip₂⟩ := State.skip_append_of_ne_nil hv₂ hne₂
    refine ⟨v ++ (s ++ '-' :: (s₂ ++ v₂)), by simp, by simp [hv], fun w => ?_⟩
    obtain ⟨w₁, hw₁, hsame⟩ := hread (by simp) (s ++ '-' :: (s₂ ++ (v₂ ++ (u ++ w))))
    obtain ⟨w', hw', hsame'⟩ := hread₂ (by simp [hu']) (u ++ w)
    have hpeek' : st.peek (s₂ ++ (v₂ ++ (u ++ w))) = st.peek (s₂ ++ (v₂ ++ (u ++ rest))) := by
      have hmem : ']' ∈ s₂ ++ (v₂ ++ u) := by simp [hu]
      simpa using State.peek_append hmem w rest
    rw [hskip] at hsame
    rw [← hpeek'] at hpeek
    refine ⟨w', .range (by simpa using hw₁) hsame hpeek ?_ ?_ hlo hhi hle, hsame'⟩
    · simp [hskip₂, hne₂]
    · rw [hskip₂]
      exact hw'
  | single hfirst hne hs hm =>
    obtain ⟨v, rfl, hv, hread⟩ := Splits.of_member hfirst hm
    obtain ⟨s, rfl, hskip⟩ := State.skip_append_of_ne_nil hrest.symm hu'
    rw [hskip] at hs
    refine ⟨v ++ s, by simp [hskip], by simp [hv], fun w => ?_⟩
    obtain ⟨w₁, hw₁, hsame⟩ := hread (by simp [hu']) (s ++ (u ++ w))
    rw [hskip] at hsame
    refine ⟨st.skip w₁, .single (by simpa using hw₁) ?_ ?_ hm, by rw [hsame]⟩
    · simp [hsame, hu']
    · rw [hsame]
      obtain ⟨d, u, rfl⟩ := List.exists_cons_of_ne_nil hu'
      exact hs

/-! ### Named classes -/

private theorem not_mem_of_ofName?_eq_some {name : List Char} {kind : AsciiClass}
    (h : AsciiClass.ofName? (String.ofList name) = some kind) : ']' ∉ name := by
  unfold AsciiClass.ofName? at h
  split at h
  case h_15 => cases h
  all_goals
    next he =>
    rw [← String.toList_inj, String.toList_ofList] at he
    rw [he]
    decide

/-- A class named between colons, after the first of them and the caret. -/
def asciiNamed (negated : Bool) (cs : List Char) : Option (ClassTree × List Char) :=
  match cs.dropWhile (· != ':') with
  | ':' :: ']' :: rest =>
    (AsciiClass.ofName? (String.ofList (cs.takeWhile (· != ':')))).map fun kind =>
      (.ascii negated kind, rest)
  | _ => none

/-- A caret behind the colon negates a named class. -/
theorem parseAsciiClass?_caret (cs : List Char) :
    parseAsciiClass? (':' :: '^' :: cs) = asciiNamed true cs := rfl

/-- Without a caret behind the colon a named class is not negated. -/
theorem parseAsciiClass?_colon {cs : List Char} (h : cs.head? ≠ some '^') :
    parseAsciiClass? (':' :: cs) = asciiNamed false cs := by
  rw [parseAsciiClass?]
  · rfl
  · rintro r rfl
    exact h rfl

/-- The name of a class is read up to its bracket, whatever follows. -/
theorem asciiNamed_append {negated : Bool} {t : ClassTree} {cs rest : List Char}
    (h : asciiNamed negated cs = some (t, rest)) :
    ∃ v, cs = v ++ ']' :: rest ∧ v ≠ [] ∧ ']' ∉ v ∧
      ∀ w, asciiNamed negated (v ++ ']' :: w) = some (t, w) := by
  unfold asciiNamed at h
  split at h
  · next rest' hd =>
    obtain ⟨kind, hkind, h⟩ := Option.map_eq_some_iff.mp h
    cases h
    have hcs := List.takeWhile_append_dropWhile (p := (· != ':')) (l := cs)
    have hall : ∀ c ∈ cs.takeWhile (· != ':'), (c != ':') = true :=
      List.all_eq_true.mp List.all_takeWhile
    generalize cs.takeWhile (· != ':') = name at hkind hcs hall
    rw [hd] at hcs
    refine ⟨name ++ [':'], by simp [← hcs], by simp, ?_, fun w => ?_⟩
    · simpa using not_mem_of_ofName?_eq_some hkind
    · rw [List.append_assoc, List.singleton_append, asciiNamed, List.dropWhile_append_of_pos hall,
        List.takeWhile_append_of_pos hall]
      simp [hkind]
  · cases h

/-- A class between colons ends with the first closing bracket. -/
theorem parseAsciiClass?_append {t : ClassTree} {cs rest : List Char}
    (h : parseAsciiClass? cs = some (t, rest)) :
    ∃ v, cs = v ++ ']' :: rest ∧ ']' ∉ v ∧ ∀ w, parseAsciiClass? (v ++ ']' :: w) = some (t, w) := by
  obtain _ | ⟨c, cs⟩ := cs
  · cases h
  by_cases hc : c = ':'
  · subst hc
    by_cases hcaret : cs.head? = some '^'
    · obtain ⟨r, rfl⟩ := List.head?_eq_some_iff.mp hcaret
      rw [parseAsciiClass?_caret] at h
      obtain ⟨v, rfl, -, hv, hread⟩ := asciiNamed_append h
      refine ⟨':' :: '^' :: v, rfl, by simpa using hv, fun w => ?_⟩
      rw [List.cons_append, List.cons_append, parseAsciiClass?_caret, hread]
    · rw [parseAsciiClass?_colon hcaret] at h
      obtain ⟨_ | ⟨d, v⟩, rfl, hne, hv, hread⟩ := asciiNamed_append h
      · exact absurd rfl hne
      · refine ⟨':' :: d :: v, rfl, by simpa using hv, fun w => ?_⟩
        rw [List.cons_append, parseAsciiClass?_colon (by simpa using hcaret), hread]
  · unfold parseAsciiClass? at h
    split at h
    · next he =>
      cases he
      exact absurd rfl hc
    · cases h

private theorem parseAsciiClass?_eq_none {u rest : List Char}
    (h : parseAsciiClass? (u ++ rest) = none)
    (hu : ']' ∈ u) (w : List Char) : parseAsciiClass? (u ++ w) = none := by
  rw [Option.eq_none_iff_forall_ne_some]
  rintro ⟨t, rest'⟩ hsome
  obtain ⟨v, hv, hmem, hread⟩ := parseAsciiClass?_append hsome
  -- The first closing bracket stands in `u`.
  obtain ⟨l, rfl, -⟩ | ⟨l, rfl, hl⟩ := List.append_eq_append_iff.mp hv
  · exact hmem (List.mem_append_left _ hu)
  · obtain _ | ⟨d, l⟩ := l
    · exact hmem (by simpa using hu)
    · cases hl
      rw [List.append_assoc, List.cons_append, hread] at h
      cases h

/-! ### The start of a class -/

/-- Hyphens at the start of a class are read up to another character. -/
theorem parseHyphens_append {members members' : List ClassTree} {fuel : Nat} {cs rest : List Char}
    (h : parseHyphens st members fuel cs = .ok (members', rest)) :
    ∃ v, cs = v ++ rest ∧ rest ≠ [] ∧ ∀ w fuel', w.head? = rest.head? → v.length < fuel' →
      parseHyphens st members fuel' (v ++ w) = .ok (members', w) := by
  induction fuel generalizing members cs with
  | zero => cases h
  | succ fuel ih =>
    unfold parseHyphens at h
    split at h
    · next r =>
      obtain ⟨v, hv, hne, hread⟩ := ih h
      obtain ⟨t, hr, hskip⟩ := State.skip_append hv
      refine ⟨'-' :: (t ++ v), by simp [hr], hne, fun w fuel' hw hf => ?_⟩
      obtain _ | fuel' := fuel'
      · cases hf
      have hself : st.skip (v ++ w) = v ++ w :=
        State.skip_of_head? hv (by simp [hne]) (by simp [hw])
      rw [List.cons_append, parseHyphens, List.append_assoc, hskip (by simp [hne]), hself]
      exact hread w fuel' hw (by simp at hf; omega)
    · cases h
    · next hhyphen hnil =>
      cases h
      refine ⟨[], rfl, hnil, fun w fuel' hw hf => ?_⟩
      obtain _ | fuel' := fuel'
      · cases hf
      rw [List.nil_append]
      unfold parseHyphens
      split
      · next r =>
        obtain ⟨r, rfl⟩ := List.head?_eq_some_iff.mp hw.symm
        exact (hhyphen r rfl).elim
      · exact (hnil (List.head?_eq_none_iff.mp hw.symm)).elim
      · rfl

/-- Whether a class starts with a caret, and what follows it. -/
def State.afterCaret (st : State) (cs : List Char) : Bool × List Char :=
  match st.skip cs with
  | '^' :: rest => (true, st.skip rest)
  | cs => (false, cs)

/-- A closing bracket that stands for itself. -/
def State.literalBracket (st : State) (negated : Bool) :
    List ClassTree × List Char → Except PatternError (Bool × List ClassTree × List Char)
  | ([], ']' :: rest) =>
    match st.skip rest with
    | [] => .error .unclosedClass
    | rest => .ok (negated, [.char ']'], rest)
  | (members, cs) => .ok (negated, members, cs)

/-- The start of a class is read as a caret, hyphens and a bracket that stands for itself, any of
which may be missing. -/
theorem parseClassStart_eq {negated : Bool} {cs r : List Char}
    (h : st.afterCaret cs = (negated, r)) :
    parseClassStart st cs =
      (parseHyphens st [] (r.length + 1) r >>= st.literalBracket negated) := by
  unfold parseClassStart
  split
  next negated' r' he =>
  obtain ⟨rfl, rfl⟩ := Prod.mk.inj (he.symm.trans h)
  refine congrArg (parseHyphens st [] (r'.length + 1) r' >>= ·) (funext fun ⟨members, s⟩ => ?_)
  dsimp only
  split
  · next r =>
    rw [State.literalBracket]
    cases st.skip r <;> rfl
  · next hbracket =>
    rw [State.literalBracket]
    · rfl
    · exact hbracket

/-- Whether a class is negated is read from its first characters. -/
theorem afterCaret_append {negated : Bool} {cs r : List Char} (h : st.afterCaret cs = (negated, r))
    (hne : r ≠ []) :
    ∃ v, cs = v ++ r ∧ ∀ w, w.head? = r.head? → st.afterCaret (v ++ w) = (negated, w) := by
  unfold State.afterCaret at h
  split at h
  · next rest hs =>
    cases h
    obtain ⟨t, rfl, hskip⟩ := State.skip_append_cons hs
    obtain ⟨t₂, hrest, hskip₂⟩ := State.skip_append (rfl : st.skip rest = st.skip rest)
    refine ⟨t ++ '^' :: t₂, by rw [List.append_assoc, List.cons_append, ← hrest], fun w hw => ?_⟩
    rw [List.append_assoc, List.cons_append, State.afterCaret, hskip]
    exact congrArg (Prod.mk true) ((hskip₂ hne w).trans (State.skip_of_head? rfl hne hw))
  · next hcaret =>
    cases h
    obtain ⟨t, ht, hskip⟩ := State.skip_append (rfl : st.skip cs = st.skip cs)
    refine ⟨t, ht, fun w hw => ?_⟩
    rw [State.afterCaret, hskip hne, State.skip_of_head? rfl hne hw]
    split
    · next rest =>
      obtain ⟨r, hr⟩ := List.head?_eq_some_iff.mp hw.symm
      exact (hcaret r hr).elim
    · rfl

/-- A bracket that stands for itself is read from the first characters of a class. -/
theorem literalBracket_append {negated : Bool} {members members' : List ClassTree}
    {cs rest : List Char} {negated' : Bool}
    (h : st.literalBracket negated (members, cs) = .ok (negated', members', rest)) (hcs : cs ≠ []) :
    ∃ v, cs = v ++ rest ∧ rest ≠ [] ∧ ∀ w, w.head? = rest.head? →
      st.literalBracket negated (members, v ++ w) = .ok (negated', members', w) := by
  unfold State.literalBracket at h
  split at h
  · next r he =>
    cases he
    split at h
    · cases h
    · next hne =>
      cases h
      obtain ⟨t, ht, hskip⟩ := State.skip_append (rfl : st.skip r = st.skip r)
      refine ⟨']' :: t, congrArg _ ht, hne, fun w hw => ?_⟩
      rw [List.cons_append, State.literalBracket, hskip hne, State.skip_of_head? rfl hne hw]
      split
      · exact (hne (List.head?_eq_none_iff.mp hw.symm)).elim
      · rfl
  · next hbracket he =>
    cases he
    cases h
    refine ⟨[], rfl, hcs, fun w hw => ?_⟩
    rw [List.nil_append, State.literalBracket]
    rintro r rfl rfl
    obtain ⟨r, rfl⟩ := List.head?_eq_some_iff.mp hw.symm
    exact hbracket r rfl rfl

/-- The start of a class in front of another character. -/
theorem parseClassStart_append {negated : Bool} {members : List ClassTree} {cs rest : List Char}
    (h : parseClassStart st cs = .ok (negated, members, rest)) :
    ∃ v, cs = v ++ rest ∧ rest ≠ [] ∧ ∀ w, w.head? = rest.head? →
      parseClassStart st (v ++ w) = .ok (negated, members, w) := by
  obtain ⟨b, r, hcaret⟩ : ∃ b r, st.afterCaret cs = (b, r) := ⟨_, _, rfl⟩
  rw [parseClassStart_eq hcaret] at h
  obtain ⟨⟨members', r'⟩, hh, hb⟩ := bind_eq_ok.mp h
  clear h
  obtain ⟨v₂, rfl, hne₂, hread₂⟩ := parseHyphens_append hh
  obtain ⟨v₃, rfl, hne, hread₃⟩ := literalBracket_append hb hne₂
  obtain ⟨v₁, rfl, hread₁⟩ := afterCaret_append hcaret (by simp [hne])
  refine ⟨v₁ ++ (v₂ ++ v₃), by simp, hne, fun w hw => ?_⟩
  have hcaret' := hread₁ (v₂ ++ (v₃ ++ w)) (by simp [hw])
  rw [List.append_assoc, List.append_assoc, parseClassStart_eq hcaret']
  refine bind_eq_ok.mpr ⟨(members', v₃ ++ w), hread₂ _ _ (by simp [hw]) ?_, ?_⟩
  · simp only [List.length_append]
    omega
  · exact hread₃ w hw

/-! ### Whole classes -/

/-- Neither a bracket nor an operator comes first. -/
def startsMember : List Char → Bool
  | [] | ']' :: _ | '[' :: _ | '&' :: '&' :: _ | '-' :: '-' :: _ | '~' :: '~' :: _ => false
  | _ => true

/-- Where a member of a class starts, it is read and the class goes on behind it. -/
theorem parseClass_of_startsMember {cs : List Char} (h : startsMember (st.skip cs) = true)
    (fuel : Nat) (left : Option (ClassOp × ClassTree)) (members : List ClassTree) :
    parseClass st (fuel + 1) left members cs = parseRange st (st.skip cs) >>= fun x =>
      parseClass st fuel left (x.1 :: members) x.2 := by
  rw [parseClass]
  split
  case h_7 => rfl
  all_goals next hs => rw [hs] at h; cases h

/-- The first two characters decide. -/
theorem startsMember_append {cs : List Char} (h : 2 ≤ cs.length) (w : List Char) :
    startsMember (cs ++ w) = startsMember cs := by
  obtain _ | ⟨c, _ | ⟨d, cs⟩⟩ := cs
  · simp at h
  · simp at h
  · rw [List.cons_append, List.cons_append]
    unfold startsMember
    split <;> split <;> simp_all

/-- The text in front of `rest` is read as `t` whatever follows it. A closing bracket is part of
it. -/
def EndsClass (st : State) (left : Option (ClassOp × ClassTree)) (members : List ClassTree)
    (cs : List Char) (t : ClassTree) (rest : List Char) : Prop :=
  ∃ u, cs = u ++ rest ∧ ']' ∈ u ∧ ∀ w fuel, u.length ≤ fuel →
    parseClass st fuel left members (u ++ w) = .ok (t, w)

namespace EndsClass

variable {left : Option (ClassOp × ClassTree)} {members : List ClassTree} {t t' : ClassTree}
  {cs r rest : List Char}

/-- A bracket ends a class. -/
theorem close (hs : st.skip cs = ']' :: rest) :
    EndsClass st left members cs (joinOperand left members) rest := by
  obtain ⟨s, rfl, hskip⟩ := State.skip_append_cons hs
  refine ⟨s ++ [']'], by simp, by simp, fun w fuel hf => ?_⟩
  obtain _ | fuel := fuel
  · simp at hf
  rw [List.append_assoc, List.singleton_append, parseClass, hskip]
  rfl

/-- An operator is two equal characters. -/
theorem operator {c : Char} {op : ClassOp} (hs : st.skip cs = c :: c :: r)
    (hstep : ∀ {fuel cs r}, st.skip cs = c :: c :: r → parseClass st (fuel + 1) left members cs =
      parseClass st fuel (some (op, joinOperand left members)) [] r)
    (h : EndsClass st (some (op, joinOperand left members)) [] r t rest) :
    EndsClass st left members cs t rest := by
  obtain ⟨s, rfl, hskip⟩ := State.skip_append_cons hs
  obtain ⟨u, rfl, hu, hread⟩ := h
  refine ⟨s ++ c :: c :: u, by simp, by simp [hu], fun w fuel hf => ?_⟩
  obtain _ | fuel := fuel
  · simp at hf
  rw [List.append_assoc, List.cons_append, List.cons_append, hstep (hskip _)]
  refine hread w fuel ?_
  simp only [List.length_append, List.length_cons] at hf
  omega

/-- A class goes on behind a named class in it. -/
theorem ascii (hs : st.skip cs = '[' :: r) {r' : List Char}
    (ha : parseAsciiClass? r = some (t', r')) (h : EndsClass st left (t' :: members) r' t rest) :
    EndsClass st left members cs t rest := by
  obtain ⟨s, rfl, hskip⟩ := State.skip_append_cons hs
  obtain ⟨v, rfl, -, hread⟩ := parseAsciiClass?_append ha
  obtain ⟨u, rfl, hu, hread'⟩ := h
  refine ⟨s ++ '[' :: (v ++ ']' :: u), by simp, by simp, fun w fuel hf => ?_⟩
  obtain _ | fuel := fuel
  · simp at hf
  simp only [List.append_assoc, List.cons_append, parseClass, hskip, hread]
  refine hread' w fuel ?_
  simp only [List.length_append, List.length_cons] at hf
  omega

/-- A class goes on behind a class in it. -/
theorem nested (hs : st.skip cs = '[' :: r) (ha : parseAsciiClass? r = none) {negated : Bool}
    {inner : List ClassTree} {r₁ r₂ : List Char}
    (hstart : parseClassStart st r = .ok (negated, inner, r₁))
    (hinner : EndsClass st none inner r₁ t' r₂)
    (h : EndsClass st left (.bracket negated t' :: members) r₂ t rest) :
    EndsClass st left members cs t rest := by
  obtain ⟨s, rfl, hskip⟩ := State.skip_append_cons hs
  obtain ⟨v, rfl, -, hread⟩ := parseClassStart_append hstart
  obtain ⟨u₁, rfl, hu₁, hread₁⟩ := hinner
  obtain ⟨u₂, rfl, hu₂, hread₂⟩ := h
  refine ⟨s ++ '[' :: (v ++ (u₁ ++ u₂)), by simp, by simp [hu₁], fun w fuel hf => ?_⟩
  obtain _ | fuel := fuel
  · simp at hf
  simp only [List.length_append, List.length_cons] at hf
  have ha' : parseAsciiClass? (v ++ (u₁ ++ (u₂ ++ w))) = none := by
    rw [← List.append_assoc] at ha ⊢
    exact parseAsciiClass?_eq_none ha (List.mem_append_right v hu₁) _
  have hhead : (u₁ ++ (u₂ ++ w)).head? = (u₁ ++ (u₂ ++ rest)).head? := by
    obtain ⟨d, u₁, rfl⟩ := List.exists_cons_of_ne_nil (List.ne_nil_of_mem hu₁)
    rfl
  simp only [List.append_assoc, List.cons_append, parseClass, hskip, ha']
  exact bind_eq_ok.mpr ⟨_, hread _ hhead, bind_eq_ok.mpr ⟨_, hread₁ _ fuel (by omega),
    hread₂ w fuel (by omega)⟩⟩

/-- A class goes on behind a member of it. -/
theorem member (hstart : startsMember (st.skip cs) = true)
    (hr : parseRange st (st.skip cs) = .ok (t', r))
    (h : EndsClass st left (t' :: members) r t rest) : EndsClass st left members cs t rest := by
  obtain ⟨u, rfl, hu, hread⟩ := h
  obtain ⟨v, hv, hne, hread'⟩ := (parseRange_eq_ok_iff.mp hr).append hu
  obtain ⟨s, rfl, hskip⟩ := State.skip_append_of_ne_nil hv hne
  have hpos : 0 < v.length := List.length_pos_iff.mpr hne
  have hpos' : 0 < u.length := List.length_pos_iff.mpr (List.ne_nil_of_mem hu)
  refine ⟨s ++ (v ++ u), by simp, by simp [hu], fun w fuel hf => ?_⟩
  simp only [List.length_append] at hf
  obtain ⟨fuel, rfl⟩ : ∃ f, fuel = f + 1 := ⟨fuel - 1, by omega⟩
  obtain ⟨w', hw', hsame⟩ := hread' w
  have hlen : 2 ≤ (v ++ u).length := by
    rw [List.length_append]
    omega
  have hstart' : startsMember (st.skip (s ++ (v ++ (u ++ w)))) = true := by
    rw [hskip, ← List.append_assoc, startsMember_append hlen] at hstart ⊢
    exact hstart
  rw [List.append_assoc, List.append_assoc, parseClass_of_startsMember hstart', hskip]
  refine bind_eq_ok.mpr ⟨_, parseRange_eq_ok_iff.mpr hw', ?_⟩
  rw [parseClass_congr hsame]
  exact hread w fuel (by omega)

end EndsClass

/-- Whatever is read as a class ends with its closing bracket. -/
theorem endsClass_of_parseClass {fuel : Nat} {left : Option (ClassOp × ClassTree)}
    {members : List ClassTree} {t : ClassTree} {cs rest : List Char}
    (h : parseClass st fuel left members cs = .ok (t, rest)) :
    EndsClass st left members cs t rest := by
  induction fuel generalizing left members t cs rest with
  | zero => cases h
  | succ fuel ih =>
    cases hm : startsMember (st.skip cs) with
    | true =>
      rw [parseClass_of_startsMember hm] at h
      obtain ⟨⟨t', r⟩, hr, h⟩ := bind_eq_ok.mp h
      exact .member hm hr (ih h)
    | false =>
      rw [parseClass] at h
      split at h
      · cases h
      · next r hs =>
        cases h
        exact .close hs
      · next r hs =>
        split at h
        · next t' r' ha => exact .ascii hs ha (ih h)
        · next ha =>
          obtain ⟨⟨negated, inner, r₁⟩, hstart, h⟩ := bind_eq_ok.mp h
          obtain ⟨⟨t', r₂⟩, hinner, h⟩ := bind_eq_ok.mp h
          exact .nested hs ha hstart (ih hinner) (ih h)
      · next r hs => exact .operator hs (fun hs' => by rw [parseClass, hs']; rfl) (ih h)
      · next r hs => exact .operator hs (fun hs' => by rw [parseClass, hs']; rfl) (ih h)
      · next r hs => exact .operator hs (fun hs' => by rw [parseClass, hs']; rfl) (ih h)
      · unfold startsMember at hm
        split at hm <;> simp_all

end CodeFold.Pattern.Parser
