import CodeFold.Proofs.Lookahead

/-!
# How far ahead groups and repetitions are read

The start of a group and the numbers of a repetition are read from their own text. Two questions
are asked about what follows: a parenthesis opens a group with a number if no question mark stands
behind it, and a repetition is lazy if one does.
-/

namespace CodeFold.Pattern.Parser

variable {st : State}

/-! ### Groups -/

/-- Flags end in front of a colon or a closing parenthesis. -/
theorem parseFlags_append {negated dangling : Bool} {changes changes' : FlagChanges}
    {cs rest : List Char} (h : parseFlags negated dangling changes cs = .ok (changes', rest)) :
    ∃ v c r, cs = v ++ c :: r ∧ rest = c :: r ∧ (c = ':' ∨ c = ')') ∧
      ∀ w, parseFlags negated dangling changes (v ++ c :: w) = .ok (changes', c :: w) := by
  induction cs generalizing negated dangling changes with
  | nil => cases h
  | cons c cs ih =>
    rw [parseFlags] at h
    split at h
    · next hc =>
      split at h
      · cases h
      · next hd =>
        cases h
        refine ⟨[], c, cs, rfl, rfl, by simpa using hc, fun w => ?_⟩
        rw [List.nil_append, parseFlags, if_pos hc, if_neg hd]
    · next hc =>
      split at h
      · next hm =>
        split at h
        · cases h
        · next hn =>
          obtain ⟨v, e, r, rfl, hrest, he, hread⟩ := ih h
          refine ⟨c :: v, e, r, rfl, hrest, he, fun w => ?_⟩
          rw [List.cons_append, parseFlags, if_neg hc, if_pos hm, if_neg hn, hread]
      · next hm =>
        obtain ⟨flag, hflag, h⟩ := bind_eq_ok.mp h
        split at h
        · cases h
        · next hd =>
          obtain ⟨v, e, r, rfl, hrest, he, hread⟩ := ih h
          refine ⟨c :: v, e, r, rfl, hrest, he, fun w => ?_⟩
          rw [List.cons_append, parseFlags, if_neg hc, if_neg hm]
          exact bind_eq_ok.mpr ⟨flag, hflag, (if_neg hd).trans (hread w)⟩

private theorem parseGroupName_append {name : List Char} {s : String} {cs rest : List Char}
    (h : parseGroupName name cs = .ok (s, rest)) :
    ∃ u, cs = u ++ rest ∧ u ≠ [] ∧ ∀ w, parseGroupName name (u ++ w) = .ok (s, w) := by
  induction cs generalizing name with
  | nil => cases h
  | cons c cs ih =>
    unfold parseGroupName at h
    split at h
    · next he => cases he
    · next cs' he =>
      cases he
      split at h
      · cases h
      · next hn =>
        cases h
        exact ⟨['>'], rfl, nofun, fun w => by rw [List.singleton_append, parseGroupName, if_neg hn]⟩
    · next c' cs' hc he =>
      cases he
      split at h
      · next hn =>
        obtain ⟨u, rfl, -, hread⟩ := ih h
        refine ⟨c :: u, rfl, nofun, fun w => ?_⟩
        rw [List.cons_append, parseGroupName, if_pos hn, hread]
        exact hc
      · cases h

private theorem openNamed_append {o : Opening} {st' : State} {cs rest : List Char}
    (h : openNamed st cs = .ok (o, st', rest)) :
    ∃ u, cs = u ++ rest ∧ u ≠ [] ∧ ∀ w, openNamed st (u ++ w) = .ok (o, st', w) := by
  obtain ⟨⟨name, r⟩, hname, h⟩ := bind_eq_ok.mp h
  dsimp only at h
  split at h
  · cases h
  · next hnew =>
    cases h
    obtain ⟨u, hu, hne, hread⟩ := parseGroupName_append hname
    exact ⟨u, hu, hne, fun w => bind_eq_ok.mpr ⟨(name, w), hread w, if_neg hnew⟩⟩

/-- What flags behind a question mark open. -/
def State.openFlags (st : State) :
    FlagChanges × List Char → Except PatternError (Opening × State × List Char)
  | (changes, ')' :: rest) =>
    if changes.isEmpty then .error .nothingToRepeat
    else .ok (.directive changes,
      { st with verbose := (changes.state? .verbose).getD st.verbose }, rest)
  | (changes, rest) => .ok (.group (.plain changes), st, rest.drop 1)

private theorem openFlags_append {changes : FlagChanges} {c : Char} (hc : c = ':' ∨ c = ')') {o :
    Opening}
    {st' : State} {r rest : List Char} (h : st.openFlags (changes, c :: r) = .ok (o, st', rest)) :
    rest = r ∧ ∀ w, st.openFlags (changes, c :: w) = .ok (o, st', w) := by
  obtain rfl | rfl := hc
  · cases h
    exact ⟨rfl, fun w => rfl⟩
  · rw [State.openFlags] at h
    split at h
    · cases h
    · next hne =>
      cases h
      exact ⟨rfl, fun w => by rw [State.openFlags, if_neg hne]⟩

/-- Behind a question mark a group opens with its flags. -/
theorem parseOpening_of_parseFlags {cs r : List Char} (hs : st.skip cs = '?' :: r)
    {x : FlagChanges × List Char} (hx : parseFlags false false [] r = .ok x) :
    parseOpening st cs = st.openFlags x := by
  unfold parseOpening
  rw [hs]
  split
  case h_7 he =>
    cases he
    rw [hx]
    obtain ⟨changes, rest⟩ := x
    dsimp only [bind, Except.bind]
    split
    · rw [State.openFlags]
      rfl
    · next hclose =>
      rw [State.openFlags]
      · rfl
      · exact hclose
  case h_8 hq => exact (hq _ rfl).elim
  all_goals next he => cases he; cases hx

private theorem parseOpening_of_angle {cs r : List Char} (hs : st.skip cs = '?' :: '<' :: r)
    (h₁ : r.head? ≠ some '=') (h₂ : r.head? ≠ some '!') : parseOpening st cs = openNamed st r := by
  unfold parseOpening
  rw [hs]
  split
  case h_3 he => cases he; exact absurd rfl h₁
  case h_4 he => cases he; exact absurd rfl h₂
  case h_6 he => cases he; rfl
  case h_7 hangle he => cases he; exact (hangle r rfl).elim
  case h_8 hq => exact (hq _ rfl).elim
  all_goals next he => cases he

/-- Without a question mark a group captures and takes the next number. -/
theorem parseOpening_capture {cs : List Char} (h : (st.skip cs).head? ≠ some '?') :
    parseOpening st cs = .ok (.group (.capture (st.groups + 1) none),
      { st with groups := st.groups + 1 }, st.skip cs) := by
  unfold parseOpening
  split <;> simp_all

/-- What belongs to the start of a group does not depend on the text behind it, with one exception:
a parenthesis opens a group with a number if no question mark follows. -/
theorem parseOpening_cases {o : Opening} {st' : State} {cs rest : List Char}
    (hopen : parseOpening st cs = .ok (o, st', rest)) :
    (o = .group (.capture (st.groups + 1) none) ∧ st' = { st with groups := st.groups + 1 } ∧
      rest = st.skip cs ∧ rest.head? ≠ some '?') ∨
    ∃ u, cs = u ++ rest ∧ ∀ w, parseOpening st (u ++ w) = .ok (o, st', w) := by
  have h := hopen
  unfold parseOpening at h
  split at h
  case h_5 r hs =>
    obtain ⟨s, rfl, hskip⟩ := State.skip_append_cons hs
    obtain ⟨u, rfl, -, hread⟩ := openNamed_append h
    refine .inr ⟨s ++ '?' :: 'P' :: '<' :: u, by simp, fun w => ?_⟩
    simp only [List.append_assoc, List.cons_append, parseOpening, hskip]
    exact hread w
  case h_6 heq hne hs =>
    obtain ⟨s, rfl, hskip⟩ := State.skip_append_cons hs
    obtain ⟨u, rfl, hu, hread⟩ := openNamed_append h
    refine .inr ⟨s ++ '?' :: '<' :: u, by simp, fun w => ?_⟩
    obtain ⟨d, u, rfl⟩ := List.exists_cons_of_ne_nil hu
    rw [List.append_assoc]
    refine (parseOpening_of_angle (hskip _) ?_ ?_).trans (hread w)
    · rintro hd
      cases hd
      exact heq _ rfl
    · rintro hd
      cases hd
      exact hne _ rfl
  case h_7 hs =>
    obtain ⟨⟨changes, r⟩, hflags, -⟩ := bind_eq_ok.mp h
    obtain ⟨s, rfl, hskip⟩ := State.skip_append_cons hs
    rw [parseOpening_of_parseFlags hs hflags] at hopen
    obtain ⟨v, c, r, rfl, rfl, hc, hread⟩ := parseFlags_append hflags
    obtain ⟨rfl, hread'⟩ := openFlags_append hc hopen
    refine .inr ⟨s ++ '?' :: (v ++ [c]), by simp, fun w => ?_⟩
    simp only [List.append_assoc, List.cons_append, List.nil_append]
    rw [parseOpening_of_parseFlags (hskip _) (hread w), hread']
  case h_8 hq =>
    cases h
    refine .inl ⟨rfl, rfl, rfl, fun hhead => ?_⟩
    obtain ⟨r, hr⟩ := List.head?_eq_some_iff.mp hhead
    exact hq r hr
  all_goals cases h

/-! ### Repetitions -/

private theorem dropWhile_append_of_head? {p : Char → Bool} {cs rest : List Char}
    (h : cs.dropWhile p = rest) (hne : rest ≠ []) :
    ∃ b, cs = b ++ rest ∧ ∀ w, w.head? = rest.head? → (b ++ w).dropWhile p = w := by
  have hcs := List.takeWhile_append_dropWhile (p := p) (l := cs)
  have hall : ∀ c ∈ cs.takeWhile p, p c = true := List.all_eq_true.mp List.all_takeWhile
  obtain ⟨c, rest, rfl⟩ := List.exists_cons_of_ne_nil hne
  have hc := List.head?_dropWhile_not p cs
  rw [h] at hcs hc
  refine ⟨cs.takeWhile p, hcs.symm, fun w hw => ?_⟩
  obtain ⟨w, rfl⟩ := List.head?_eq_some_iff.mp hw
  rw [List.dropWhile_append_of_pos hall, List.dropWhile_cons_of_neg (by simpa using hc)]

private theorem decimalDigits_append {value value' : Option Nat} {fuel : Nat} {cs rest : List Char}
    (h : decimalDigits st value fuel cs = (value', rest)) (hf : cs.length < fuel)
    (hne : rest ≠ []) :
    ∃ u, cs = u ++ rest ∧ ∀ w fuel', w.head? = rest.head? → (u ++ w).length < fuel' →
      decimalDigits st value fuel' (u ++ w) = (value', w) := by
  induction fuel generalizing value cs with
  | zero => cases hf
  | succ fuel ih =>
    cases cs with
    | nil =>
      cases h
      exact absurd rfl hne
    | cons c r =>
      rw [decimalDigits] at h
      split at h
      · next hc =>
        have hlen := st.length_skip_le r
        obtain ⟨u, hu, hread⟩ := ih h (by simp at hf; omega)
        obtain ⟨t, rfl, hskip⟩ := State.skip_append hu
        refine ⟨c :: (t ++ u), by simp, fun w fuel' hw hf' => ?_⟩
        obtain _ | fuel' := fuel'
        · cases hf'
        rw [List.cons_append, decimalDigits, if_pos hc, List.append_assoc, hskip (by simp [hne]),
          State.skip_of_head? hu (by simp [hne]) (by simp [hw])]
        exact hread w fuel' hw (by simp at hf' ⊢; omega)
      · next hc =>
        cases h
        refine ⟨[], rfl, fun w fuel' hw hf' => ?_⟩
        obtain ⟨w, rfl⟩ := List.head?_eq_some_iff.mp hw
        obtain _ | fuel' := fuel'
        · cases hf'
        rw [List.nil_append, decimalDigits, if_neg hc]

private theorem parseDecimal_append {value : Option Nat} {cs rest : List Char}
    (h : parseDecimal st cs = (value, rest)) (hne : rest ≠ []) :
    ∃ u, cs = u ++ rest ∧ ∀ w, w.head? = rest.head? → parseDecimal st (u ++ w) = (value, w) := by
  obtain ⟨v, r, hr⟩ : ∃ v r, decimalDigits st none ((cs.dropWhile isBlank).length + 1)
    (cs.dropWhile isBlank) = (v, r) := ⟨_, _, rfl⟩
  have hrest : (v, st.skip (r.dropWhile isBlank)) = (value, rest) := by
    rw [← h, parseDecimal, hr]
  obtain ⟨rfl, hskip⟩ := Prod.mk.inj hrest
  -- The text in front of the rest is made of blanks, digits, blanks and separators.
  obtain ⟨t₄, h₄, hread₄⟩ := State.skip_append hskip
  have hne₃ : r.dropWhile isBlank ≠ [] := by
    rw [h₄]
    simp [hne]
  obtain ⟨t₃, h₃, hread₃⟩ := dropWhile_append_of_head? rfl hne₃
  have hne₂ : r ≠ [] := by
    rw [h₃]
    simp [hne₃]
  obtain ⟨t₂, h₂, hread₂⟩ := decimalDigits_append hr (Nat.lt_succ_self _) hne₂
  have hne₁ : cs.dropWhile isBlank ≠ [] := by
    rw [h₂]
    simp [hne₂]
  obtain ⟨t₁, h₁, hread₁⟩ := dropWhile_append_of_head? rfl hne₁
  refine ⟨t₁ ++ (t₂ ++ (t₃ ++ t₄)), ?_, fun w hw => ?_⟩
  · rw [h₁, h₂, h₃, h₄]
    simp
  · rw [h₂, h₃, h₄] at hread₁
    rw [h₃, h₄] at hread₂
    rw [h₄] at hread₃
    simp only [List.append_assoc, parseDecimal]
    rw [hread₁ _ (by simp [hw]), hread₂ _ _ (by simp [hw]) (Nat.lt_succ_self _)]
    dsimp only
    rw [hread₃ _ (by simp [hw]), hread₄ hne, State.skip_of_head? hskip hne hw]

/-- Blanks in front of a count do not matter. -/
theorem parseCount_congr {cs cs' : List Char} (h : st.skip cs = st.skip cs') :
    parseCount st cs = parseCount st cs' := by
  rw [parseCount, parseCount, h]

/-- The numbers of a repetition up to the closing brace: one number, a number and a comma, or two
numbers. -/
inductive CountForm (st : State) (cs : List Char) : Nat → Option Nat → List Char → Prop where
  | fixed {v : Option Nat} {n : Nat} {r : List Char} (hv : parseDecimal st cs = (v, '\x7d' :: r))
    (hn : countOf v = .ok n) : CountForm st cs n (some n) r
  | atLeast {v : Option Nat} {n : Nat} {r r' : List Char} (hv : parseDecimal st cs = (v, ',' :: r))
    (hs : st.skip r = '\x7d' :: r') (hn : countOf v = .ok n) : CountForm st cs n none r'
  | between {v v' : Option Nat} {n m : Nat} {r r' : List Char}
    (hv : parseDecimal st cs = (v, ',' :: r)) (hs : (st.skip r).head? ≠ some '\x7d')
    (hv' : parseDecimal st (st.skip r) = (v', '\x7d' :: r')) (hn : countOf v = .ok n)
    (hm : countOf v' = .ok m) (hle : n ≤ m) : CountForm st cs n (some m) r'

namespace CountForm

variable {least : Nat} {most : Option Nat} {cs r : List Char}

/-- The closing brace is the end, whatever follows it. -/
theorem append (h : CountForm st cs least most r) :
    ∃ u, cs = u ++ r ∧ u ≠ [] ∧ ∀ w, CountForm st (u ++ w) least most w := by
  cases h with
  | fixed hv hn =>
    obtain ⟨u, rfl, hread⟩ := parseDecimal_append hv (by simp)
    refine ⟨u ++ ['\x7d'], by simp, by simp, fun w => .fixed ?_ hn⟩
    rw [List.append_assoc]
    exact hread _ rfl
  | atLeast hv hs hn =>
    obtain ⟨u, rfl, hread⟩ := parseDecimal_append hv (by simp)
    obtain ⟨s, rfl, hskip⟩ := State.skip_append_cons hs
    refine ⟨u ++ ',' :: (s ++ ['\x7d']), by simp, by simp, fun w => .atLeast ?_ (hskip w) hn⟩
    rw [List.append_assoc, List.cons_append, List.append_assoc]
    exact hread _ rfl
  | between hv hs hv' hn hm hle =>
    obtain ⟨u, rfl, hread⟩ := parseDecimal_append hv (by simp)
    obtain ⟨u', hu', hread'⟩ := parseDecimal_append hv' (by simp)
    have hne : u' ≠ [] := by
      rintro rfl
      exact hs (by rw [hu']; rfl)
    obtain ⟨s, rfl, hskip⟩ := State.skip_append_of_ne_nil hu' hne
    refine ⟨u ++ ',' :: (s ++ (u' ++ ['\x7d'])), by simp, by simp, fun w => ?_⟩
    have hskip' := hskip ('\x7d' :: w)
    refine .between (r := s ++ (u' ++ '\x7d' :: w)) ?_ ?_ ?_ hn hm hle
    · simpa using hread (',' :: (s ++ (u' ++ '\x7d' :: w))) rfl
    · obtain ⟨d, u', rfl⟩ := List.exists_cons_of_ne_nil hne
      rw [hskip']
      rwa [hskip] at hs
    · rw [hskip']
      exact hread' _ rfl

private theorem parseCount_eq (h : CountForm st (st.skip cs) least most r) :
    parseCount st cs =
      .ok ((least, most, (parseGreed (st.skip r)).1), (parseGreed (st.skip r)).2) := by
  obtain ⟨u, hu, hne, -⟩ := h.append
  unfold parseCount
  split
  · next hnil =>
    rw [hnil] at hu
    simp [hne] at hu
  · cases h with
    | fixed hv hn =>
      rw [hv]
      exact bind_eq_ok.mpr ⟨_, hn, rfl⟩
    | atLeast hv hs hn =>
      simp only [hv, hs]
      exact bind_eq_ok.mpr ⟨_, hn, rfl⟩
    | between hv hs hv' hn hm hle =>
      obtain ⟨u', hu', -⟩ := parseDecimal_append hv' (by simp)
      simp only [hv]
      split
      · next hnil => simp [hnil] at hu'
      · next hbrace =>
        rw [hbrace] at hs
        exact absurd rfl hs
      · refine bind_eq_ok.mpr ⟨_, hn, ?_⟩
        rw [hv']
        exact bind_eq_ok.mpr ⟨_, hm, if_pos hle⟩

end CountForm

private theorem countForm_of_parseCount {least : Nat} {most : Option Nat} {greedy : Bool}
    {cs rest : List Char} (h : parseCount st cs = .ok ((least, most, greedy), rest)) :
    ∃ r, CountForm st (st.skip cs) least most r ∧ parseGreed (st.skip r) = (greedy, rest) := by
  unfold parseCount at h
  split at h
  · cases h
  · obtain ⟨v, text, hv⟩ : ∃ v text, parseDecimal st (st.skip cs) = (v, text) := ⟨_, _, rfl⟩
    rw [hv] at h
    dsimp only at h
    split at h
    · cases h
    · next r =>
      split at h
      · cases h
      · next r' hs =>
        obtain ⟨n, hn, h⟩ := bind_eq_ok.mp h
        cases h
        exact ⟨r', .atLeast hv hs hn, rfl⟩
      · next hbrace =>
        obtain ⟨n, hn, h₁⟩ := bind_eq_ok.mp h
        obtain ⟨v', text, hv'⟩ : ∃ v text, parseDecimal st (st.skip r) = (v, text) := ⟨_, _, rfl⟩
        rw [hv'] at h₁
        dsimp only at h₁
        obtain ⟨m, hm, h₂⟩ := bind_eq_ok.mp h₁
        clear h h₁
        split at h₂
        · next r' =>
          split at h₂
          · next hle =>
            cases h₂
            refine ⟨r', .between hv (fun hhead => ?_) hv' hn hm hle, rfl⟩
            obtain ⟨x, hx⟩ := List.head?_eq_some_iff.mp hhead
            exact hbrace x hx
          · cases h₂
        · cases h₂
    · next r =>
      obtain ⟨n, hn, h⟩ := bind_eq_ok.mp h
      cases h
      exact ⟨r, .fixed hv hn, rfl⟩
    · obtain ⟨n, hn, h⟩ := bind_eq_ok.mp h
      cases h

/-- The numbers of a repetition end with the closing brace. Behind it the reader looks for a
question mark. -/
theorem parseCount_append {least : Nat} {most : Option Nat} {greedy : Bool} {cs rest : List Char}
    (h : parseCount st cs = .ok ((least, most, greedy), rest)) :
    ∃ u r, st.skip cs = u ++ r ∧ u ≠ [] ∧ parseGreed (st.skip r) = (greedy, rest) ∧
      ∀ w, parseCount st (u ++ w) =
        .ok ((least, most, (parseGreed (st.skip w)).1), (parseGreed (st.skip w)).2) := by
  obtain ⟨r, hform, hgreed⟩ := countForm_of_parseCount h
  obtain ⟨u, hu, hne, hread⟩ := hform.append
  refine ⟨u, r, hu, hne, hgreed, fun w => CountForm.parseCount_eq ?_⟩
  have hself : st.skip (u ++ w) = u ++ w := by
    obtain ⟨d, u, rfl⟩ := List.exists_cons_of_ne_nil hne
    exact State.skip_cons hu _
  rw [hself]
  exact hread w

/-- Without a question mark a repetition is greedy. -/
theorem parseGreed_of_head? {cs : List Char} (h : cs.head? ≠ some '?') :
    parseGreed cs = (true, cs) := by
  unfold parseGreed
  split
  · exact absurd rfl h
  · rfl

/-- A repetition is lazy exactly if a question mark follows it. -/
theorem parseGreed_cases {greedy : Bool} {cs rest : List Char}
    (h : parseGreed cs = (greedy, rest)) :
    greedy = false ∧ cs = '?' :: rest ∨ greedy = true ∧ cs = rest ∧ rest.head? ≠ some '?' := by
  unfold parseGreed at h
  split at h
  · cases h
    exact .inl ⟨rfl, rfl⟩
  · next hq =>
    cases h
    refine .inr ⟨rfl, rfl, fun hhead => ?_⟩
    obtain ⟨r, rfl⟩ := List.head?_eq_some_iff.mp hhead
    exact hq r rfl

end CodeFold.Pattern.Parser
