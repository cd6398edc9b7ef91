import CodeFold.Pattern.Parser

/-!
# How far ahead a pattern is read

A reader of a pattern takes one part after the other. Where a part ends does not depend on the text
behind it, so the same part is taken if other text stands there. In verbose mode separators are
skipped in between, so what is left behind a part agrees up to them. This is shown here for escapes.
A plain word boundary is the exception: it looks for a name in braces behind it.
-/

namespace CodeFold.Pattern.Parser

/-- A sequence succeeds exactly if both of its parts do. -/
theorem bind_eq_ok {ε α β : Type} {x : Except ε α} {f : α → Except ε β} {b : β} :
    (x >>= f) = .ok b ↔ ∃ a, x = .ok a ∧ f a = .ok b := by
  cases x with
  | error e => simp [bind, Except.bind]
  | ok a => simp [bind, Except.bind]

/-! ### Separators -/

private theorem dropSpace_append {b : Bool} {cs rest : List Char} (h : dropSpace b cs = rest) :
    ∃ t, cs = t ++ rest ∧ (rest ≠ [] → ∀ w, dropSpace b (t ++ w) = dropSpace false w) := by
  induction cs generalizing b with
  | nil => exact ⟨[], by simpa [dropSpace] using h, fun hne => absurd h.symm hne⟩
  | cons c cs ih =>
    rw [dropSpace] at h
    -- A character that is dropped is put in front of those that are dropped behind it.
    have hdrop {b' : Bool} (hd : ∀ cs, dropSpace b (c :: cs) = dropSpace b' cs)
        (h : dropSpace b' cs = rest) : ∃ t, c :: cs = t ++ rest ∧
          (rest ≠ [] → ∀ w, dropSpace b (t ++ w) = dropSpace false w) := by
      obtain ⟨t, rfl, ht⟩ := ih h
      exact ⟨c :: t, rfl, fun hne w => by rw [List.cons_append, hd, ht hne]⟩
    split at h
    · next hb => exact hdrop (fun cs => by rw [dropSpace, if_pos hb]) h
    · next hb =>
      split at h
      · next hc => exact hdrop (fun cs => by rw [dropSpace, if_neg hb, if_pos hc]) h
      · next hc =>
        split at h
        · next hs => exact hdrop (fun cs => by rw [dropSpace, if_neg hb, if_neg hc, if_pos hs]) h
        · refine ⟨[], h, fun _ w => ?_⟩
          rw [List.nil_append, Bool.eq_false_iff.mpr hb]

namespace State

variable {st : State}

/-- What is skipped is skipped whatever follows it, unless it is a comment without an end. -/
theorem skip_append {cs rest : List Char} (h : st.skip cs = rest) :
    ∃ t, cs = t ++ rest ∧ (rest ≠ [] → ∀ w, st.skip (t ++ w) = st.skip w) := by
  unfold skip at h ⊢
  cases hv : st.verbose with
  | true =>
    rw [hv, if_pos rfl] at h
    obtain ⟨t, hcs, ht⟩ := dropSpace_append h
    exact ⟨t, hcs, fun hne w => by simpa using ht hne w⟩
  | false =>
    rw [hv, if_neg Bool.false_ne_true] at h
    exact ⟨[], h, fun _ w => rfl⟩

/-- Skipping does not make a text longer. -/
theorem length_skip_le (st : State) (cs : List Char) : (st.skip cs).length ≤ cs.length := by
  obtain ⟨t, ht, -⟩ := skip_append (rfl : st.skip cs = st.skip cs)
  have := congrArg List.length ht
  rw [List.length_append] at this
  omega

/-- Skipping twice skips no more. -/
@[simp] theorem skip_skip (st : State) (cs : List Char) : st.skip (st.skip cs) = st.skip cs := by
  obtain ⟨t, ht, hskip⟩ := skip_append (rfl : st.skip cs = st.skip cs)
  cases hs : st.skip cs with
  | nil => simp [skip, dropSpace]
  | cons c rest =>
    rw [hs] at ht hskip
    rw [← hskip (List.cons_ne_nil _ _), ← ht, hs]

/-- The first character that is not skipped is no separator, whatever follows it. -/
theorem skip_cons {cs rest : List Char} {c : Char} (h : st.skip cs = c :: rest) (w : List Char) :
    st.skip (c :: w) = c :: w := by
  have hagain : st.skip (c :: rest) = c :: rest := by rw [← h, skip_skip]
  unfold skip at hagain ⊢
  split at hagain
  · next hv =>
    have hlong (b : Bool) : dropSpace b rest ≠ c :: rest := by
      intro he
      obtain ⟨t, ht, -⟩ := dropSpace_append he
      have := congrArg List.length ht
      simp at this
      omega
    rw [if_pos hv]
    simp only [dropSpace, Bool.false_eq_true, if_false] at hagain ⊢
    split at hagain
    · exact absurd hagain (hlong _)
    · next hc =>
      rw [if_neg hc]
      split at hagain
      · exact absurd hagain (hlong _)
      · next hs => rw [if_neg hs]
  · next hv => rw [if_neg hv]

/-- Text that starts like what is left after skipping starts with no separator. -/
theorem skip_of_head? {cs rest w : List Char} (h : st.skip cs = rest) (hne : rest ≠ [])
    (hw : w.head? = rest.head?) : st.skip w = w := by
  obtain ⟨c, rest, rfl⟩ := List.exists_cons_of_ne_nil hne
  obtain ⟨w, rfl⟩ := List.head?_eq_some_iff.mp hw
  exact skip_cons h w

/-- Text that is left after skipping is found again whatever follows it. -/
theorem skip_append_append {cs u rest : List Char} (h : st.skip cs = u ++ rest) :
    ∃ t, cs = t ++ (u ++ rest) ∧ (u ++ rest ≠ [] → ∀ w, ∃ w₁, st.skip (t ++ (u ++ w)) = u ++ w₁ ∧
      st.skip w₁ = st.skip w ∧ (u ≠ [] → w₁ = w)) := by
  obtain ⟨t, ht, hskip⟩ := skip_append h
  refine ⟨t, ht, fun hne w => ?_⟩
  rw [hskip hne]
  cases u with
  | nil => exact ⟨st.skip w, rfl, st.skip_skip w, fun hu => absurd rfl hu⟩
  | cons c u => exact ⟨w, skip_cons h _, rfl, fun _ => rfl⟩

/-- As above, for a part with at least one character. -/
theorem skip_append_of_ne_nil {cs u rest : List Char} (h : st.skip cs = u ++ rest) (hu : u ≠ []) :
    ∃ t, cs = t ++ (u ++ rest) ∧ ∀ w, st.skip (t ++ (u ++ w)) = u ++ w := by
  obtain ⟨t, ht, hskip⟩ := skip_append_append h
  refine ⟨t, ht, fun w => ?_⟩
  obtain ⟨w₁, hw₁, -, hw⟩ := hskip (by simp [hu]) w
  rw [hw₁, hw hu]

/-- What is skipped does not depend on the text behind the next character. -/
theorem skip_append_cons {cs rest : List Char} {c : Char} (h : st.skip cs = c :: rest) :
    ∃ t, cs = t ++ c :: rest ∧ ∀ w, st.skip (t ++ c :: w) = c :: w :=
  skip_append_of_ne_nil (u := [c]) h (List.cons_ne_nil _ _)

end State

/-! ### Parts of a text -/

variable {st : State} {α β : Type}

/-- `read` has taken a part of `cs` for `a` and left `rest`. It takes that part for `a` whatever
text `w` follows, and leaves `w`, separators aside. -/
def Splits (st : State) (read : List Char → Except PatternError (α × List Char))
    (cs : List Char) (a : α) (rest : List Char) : Prop :=
  ∃ u, cs = u ++ rest ∧ u ≠ [] ∧ (rest ≠ [] → ∀ w, ∃ w',
    read (u ++ w) = .ok (a, w') ∧ st.skip w' = st.skip w)

namespace Splits

variable {read read' : List Char → Except PatternError (α × List Char)} {cs rest : List Char}
  {a : α} {c : Char}

/-- One character is taken. -/
theorem single (h : ∀ w, read (c :: w) = .ok (a, w)) : Splits st read (c :: rest) a rest :=
  ⟨[c], rfl, List.cons_ne_nil _ _, fun _ w => ⟨w, h w, rfl⟩⟩

/-- One more character is taken in front. -/
theorem cons (h : Splits st read cs a rest) (hread : ∀ w, read' (c :: w) = read w) :
    Splits st read' (c :: cs) a rest := by
  obtain ⟨u, rfl, hu, hw⟩ := h
  exact ⟨c :: u, rfl, List.cons_ne_nil _ _, fun hne w => by
    rw [List.cons_append, hread]
    exact hw hne w⟩

end Splits

/-! ### Characters by their codes -/

private theorem hexFixed_append {value n code : Nat} {cs rest : List Char}
    (h : hexFixed st value n cs = .ok (code, rest)) :
    ∃ u, cs = u ++ rest ∧ n ≤ u.length ∧ (rest ≠ [] → ∀ w, ∃ w',
      hexFixed st value n (u ++ w) = .ok (code, w') ∧ st.skip w' = st.skip w) := by
  induction n generalizing value cs with
  | zero =>
    rw [hexFixed] at h
    cases h
    exact ⟨[], rfl, Nat.le_refl 0, fun _ w => ⟨w, by rw [hexFixed]; rfl, rfl⟩⟩
  | succ n ih =>
    cases cs with
    | nil => cases h
    | cons c cs =>
      rw [hexFixed] at h
      split at h
      · cases h
      · next d hd =>
        obtain ⟨u, hu, hlen, hread⟩ := ih h
        obtain ⟨t, rfl, hskip⟩ := State.skip_append_append hu
        refine ⟨c :: (t ++ u), by simp, by simp; omega, fun hne w => ?_⟩
        obtain ⟨w₁, hw₁, hsame, -⟩ := hskip (by simp [hne]) w
        obtain ⟨w', hw', hsame'⟩ := hread hne w₁
        refine ⟨w', ?_, hsame'.trans hsame⟩
        rw [List.cons_append, hexFixed, hd, List.append_assoc, hw₁]
        exact hw'

private theorem hexBraced_append {value v : Option Nat} {fuel : Nat} {cs rest : List Char}
    (h : hexBraced st value fuel cs = .ok (v, rest)) :
    ∃ u, cs = u ++ rest ∧ u ≠ [] ∧ (rest ≠ [] → ∀ w fuel', u.length ≤ fuel' → ∃ w',
      hexBraced st value fuel' (u ++ w) = .ok (v, w') ∧ st.skip w' = st.skip w) := by
  induction fuel generalizing value cs with
  | zero => cases h
  | succ fuel ih =>
    rw [hexBraced] at h
    split at h
    · cases h
    · next r hs =>
      cases h
      obtain ⟨t, rfl, hskip⟩ := State.skip_append_cons hs
      obtain ⟨t₂, hr, hskip₂⟩ := State.skip_append (rfl : st.skip r = st.skip r)
      refine ⟨t ++ '\x7d' :: t₂, by rw [List.append_assoc, List.cons_append, ← hr], by simp,
        fun hne w fuel' hf => ⟨st.skip w, ?_, st.skip_skip w⟩⟩
      obtain _ | fuel' := fuel'
      · simp at hf
      · rw [List.append_assoc, List.cons_append, hexBraced, hskip]
        exact congrArg (fun r => Except.ok (v, r)) (hskip₂ hne w)
    · next c r hc hs =>
      split at h
      · cases h
      · next d hd =>
        obtain ⟨t, rfl, hskip⟩ := State.skip_append_cons hs
        obtain ⟨u, rfl, -, hread⟩ := ih h
        refine ⟨t ++ c :: u, by simp, by simp, fun hne w fuel' hf => ?_⟩
        obtain _ | fuel' := fuel'
        · simp at hf
        · obtain ⟨w', hw', hsame⟩ := hread hne w fuel' (by simp at hf; omega)
          refine ⟨w', ?_, hsame⟩
          rw [List.append_assoc, List.cons_append, hexBraced, hskip]
          split <;> simp_all

/-- What `parseHex` does behind separators. -/
theorem parseHex_splits {digits : Nat} (hd : digits ≠ 0) {a : Atom} {cs rest : List Char}
    (h : parseHex st digits cs = .ok (a, rest)) :
    Splits st (parseHex st digits) cs a rest := by
  rw [parseHex] at h
  split at h
  · cases h
  · next r hs =>
    obtain ⟨⟨v, r'⟩, hv, h⟩ := bind_eq_ok.mp h
    cases v with
    | none => cases h
    | some code =>
      obtain ⟨c, hc, h⟩ := bind_eq_ok.mp h
      cases h
      obtain ⟨t, rfl, hskip⟩ := State.skip_append_cons hs
      obtain ⟨u, rfl, -, hread⟩ := hexBraced_append hv
      refine ⟨t ++ '\x7b' :: u, by simp, by simp, fun hne w => ?_⟩
      obtain ⟨w', hw', hsame⟩ := hread hne w ((u ++ w).length + 1) (by simp; omega)
      refine ⟨w', ?_, hsame⟩
      rw [List.append_assoc, List.cons_append, parseHex, hskip]
      exact bind_eq_ok.mpr ⟨_, hw', bind_eq_ok.mpr ⟨c, hc, rfl⟩⟩
  · next hnil hbrace =>
    obtain ⟨⟨code, r'⟩, hv, h⟩ := bind_eq_ok.mp h
    obtain ⟨c, hc, h⟩ := bind_eq_ok.mp h
    cases h
    obtain ⟨u, hu, hlen, hread⟩ := hexFixed_append hv
    obtain _ | ⟨d, u⟩ := u
    · exact absurd (Nat.le_zero.mp hlen) hd
    obtain ⟨t, rfl, hskip⟩ := State.skip_append_cons (hu : st.skip cs = d :: (u ++ rest))
    refine ⟨t ++ d :: u, by simp, by simp, fun hne w => ?_⟩
    obtain ⟨w', hw', hsame⟩ := hread hne w
    refine ⟨w', ?_, hsame⟩
    rw [List.append_assoc, List.cons_append, parseHex, hskip]
    split
    · next he => cases he
    · next he => cases he; exact (hbrace _ hu).elim
    · exact bind_eq_ok.mpr ⟨_, hw', bind_eq_ok.mpr ⟨c, hc, rfl⟩⟩

/-! ### Properties -/

private theorem propertyName_append {name name' : List Char} {fuel : Nat} {cs rest : List Char}
    (h : propertyName st name fuel cs = .ok (name', rest)) :
    ∃ u, cs = u ++ rest ∧ ∀ w fuel', u.length ≤ fuel' →
      propertyName st name fuel' (u ++ w) = .ok (name', w) := by
  induction fuel generalizing name cs with
  | zero => cases h
  | succ fuel ih =>
    rw [propertyName] at h
    split at h
    · cases h
    · next r hs =>
      cases h
      obtain ⟨t, rfl, hskip⟩ := State.skip_append_cons hs
      refine ⟨t ++ ['\x7d'], by simp, fun w fuel' hf => ?_⟩
      obtain _ | fuel' := fuel'
      · simp at hf
      · rw [List.append_assoc, List.singleton_append, propertyName, hskip]
        rfl
    · next c r hc hs =>
      obtain ⟨t, rfl, hskip⟩ := State.skip_append_cons hs
      obtain ⟨u, rfl, hread⟩ := ih h
      refine ⟨t ++ c :: u, by simp, fun w fuel' hf => ?_⟩
      obtain _ | fuel' := fuel'
      · simp at hf
      · rw [List.append_assoc, List.cons_append, propertyName, hskip]
        split
        · next he => cases he
        · next he => cases he; exact (hc rfl).elim
        · next he => cases he; exact hread w fuel' (by simp at hf; omega)

private theorem parseProperty_splits {negated : Bool} {a : Atom} {cs rest : List Char}
    (h : parseProperty st negated cs = .ok (a, rest)) :
    Splits st (parseProperty st negated) cs a rest := by
  rw [parseProperty] at h
  split at h
  · cases h
  · next r hs =>
    obtain ⟨⟨name, r'⟩, hn, h⟩ := bind_eq_ok.mp h
    cases h
    obtain ⟨t, rfl, hskip⟩ := State.skip_append_cons hs
    obtain ⟨u, rfl, hread⟩ := propertyName_append hn
    refine ⟨t ++ '\x7b' :: u, by simp, by simp, fun _ w => ⟨w, ?_, rfl⟩⟩
    rw [List.append_assoc, List.cons_append, parseProperty, hskip]
    exact bind_eq_ok.mpr ⟨_, hread w _ (by simp; omega), rfl⟩
  · cases h
  · next c r hbrace hback hs =>
    cases h
    obtain ⟨t, rfl, hskip⟩ := State.skip_append_cons hs
    obtain ⟨t₂, hr, hskip₂⟩ := State.skip_append (rfl : st.skip r = st.skip r)
    refine ⟨t ++ c :: t₂, by rw [List.append_assoc, List.cons_append, ← hr], by simp,
      fun hne w => ⟨st.skip w, ?_, st.skip_skip w⟩⟩
    rw [List.append_assoc, List.cons_append, parseProperty, hskip]
    split
    · next he => cases he
    · next he => cases he; exact (hbrace rfl).elim
    · next he => cases he; exact (hback rfl).elim
    · next he => cases he; rw [hskip₂ hne]

/-! ### Word boundaries -/

/-- Whether a text starts with braces that are read together with a word boundary before them. -/
def State.startsBoundary (st : State) : List Char → Bool
  | '\x7b' :: cs =>
    match st.skip cs with
    | [] => true
    | c :: _ => isBoundaryChar c
  | _ => false

private theorem boundaryName_brace (name : List Char) (fuel : Nat) (w : List Char) :
    boundaryName st name fuel ('\x7d' :: w) = (name.reverse, '\x7d' :: w) := by
  cases fuel with
  | zero => rfl
  | succ fuel => rfl

private theorem boundaryName_append {name name' : List Char} {fuel : Nat} {cs rest : List Char}
    (h : boundaryName st name fuel cs = (name', '\x7d' :: rest)) :
    ∃ u, cs = u ++ '\x7d' :: rest ∧ ∀ w fuel', u.length ≤ fuel' →
      boundaryName st name fuel' (u ++ '\x7d' :: w) = (name', '\x7d' :: w) := by
  induction fuel generalizing name cs with
  | zero =>
    cases h
    exact ⟨[], rfl, fun w fuel' _ => boundaryName_brace name fuel' w⟩
  | succ fuel ih =>
    cases cs with
    | nil => cases h
    | cons c r =>
      rw [boundaryName] at h
      split at h
      · next hc =>
        obtain ⟨u, hu, hread⟩ := ih h
        rw [List.append_cons] at hu
        obtain ⟨t, rfl, hskip⟩ := State.skip_append_of_ne_nil hu (by simp)
        refine ⟨c :: (t ++ u), by simp, fun w fuel' hf => ?_⟩
        obtain _ | fuel' := fuel'
        · simp at hf
        · rw [List.cons_append, boundaryName, if_pos hc, List.append_assoc, List.append_cons, hskip,
            List.append_assoc]
          exact hread w fuel' (by simp at hf; omega)
      · next hc =>
        cases h
        exact ⟨[], rfl, fun w fuel' _ => boundaryName_brace name fuel' w⟩

/-- Where no named boundary starts, the escape is that of a word boundary. -/
theorem parseBoundary_of_startsBoundary_eq_false {cs : List Char}
    (h : st.startsBoundary cs = false) : parseBoundary st cs = .ok (.anchor .wordBoundary, cs) := by
  unfold State.startsBoundary at h
  split at h
  · next r =>
    cases hs : st.skip r with
    | nil => simp [hs] at h
    | cons c rest =>
      have hc : isBoundaryChar c = false := by simpa [hs] using h
      simp [parseBoundary, hs, hc]
  · next hbrace =>
    unfold parseBoundary
    split
    · next r => exact (hbrace r rfl).elim
    · rfl

/-- A word boundary is named in braces, or it is a plain one and what follows is left. -/
theorem parseBoundary_cases {a : Atom} {cs rest : List Char}
    (h : parseBoundary st cs = .ok (a, rest)) :
    (a = .anchor .wordBoundary ∧ rest = cs ∧ st.startsBoundary cs = false) ∨
      (∃ u, cs = u ++ rest ∧ ∀ w, parseBoundary st (u ++ w) = .ok (a, w)) := by
  cases hb : st.startsBoundary cs with
  | false =>
    rw [parseBoundary_of_startsBoundary_eq_false hb] at h
    cases h
    exact .inl ⟨rfl, rfl, rfl⟩
  | true =>
    right
    unfold State.startsBoundary at hb
    split at hb
    · next r =>
      rw [parseBoundary] at h
      split at h
      · cases h
      · next c inner hs =>
        rw [hs] at hb
        rw [if_pos hb] at h
        split at h
        · next name rest' hn =>
          obtain ⟨t, rfl, hskip⟩ := State.skip_append_cons hs
          obtain ⟨_ | ⟨d, u⟩, hu, hread⟩ := boundaryName_append hn
          · cases hu
            cases hb
          · cases hu
            have hread (w : List Char) :=
              hread w ((u ++ '\x7d' :: w).length + 1) (by simp)
            simp only [List.cons_append] at hread
            split at h
            case h_5 => cases h
            all_goals
              next hname =>
              cases h
              refine ⟨'\x7b' :: (t ++ c :: (u ++ ['\x7d'])), by simp, fun w => ?_⟩
              simp only [List.cons_append, List.append_assoc, List.nil_append, parseBoundary, hskip,
                if_pos hb, hread, hname]
        · cases h
    · cases hb

/-! ### Escapes -/

/-- What belongs to an escape does not depend on the text behind it, with one exception: a plain
word boundary is one if braces with a name do not follow. -/
theorem parseEscape_cases {a : Atom} {cs rest : List Char} (h : parseEscape st cs = .ok (a, rest)) :
    (a = .anchor .wordBoundary ∧ cs = 'b' :: rest ∧ st.startsBoundary rest = false) ∨
      Splits st (parseEscape st) cs a rest := by
  unfold parseEscape at h
  split at h
  · cases h
  · next c cs =>
    split at h
    · cases h
    · next hdigit =>
      split at h
      · next hc =>
        cases h
        exact .inr <| .single fun w => by unfold parseEscape; simp [hdigit, hc]
      · split at h
        case h_1 => exact .inr <| (parseHex_splits (by decide) h).cons fun _ => rfl
        case h_2 => exact .inr <| (parseHex_splits (by decide) h).cons fun _ => rfl
        case h_3 => exact .inr <| (parseHex_splits (by decide) h).cons fun _ => rfl
        case h_4 => exact .inr <| (parseProperty_splits h).cons fun _ => rfl
        case h_5 => exact .inr <| (parseProperty_splits h).cons fun _ => rfl
        case h_20 =>
          obtain ⟨rfl, rfl, hb⟩ | ⟨u, rfl, hread⟩ := parseBoundary_cases h
          · exact .inl ⟨rfl, rfl, hb⟩
          · exact .inr ⟨'b' :: u, rfl, nofun, fun _ w => ⟨w, hread w, rfl⟩⟩
        case h_24 => cases h
        all_goals
          cases h
          exact .inr <| .single fun _ => rfl

end CodeFold.Pattern.Parser
