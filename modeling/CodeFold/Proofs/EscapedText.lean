import CodeFold.Proofs.Literal
import CodeFold.Proofs.Reader
import CodeFold.Proofs.SameMeaning

/-!
# Escaped text

A reader takes escaped text one character after the other, each for itself. In verbose mode blanks
are dropped, because escaping leaves them as they are.
-/

namespace CodeFold.Pattern

namespace Parser

/-- The characters of a text that a reader does not drop. -/
def State.visible (st : State) (cs : List Char) : List Char :=
  if st.verbose then cs.filter (!isBlank ·) else cs

private theorem State.visible_cons (st : State) (c : Char) (cs : List Char) :
    st.visible (c :: cs) =
      if st.verbose && isBlank c then st.visible cs else c :: st.visible cs := by
  unfold State.visible
  cases st.verbose with
  | false => rfl
  | true => cases hc : isBlank c <;> simp [hc]

private theorem isBlank_of_isMeta {c : Char} (h : isMeta c = true) : isBlank c = false := by
  have hall : (['\\', '.', '+', '*', '?', '(', ')', '|', '[', ']', '\x7b', '\x7d', '^', '$', '#',
      '&', '-', '~'].all fun d => !isBlank d) = true := by decide
  simpa using List.all_eq_true.mp hall c (List.contains_iff_mem.mp h)

/-- The items of some characters. -/
def charItems (cs : List Char) : List Tree := cs.map (.char · false)

/-- A character that is no separator is not skipped. -/
theorem State.skip_of_ne {st : State} {c : Char} (hc : st.verbose = true → isBlank c = false)
    (hs : c ≠ '#') (w : List Char) : st.skip (c :: w) = c :: w := by
  unfold State.skip
  split
  · next hv => simp [dropSpace, hc hv, hs]
  · rfl

private theorem State.token_of_isMeta (st : State) {c : Char} (h : isMeta c = true)
    (w : List Char) : st.token ('\\' :: c :: w) = .ok (.item (.char c false), st, w) := by
  have hskip : st.skip ('\\' :: c :: w) = '\\' :: c :: w :=
    State.skip_of_ne (fun _ => rfl) (by decide) _
  have hescape : parseEscape st (c :: w) = .ok (.char c false, w) := by
    unfold parseEscape
    simp [isDigit_of_isMeta h, isEscapable, h]
  rw [State.token, hskip, State.tokenAt, hescape]
  rfl

private theorem State.token_of_not_isMeta {st : State} {c : Char} (h : isMeta c = false)
    (hc : st.verbose = true → isBlank c = false) (w : List Char) :
    st.token (c :: w) = .ok (.item (.char c false), st, w) := by
  have hne (d : Char) (hd : isMeta d = true) : c ≠ d := by
    rintro rfl
    rw [h] at hd
    cases hd
  rw [State.token, State.skip_of_ne hc (hne '#' rfl)]
  unfold State.tokenAt
  split
  case h_1 he => cases he
  case h_14 he =>
    cases he
    rfl
  all_goals next he => cases he; exact absurd rfl (hne _ rfl)

private theorem State.skip_of_isBlank {st : State} {c : Char} (hv : st.verbose = true)
    (hc : isBlank c = true) (w : List Char) : st.skip (c :: w) = st.skip w := by
  unfold State.skip
  rw [if_pos hv, if_pos hv, dropSpace]
  simp [hc]

/-- Text of which nothing is seen is skipped. -/
theorem State.skip_escapeChars {st : State} {cs : List Char} (h : st.visible cs = [])
    (w : List Char) : st.skip (escapeChars cs ++ w) = st.skip w := by
  induction cs with
  | nil => rfl
  | cons c cs ih =>
    rw [st.visible_cons] at h
    split at h
    · next hc =>
      rw [Bool.and_eq_true] at hc
      have hm : ¬isMeta c = true := fun hm => by simp [isBlank_of_isMeta hm] at hc
      rw [escapeChars, if_neg hm, List.cons_append, State.skip_of_isBlank hc.1 hc.2, ih h]
    · cases h

/-- Escaped text does not start with a character that means something, a backslash aside. -/
theorem State.head?_skip_escapeChars {st : State} {cs : List Char} (h : st.visible cs ≠ [])
    (w : List Char) :
    ∃ c, (st.skip (escapeChars cs ++ w)).head? = some c ∧ (c = '\\' ∨ isMeta c = false) := by
  induction cs with
  | nil => exact absurd (by unfold State.visible; split <;> rfl) h
  | cons c cs ih =>
    rw [st.visible_cons] at h
    cases hm : isMeta c with
    | true =>
      refine ⟨'\\', ?_, .inl rfl⟩
      rw [escapeChars, if_pos hm]
      exact congrArg List.head? (State.skip_of_ne (fun _ => rfl) (by decide) _)
    | false =>
      rw [escapeChars, if_neg (by simp [hm]), List.cons_append]
      split at h
      · next hc =>
        rw [Bool.and_eq_true] at hc
        rw [State.skip_of_isBlank hc.1 hc.2]
        exact ih h
      · next hc =>
        refine ⟨c, congrArg List.head? (State.skip_of_ne ?_ ?_ _), .inr hm⟩
        · intro hv
          simpa [hv] using hc
        · rintro rfl
          cases hm

namespace Reader

variable {st : State} {levels : List Level} {branches items : List Tree} {tree : Tree}

/-- Escaped text is read as its characters. -/
theorem reads_escapeChars (cs w : List Char) :
    Reads ⟨st, levels, branches, items, escapeChars cs ++ w⟩ tree ↔
      Reads ⟨st, levels, branches, (charItems (st.visible cs)).reverse ++ items, w⟩ tree := by
  induction cs generalizing items with
  | nil => cases hv : st.verbose <;> simp [escapeChars, charItems, State.visible, hv]
  | cons c cs ih =>
    -- The first character is taken as an item.
    have hstep (text : List Char) (hc : ¬(st.verbose && isBlank c) = true)
        (htok : st.token text = .ok (.item (.char c false), st, escapeChars cs ++ w)) :
        Reads ⟨st, levels, branches, items, text⟩ tree ↔
          Reads ⟨st, levels, branches, (charItems (st.visible (c :: cs))).reverse ++ items, w⟩
            tree := by
      rw [reads_iff_of_step ⟨_, _, _, htok, rfl⟩, ih, st.visible_cons, if_neg hc]
      simp [charItems]
    cases hm : isMeta c with
    | true =>
      rw [escapeChars, if_pos hm]
      apply hstep
      · simp [isBlank_of_isMeta hm]
      · exact st.token_of_isMeta hm _
    | false =>
      rw [escapeChars, if_neg (by simp [hm])]
      by_cases hc : (st.verbose && isBlank c) = true
      · -- A blank is dropped.
        rw [st.visible_cons, if_pos hc, ← ih]
        rw [Bool.and_eq_true] at hc
        have hskip := State.skip_of_isBlank hc.1 hc.2 (escapeChars cs ++ w)
        exact ⟨fun h => h.congr hskip.symm, fun h => h.congr hskip⟩
      · apply hstep _ hc
        apply State.token_of_not_isMeta hm
        intro hv
        simpa [hv] using hc

end Reader

end Parser

end CodeFold.Pattern
