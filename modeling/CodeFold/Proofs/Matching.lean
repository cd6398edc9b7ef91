import Mathlib.Combinatorics.Enumerative.DyckWord

/-!
# Matching brackets

An opening bracket and a later closing one match if the brackets between them are balanced, that is,
form a Dyck word. `Matcher` reads brackets from left to right with a stack of those that are open: a
closing bracket takes the last one off, and has no effect if there is none. The pairs that it finds
are those that match, in the order in which they close.

The proof goes by the height at each place, which is the number of opening brackets before it less
that of closing ones. What stands between two places is balanced if the height ends where it starts
and is never lower in between. The matcher keeps the open brackets in such a way that what follows
each of them, up to the next one and behind the last, is balanced; from every other opening bracket
the height has come down again.
-/

namespace CodeFold

/-- An opening and a closing bracket, by their numbers among all brackets and by their lines. -/
structure BracketPair where
  opening : Nat
  closing : Nat
  first : Nat
  last : Nat
deriving DecidableEq, Repr

/-- An opening bracket and a later closing one match if a Dyck word stands between them. -/
structure BracketPair.Matches (brackets : List (Nat × DyckStep)) (x : BracketPair) : Prop where
  opens : brackets[x.opening]? = some (x.first, .U)
  closes : brackets[x.closing]? = some (x.last, .D)
  lt : x.opening < x.closing
  balanced : ∃ w : DyckWord, w.toList =
    ((brackets.map Prod.snd).drop (x.opening + 1)).take (x.closing - (x.opening + 1))

/-! ### Heights -/

namespace Brackets

/-- The number of opening brackets before a place, less that of closing ones. -/
def height (steps : List DyckStep) (k : Nat) : Int :=
  (steps.take k).count .U - (steps.take k).count .D

/-- Between two places the height is never lower than at the first and ends where it starts. -/
structure Level (steps : List DyckStep) (i j : Nat) : Prop where
  le : i ≤ j
  above : ∀ k, i ≤ k → k ≤ j → height steps i ≤ height steps k
  ends : height steps j = height steps i

variable {steps : List DyckStep} {i j k : Nat}

private theorem height_succ_of_U (h : steps[k]? = some .U) :
    height steps (k + 1) = height steps k + 1 := by
  have hU : [DyckStep.U].count .U = 1 := rfl
  have hD : [DyckStep.U].count .D = 0 := rfl
  simp only [height, List.take_add_one, h, Option.toList_some, List.count_append, hU, hD]
  omega

private theorem height_succ_of_D (h : steps[k]? = some .D) :
    height steps (k + 1) = height steps k - 1 := by
  have hU : [DyckStep.D].count .U = 0 := rfl
  have hD : [DyckStep.D].count .D = 1 := rfl
  simp only [height, List.take_add_one, h, Option.toList_some, List.count_append, hU, hD]
  omega

private theorem Level.refl (steps : List DyckStep) (i : Nat) : Level steps i i where
  le := Nat.le_refl i
  above k hi hj := by rw [Nat.le_antisymm hj hi]
  ends := rfl

private theorem Level.trans (h : Level steps i j) (h' : Level steps j k) : Level steps i k where
  le := Nat.le_trans h.le h'.le
  above l hi hk := by
    rcases Nat.le_total l j with hl | hl
    · exact h.above l hi hl
    · have hj := h'.above l hl hk
      have he := h.ends
      omega
  ends := h'.ends.trans h.ends

/-- A balanced part in brackets is balanced. -/
theorem Level.nest (h : Level steps (i + 1) j) (hi : steps[i]? = some .U)
    (hj : steps[j]? = some .D) : Level steps i (j + 1) := by
  have hup := height_succ_of_U hi
  have hdown := height_succ_of_D hj
  have hends := h.ends
  refine ⟨?_, ?_, by omega⟩
  · have hle := h.le
    omega
  · intro k hik hkj
    by_cases hk : i < k ∧ k ≤ j
    · have habove := h.above k hk.1 hk.2
      omega
    · have hk' : k = i ∨ k = j + 1 := by omega
      rcases hk' with rfl | rfl <;> omega

/-- Two opening brackets cannot both be followed by balanced parts that end at one place. -/
theorem Level.start_unique (h : Level steps (i + 1) k) (h' : Level steps (j + 1) k)
    (hi : steps[i]? = some .U) (hj : steps[j]? = some .U) : i = j := by
  have hup := height_succ_of_U hi
  have hup' := height_succ_of_U hj
  have hends := h.ends
  have hends' := h'.ends
  have hle := h.le
  have hle' := h'.le
  rcases Nat.lt_trichotomy i j with hlt | heq | hlt
  · have habove := h.above j hlt (by omega)
    omega
  · exact heq
  · have habove := h'.above i hlt (by omega)
    omega

private theorem count_between (s : DyckStep) (i k : Nat) :
    (steps.take (i + k)).count s = (steps.take i).count s + ((steps.drop i).take k).count s := by
  rw [List.take_add, List.count_append]

/-- What stands between two places is balanced if it is a Dyck word. -/
theorem exists_dyckWord_iff (h : i ≤ j) :
    (∃ w : DyckWord, w.toList = (steps.drop i).take (j - i)) ↔ Level steps i j := by
  have hcount (k : Nat) : height steps (i + k) = height steps i +
      (((steps.drop i).take k).count .U - ((steps.drop i).take k).count .D : Int) := by
    simp only [height, count_between]
    omega
  constructor
  · rintro ⟨w, hw⟩
    have heq := w.count_U_eq_count_D
    have hle := w.count_D_le_count_U
    rw [hw] at heq hle
    refine ⟨h, ?_, ?_⟩
    · intro k hik hkj
      have hk := hle (k - i)
      have hc := hcount (k - i)
      rw [List.take_take, Nat.min_eq_left (by omega)] at hk
      rw [Nat.add_sub_cancel' hik] at hc
      omega
    · have hc := hcount (j - i)
      rw [Nat.add_sub_cancel' h] at hc
      omega
  · intro hlevel
    refine ⟨⟨(steps.drop i).take (j - i), ?_, ?_⟩, rfl⟩
    · have hc := hcount (j - i)
      have hends := hlevel.ends
      rw [Nat.add_sub_cancel' h] at hc
      omega
    · intro k
      have hc := hcount (min k (j - i))
      have habove := hlevel.above (i + min k (j - i)) (by omega) (by omega)
      rw [List.take_take]
      omega

end Brackets

/-! ### The matcher -/

/-- The brackets read so far: their number, those that are open, each with its line and the last one
first, and the pairs found. -/
structure Matcher where
  seen : Nat
  opens : List (Nat × Nat)
  pairs : List BracketPair

namespace Matcher

open Brackets

/-- Nothing read. -/
def start : Matcher := ⟨0, [], []⟩

/-- Reads a bracket in a line. -/
def step (m : Matcher) (bracket : Nat × DyckStep) : Matcher :=
  match bracket.2, m.opens with
  | .U, opens => ⟨m.seen + 1, (m.seen, bracket.1) :: opens, m.pairs⟩
  | .D, [] => ⟨m.seen + 1, [], m.pairs⟩
  | .D, (p, line) :: rest => ⟨m.seen + 1, rest, m.pairs ++ [⟨p, m.seen, line, bracket.1⟩]⟩

/-- Some brackets are those that are open at a place: behind each of them, up to the next, stands a
balanced part, and from no other opening bracket on has the height stayed above its start. -/
def Chain (brackets : List (Nat × DyckStep)) : List (Nat × Nat) → Nat → Prop
  | [], n => ∀ p < n, (brackets.map Prod.snd)[p]? = some .U →
      ∃ k, p < k ∧ k ≤ n ∧ height (brackets.map Prod.snd) k ≤ height (brackets.map Prod.snd) p
  | (p, line) :: rest, n => p < n ∧ brackets[p]? = some (line, .U) ∧
      Level (brackets.map Prod.snd) (p + 1) n ∧ Chain brackets rest p

variable {brackets : List (Nat × DyckStep)} {m : Matcher}

/-- A balanced part behind a place leaves the same brackets open. -/
theorem Chain.level {opens : List (Nat × Nat)} {n n' : Nat} (h : Chain brackets opens n)
    (hl : Level (brackets.map Prod.snd) n n') : Chain brackets opens n' := by
  have hle := hl.le
  cases opens with
  | nil =>
    intro p hp hU
    by_cases hpn : p < n
    · obtain ⟨k, hpk, hkn, hk⟩ := h p hpn hU
      exact ⟨k, hpk, by omega, hk⟩
    · have habove := hl.above p (by omega) (by omega)
      have hends := hl.ends
      exact ⟨n', hp, Nat.le_refl _, by omega⟩
  | cons x rest =>
    obtain ⟨hp, hU, hlevel, hrest⟩ := h
    exact ⟨by omega, hU, hlevel.trans hl, hrest⟩

/-- What holds of a matcher that has read the first brackets of a list. -/
structure Tracks (brackets : List (Nat × DyckStep)) (m : Matcher) : Prop where
  chain : Chain brackets m.opens m.seen
  pairs : ∀ x : BracketPair, x ∈ m.pairs ↔ x.Matches brackets ∧ x.closing < m.seen
  sorted : m.pairs.Pairwise fun x y => x.closing < y.closing

private theorem snd_getElem? {n line : Nat} {s : DyckStep} (h : brackets[n]? = some (line, s)) :
    (brackets.map Prod.snd)[n]? = some s := by
  simp [h]

private theorem level_of_matches {x : BracketPair} (h : x.Matches brackets) :
    Level (brackets.map Prod.snd) (x.opening + 1) x.closing :=
  (exists_dyckWord_iff h.lt).mp h.balanced

private theorem tracks_start : start.Tracks brackets where
  chain := by
    intro p hp
    exact absurd hp (Nat.not_lt_zero p)
  pairs x := by simp [start]
  sorted := List.Pairwise.nil

/-- A bracket that closes nothing leaves the pairs as they are. -/
theorem Tracks.pairs_of_not_closes (h : m.Tracks brackets)
    (hno : ∀ x : BracketPair, x.Matches brackets → x.closing ≠ m.seen) (x : BracketPair) :
    x ∈ m.pairs ↔ x.Matches brackets ∧ x.closing < m.seen + 1 := by
  rw [h.pairs x]
  refine and_congr_right fun hx => ?_
  have hne := hno x hx
  omega

/-- A step reads the next bracket. -/
theorem Tracks.step (h : m.Tracks brackets) {bracket : Nat × DyckStep}
    (hb : brackets[m.seen]? = some bracket) : (m.step bracket).Tracks brackets := by
  obtain ⟨line, s⟩ := bracket
  have hs := snd_getElem? hb
  obtain ⟨n, opens, pairs⟩ := m
  cases s with
  | U =>
    refine ⟨⟨Nat.lt_succ_self n, hb, Level.refl _ _, h.chain⟩, ?_, h.sorted⟩
    refine h.pairs_of_not_closes fun x hx heq => ?_
    have hD := snd_getElem? hx.closes
    rw [heq, hs] at hD
    cases hD
  | D =>
    cases opens with
    | nil =>
      refine ⟨?_, ?_, h.sorted⟩
      · intro p hp hU
        have hne : p ≠ n := by
          rintro rfl
          rw [hs] at hU
          cases hU
        obtain ⟨k, hpk, hkn, hk⟩ := h.chain p
          (Nat.lt_of_le_of_ne (Nat.le_of_lt_succ hp) hne) hU
        exact ⟨k, hpk, Nat.le_succ_of_le hkn, hk⟩
      · -- From an opening bracket that matched here the height would have stayed above its start.
        refine h.pairs_of_not_closes fun x hx heq => ?_
        dsimp only at heq
        have hU := snd_getElem? hx.opens
        have hlevel := level_of_matches hx
        obtain ⟨k, hpk, hkn, hk⟩ := h.chain x.opening (heq ▸ hx.lt) hU
        have hup := height_succ_of_U hU
        have habove := hlevel.above k hpk (heq ▸ hkn)
        omega
    | cons top rest =>
      obtain ⟨p, first⟩ := top
      obtain ⟨hpn, hU, hlevel, hrest⟩ := h.chain
      have hup := snd_getElem? hU
      refine ⟨hrest.level (hlevel.nest hup hs), ?_, ?_⟩
      · intro x
        have hmatch : BracketPair.Matches brackets ⟨p, n, first, line⟩ :=
          ⟨hU, hb, hpn, (exists_dyckWord_iff hpn).mpr hlevel⟩
        simp only [Matcher.step, List.mem_append, List.mem_singleton, h.pairs x]
        constructor
        · rintro (⟨hx, hlt⟩ | rfl)
          · exact ⟨hx, Nat.lt_succ_of_lt hlt⟩
          · exact ⟨hmatch, Nat.lt_succ_self n⟩
        · rintro ⟨hx, hlt⟩
          rcases Nat.lt_or_eq_of_le (Nat.le_of_lt_succ hlt) with hlt | heq
          · exact .inl ⟨hx, hlt⟩
          · right
            have hlevel' := level_of_matches hx
            rw [heq] at hlevel'
            obtain rfl := hlevel'.start_unique hlevel (snd_getElem? hx.opens) hup
            have hfirst := hx.opens.symm.trans hU
            have hlast := hx.closes
            rw [heq, hb] at hlast
            obtain ⟨opening, closing, first', last⟩ := x
            simp_all
      · refine List.pairwise_append.mpr ⟨h.sorted, List.pairwise_singleton _ _, ?_⟩
        intro x hx y hy
        rw [List.mem_singleton.mp hy]
        exact ((h.pairs x).mp hx).2

private theorem seen_step (m : Matcher) (bracket : Nat × DyckStep) :
    (m.step bracket).seen = m.seen + 1 := by
  unfold Matcher.step
  split <;> rfl

private theorem Tracks.foldl (h : m.Tracks brackets) {front rest : List (Nat × DyckStep)}
    (heq : brackets = front ++ rest) (hseen : m.seen = front.length) :
    (rest.foldl Matcher.step m).Tracks brackets ∧
      (rest.foldl Matcher.step m).seen = brackets.length := by
  induction rest generalizing front m with
  | nil => exact ⟨h, by simp [heq, hseen]⟩
  | cons bracket rest ih =>
    have hb : brackets[m.seen]? = some bracket := by simp [heq, hseen]
    refine ih (h.step hb) (show brackets = (front ++ [bracket]) ++ rest by simp [heq]) ?_
    rw [seen_step, hseen, List.length_append, List.length_singleton]

/-- Reading all brackets finds the pairs that match, in the order in which they close. -/
theorem pairs_foldl (brackets : List (Nat × DyckStep)) :
    (∀ x : BracketPair, x ∈ (brackets.foldl step start).pairs ↔ x.Matches brackets) ∧
      (brackets.foldl step start).pairs.Pairwise fun x y => x.closing < y.closing := by
  obtain ⟨htracks, hseen⟩ := tracks_start.foldl (show brackets = [] ++ brackets from rfl) rfl
  refine ⟨fun x => ?_, htracks.sorted⟩
  rw [htracks.pairs x, hseen, and_iff_left_iff_imp]
  intro hx
  exact (List.getElem?_eq_some_iff.mp hx.closes).1

end Matcher

end CodeFold
