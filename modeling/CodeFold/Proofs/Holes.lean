import CodeFold.Proofs.EscapedText
import Mathlib.Logic.Relation

/-!
# Patterns with holes

A pattern with holes is a text that is interrupted in some places. Its outline has an empty group
in every hole. A hole stands where an item can stand if a reader of the outline comes to its group
as the next token. Then all other tokens are the same whatever is put into the holes, as long as it
does not let a repetition sign behind a hole bind to what stands before the hole.
-/

namespace CodeFold.Pattern.Parser

/-- A hole with what is to be put there, and the text from there to the next hole. -/
structure Hole where
  text : List Char
  after : List Char

/-- The text with something in every hole. -/
def fill (put : List Char → List Char) (cs : List Char) (hs : List Hole) : List Char :=
  cs ++ hs.flatMap fun h => put h.text ++ h.after

/-- A group without content. -/
def emptyGroup (_ : List Char) : List Char := ['(', '?', ':', ')']

/-- A text, escaped and in a group of its own. -/
def inGroup (cs : List Char) : List Char := '(' :: '?' :: ':' :: (escapeChars cs ++ [')'])

private theorem exists_of_append_eq {a b c d : List Char} (h : a ++ b = c ++ d)
    (hlen : b.length ≤ d.length) : ∃ e, a = c ++ e ∧ d = e ++ b := by
  obtain ⟨e, rfl, he⟩ | he := List.append_eq_append_iff.mp h
  · obtain rfl : e = [] := by
      have := congrArg List.length he
      rw [List.length_append] at this
      exact List.eq_nil_of_length_eq_zero (by omega)
    exact ⟨[], by simp, by simpa using he.symm⟩
  · exact he

section Fill

variable {put : List Char → List Char} {cs : List Char} {h : Hole} {hs : List Hole}

/-- Without holes the text stands as it is. -/
theorem fill_nil : fill put cs [] = cs := by simp [fill]

/-- The first hole is filled behind the text in front of it. -/
theorem fill_cons : fill put cs (h :: hs) = cs ++ (put h.text ++ fill put h.after hs) := by
  simp [fill]

/-- Text in front stays in front when the holes are filled. -/
theorem fill_append (cs cs' : List Char) : fill put (cs ++ cs') hs = cs ++ fill put cs' hs := by
  simp [fill]

end Fill

/-- The signs that repeat the item before them. -/
def isRepetition (c : Char) : Bool := c = '?' || c = '*' || c = '+' || c = '\x7b'

namespace Reader

variable {r r' : Reader}

/-- Some steps lead from one reader to another. -/
def Reaches : Reader → Reader → Prop := Relation.ReflTransGen Step

/-- A token that is taken leaves the text behind it, and is not the last one. -/
theorem rest_of_take? {tok : Token} {st : State} {rest : List Char}
    (h : r.take? tok st rest = some r') : r'.rest = rest ∧ tok ≠ .finish := by
  unfold take? at h
  split at h
  · cases h
  · split at h <;> cases h
    exact ⟨rfl, nofun⟩
  · cases h
    exact ⟨rfl, nofun⟩
  · cases h
    exact ⟨rfl, nofun⟩
  · cases h
    exact ⟨rfl, nofun⟩
  · cases h
    exact ⟨rfl, nofun⟩
  · split at h <;> cases h
    exact ⟨rfl, nofun⟩

/-- A token is taken from the text behind the separators. -/
theorem Step.length_lt (h : r.Step r') : r'.rest.length < (r.state.skip r.rest).length := by
  obtain ⟨tok, st, rest, htok, htake⟩ := h
  obtain ⟨hrest, hfin⟩ := rest_of_take? htake
  have htok' : r.state.token (r.state.skip r.rest) = .ok (tok, st, rest) := by
    rw [State.token_congr (State.skip_skip _ _), htok]
  rw [hrest]
  exact State.length_token_lt htok' hfin

private theorem Reaches.length_le (h : Reaches r r') : r'.rest.length ≤ r.rest.length := by
  induction h with
  | refl => exact Nat.le_refl _
  | @tail m r' _ hs ih =>
    have h₁ := hs.length_lt
    have h₂ := m.state.length_skip_le m.rest
    omega

/-- A reader is there, or it takes a token and gets there. -/
theorem Reaches.cases (h : Reaches r r') : r = r' ∨ ∃ m, r.Step m ∧ Reaches m r' :=
  Relation.ReflTransGen.cases_head h

/-- A reader of the outline comes to every hole as the next item. A hole in front of a repetition
sign stands for one character. -/
def Visits (r : Reader) (hs : List Hole) : Prop :=
  ∀ pre h post, hs = pre ++ h :: post → ∃ m, Reaches r m ∧
    m.state.skip m.rest = fill emptyGroup [] (h :: post) ∧
    ((m.state.skip (fill emptyGroup h.after post)).head?.any isRepetition = true →
      (m.state.visible h.text).length = 1)

namespace Visits

variable {h : Hole} {hs : List Hole} {m m' : Reader}

/-- A reader that visits some holes has not read past the first one. -/
theorem length_le (hv : r.Visits (h :: hs)) :
    (fill emptyGroup [] (h :: hs)).length ≤ (r.state.skip r.rest).length := by
  obtain ⟨m, hreach, hat, -⟩ := hv [] h hs rfl
  obtain rfl | ⟨k, hstep, hreach⟩ := hreach.cases
  · exact Nat.le_of_eq (congrArg List.length hat.symm)
  · have h₁ := hstep.length_lt
    have h₂ := hreach.length_le
    have h₃ := m.state.length_skip_le m.rest
    rw [hat] at h₃
    omega

/-- A reader in front of the first hole. -/
theorem single_of_sign (hv : r.Visits (h :: hs))
    (hat : r.state.skip r.rest = fill emptyGroup [] (h :: hs))
    (hsign : (r.state.skip (fill emptyGroup h.after hs)).head?.any isRepetition = true) :
    (r.state.visible h.text).length = 1 := by
  obtain ⟨m, hreach, hat', hone⟩ := hv [] h hs rfl
  obtain rfl | ⟨k, hstep, hreach⟩ := hreach.cases
  · exact hone hsign
  · have h₁ := hstep.length_lt
    have h₂ := hreach.length_le
    have h₃ := m.state.length_skip_le m.rest
    rw [hat'] at h₃
    rw [hat] at h₁
    omega

/-- A later hole is reached from a reader that is in front of an earlier one. -/
theorem later (hv : r.Visits (h :: hs)) (hstep : r.Step m) {pre : List Hole} {h' : Hole}
    {post : List Hole} (hhs : hs = pre ++ h' :: post) : ∃ k, Reaches m k ∧
    k.state.skip k.rest = fill emptyGroup [] (h' :: post) ∧
    ((k.state.skip (fill emptyGroup h'.after post)).head?.any isRepetition = true →
      (k.state.visible h'.text).length = 1) := by
  obtain ⟨k, hreach, hat, hone⟩ := hv (h :: pre) h' post (by rw [hhs]; rfl)
  refine ⟨k, ?_, hat, hone⟩
  obtain rfl | ⟨m', hstep', hreach⟩ := hreach.cases
  · have hlen := hv.length_le
    rw [hat, hhs] at hlen
    simp [fill, emptyGroup] at hlen
    omega
  · exact hstep.unique hstep' ▸ hreach

/-- A token that is not in a hole is taken. -/
theorem of_step (hv : r.Visits (h :: hs))
    (hnot : r.state.skip r.rest ≠ fill emptyGroup [] (h :: hs)) (hstep : r.Step m) :
    m.Visits (h :: hs) := by
  intro pre h' post hhs
  obtain _ | ⟨x, pre⟩ := pre
  · cases hhs
    obtain ⟨k, hreach, hat, hone⟩ := hv [] h hs rfl
    refine ⟨k, ?_, hat, hone⟩
    obtain rfl | ⟨m', hstep', hreach⟩ := hreach.cases
    · exact absurd hat hnot
    · exact hstep.unique hstep' ▸ hreach
  · cases hhs
    exact hv.later hstep rfl

/-- The group in a hole is opened and closed. -/
theorem of_hole (hv : r.Visits (h :: hs)) (hstep : r.Step m) (hstep' : m.Step m') {w : List Char}
    (hm : m.rest = ')' :: w) : m'.Visits hs := by
  intro pre h' post hhs
  obtain ⟨k, hreach, hat, hone⟩ := hv.later hstep hhs
  refine ⟨k, ?_, hat, hone⟩
  obtain rfl | ⟨k', hk, hreach⟩ := hreach.cases
  · rw [hm, State.skip_of_ne (fun _ => rfl) (by decide)] at hat
    cases hat
  · exact hstep'.unique hk ▸ hreach

/-- A reader that is not in front of a hole takes a token before the hole. -/
theorem exists_step (hv : r.Visits (h :: hs))
    (hnot : r.state.skip r.rest ≠ fill emptyGroup [] (h :: hs)) : ∃ m, r.Step m := by
  obtain ⟨k, hreach, hat, -⟩ := hv [] h hs rfl
  obtain rfl | ⟨m, hstep, -⟩ := hreach.cases
  · exact absurd hat hnot
  · exact ⟨m, hstep⟩

end Visits

/-! ### Groups that only group -/

section Group

variable {st : State} {levels : List Level} {branches items : List Tree} {tree : Tree}
  {text w : List Char}

private theorem step_open (h : st.skip text = '(' :: '?' :: ':' :: w) :
    Step ⟨st, levels, branches, items, text⟩
      ⟨st, ⟨.plain [], st.verbose, branches, items⟩ :: levels, [], [], w⟩ := by
  have hopen : parseOpening st ('?' :: ':' :: w) = .ok (.group (.plain []), st, w) := by
    have hflags : parseFlags false false [] (':' :: w) = .ok ([], ':' :: w) := rfl
    rw [parseOpening_of_parseFlags (State.skip_of_ne (fun _ => rfl) (by decide) _) hflags]
    rfl
  refine ⟨.opening (.plain []), st, w, ?_, rfl⟩
  rw [State.token, h]
  exact bind_eq_ok.mpr ⟨_, hopen, rfl⟩

private theorem step_close (l : Level) :
    Step ⟨st, l :: levels, branches, items, ')' :: w⟩
      ⟨{ st with verbose := l.verbose }, levels, l.branches,
        .group l.kind (closeBranches branches items) :: l.items, w⟩ := by
  refine ⟨.close, st, w, ?_, rfl⟩
  rw [State.token, State.skip_of_ne (fun _ => rfl) (by decide)]
  rfl

/-- An escaped text in a group of its own is read as that group. -/
theorem reads_inGroup {s : List Char} (h : st.skip text = inGroup s ++ w) :
    Reads ⟨st, levels, branches, items, text⟩ tree ↔
      Reads ⟨st, levels, branches,
        .group (.plain []) (Tree.ofItems (charItems (st.visible s))) :: items, w⟩ tree := by
  have hopen : st.skip text = '(' :: '?' :: ':' :: (escapeChars s ++ ')' :: w) := by
    rw [h, inGroup]
    simp
  have hbody : closeBranches [] ((charItems (st.visible s)).reverse ++ []) =
      Tree.ofItems (charItems (st.visible s)) := by
    simp [closeBranches, Tree.ofBranches]
  rw [reads_iff_of_step (step_open hopen), reads_escapeChars, reads_iff_of_step (step_close _),
    hbody]

/-- The reader of the outline behind a hole. -/
def behind (r : Reader) (h : Hole) (hs : List Hole) : Reader :=
  { r with items := .group (.plain []) .empty :: r.items, rest := fill emptyGroup h.after hs }

/-- A reader behind the first hole visits the others. -/
theorem Visits.behind {h : Hole} {hs : List Hole} (hv : r.Visits (h :: hs))
    (hat : r.state.skip r.rest = fill emptyGroup [] (h :: hs)) : (r.behind h hs).Visits hs := by
  have hopen : r.state.skip r.rest = '(' :: '?' :: ':' :: ')' :: fill emptyGroup h.after hs := by
    rw [hat, fill_cons]
    rfl
  exact hv.of_hole (step_open hopen) (step_close _) rfl

end Group

end Reader

/-! ### Text in front of a hole -/

section Skip

variable {st : State} {cs : List Char} {h : Hole} {hs : List Hole}

/-- If a hole is not skipped, then what stands before it is skipped in the same way whatever is in
the hole. -/
theorem skip_fill (hlen : (fill emptyGroup [] (h :: hs)).length ≤
      (st.skip (fill emptyGroup cs (h :: hs))).length) :
    (∃ p, p ≠ [] ∧ ∀ put, st.skip (fill put cs (h :: hs)) = p ++ fill put [] (h :: hs)) ∨
      ∀ put, st.skip (fill put cs (h :: hs)) = st.skip (fill put [] (h :: hs)) := by
  have hfill (put : List Char → List Char) (t p : List Char) :
      fill put (t ++ p) (h :: hs) = t ++ (p ++ fill put [] (h :: hs)) := by
    simp [fill]
  obtain ⟨t, ht, hskip⟩ :=
    State.skip_append (rfl : st.skip (fill emptyGroup cs (h :: hs)) = _)
  have hne : st.skip (fill emptyGroup cs (h :: hs)) ≠ [] := by
    intro hnil
    rw [hnil] at hlen
    simp [fill, emptyGroup] at hlen
  -- What is left starts in front of the hole.
  obtain ⟨p, rfl, hp⟩ : ∃ p, cs = t ++ p ∧
      st.skip (fill emptyGroup cs (h :: hs)) = p ++ fill emptyGroup [] (h :: hs) := by
    have hcs := hfill emptyGroup cs []
    rw [List.append_nil, List.nil_append, ht] at hcs
    exact exists_of_append_eq hcs.symm hlen
  by_cases hpnil : p = []
  · right
    intro put
    rw [hfill, hskip hne, hpnil, List.nil_append]
  · left
    refine ⟨p, hpnil, fun put => ?_⟩
    rw [hfill, hskip hne]
    apply State.skip_of_head? hp
    · simp [hpnil]
    · obtain ⟨c, p, rfl⟩ := List.exists_cons_of_ne_nil hpnil
      rfl

private theorem skip_emptyGroup :
    st.skip (fill emptyGroup [] (h :: hs)) = fill emptyGroup [] (h :: hs) := by
  rw [fill_cons]
  exact State.skip_of_ne (fun _ => rfl) (by decide) _

end Skip

/-- What is put into the holes does not bring a repetition sign to the front. -/
def Calm (st : State) (put : List Char → List Char) (cs : List Char) (hs : List Hole) : Prop :=
  ∀ c, isRepetition c = true → (st.skip (fill put cs hs)).head? = some c →
    (st.skip (fill emptyGroup cs hs)).head? = some c

/-- What is put into holes as a group brings no repetition sign to the front. -/
theorem calm_inGroup {st : State} {cs : List Char} {h : Hole} {hs : List Hole}
    (hlen : (fill emptyGroup [] (h :: hs)).length ≤
      (st.skip (fill emptyGroup cs (h :: hs))).length) : Calm st inGroup cs (h :: hs) := by
  intro c hc hhead
  obtain ⟨p, hp, hskip⟩ | hskip := skip_fill hlen
  · rw [hskip] at hhead ⊢
    obtain ⟨d, p, rfl⟩ := List.exists_cons_of_ne_nil hp
    exact hhead
  · have hself : st.skip (fill inGroup [] (h :: hs)) = fill inGroup [] (h :: hs) := by
      rw [fill_cons]
      exact State.skip_of_ne (fun _ => rfl) (by decide) _
    rw [hskip, hself] at hhead
    cases hhead
    cases hc

private theorem not_isRepetition {c : Char} (h : c = '\\' ∨ isMeta c = false) :
    isRepetition c = false := by
  obtain rfl | h := h
  · rfl
  · have hne (d : Char) (hd : isMeta d = true) : c ≠ d := by
      rintro rfl
      rw [h] at hd
      cases hd
    simp [isRepetition, hne '?' rfl, hne '*' rfl, hne '+' rfl, hne '\x7b' rfl]

/-- Where a reader visits the holes, escaped text in them brings no repetition sign to the front. -/
theorem calm_escapeChars {r : Reader} {cs : List Char} {hs : List Hole} (hv : r.Visits hs)
    (hr : r.rest = fill emptyGroup cs hs) : Calm r.state escapeChars cs hs := by
  induction hs generalizing r cs with
  | nil =>
    intro c hc hhead
    rw [fill_nil] at hhead ⊢
    exact hhead
  | cons h hs ih =>
    intro c hc hhead
    obtain ⟨p, hp, hskip⟩ | hskip := skip_fill (hr ▸ hv.length_le)
    · rw [hskip] at hhead ⊢
      obtain ⟨d, p, rfl⟩ := List.exists_cons_of_ne_nil hp
      exact hhead
    · -- The reader is in front of the hole.
      have hat : r.state.skip r.rest = fill emptyGroup [] (h :: hs) := by
        rw [hr, hskip, skip_emptyGroup]
      rw [hskip, fill_cons, List.nil_append] at hhead
      by_cases hvis : r.state.visible h.text = []
      · rw [State.skip_escapeChars hvis] at hhead
        have hsign : (r.state.skip (fill emptyGroup h.after hs)).head? = some c :=
          ih (hv.behind hat) rfl c hc hhead
        have hone := hv.single_of_sign hat (by rw [hsign]; exact hc)
        simp [hvis] at hone
      · obtain ⟨d, hd, hplain⟩ := State.head?_skip_escapeChars hvis (fill escapeChars h.after hs)
        rw [hd] at hhead
        cases hhead
        rw [not_isRepetition hplain] at hc
        cases hc

/-! ### Tokens in front of a hole -/

private theorem head?_of_startsBoundary {st : State} {cs : List Char}
    (h : st.startsBoundary cs = true) : cs.head? = some '\x7b' := by
  unfold State.startsBoundary at h
  split at h
  · rfl
  · cases h

private theorem startsBoundary_brace (st : State) (cs : List Char) :
    st.startsBoundary ('\x7b' :: cs) = (st.skip cs).head?.all isBoundaryChar := by
  rw [State.startsBoundary]
  cases st.skip cs <;> rfl

namespace Reader

variable {r m : Reader} {put : List Char → List Char} {cs : List Char} {h : Hole} {hs : List Hole}

/-- No hole stands between the braces of a repetition. -/
theorem Visits.length_lt_of_brace (hv : r.Visits (h :: hs))
    (hr : r.rest = fill emptyGroup ('\x7b' :: cs) (h :: hs)) :
    (fill emptyGroup [] (h :: hs)).length <
      (r.state.skip (fill emptyGroup cs (h :: hs))).length := by
  have hskip : r.state.skip r.rest = '\x7b' :: fill emptyGroup cs (h :: hs) := by
    rw [hr]
    exact State.skip_of_ne (fun _ => rfl) (by decide) _
  have hnot : r.state.skip r.rest ≠ fill emptyGroup [] (h :: hs) := by
    rw [hskip, fill_cons]
    exact nofun
  obtain ⟨m, tok, st, rest, htok, htake⟩ := hv.exists_step hnot
  have hlen := (hv.of_step hnot ⟨tok, st, rest, htok, htake⟩).length_le
  have hle := m.state.length_skip_le m.rest
  rw [(rest_of_take? htake).1] at hlen hle
  rw [State.token, hskip] at htok
  obtain ⟨⟨⟨least, most, greedy⟩, rest⟩, hcount, htok⟩ := bind_eq_ok.mp htok
  cases htok
  obtain ⟨u, w, hu, hne, hgreed, -⟩ := parseCount_append hcount
  have hpos := List.length_pos_iff.mpr hne
  have hw := r.state.length_skip_le w
  have hrest : rest.length ≤ (r.state.skip w).length := by
    obtain ⟨-, hq⟩ | ⟨-, hq, -⟩ := parseGreed_cases hgreed <;> simp [hq]
  rw [hu, List.length_append]
  omega

/-- Text with something in the holes can stand for the outline. -/
theorem Visits.replaces (hv : r.Visits (h :: hs)) (hr : r.rest = fill emptyGroup cs (h :: hs))
    (hcalm : Calm r.state put cs (h :: hs)) :
    r.state.Replaces (fill emptyGroup cs (h :: hs)) (fill put cs (h :: hs)) := by
  -- A hole in front does not start with a repetition sign.
  have hnone {c : Char} (hc : isRepetition c = true) (hs' : c ≠ '#')
      (hblank : isBlank c = false) (hnil : cs = []) :
      (fill put cs (h :: hs)).head? ≠ some c := by
    subst hnil
    intro hhead
    obtain ⟨w, hw⟩ := List.head?_eq_some_iff.mp hhead
    have hsign := hcalm c hc (by rw [hw, State.skip_of_ne (fun _ => hblank) hs']; rfl)
    rw [skip_emptyGroup] at hsign
    cases hsign
    cases hc
  constructor
  · intro hq
    obtain _ | ⟨d, cs⟩ := cs
    · exact absurd hq (hnone rfl (by decide) rfl rfl)
    · exact hq
  · exact hcalm '?' rfl
  · intro hb
    have hhead := head?_of_startsBoundary hb
    obtain _ | ⟨d, cs⟩ := cs
    · exact absurd hhead (hnone rfl (by decide) rfl rfl)
    · cases hhead
      have hlt := hv.length_lt_of_brace hr
      have hcons (put : List Char → List Char) :
          fill put ('\x7b' :: cs) (h :: hs) = '\x7b' :: fill put cs (h :: hs) := rfl
      rw [hcons, startsBoundary_brace] at hb ⊢
      obtain ⟨p, hp, hskip⟩ | hskip := skip_fill (Nat.le_of_lt hlt)
      · rw [hskip] at hb ⊢
        obtain ⟨d, p, rfl⟩ := List.exists_cons_of_ne_nil hp
        exact hb
      · rw [hskip, skip_emptyGroup] at hlt
        exact absurd hlt (Nat.lt_irrefl _)

private theorem state_of_take? {tok : Token} {st : State} {rest : List Char}
    (h : r.take? tok st rest = some m) (htok : tok ≠ .close) : m.state = st := by
  cases tok with
  | close => exact absurd rfl htok
  | finish => cases h
  | branch | directive | opening | item =>
    cases h
    rfl
  | repetition =>
    unfold take? at h
    dsimp only at h
    split at h <;> cases h
    rfl

/-- In front of a hole the next token is the same whatever is in the holes. -/
theorem Visits.token_fill (hv : r.Visits (h :: hs)) (hr : r.rest = fill emptyGroup cs (h :: hs))
    (hnot : r.state.skip r.rest ≠ fill emptyGroup [] (h :: hs)) :
    ∃ tok st cs' m, r.take? tok st (fill emptyGroup cs' (h :: hs)) = some m ∧
      cs'.length < cs.length ∧ m.Visits (h :: hs) ∧
      ∀ put, Calm m.state put cs' (h :: hs) → ∃ w,
        r.state.token (fill put cs (h :: hs)) = .ok (tok, st, w) ∧
        m.state.skip w = m.state.skip (fill put cs' (h :: hs)) := by
  obtain ⟨m, tok, st, rest, htok, htake⟩ := hv.exists_step hnot
  have hvm := hv.of_step hnot ⟨tok, st, rest, htok, htake⟩
  have hrest := (rest_of_take? htake).1
  have hlen := hvm.length_le
  have hle := m.state.length_skip_le m.rest
  rw [hrest] at hlen hle
  have hpos : 0 < (fill emptyGroup [] (h :: hs)).length := by simp [fill, emptyGroup]
  have hne : rest ≠ [] := List.ne_nil_of_length_pos (by omega)
  rw [hr] at htok
  obtain ⟨u, hu, hune, hread⟩ := State.token_append htok hne
  -- The token ends in front of the hole.
  obtain ⟨cs', rfl, rfl⟩ : ∃ cs', cs = u ++ cs' ∧ rest = fill emptyGroup cs' (h :: hs) := by
    have hcs (l : List Char) :
        fill emptyGroup l (h :: hs) = l ++ fill emptyGroup [] (h :: hs) := by simp [fill]
    rw [hcs] at hu
    obtain ⟨cs', hcs', hrest'⟩ := exists_of_append_eq hu (by omega)
    exact ⟨cs', hcs', hrest'.trans (hcs cs').symm⟩
  refine ⟨tok, st, cs', m, htake, ?_, hvm, fun put hcalm => ?_⟩
  · have := List.length_pos_iff.mpr hune
    rw [List.length_append]
    omega
  · obtain ⟨w, hw, hsame, hclose⟩ := hread (fill put cs' (h :: hs)) fun htok => by
      rw [← state_of_take? htake htok]
      exact hvm.replaces hrest hcalm
    refine ⟨w, by rw [fill_append]; exact hw, ?_⟩
    by_cases htok : tok = .close
    · rw [hclose htok]
    · rw [state_of_take? htake htok]
      exact hsame

end Reader

end CodeFold.Pattern.Parser
