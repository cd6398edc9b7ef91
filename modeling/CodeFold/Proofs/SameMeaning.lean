import CodeFold.Pattern.Meaning
import CodeFold.Proofs.Lookahead
import Mathlib.Data.List.Forall2

/-!
# Patterns with the same meaning

The meaning of a sequence is a flat list of parts, so a group that only groups makes no difference
in it. Items of a pattern that stand in such a group mean the same as without it.
-/

namespace CodeFold.Pattern

/-! ### Flat expressions -/

namespace Expr

private theorem factors_of_mem {e x : Expr} (h : x ∈ e.factors) : x.factors = [x] := by
  induction e with
  | empty => cases h
  | cat a b iha ihb =>
    rw [factors, List.mem_append] at h
    exact h.elim iha ihb
  | one | look | loop | group | alt =>
    obtain rfl := List.mem_singleton.mp h
    rfl

private theorem factors_ofFactors {es : List Expr} (h : ∀ e ∈ es, e.factors = [e]) :
    (ofFactors es).factors = es := by
  induction es with
  | nil => rfl
  | cons e es ih =>
    have he := h e (List.mem_cons_self ..)
    cases es with
    | nil => exact he
    | cons e' es =>
      rw [ofFactors, factors, he, ih fun x hx => h x (List.mem_cons_of_mem _ hx)]
      · rfl
      · exact nofun

/-- An expression that is put together again from its parts. -/
def IsFlat (e : Expr) : Prop := ofFactors e.factors = e

private theorem isFlat_concat (es : List Expr) : (concat es).IsFlat := by
  have hparts : ∀ x ∈ es.flatMap factors, x.factors = [x] := by
    intro x hx
    obtain ⟨e, -, he⟩ := List.mem_flatMap.mp hx
    exact factors_of_mem he
  rw [IsFlat, concat, factors_ofFactors hparts]

private theorem isFlat_repetition {body : Expr} (h : body.IsFlat) (least : Nat) (most : Option Nat)
    (greedy : Bool) : (repetition body least most greedy).IsFlat := by
  unfold repetition
  split
  split
  · rfl
  · split
    · exact h
    · rfl

private theorem branches_ne_nil (e : Expr) : e.branches ≠ [] := by
  induction e with
  | alt a b iha ihb => simp [branches, iha]
  | empty | one | look | loop | group | cat => simp [branches]

private theorem eq_of_branches {e x : Expr} (h : e.branches = [x]) : x = e := by
  cases e with
  | alt a b =>
    have ha := List.length_pos_iff.mpr a.branches_ne_nil
    have hb := List.length_pos_iff.mpr b.branches_ne_nil
    have hlen := congrArg List.length h
    rw [branches, List.length_append, List.length_singleton] at hlen
    omega
  | empty | one | look | loop | group | cat => exact (List.singleton_inj.mp h).symm

private theorem isFlat_choice {fuel : Nat} {bs : List Expr} (h : ∀ e, bs = [e] → e.IsFlat) :
    (choice fuel bs).IsFlat := by
  unfold choice
  split
  · exact h _ rfl
  · next hone =>
    split
    · rfl
    · split
      · exact isFlat_concat _
      · obtain _ | ⟨a, _ | ⟨b, bs⟩⟩ := bs
        · rfl
        · exact absurd rfl (hone a)
        · rfl

private theorem isFlat_alternation {es : List Expr} (h : ∀ e ∈ es, e.IsFlat) :
    (alternation es).IsFlat := by
  apply isFlat_choice
  intro x hx
  cases es with
  | nil => cases hx
  | cons e es =>
    rw [List.flatMap_cons, List.append_eq_singleton_iff] at hx
    obtain ⟨he, -⟩ | ⟨he, -⟩ := hx
    · exact absurd he e.branches_ne_nil
    · rw [eq_of_branches he]
      exact h e (List.mem_cons_self ..)

end Expr

namespace Tree

mutual

private theorem isFlat_meaning (t : Tree) {f f' : Flags} {e : Expr}
    (h : t.meaning f = .ok (e, f')) : e.IsFlat := by
  cases t with
  | empty | directive | anchor =>
    cases h
    rfl
  | char c byte =>
    rw [meaning] at h
    split at h
    · cases h
    · split at h <;> cases h <;> rfl
  | dot =>
    rw [meaning] at h
    split at h <;> cases h
    rfl
  | shorthand | property | bracket =>
    obtain ⟨s, -, h⟩ := Parser.bind_eq_ok.mp h
    cases h
    rfl
  | loop body least most greedy =>
    obtain ⟨⟨e', f''⟩, hbody, h⟩ := Parser.bind_eq_ok.mp h
    cases h
    exact Expr.isFlat_repetition (isFlat_meaning body hbody) ..
  | group kind body =>
    cases kind with
    | plain changes =>
      obtain ⟨⟨e', f''⟩, hbody, h⟩ := Parser.bind_eq_ok.mp h
      cases h
      exact isFlat_meaning body hbody
    | capture index name =>
      obtain ⟨⟨e', f''⟩, hbody, h⟩ := Parser.bind_eq_ok.mp h
      cases h
      rfl
  | cat items =>
    obtain ⟨⟨es, f''⟩, -, h⟩ := Parser.bind_eq_ok.mp h
    cases h
    exact Expr.isFlat_concat es
  | alt branches =>
    obtain ⟨⟨es, f''⟩, hes, h⟩ := Parser.bind_eq_ok.mp h
    cases h
    exact Expr.isFlat_alternation (isFlat_meanings branches hes)

private theorem isFlat_meanings (ts : List Tree) {f f' : Flags} {es : List Expr}
    (h : meanings ts f = .ok (es, f')) : ∀ e ∈ es, e.IsFlat := by
  cases ts with
  | nil =>
    cases h
    exact nofun
  | cons t ts =>
    obtain ⟨⟨e, f₁⟩, ht, h⟩ := Parser.bind_eq_ok.mp h
    obtain ⟨⟨es', f₂⟩, hts, h⟩ := Parser.bind_eq_ok.mp h
    cases h
    rw [List.forall_mem_cons]
    exact ⟨isFlat_meaning t ht, isFlat_meanings ts hts⟩

end

/-! ### Items of a sequence -/

/-- The parts of the meanings of items that stand one after the other. -/
def itemFactors (ts : List Tree) (f : Flags) : Except PatternError (List Expr × Flags) :=
  meanings ts f >>= fun x => .ok (x.1.flatMap Expr.factors, x.2)

private theorem itemFactors_cons (t : Tree) (ts : List Tree) (f : Flags) :
    itemFactors (t :: ts) f = (t.meaning f >>= fun x =>
      itemFactors ts x.2 >>= fun y => .ok (x.1.factors ++ y.1, y.2)) := by
  rw [itemFactors, meanings]
  cases t.meaning f with
  | error err => rfl
  | ok x =>
    dsimp only [bind, Except.bind, itemFactors]
    cases meanings ts x.2 <;> rfl

private theorem itemFactors_append (ts us : List Tree) (f : Flags) :
    itemFactors (ts ++ us) f = (itemFactors ts f >>= fun x =>
      itemFactors us x.2 >>= fun y => .ok (x.1 ++ y.1, y.2)) := by
  induction ts generalizing f with
  | nil =>
    have hnil : itemFactors [] f = .ok ([], f) := rfl
    rw [hnil, List.nil_append]
    dsimp only [bind, Except.bind]
    cases itemFactors us f <;> rfl
  | cons t ts ih =>
    rw [List.cons_append, itemFactors_cons, itemFactors_cons]
    cases t.meaning f with
    | error err => rfl
    | ok x =>
      dsimp only [bind, Except.bind] at ih ⊢
      rw [ih]
      cases itemFactors ts x.2 with
      | error err => rfl
      | ok y =>
        dsimp only
        cases itemFactors us y.2 with
        | error err => rfl
        | ok z => simp

/-- The meaning of a sequence is put together from its parts. -/
theorem meaning_ofItems (ts : List Tree) (f : Flags) :
    (ofItems ts).meaning f = (itemFactors ts f >>= fun x => .ok (Expr.ofFactors x.1, x.2)) := by
  unfold ofItems
  split
  · rfl
  · next t =>
    rw [itemFactors_cons]
    cases h : t.meaning f with
    | error err => rfl
    | ok x =>
      obtain ⟨e, f'⟩ := x
      have hflat : Expr.ofFactors e.factors = e := isFlat_meaning t h
      simp [itemFactors, meanings, bind, Except.bind, hflat]
  · rw [meaning, itemFactors]
    cases meanings ts f with
    | error err => rfl
    | ok x => rfl

/-- A character means one part and switches no flag. -/
theorem meaning_char (c : Char) (f : Flags) :
    ∃ e, (char c false).meaning f = .ok (e, f) ∧ e.factors = [e] := by
  rw [meaning]
  split
  · next h => simp at h
  · split
    · exact ⟨_, rfl, rfl⟩
    · exact ⟨_, rfl, rfl⟩

private theorem itemFactors_chars (cs : List Char) (f : Flags) :
    ∃ es, itemFactors (cs.map (.char · false)) f = .ok (es, f) ∧ ∀ e ∈ es, e.factors = [e] := by
  induction cs with
  | nil => exact ⟨[], rfl, nofun⟩
  | cons c cs ih =>
    obtain ⟨es, hes, hparts⟩ := ih
    obtain ⟨e, he, hone⟩ := meaning_char c f
    refine ⟨e :: es, ?_, ?_⟩
    · rw [List.map_cons, itemFactors_cons, he]
      simp [bind, Except.bind, hes, hone]
    · rw [List.forall_mem_cons]
      exact ⟨hone, hparts⟩

/-- A group that only groups some characters means the same in a sequence as the characters. -/
theorem itemFactors_group_chars (cs : List Char) (f : Flags) :
    itemFactors [.group (.plain []) (ofItems (cs.map (.char · false)))] f =
      itemFactors (cs.map (.char · false)) f := by
  obtain ⟨es, hes, hparts⟩ := itemFactors_chars cs f
  have hswitch : f.switch [] = f := rfl
  have hgroup : (group (.plain []) (ofItems (cs.map (.char · false)))).meaning f =
      .ok (Expr.ofFactors es, f) := by
    rw [meaning, hswitch, meaning_ofItems, hes]
    rfl
  rw [itemFactors_cons, hgroup, hes]
  simp [itemFactors, meanings, bind, Except.bind, Expr.factors_ofFactors hparts]

/-! ### Trees that mean the same -/

private theorem depthAll_append (ts us : List Tree) :
    depthAll (ts ++ us) = max (depthAll ts) (depthAll us) := by
  induction ts with
  | nil => simp [depthAll]
  | cons t ts ih =>
    simp only [List.cons_append, depthAll, ih]
    omega

private theorem depthAll_reverse (ts : List Tree) : depthAll ts.reverse = depthAll ts := by
  induction ts with
  | nil => rfl
  | cons t ts ih =>
    simp only [List.reverse_cons, depthAll_append, ih, depthAll]
    omega

private theorem depthAll_chars (cs : List Char) : depthAll (cs.map (.char · false)) = 0 := by
  induction cs with
  | nil => rfl
  | cons c cs ih => simp [depthAll, depth, ih]

/-- A sequence of at least two items is one deeper than they are. -/
theorem depth_ofItems (ts : List Tree) :
    (ofItems ts).depth = if 2 ≤ ts.length then depthAll ts + 1 else depthAll ts := by
  obtain _ | ⟨t, _ | ⟨u, ts⟩⟩ := ts
  · rfl
  · simp [ofItems, depthAll]
  · simp [ofItems, depth]

private theorem depth_ofBranches (ts : List Tree) :
    (ofBranches ts).depth = if 2 ≤ ts.length then depthAll ts + 1 else depthAll ts := by
  obtain _ | ⟨t, _ | ⟨u, ts⟩⟩ := ts
  · rfl
  · simp [ofBranches, depthAll]
  · simp [ofBranches, depth]

/-- `t'` means the same as `t` and is hardly twice as deep. -/
structure Alike (k : Nat) (t t' : Tree) : Prop where
  meaning : t.meaning = t'.meaning
  depth : t'.depth ≤ 2 * t.depth + k

/-- The items `ts'`, read in reverse, mean the same as `ts` in a sequence. -/
structure SameItems (ts ts' : List Tree) : Prop where
  factors : itemFactors ts.reverse = itemFactors ts'.reverse
  depth : depthAll ts' ≤ 2 * depthAll ts + 1 ∨
    2 ≤ ts.length ∧ depthAll ts' ≤ 2 * depthAll ts + 2

namespace Alike

variable {k : Nat} {t t' : Tree}

/-- A tree is like itself. -/
theorem refl (t : Tree) : Alike k t t := ⟨rfl, by omega⟩

/-- Trees that are alike stay so when they are repeated. -/
theorem loop (h : Alike 1 t t') (least : Nat) (most : Option Nat) (greedy : Bool) :
    Alike 1 (.loop t least most greedy) (.loop t' least most greedy) := by
  constructor
  · funext f
    rw [Tree.meaning, Tree.meaning, h.meaning]
  · have := h.depth
    simp only [Tree.depth]
    omega

/-- Trees that are alike stay so in a group. -/
theorem group (h : Alike 2 t t') (kind : GroupKind) : Alike 1 (.group kind t) (.group kind t') := by
  constructor
  · funext f
    cases kind <;> rw [Tree.meaning, Tree.meaning, h.meaning]
  · have := h.depth
    simp only [Tree.depth]
    omega

/-- A character is like a group around it. -/
theorem char (c : Char) : Alike 1 (.char c false) (.group (.plain []) (.char c false)) := by
  constructor
  · funext f
    obtain ⟨e, he, -⟩ := meaning_char c f
    have hswitch : f.switch [] = f := rfl
    rw [Tree.meaning.eq_def (.group _ _)]
    dsimp only
    rw [hswitch, he]
    rfl
  · simp [Tree.depth]

end Alike

namespace SameItems

variable {ts ts' : List Tree}

/-- No items are the same as no items. -/
theorem nil : SameItems [] [] := ⟨rfl, .inl (by omega)⟩

/-- Items stay the same when trees that are alike come in front of them. -/
theorem cons (h : SameItems ts ts') {t t' : Tree} (ht : Alike 1 t t') :
    SameItems (t :: ts) (t' :: ts') := by
  constructor
  · funext f
    rw [List.reverse_cons, List.reverse_cons, itemFactors_append, itemFactors_append, h.factors]
    have hone : itemFactors [t] = itemFactors [t'] := by
      funext f
      rw [itemFactors_cons, itemFactors_cons, ht.meaning]
    rw [hone]
  · have hd := h.depth
    have hd' := ht.depth
    simp only [depthAll, List.length_cons]
    omega

/-- Characters in a group of their own. -/
theorem chars (h : SameItems ts ts') (cs : List Char) :
    SameItems ((cs.map (.char · false)).reverse ++ ts)
      (.group (.plain []) (ofItems (cs.map (.char · false))) :: ts') := by
  constructor
  · funext f
    rw [List.reverse_append, List.reverse_reverse, List.reverse_cons, itemFactors_append,
      itemFactors_append, h.factors]
    simp only [itemFactors_group_chars]
  · have hd := h.depth
    have hgroup : (Tree.group (.plain []) (Tree.ofItems (cs.map (.char · false)))).depth =
        if 2 ≤ cs.length then 2 else 1 := by
      rw [Tree.depth, depth_ofItems, depthAll_chars, List.length_map]
      split <;> rfl
    rw [depthAll_append, depthAll_reverse, depthAll_chars, depthAll, hgroup, List.length_append,
      List.length_reverse, List.length_map]
    split <;> omega

/-- Sequences of such items mean the same. -/
theorem ofItems (h : SameItems ts ts') :
    Alike 2 (Tree.ofItems ts.reverse) (Tree.ofItems ts'.reverse) := by
  constructor
  · funext f
    rw [meaning_ofItems, meaning_ofItems, h.factors]
  · have hd := h.depth
    rw [depth_ofItems, depth_ofItems, depthAll_reverse, depthAll_reverse, List.length_reverse,
      List.length_reverse]
    split <;> split <;> omega

end SameItems

/-- Choices between branches that mean the same. -/
theorem Alike.ofBranches {ts ts' : List Tree} (h : List.Forall₂ (Alike 2) ts ts') :
    Alike 2 (Tree.ofBranches ts) (Tree.ofBranches ts') := by
  have hmeanings : meanings ts = meanings ts' := by
    induction h with
    | nil => rfl
    | cons ht _ ih =>
      funext f
      rw [meanings, meanings, ht.meaning, ih]
  have hdepth : depthAll ts' ≤ 2 * depthAll ts + 2 := by
    clear hmeanings
    induction h with
    | nil => simp [depthAll]
    | cons ht _ ih =>
      have hd := ht.depth
      simp only [depthAll]
      omega
  constructor
  · cases h with
    | nil => rfl
    | cons ht hts =>
      cases hts with
      | nil => exact ht.meaning
      | cons =>
        funext f
        show (alt _).meaning f = (alt _).meaning f
        rw [Tree.meaning, Tree.meaning, hmeanings]
  · rw [depth_ofBranches, depth_ofBranches, h.length_eq]
    split <;> omega

end Tree

/-- What has been read of a group in two ways means the same. -/
theorem Parser.alike_closeBranches {branches branches' items items' : List Tree}
    (hb : List.Forall₂ (Tree.Alike 2) branches branches') (hi : Tree.SameItems items items') :
    Tree.Alike 2 (closeBranches branches items) (closeBranches branches' items') := by
  apply Tree.Alike.ofBranches
  rw [List.forall₂_reverse_iff]
  exact .cons hi.ofItems hb

end CodeFold.Pattern
