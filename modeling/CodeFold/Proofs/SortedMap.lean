import CodeFold.Data.SortedMap
import Mathlib.Data.List.Induction

/-!
# Sorted maps

Inserting changes what is looked up under one key only, whatever the list. If the keys are in
increasing order, they stay so, and each pair is the one that is looked up under its key.
-/

namespace CodeFold.SortedMap

variable {κ α : Type} [DecidableEq κ] {m : SortedMap κ α}

/-! ### Looking up -/

/-- A value that is found is in the map under its key. -/
theorem mem_of_lookup {key : κ} {value : α} (h : m.lookup key = some value) : (key, value) ∈ m := by
  obtain ⟨l₁, l₂, rfl, _⟩ := List.lookup_eq_some_iff.mp h
  simp

/-- Nothing is found under a key that the map has not. -/
theorem lookup_of_not_mem_keys {key : κ} (h : key ∉ m.keys) : m.lookup key = none := by
  cases hl : m.lookup key with
  | none => rfl
  | some value => exact absurd (List.mem_map_of_mem (mem_of_lookup hl)) h

/-- If no key occurs twice, a pair is looked up under its key. -/
theorem lookup_of_mem_of_nodup (h : m.keys.Nodup) {key : κ} {value : α} (hm : (key, value) ∈ m) :
    m.lookup key = some value := by
  obtain ⟨l₁, l₂, rfl⟩ := List.append_of_mem hm
  refine List.lookup_eq_some_iff.mpr ⟨l₁, l₂, rfl, ?_⟩
  intro x hx
  rw [keys, List.map_append, List.map_cons] at h
  apply bne_iff_ne.mpr
  exact Ne.symm ((List.nodup_append.mp h).2.2 x.1 (List.mem_map_of_mem hx) key List.mem_cons_self)

/-- The first pair with a key decides. -/
theorem lookup_cons (x : κ × α) (rest : SortedMap κ α) (k : κ) :
    List.lookup k (x :: rest) = if k = x.1 then some x.2 else rest.lookup k := by
  rw [List.lookup_cons]
  by_cases hk : k = x.1
  · simp [hk]
  · rw [beq_false_of_ne hk, if_neg hk]

/-- After an erasure nothing is found under the key, and all else as before. -/
theorem lookup_erase (m : SortedMap κ α) (key k : κ) :
    (m.erase key).lookup k = if k = key then none else m.lookup k := by
  unfold erase
  induction m with
  | nil => simp
  | cons x rest ih =>
    rw [List.filter_cons, lookup_cons]
    by_cases hx : x.1 = key
    · rw [if_neg (by simp [hx]), ih, hx]
      by_cases hk : k = key <;> simp [hk]
    · rw [if_pos (by simp [hx]), lookup_cons, ih]
      by_cases hk : k = x.1
      · rw [if_pos hk, if_pos hk, if_neg (fun he => hx (hk.symm.trans he))]
      · rw [if_neg hk, if_neg hk]

/-- Erasing a key that the map has not changes nothing. -/
theorem erase_of_lookup_none {key : κ} (h : m.lookup key = none) : m.erase key = m := by
  apply List.filter_eq_self.mpr
  intro x hx
  have hne := List.lookup_eq_none_iff.mp h x hx
  rw [bne_iff_ne] at hne
  exact decide_eq_true (Ne.symm hne)

section Insert

variable [LT κ] [DecidableLT κ]

/-- After an insertion a map holds the new pair and pairs from before. -/
theorem eq_or_mem_of_mem_insert {x : κ × α} {key : κ} {value : α} (h : x ∈ m.insert key value) :
    x = (key, value) ∨ x ∈ m := by
  induction m with
  | nil => exact .inl (List.mem_singleton.mp h)
  | cons y rest ih =>
    rw [insert] at h
    split at h
    · exact List.mem_cons.mp h
    · split at h
      · exact (List.mem_cons.mp h).imp_right (List.mem_cons_of_mem _)
      · rcases List.mem_cons.mp h with rfl | h
        · exact .inr List.mem_cons_self
        · exact (ih h).imp_right (List.mem_cons_of_mem _)

/-- After an insertion the new value is found under its key, and all else as before. -/
theorem lookup_insert (m : SortedMap κ α) (key k : κ) (value : α) :
    (m.insert key value).lookup k = if k = key then some value else m.lookup k := by
  induction m with
  | nil => exact lookup_cons (key, value) [] k
  | cons x rest ih =>
    rw [SortedMap.insert]
    split
    · exact lookup_cons (key, value) (x :: rest) k
    · split
      · next heq =>
        rw [lookup_cons, lookup_cons, ← heq]
        by_cases hk : k = key <;> simp [hk]
      · next hne =>
        rw [lookup_cons, lookup_cons, ih]
        by_cases hx : k = x.1
        · have hk : k ≠ key := fun he => hne (he.symm.trans hx)
          rw [if_pos hx, if_neg hk, if_pos hx]
        · rw [if_neg hx, if_neg hx]

private theorem mem_keys_insert {key k : κ} {value : α} :
    k ∈ (m.insert key value).keys ↔ k = key ∨ k ∈ m.keys := by
  induction m with
  | nil => simp [insert, keys]
  | cons x rest ih =>
    rw [insert]
    split
    · simp [keys]
    · split
      · next heq => simp [keys, heq]
      · simp only [keys, List.map_cons, List.mem_cons] at ih ⊢
        rw [ih]
        exact or_left_comm

/-! ### Maps of pairs -/

/-- A map of some pairs holds only these pairs. -/
theorem mem_of_mem_ofList {pairs : List (κ × α)} {x : κ × α} (h : x ∈ ofList pairs) :
    x ∈ pairs := by
  refine List.foldlRecOn (motive := (∀ x ∈ ·, x ∈ pairs)) pairs _ (by simp) ?_ x h
  intro m hm pair hpair x hx
  rcases eq_or_mem_of_mem_insert hx with rfl | hx
  · exact hpair
  · exact hm x hx

private theorem ofList_append_singleton (pairs : List (κ × α)) (key : κ) (value : α) :
    ofList (pairs ++ [(key, value)]) = (ofList pairs).insert key value := by
  simp [ofList, List.foldl_append]

/-- A map of some pairs has the keys of all of them. -/
theorem mem_keys_ofList {pairs : List (κ × α)} {k : κ} :
    k ∈ (ofList pairs).keys ↔ k ∈ pairs.map (·.1) := by
  induction pairs using List.reverseRecOn with
  | nil => simp [ofList, keys]
  | append_singleton pairs x ih =>
    rw [ofList_append_singleton, mem_keys_insert, ih]
    simp [or_comm]

/-- The last of several values with one key is looked up. -/
theorem lookup_ofList (pairs : List (κ × α)) (k : κ) :
    (ofList pairs).lookup k = pairs.reverse.lookup k := by
  induction pairs using List.reverseRecOn with
  | nil => rfl
  | append_singleton pairs x ih =>
    rw [ofList_append_singleton, lookup_insert, ih, List.reverse_append, List.reverse_singleton,
      List.singleton_append, lookup_cons]

end Insert

/-! ### Order -/

/-- The keys of a map are in increasing order. -/
def Sorted [LT κ] (m : SortedMap κ α) : Prop := m.keys.Pairwise (· < ·)

omit [DecidableEq κ] in
/-- Part of a sorted map is sorted. -/
theorem Sorted.filter [LT κ] (h : Sorted m) (p : κ × α → Bool) : Sorted (m.filter p) :=
  List.Pairwise.sublist (List.filter_sublist.map _) h

section Irreflexive

variable [LT κ] [Std.Irrefl (α := κ) (· < ·)]

omit [DecidableEq κ] in
private theorem irrefl (a : κ) : ¬ a < a := Std.Irrefl.irrefl (r := ((· < ·) : κ → κ → Prop)) a

omit [DecidableEq κ] in
/-- A sorted map has every key once. -/
theorem Sorted.nodup_keys (h : Sorted m) : m.keys.Nodup := by
  refine List.Pairwise.imp ?_ h
  rintro a b hlt rfl
  exact irrefl a hlt

/-- In a sorted map a key is looked up as the one pair that has it. -/
theorem Sorted.lookup_of_mem (h : Sorted m) {key : κ} {value : α} (hm : (key, value) ∈ m) :
    m.lookup key = some value :=
  lookup_of_mem_of_nodup h.nodup_keys hm

/-- A sorted map can be searched from its end. -/
theorem Sorted.lookup_reverse (h : Sorted m) (k : κ) : m.reverse.lookup k = m.lookup k := by
  cases hl : m.lookup k with
  | some value =>
    have hkeys : (m.reverse.map (·.1)).Nodup := by
      rw [List.map_reverse, List.Nodup, List.pairwise_reverse]
      exact h.nodup_keys.imp Ne.symm
    exact lookup_of_mem_of_nodup hkeys (List.mem_reverse.mpr (mem_of_lookup hl))
  | none =>
    rw [List.lookup_eq_none_iff] at hl ⊢
    exact fun x hx => hl x (List.mem_reverse.mp hx)

end Irreflexive

section Order

variable [LT κ] [DecidableLT κ] [Trans (α := κ) (· < ·) (· < ·) (· < ·)]
  [Std.Trichotomous (α := κ) (· < ·)]

/-- A sorted map stays sorted when a pair is inserted. -/
theorem Sorted.insert (h : Sorted m) (key : κ) (value : α) : Sorted (m.insert key value) := by
  induction m with
  | nil => exact List.pairwise_singleton _ _
  | cons x rest ih =>
    have hx : ∀ k ∈ keys rest, x.1 < k := (List.pairwise_cons.mp h).1
    have hrest : Sorted rest := (List.pairwise_cons.mp h).2
    rw [SortedMap.insert]
    split
    · next hlt =>
      apply List.pairwise_cons.mpr
      refine ⟨?_, h⟩
      intro k hk
      rcases List.mem_cons.mp hk with rfl | hk
      · exact hlt
      · exact Trans.trans hlt (hx k hk)
    · next hge =>
      split
      · next heq =>
        subst heq
        exact h
      · next hne =>
        apply List.pairwise_cons.mpr
        refine ⟨?_, ih hrest⟩
        intro k hk
        rcases mem_keys_insert.mp hk with rfl | hk
        · exact Decidable.not_not.mp fun hgt => hne (Std.Trichotomous.trichotomous _ _ hge hgt)
        · exact hx k hk

/-- A map that is made of pairs is sorted. -/
theorem sorted_ofList (pairs : List (κ × α)) : Sorted (ofList pairs) :=
  List.foldlRecOn (motive := Sorted) pairs _ List.Pairwise.nil fun _ h x _ => h.insert x.1 x.2

end Order

end CodeFold.SortedMap
