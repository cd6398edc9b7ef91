import CodeFold.Proofs.Kept
import Mathlib.Data.List.Flatten
import Mathlib.Data.List.Nodup
import Mathlib.Data.List.Pairwise

/-!
# The shape of a rule set

A compiled set lists the forest of its kept rules in preorder. The rules of a tree have the numbers
from that of its root on, so a rule has a smaller number than those nested in it, and the rules for a
language have smaller numbers than those for every language. Each rule stands in one of the lists
that the entries declare, and a rule that nests in the whole list it stands in refers to all of it.
-/

namespace CodeFold

/-- A list of rules that the entries declare: the outermost rules, or the list of a rule's own. -/
structure SiblingList where
  parent : Option RuleId
  ids : List RuleId

/-- The list of a rule's own. -/
def Place.ownList? (p : Place) : Option SiblingList := p.children.map (⟨some p.id, ·⟩)

namespace RuleTree

/-- The lists that a forest declares. -/
def lists (forest : List RuleTree) : List SiblingList :=
  ⟨none, roots 0 forest⟩ ::
    (allPlaces (.rules (roots 0 forest)) 0 forest).filterMap Place.ownList?

/-! ### Numbers -/

private theorem size_pos (t : RuleTree) : 0 < t.size := by
  cases t <;> simp [size]

mutual

private theorem id_places (whole : Nesting) (n : Nat) (t : RuleTree) :
    (t.places whole n).map (·.id) = List.range' n t.size := by
  cases t with
  | leaf entry flag => simp [places, size]
  | branch entry children =>
    rw [places, size, List.map_cons, id_allPlaces _ (n + 1) children, List.range'_succ]

/-- The rules of some trees are numbered one after the other. -/
theorem id_allPlaces (whole : Nesting) (n : Nat) (ts : List RuleTree) :
    (allPlaces whole n ts).map (·.id) = List.range' n (sizes ts) := by
  cases ts with
  | nil => simp [allPlaces, sizes]
  | cons t ts =>
    rw [allPlaces, sizes, List.map_append, id_places whole n t, id_allPlaces whole _ ts,
      List.range'_append_1]

end

private theorem id_of_mem_allPlaces {whole : Nesting} {n : Nat} {ts : List RuleTree} {p : Place}
    (h : p ∈ allPlaces whole n ts) : n ≤ p.id ∧ p.id < n + sizes ts := by
  have hid : p.id ∈ (allPlaces whole n ts).map (·.id) := List.mem_map_of_mem h
  rwa [id_allPlaces, List.mem_range'_1] at hid

/-- A rule is found under its number. -/
theorem getElem?_allPlaces {whole : Nesting} {ts : List RuleTree} {p : Place}
    (h : p ∈ allPlaces whole 0 ts) : (allPlaces whole 0 ts)[p.id]? = some p := by
  obtain ⟨i, hi⟩ := List.mem_iff_getElem?.mp h
  have hid : ((allPlaces whole 0 ts).map (·.id))[i]? = some p.id := by
    rw [List.getElem?_map, hi]
    rfl
  have hlt : i < sizes ts := by
    have hlength := (List.getElem?_eq_some_iff.mp hi).1
    rwa [length_allPlaces] at hlength
  rw [id_allPlaces, List.getElem?_range' hlt, Nat.one_mul, Nat.zero_add, Option.some.injEq] at hid
  rw [← hid]
  exact hi

private theorem le_of_mem_roots {n : Nat} {ts : List RuleTree} {i : RuleId} (h : i ∈ roots n ts) :
    n ≤ i := by
  induction ts generalizing n with
  | nil => cases h
  | cons t ts ih =>
    rcases List.mem_cons.mp h with rfl | h
    · exact Nat.le_refl _
    · exact Nat.le_trans (Nat.le_add_right n t.size) (ih h)

mutual

private theorem lt_children_of_mem_places {whole : Nesting} {n : Nat} {t : RuleTree} {p : Place}
    {ids : List RuleId} (hp : p ∈ t.places whole n) (hc : p.children = some ids) {i : RuleId}
    (hi : i ∈ ids) : p.id < i := by
  cases t with
  | leaf entry flag =>
    rw [places, List.mem_singleton] at hp
    subst hp
    cases hc
  | branch entry children =>
    rw [places] at hp
    rcases List.mem_cons.mp hp with rfl | hp
    · cases hc
      exact le_of_mem_roots hi
    · exact lt_children_of_mem_allPlaces hp hc hi

/-- The rules of a rule's own list have larger numbers. -/
theorem lt_children_of_mem_allPlaces {whole : Nesting} {n : Nat} {ts : List RuleTree} {p : Place}
    {ids : List RuleId} (hp : p ∈ allPlaces whole n ts) (hc : p.children = some ids) {i : RuleId}
    (hi : i ∈ ids) : p.id < i := by
  cases ts with
  | nil =>
    rw [allPlaces] at hp
    cases hp
  | cons t ts =>
    rw [allPlaces] at hp
    rcases List.mem_append.mp hp with hp | hp
    · exact lt_children_of_mem_places hp hc hi
    · exact lt_children_of_mem_allPlaces hp hc hi

end

/-! ### Lists -/

mutual

private theorem perm_children_places (whole : Nesting) (n : Nat) (t : RuleTree) :
    ((t.places whole n).flatMap (·.children.getD [])).Perm (List.range' (n + 1) (t.size - 1)) := by
  cases t with
  | leaf entry flag => simp [places, size]
  | branch entry children =>
    rw [places, size, List.flatMap_cons, Nat.add_sub_cancel]
    exact perm_roots_children _ (n + 1) children

/-- The outermost rules and the rules of all lists of their own are all rules, each of them once. -/
theorem perm_roots_children (whole : Nesting) (n : Nat) (ts : List RuleTree) :
    (roots n ts ++ (allPlaces whole n ts).flatMap (·.children.getD [])).Perm
      (List.range' n (sizes ts)) := by
  cases ts with
  | nil => simp [allPlaces, sizes, roots]
  | cons t ts =>
    have ht := perm_children_places whole n t
    have hts := perm_roots_children whole (n + t.size) ts
    have hsize : t.size + sizes ts = t.size - 1 + sizes ts + 1 := by
      have := t.size_pos
      omega
    have hnext : n + t.size = n + 1 + (t.size - 1) := by
      have := t.size_pos
      omega
    rw [allPlaces, sizes, roots, List.flatMap_append, hsize, List.range'_succ,
      ← List.range'_append_1, ← hnext, List.cons_append]
    refine List.Perm.cons n ?_
    -- The outermost rules of the other trees change places with what is below the first root.
    exact (List.perm_append_comm_assoc _ _ _).trans (ht.append hts)

end

mutual

private theorem whole_of_mem_places {whole : Nesting} {n : Nat} {t : RuleTree} {p : Place}
    (hp : p ∈ t.places whole n) :
    p.whole = whole ∧ p.id = n ∨ ∃ q ∈ t.places whole n, ∃ ids, q.children = some ids ∧
      p.whole = .rules ids ∧ p.id ∈ ids := by
  cases t with
  | leaf entry flag =>
    rw [places, List.mem_singleton] at hp
    subst hp
    exact .inl ⟨rfl, rfl⟩
  | branch entry children =>
    rw [places] at hp ⊢
    rcases List.mem_cons.mp hp with rfl | hp
    · exact .inl ⟨rfl, rfl⟩
    · rcases whole_of_mem_allPlaces hp with ⟨hw, hid⟩ | ⟨q, hq, hlist⟩
      · exact .inr ⟨_, List.mem_cons_self, _, rfl, hw, hid⟩
      · exact .inr ⟨q, List.mem_cons_of_mem _ hq, hlist⟩

/-- What holds inside a rule that nests in the whole list it stands in is that list. -/
theorem whole_of_mem_allPlaces {whole : Nesting} {n : Nat} {ts : List RuleTree} {p : Place}
    (hp : p ∈ allPlaces whole n ts) :
    p.whole = whole ∧ p.id ∈ roots n ts ∨ ∃ q ∈ allPlaces whole n ts, ∃ ids,
      q.children = some ids ∧ p.whole = .rules ids ∧ p.id ∈ ids := by
  cases ts with
  | nil =>
    rw [allPlaces] at hp
    cases hp
  | cons t ts =>
    rw [allPlaces] at hp ⊢
    rcases List.mem_append.mp hp with hp | hp
    · rcases whole_of_mem_places hp with ⟨hw, rfl⟩ | ⟨q, hq, hlist⟩
      · exact .inl ⟨hw, List.mem_cons_self⟩
      · exact .inr ⟨q, List.mem_append_left _ hq, hlist⟩
    · rcases whole_of_mem_allPlaces hp with ⟨hw, hid⟩ | ⟨q, hq, hlist⟩
      · exact .inl ⟨hw, List.mem_cons_of_mem _ hid⟩
      · exact .inr ⟨q, List.mem_append_right _ hq, hlist⟩

end

private theorem ids_lists (forest : List RuleTree) :
    (lists forest).flatMap (·.ids) = roots 0 forest ++
      (allPlaces (.rules (roots 0 forest)) 0 forest).flatMap (·.children.getD []) := by
  rw [lists, List.flatMap_cons]
  congr 1
  generalize allPlaces (.rules (roots 0 forest)) 0 forest = places
  induction places with
  | nil => rfl
  | cons p places ih =>
    rw [List.filterMap_cons, List.flatMap_cons, ← ih]
    cases hc : p.children <;> simp [Place.ownList?, hc]

/-- Every rule stands in exactly one of the lists. -/
theorem existsUnique_list (forest : List RuleTree) {i : RuleId} (hi : i < sizes forest) :
    ∃! l, l ∈ lists forest ∧ i ∈ l.ids := by
  have hperm := perm_roots_children (.rules (roots 0 forest)) 0 forest
  rw [← ids_lists] at hperm
  have hmem : i ∈ (lists forest).flatMap (·.ids) :=
    hperm.mem_iff.mpr (List.mem_range'_1.mpr ⟨Nat.zero_le i, by simpa using hi⟩)
  have hdisjoint := (List.nodup_flatMap.mp (hperm.nodup_iff.mpr List.nodup_range')).2
  obtain ⟨l, hl, hil⟩ := List.mem_flatMap.mp hmem
  refine ⟨l, ⟨hl, hil⟩, ?_⟩
  rintro l' ⟨hl', hil'⟩
  by_contra hne
  have : Std.Symm (Function.onFun List.Disjoint SiblingList.ids) :=
    ⟨fun _ _ h => List.disjoint_symm h⟩
  exact hdisjoint.forall hl' hl hne hil' hil

end RuleTree

/-! ### Compiled sets -/

/-- A set lists two forests, first the rules for its language and then those for every language. -/
structure RuleSet.ListsForest (set : RuleSet) (own shared : List RuleTree) : Prop where
  topLevel_eq : set.topLevel = RuleTree.roots 0 (own ++ shared)
  /-- The rules stand in preorder. -/
  rules_eq : set.rules.toList = (RuleTree.allPlaces (.rules set.topLevel) 0 own ++
    RuleTree.allPlaces (.rules set.topLevel) (RuleTree.sizes own) shared).map Place.rule
  id_eq : ∀ i rule, set.rule? i = some rule → rule.id = i
  top_ascending : Ascending set.topLevel set.size
  nested_ascending : ∀ i rule ids, set.rule? i = some rule → rule.nesting = .rules ids →
    Ascending ids set.size
  /-- Every rule stands in exactly one list that the entries declare. -/
  one_list : ∀ i < set.size, ∃! l, l ∈ RuleTree.lists (own ++ shared) ∧ i ∈ l.ids
  /-- The list of a rule's own is what holds inside it, and its rules come later. -/
  parent : ∀ l ∈ RuleTree.lists (own ++ shared), ∀ p, l.parent = some p →
    (∃ rule, set.rule? p = some rule ∧ rule.nesting = .rules l.ids) ∧ ∀ i ∈ l.ids, p < i
  /-- A rule with delimiters that sets `descendants` and says nothing about nested rules nests in the
  whole list it stands in. -/
  whole : ∀ p ∈ RuleTree.allPlaces (.rules set.topLevel) 0 (own ++ shared),
    p.entry.kind.isDelimited = true → p.children = none → p.flag = none →
    p.entry.fields.descendants = some true → ∃ l ∈ RuleTree.lists (own ++ shared), p.id ∈ l.ids ∧
      ∃ rule, set.rule? p.id = some rule ∧ rule.nesting = .rules l.ids
  /-- The rules for the language have smaller numbers than those for every language. -/
  own_lt_shared : ∀ p ∈ RuleTree.allPlaces (.rules set.topLevel) 0 own,
    ∀ q ∈ RuleTree.allPlaces (.rules set.topLevel) (RuleTree.sizes own) shared, p.id < q.id

namespace RuleSet

private theorem rule?_of_mem_allPlaces {set : RuleSet} {whole : Nesting} {ts : List RuleTree}
    (h : set.rules.toList = (RuleTree.allPlaces whole 0 ts).map Place.rule) {p : Place}
    (hp : p ∈ RuleTree.allPlaces whole 0 ts) : set.rule? p.id = some p.rule := by
  rw [rule?, ← Array.getElem?_toList, h, List.getElem?_map, RuleTree.getElem?_allPlaces hp]
  rfl

/-- A compiled set lists the kept rules in preorder. -/
theorem compile_listsForest (language : Language) (specific wildcard : List RuleEntry) :
    (RuleSet.compile language specific wildcard).1.ListsForest
      (RuleEntry.trees language.key 0 specific) (RuleEntry.trees "*" 0 wildcard) := by
  have hwf := wf_compile language specific wildcard
  rw [compile_eq] at hwf ⊢
  dsimp only at hwf ⊢
  unfold forest at hwf ⊢
  generalize RuleEntry.trees language.key 0 specific = own at hwf ⊢
  generalize RuleEntry.trees "*" 0 wildcard = shared at hwf ⊢
  -- All that is left to know of the set are its outermost rules and the list of all rules.
  generalize hset : (⟨language, ((RuleTree.allPlaces (.rules (RuleTree.roots 0 (own ++ shared))) 0
    (own ++ shared)).map Place.rule).toArray, RuleTree.roots 0 (own ++ shared)⟩ : RuleSet) = set
    at hwf ⊢
  have htop : set.topLevel = RuleTree.roots 0 (own ++ shared) := by rw [← hset]
  have hrules : set.rules.toList =
      (RuleTree.allPlaces (.rules set.topLevel) 0 (own ++ shared)).map Place.rule := by rw [← hset]
  have hlists : RuleTree.lists (own ++ shared) = ⟨none, set.topLevel⟩ ::
      (RuleTree.allPlaces (.rules set.topLevel) 0 (own ++ shared)).filterMap Place.ownList? := by
    rw [htop, RuleTree.lists]
  have hparts : set.rules.toList = (RuleTree.allPlaces (.rules set.topLevel) 0 own ++
      RuleTree.allPlaces (.rules set.topLevel) (RuleTree.sizes own) shared).map Place.rule := by
    rw [hrules, RuleTree.allPlaces_append, Nat.zero_add]
  refine ⟨htop, hparts, fun i rule hr => (hwf.sound i rule hr).1, hwf.top,
    fun i rule ids hr hn => (hwf.sound i rule hr).2 ids hn, ?_, ?_, ?_, ?_⟩
  · intro i hi
    rw [RuleSet.size, ← Array.length_toList, hrules, List.length_map,
      RuleTree.length_allPlaces] at hi
    exact RuleTree.existsUnique_list _ hi
  · intro l hl p hp
    rw [hlists] at hl
    rcases List.mem_cons.mp hl with rfl | hl
    · cases hp
    · obtain ⟨q, hq, hown⟩ := List.mem_filterMap.mp hl
      obtain ⟨ids, hids, rfl⟩ := Option.map_eq_some_iff.mp hown
      cases hp
      refine ⟨⟨q.rule, rule?_of_mem_allPlaces hrules hq, ?_⟩, fun i hi =>
        RuleTree.lt_children_of_mem_allPlaces hq hids hi⟩
      simp [Place.rule, Place.nesting, hids]
  · intro p hp hkind hchildren hflag hdescendants
    have hr := rule?_of_mem_allPlaces hrules hp
    have hn : p.rule.nesting = p.whole := by
      simp [Place.rule, Place.nesting, KeptEntry.nesting, hkind, hchildren, hflag, hdescendants]
    rw [hlists]
    rcases RuleTree.whole_of_mem_allPlaces hp with ⟨hw, hid⟩ | ⟨q, hq, ids, hids, hw, hid⟩
    · exact ⟨_, List.mem_cons_self, htop ▸ hid, p.rule, hr, hn.trans hw⟩
    · have hown : q.ownList? = some ⟨some q.id, ids⟩ := by rw [Place.ownList?, hids]; rfl
      exact ⟨_, List.mem_cons_of_mem _ (List.mem_filterMap.mpr ⟨q, hq, hown⟩), hid, p.rule, hr,
        hn.trans hw⟩
  · intro p hp q hq
    have hp := (RuleTree.id_of_mem_allPlaces hp).2
    have hq := (RuleTree.id_of_mem_allPlaces hq).1
    rw [Nat.zero_add] at hp
    exact Nat.lt_of_lt_of_le hp hq

end RuleSet

end CodeFold
