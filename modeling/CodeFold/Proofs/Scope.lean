import CodeFold.Scan.Scope
import Mathlib.Data.List.Induction

/-!
# The scope of open regions

`Scope.ofEntries` computes what holds inside a list of open regions from the regions alone. Its
reachable rules are those that the regions list, innermost first, followed by the outermost rules,
each where it comes first. The active rules are the same unless the innermost region is sealed.
Its ends are the highest positions of the keys.
-/

namespace CodeFold

/-! ### Lists without repetition -/

/-- Leaving repeats out keeps the members. -/
@[simp] theorem mem_unique {id : RuleId} {ids : List RuleId} : id ∈ unique ids ↔ id ∈ ids := by
  induction ids with
  | nil => simp [unique]
  | cons a ids ih =>
    by_cases h : id = a
    · simp [unique, h]
    · simp [unique, h, ih]

private theorem nodup_unique (ids : List RuleId) : (unique ids).Nodup := by
  induction ids with
  | nil => exact List.nodup_nil
  | cons a ids ih =>
    rw [unique]
    apply List.nodup_cons.mpr
    refine ⟨?_, ih.filter _⟩
    intro ha
    simp at ha

private theorem unique_of_nodup {ids : List RuleId} (h : ids.Nodup) : unique ids = ids := by
  induction ids with
  | nil => rfl
  | cons a ids ih =>
    obtain ⟨ha, hn⟩ := List.nodup_cons.mp h
    rw [unique, ih hn]
    congr 1
    apply List.filter_eq_self.mpr
    intro b hb
    have hne : b ≠ a := fun he => ha (he ▸ hb)
    simpa using hne

/-- Leaving repeats out and filtering can be exchanged. -/
theorem unique_filter (p : RuleId → Bool) (ids : List RuleId) :
    unique (ids.filter p) = (unique ids).filter p := by
  induction ids with
  | nil => rfl
  | cons a ids ih =>
    rw [unique, List.filter_cons, List.filter_cons]
    split
    · rw [unique, ih, List.filter_filter, List.filter_filter]
      simp only [Bool.and_comm]
    · next hp =>
      rw [ih, List.filter_filter]
      apply List.filter_congr
      intro b _
      by_cases hb : b = a
      · subst hb
        simp [hp]
      · simp [hb]

/-- Dropping repetitions in the second of two lists first makes no difference. -/
theorem unique_append_unique (a b : List RuleId) : unique (a ++ unique b) = unique (a ++ b) := by
  induction a with
  | nil => exact unique_of_nodup (nodup_unique b)
  | cons x a ih => rw [List.cons_append, List.cons_append, unique, unique, ih]

/-- Dropping repetitions keeps what comes first. -/
theorem unique_eq_eraseDups (ids : List RuleId) : unique ids = ids.eraseDups := by
  induction hn : ids.length using Nat.strongRecOn generalizing ids with
  | ind n ih =>
    cases ids with
    | nil => rfl
    | cons a ids =>
      have hl : (ids.filter fun b => !b == a).length < n := by
        have hf := List.length_filter_le (fun b => !b == a) ids
        rw [List.length_cons] at hn
        omega
      rw [List.eraseDups_cons, ← ih _ hl _ rfl, unique_filter, unique]
      congr 1
      apply List.filter_congr
      intro b _
      by_cases hb : b = a <;> simp [hb]

/-! ### Entries and the scope over them -/

namespace OpenEntry

/-- The rules that an entry lists for its region. -/
def listed (rules : RuleSet) (e : OpenEntry) : List RuleId :=
  match (rules.rule? e.rule).map Rule.nesting with
  | some (.rules ids) => ids
  | _ => []

/-- Whether only the end of an entry is looked for inside it. -/
def isSealed (rules : RuleSet) (e : OpenEntry) : Bool :=
  (rules.rule? e.rule).any (·.nesting = .sealed)

/-- What the ends of an entry are searched by. -/
def key? (rules : RuleSet) (e : OpenEntry) : Option EndKey :=
  (rules.rule? e.rule).bind (endKey? · e.closing)

end OpenEntry

namespace Scope

/-- What holds inside an entry at position `index` of the stack. -/
def enterEntry (rules : RuleSet) (below : Scope) (index : Nat) (e : OpenEntry) : Scope :=
  match rules.rule? e.rule with
  | none => below
  | some rule => below.enter rule (endKey? rule e.closing) index

/-- What holds inside some entries, the outermost first, computed from scratch. -/
def ofEntries (rules : RuleSet) (entries : List OpenEntry) : Scope :=
  entries.zipIdx.foldl (fun below (e, index) => below.enterEntry rules index e) (base rules)

variable {rules : RuleSet}

@[simp] private theorem ofEntries_nil : ofEntries rules [] = base rules := rfl

/-- The scope over some entries is entered entry by entry. -/
@[simp] theorem ofEntries_append_singleton (es : List OpenEntry) (e : OpenEntry) :
    ofEntries rules (es ++ [e]) = (ofEntries rules es).enterEntry rules es.length e := by
  simp [ofEntries, List.zipIdx_append]

/-- The rules that some entries list, innermost first, and after them the outermost rules. -/
def listing (rules : RuleSet) (entries : List OpenEntry) : List RuleId :=
  (entries.reverse.flatMap (·.listed rules) ++ rules.topLevel).eraseDups

private theorem listing_append_singleton (es : List OpenEntry) (e : OpenEntry) :
    listing rules (es ++ [e]) = unique (e.listed rules ++ listing rules es) := by
  simp only [listing, ← unique_eq_eraseDups, unique_append_unique, List.reverse_append,
    List.reverse_singleton, List.singleton_append, List.flatMap_cons, List.append_assoc]

/-- The rules that are listed are those of the entries and those of the top level. -/
theorem mem_listing {id : RuleId} {es : List OpenEntry} :
    id ∈ listing rules es ↔ (∃ e ∈ es, id ∈ e.listed rules) ∨ id ∈ rules.topLevel := by
  simp [listing, ← unique_eq_eraseDups]

/-- No rule is listed twice. -/
theorem nodup_listing (es : List OpenEntry) : (listing rules es).Nodup := by
  rw [listing, ← unique_eq_eraseDups]
  exact nodup_unique _

/-- Entering a region puts the rules that it lists in front of what can be reached. -/
theorem reachable_enterEntry {below : Scope} (hn : below.reachable.Nodup) (index : Nat)
    (e : OpenEntry) :
    (below.enterEntry rules index e).reachable = unique (e.listed rules ++ below.reachable) := by
  unfold enterEntry OpenEntry.listed
  cases rules.rule? e.rule with
  | none => exact (unique_of_nodup hn).symm
  | some rule =>
    simp only [enter, Option.map_some]
    cases rule.nesting with
    | inherit => exact (unique_of_nodup hn).symm
    | sealed => exact (unique_of_nodup hn).symm
    | rules ids => rfl

/-- What can be reached inside some entries. -/
theorem reachable_ofEntries (ht : rules.topLevel.Nodup) (es : List OpenEntry) :
    (ofEntries rules es).reachable = listing rules es := by
  induction es using List.reverseRecOn with
  | nil =>
    rw [listing, ← unique_eq_eraseDups]
    exact (unique_of_nodup ht).symm
  | append_singleton es e ih =>
    have hn : (ofEntries rules es).reachable.Nodup := by
      rw [ih]
      exact nodup_listing es
    rw [ofEntries_append_singleton, reachable_enterEntry hn, listing_append_singleton, ih]

/-- As long as no entry is sealed, all that can be reached is active. -/
theorem active_eq_reachable {es : List OpenEntry} (h : ∀ e ∈ es, e.isSealed rules = false) :
    (ofEntries rules es).active = (ofEntries rules es).reachable := by
  induction es using List.reverseRecOn with
  | nil => rfl
  | append_singleton es e ih =>
    have hi := ih (fun x hx => h x (List.mem_append_left _ hx))
    have he := h e (by simp)
    rw [ofEntries_append_singleton]
    unfold OpenEntry.isSealed at he
    unfold enterEntry
    cases hr : rules.rule? e.rule with
    | none => exact hi
    | some rule =>
      simp only [enter]
      cases hn : rule.nesting with
      | inherit => exact hi
      | sealed => simp [hr, hn] at he
      | rules ids => simp only [hi]

/-- Inside a sealed entry nothing is active. -/
theorem active_of_isSealed {es : List OpenEntry} {e : OpenEntry} (he : e.isSealed rules = true) :
    (ofEntries rules (es ++ [e])).active = [] := by
  rw [ofEntries_append_singleton]
  unfold OpenEntry.isSealed at he
  unfold enterEntry
  cases hr : rules.rule? e.rule with
  | none => simp [hr] at he
  | some rule =>
    have hn : rule.nesting = .sealed := by simpa [hr] using he
    simp only [enter, hn]

/-- A sealed entry changes nothing about what can be reached. -/
theorem reachable_of_isSealed {es : List OpenEntry} {e : OpenEntry} (he : e.isSealed rules = true) :
    (ofEntries rules (es ++ [e])).reachable = (ofEntries rules es).reachable := by
  rw [ofEntries_append_singleton]
  unfold OpenEntry.isSealed at he
  unfold enterEntry
  cases hr : rules.rule? e.rule with
  | none => simp [hr] at he
  | some rule =>
    have hn : rule.nesting = .sealed := by simpa [hr] using he
    simp only [enter, hn]

/-! ### Ends -/

/-- Position `i` is the highest one whose entry has key `k`. -/
def Highest (rules : RuleSet) (es : List OpenEntry) (k : EndKey) (i : Nat) : Prop :=
  (∃ e, es[i]? = some e ∧ e.key? rules = some k) ∧
    ∀ j e, i < j → es[j]? = some e → e.key? rules ≠ some k

/-- The highest entry with a key is one of the entries. -/
theorem Highest.lt {es : List OpenEntry} {k : EndKey} {i : Nat} (h : Highest rules es k i) :
    i < es.length := by
  obtain ⟨⟨e, he, _⟩, _⟩ := h
  exact (List.getElem?_eq_some_iff.mp he).1

/-- The highest position is the last one if its entry has the key, and else the highest one below.
-/
theorem highest_append_singleton {es : List OpenEntry} {e : OpenEntry} {k : EndKey} {i : Nat} :
    Highest rules (es ++ [e]) k i ↔
      (e.key? rules = some k ∧ i = es.length) ∨ (e.key? rules ≠ some k ∧ Highest rules es k i) := by
  constructor
  · rintro ⟨⟨e', he', hk⟩, hj⟩
    rcases Nat.lt_trichotomy i es.length with hi | hi | hi
    · refine .inr ⟨hj es.length e hi (by simp), ⟨e', ?_, hk⟩, ?_⟩
      · rwa [List.getElem?_append_left hi] at he'
      · intro j x hij hx
        apply hj j x hij
        rwa [List.getElem?_append_left (List.getElem?_eq_some_iff.mp hx).1]
    · subst hi
      have hee : e = e' := by simpa using he'
      exact .inl ⟨hee ▸ hk, rfl⟩
    · have hl := (List.getElem?_eq_some_iff.mp he').1
      simp only [List.length_append, List.length_singleton] at hl
      omega
  · rintro (⟨hk, rfl⟩ | ⟨hk, h⟩)
    · refine ⟨⟨e, by simp, hk⟩, ?_⟩
      intro j x hj hx
      have hl := (List.getElem?_eq_some_iff.mp hx).1
      simp only [List.length_append, List.length_singleton] at hl
      omega
    · have hi := h.lt
      obtain ⟨⟨e', he', hk'⟩, hj⟩ := h
      refine ⟨⟨e', by rwa [List.getElem?_append_left hi], hk'⟩, ?_⟩
      intro j x hij hx
      by_cases hl : j < es.length
      · exact hj j x hij (by rwa [List.getElem?_append_left hl] at hx)
      · have hje : j = es.length := by
          have hl' := (List.getElem?_eq_some_iff.mp hx).1
          simp only [List.length_append, List.length_singleton] at hl'
          omega
        subst hje
        have hxe : e = x := by simpa using hx
        exact hxe ▸ hk

/-- The ends inside an entry that is not sealed: its own, and those below with other keys. -/
theorem ends_enterEntry {below : Scope} {e : OpenEntry} {rule : Rule} (index : Nat)
    (hr : rules.rule? e.rule = some rule) (he : e.isSealed rules = false) :
    (below.enterEntry rules index e).ends =
      (e.key? rules).toList.map (·, index) ++
        below.ends.filter fun (k, _) => e.key? rules ≠ some k := by
  have hn : rule.nesting ≠ .sealed := by simpa [OpenEntry.isSealed, hr] using he
  simp only [enterEntry, OpenEntry.key?, hr, enter, enterEnds, Option.bind_some]

/-- Inside a sealed entry only its own end is looked for. -/
theorem ends_of_isSealed {es : List OpenEntry} {e : OpenEntry} (he : e.isSealed rules = true) :
    (ofEntries rules (es ++ [e])).ends = (e.key? rules).toList.map (·, es.length) := by
  rw [ofEntries_append_singleton]
  unfold OpenEntry.isSealed at he
  unfold enterEntry OpenEntry.key?
  cases hr : rules.rule? e.rule with
  | none => simp [hr] at he
  | some rule =>
    have hn : rule.nesting = .sealed := by simpa [hr] using he
    simp only [enter, enterEnds, hn, Option.bind_some]

/-- The ends of entries none of which is sealed are the highest positions of all keys. -/
theorem mem_ends_ofEntries {es : List OpenEntry}
    (hk : ∀ e ∈ es, ∃ rule, rules.rule? e.rule = some rule)
    (hs : ∀ e ∈ es, e.isSealed rules = false) {k : EndKey} {i : Nat} :
    (k, i) ∈ (ofEntries rules es).ends ↔ Highest rules es k i := by
  induction es using List.reverseRecOn with
  | nil => simp [base, Highest]
  | append_singleton es e ih =>
    have hi := ih (fun x hx => hk x (List.mem_append_left _ hx))
      (fun x hx => hs x (List.mem_append_left _ hx))
    obtain ⟨rule, hr⟩ := hk e (by simp)
    rw [ofEntries_append_singleton, ends_enterEntry es.length hr (hs e (by simp)),
      highest_append_singleton, ← hi]
    simp only [List.mem_append, List.mem_map, Option.mem_toList, List.mem_filter, Prod.mk.injEq,
      decide_eq_true_eq]
    constructor
    · rintro (⟨k', hk', rfl, rfl⟩ | ⟨hm, hne⟩)
      · exact .inl ⟨hk', rfl⟩
      · exact .inr ⟨hne, hm⟩
    · rintro (⟨hk', rfl⟩ | ⟨hne, hm⟩)
      · exact .inl ⟨k, hk', rfl, rfl⟩
      · exact .inr ⟨hm, hne⟩

/-- Some position is the highest one of every key that an entry has. -/
theorem exists_highest {es : List OpenEntry} {e : OpenEntry} {k : EndKey} (he : e ∈ es)
    (hk : e.key? rules = some k) : ∃ i, Highest rules es k i := by
  induction es using List.reverseRecOn with
  | nil => simp at he
  | append_singleton es x ih =>
    by_cases hx : x.key? rules = some k
    · exact ⟨es.length, highest_append_singleton.mpr (.inl ⟨hx, rfl⟩)⟩
    · rcases List.mem_append.mp he with he | he
      · obtain ⟨i, hi⟩ := ih he
        exact ⟨i, highest_append_singleton.mpr (.inr ⟨hx, hi⟩)⟩
      · have hex : e = x := by simpa using he
        exact absurd (hex ▸ hk) hx

/-- The positions of the ends go down. -/
theorem ends_ofEntries_descending {es : List OpenEntry}
    (hk : ∀ e ∈ es, ∃ rule, rules.rule? e.rule = some rule)
    (hs : ∀ e ∈ es, e.isSealed rules = false) :
    (ofEntries rules es).ends.Pairwise (fun a b => b.2 < a.2 ∧ a.1 ≠ b.1) := by
  induction es using List.reverseRecOn with
  | nil => exact List.Pairwise.nil
  | append_singleton es e ih =>
    have hk' : ∀ x ∈ es, ∃ rule, rules.rule? x.rule = some rule :=
      fun x hx => hk x (List.mem_append_left _ hx)
    have hs' : ∀ x ∈ es, x.isSealed rules = false := fun x hx => hs x (List.mem_append_left _ hx)
    obtain ⟨rule, hr⟩ := hk e (by simp)
    rw [ofEntries_append_singleton, ends_enterEntry es.length hr (hs e (by simp))]
    refine List.pairwise_append.mpr ⟨?_, (ih hk' hs').filter _, ?_⟩
    · cases e.key? rules <;> simp
    · rintro ⟨k, i⟩ hki ⟨k', i'⟩ hki'
      simp only [List.mem_map, Option.mem_toList, Prod.mk.injEq, List.mem_filter,
        decide_eq_true_eq] at hki hki'
      obtain ⟨k₀, hk₀, rfl, rfl⟩ := hki
      refine ⟨((mem_ends_ofEntries hk' hs').mp hki'.1).lt, ?_⟩
      rintro rfl
      exact hki'.2 hk₀

end Scope

end CodeFold
