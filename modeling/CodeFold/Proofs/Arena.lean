import CodeFold.Rule.Compile

/-!
# The numbers of compiled rules

Compiling an entry only adds rules behind those that are there, so the numbers it returns lie
between the sizes before and after. Lists of numbers are strictly increasing and stay below the
size of the set; in particular a set refers to no rule that it does not have.
Specification: §9.
-/

namespace CodeFold

/-- A strictly increasing list of numbers below a bound. -/
structure Ascending (ids : List RuleId) (size : Nat) : Prop where
  sorted : ids.Pairwise (· < ·)
  lt : ∀ i ∈ ids, i < size

/-- The numbers in a nesting are ascending. -/
def Nesting.Within (nesting : Nesting) (size : Nat) : Prop :=
  ∀ ids, nesting = .rules ids → Ascending ids size

/-- Every rule has its own place as its number and lists ascending numbers of rules. -/
def Sound (rules : Array Rule) : Prop :=
  ∀ (i : Nat) (r : Rule), rules[i]? = some r → r.id = i ∧ r.nesting.Within rules.size

/-- A set whose rules are sound and whose outermost rules are ascending. -/
structure RuleSet.WF (s : RuleSet) : Prop where
  sound : Sound s.rules
  top : Ascending s.topLevel s.size

private theorem Ascending.mono {ids : List RuleId} {m n : Nat} (h : Ascending ids m) (hmn : m ≤ n) :
    Ascending ids n :=
  ⟨h.sorted, fun i hi => Nat.lt_of_lt_of_le (h.lt i hi) hmn⟩

/-- Numbers in ascending order differ. -/
theorem Ascending.nodup {ids : List RuleId} {n : Nat} (h : Ascending ids n) : ids.Nodup :=
  h.sorted.imp Nat.ne_of_lt

private theorem Ascending.nil (n : Nat) : Ascending [] n := ⟨List.Pairwise.nil, by simp⟩

private theorem Nesting.Within.mono {nesting : Nesting} {m n : Nat} (h : nesting.Within m)
    (hmn : m ≤ n) : nesting.Within n := fun ids hi => (h ids hi).mono hmn

private theorem Nesting.within_inherit (n : Nat) : Nesting.inherit.Within n := by
  intro ids h
  cases h

private theorem Nesting.within_sealed (n : Nat) : Nesting.sealed.Within n := by
  intro ids h
  cases h

private theorem Nesting.within_rules {ids : List RuleId} {n : Nat} (h : Ascending ids n) :
    (Nesting.rules ids).Within n := by
  intro ids' h'
  cases h'
  exact h

namespace Build

/-- A rule that is added comes last. -/
@[simp] theorem rules_push (b : Build) (r : Rule) : (b.push r).rules = b.rules.push r := rfl

/-- Setting what is nested in a rule adds no rule. -/
@[simp] theorem size_setNesting (b : Build) (nesting : Nesting) (id : RuleId) :
    (b.setNesting nesting id).rules.size = b.rules.size := by
  simp [setNesting]

/-- A report adds no rule. -/
@[simp] theorem rules_reportDescendants (b : Build) (f : RuleFields) :
    (b.reportDescendants f).rules = b.rules := by
  unfold reportDescendants
  split <;> rfl

/-- A rule that gets the next number keeps the rules sound. -/
theorem sound_push {b : Build} (h : Sound b.rules) (f : RuleFields) (label : String)
    (kind : RuleKind) : Sound (b.push (f.rule b.rules.size label kind)).rules := by
  intro i r hr
  rw [rules_push, Array.getElem?_push] at hr
  rw [rules_push, Array.size_push]
  split at hr
  · next hi =>
    cases hr
    exact ⟨hi.symm, Nesting.within_inherit _⟩
  · obtain ⟨hid, hn⟩ := h i r hr
    exact ⟨hid, hn.mono (Nat.le_succ _)⟩

/-- Setting a nesting that stays within the rules keeps them sound. -/
theorem sound_setNesting {b : Build} (h : Sound b.rules) {nesting : Nesting}
    (hn : nesting.Within b.rules.size) (id : RuleId) : Sound (b.setNesting nesting id).rules := by
  intro i r hr
  rw [size_setNesting]
  simp only [setNesting, Array.getElem?_modify] at hr
  split at hr
  · obtain ⟨r', hr', rfl⟩ := Option.map_eq_some_iff.mp hr
    exact ⟨(h i r' hr').1, hn⟩
  · exact h i r hr

end Build

namespace Siblings

private theorem size_close (s : Siblings) (b : Build) : (s.close b).rules.size = b.rules.size := by
  unfold close
  generalize s.selfNested = self
  induction self generalizing b with
  | nil => rfl
  | cons id self ih => rw [List.foldl_cons, ih, Build.size_setNesting]

/-- Rules that refer to the whole of an ascending list stay sound. -/
theorem sound_close {s : Siblings} {b : Build} (h : Sound b.rules)
    (hs : Ascending s.ids b.rules.size) : Sound (s.close b).rules := by
  unfold close
  generalize s.selfNested = self
  induction self generalizing b with
  | nil => exact h
  | cons id self ih =>
    rw [List.foldl_cons]
    apply ih (Build.sound_setNesting h (Nesting.within_rules hs) id)
    rw [Build.size_setNesting]
    exact hs

end Siblings

/-- What compiling entries from `b` to `b'` gives: rules are only added, the kept numbers are those
of added rules and in order, the rules that nest in the whole list are among them, and soundness is
kept. -/
structure Extends (b : Build) (s : Siblings) (b' : Build) : Prop where
  size_le : b.rules.size ≤ b'.rules.size
  ascending : Ascending s.ids b'.rules.size
  ge : ∀ i ∈ s.ids, b.rules.size ≤ i
  self : ∀ i ∈ s.selfNested, i ∈ s.ids
  sound : Sound b.rules → Sound b'.rules

namespace Extends

private theorem refl (b b' : Build) (h : b'.rules = b.rules) : Extends b .none b' where
  size_le := Nat.le_of_eq (by rw [h])
  ascending := .nil _
  ge := by simp [Siblings.none]
  self := by simp [Siblings.none]
  sound := by rw [h]; exact id

/-- Entries that are compiled one after the other give one longer list. -/
theorem append {b b' b'' : Build} {s t : Siblings} (hs : Extends b s b') (ht : Extends b' t b'') :
    Extends b (s.append t) b'' where
  size_le := Nat.le_trans hs.size_le ht.size_le
  ascending := by
    refine ⟨List.pairwise_append.mpr ⟨hs.ascending.sorted, ht.ascending.sorted, ?_⟩, ?_⟩
    · intro i hi j hj
      exact Nat.lt_of_lt_of_le (hs.ascending.lt i hi) (ht.ge j hj)
    · intro i hi
      rcases List.mem_append.mp hi with hi | hi
      · exact Nat.lt_of_lt_of_le (hs.ascending.lt i hi) ht.size_le
      · exact ht.ascending.lt i hi
  ge := by
    intro i hi
    rcases List.mem_append.mp hi with hi | hi
    · exact hs.ge i hi
    · exact Nat.le_trans hs.size_le (ht.ge i hi)
  self := by
    intro i hi
    rcases List.mem_append.mp hi with hi | hi
    · exact List.mem_append.mpr (.inl (hs.self i hi))
    · exact List.mem_append.mpr (.inr (ht.self i hi))
  sound := fun h => ht.sound (hs.sound h)

/-- A rule that is added and whose nesting is then set is the one number that is kept. -/
theorem single {b b' : Build} (hle : b.rules.size < b'.rules.size)
    (hs : Sound b.rules → Sound b'.rules) (self : Bool) :
    Extends b ⟨[b.rules.size], if self then [b.rules.size] else []⟩ b' where
  size_le := Nat.le_of_lt hle
  ascending := ⟨List.pairwise_singleton _ _, by simpa using hle⟩
  ge := by simp
  self := by cases self <;> simp
  sound := hs

end Extends

mutual

private theorem extends_compileEntry (label : String) (entry : RuleEntry) (b : Build) :
    Extends b (compileEntry label entry b).1 (compileEntry label entry b).2 := by
  cases entry with
  | malformed value fault =>
    rw [compileEntry]
    exact .refl b _ rfl
  | rule fields nested =>
    rw [compileEntry]
    cases compileKind fields with
    | error e => exact .refl b _ rfl
    | ok kind =>
      dsimp only
      have hpush (h : Sound b.rules) :=
        Build.sound_push h fields label kind
      split
      · -- The nested rules are added behind the rule, and its nesting is set when they are known.
        have hn := within_compileNested label fields.descendants nested
          ((b.push (fields.rule b.rules.size label kind)).reportDescendants fields)
        generalize compileNested label fields.descendants nested
          ((b.push (fields.rule b.rules.size label kind)).reportDescendants fields) = result at hn
        obtain ⟨nesting, self, b'⟩ := result
        obtain ⟨hle, hw, hs⟩ := hn
        rw [Build.rules_reportDescendants, Build.rules_push, Array.size_push] at hle
        apply Extends.single
        · rw [Build.size_setNesting]
          exact hle
        · intro h
          refine Build.sound_setNesting (hs ?_) hw _
          rw [Build.rules_reportDescendants]
          exact hpush h
      · refine Extends.single ?_ ?_ false
        · simp
        · intro h
          rw [Build.rules_reportDescendants]
          exact hpush h

/-- Compiling what is nested in a rule takes no rule away and refers to known rules only. -/
theorem within_compileNested (label : String) (descendants : Option Bool) (nested : Nested)
    (b : Build) :
    let result := compileNested label descendants nested b
    b.rules.size ≤ result.2.2.rules.size ∧ result.1.Within result.2.2.rules.size ∧
      (Sound b.rules → Sound result.2.2.rules) := by
  cases nested with
  | unset =>
    cases descendants with
    | none =>
      rw [compileNested]
      exact ⟨Nat.le_refl _, Nesting.within_inherit _, id⟩
    | some flag =>
      cases flag with
      | false =>
        rw [compileNested]
        exact ⟨Nat.le_refl _, Nesting.within_sealed _, id⟩
      | true =>
        rw [compileNested]
        exact ⟨Nat.le_refl _, Nesting.within_inherit _, id⟩
  | flag inherits =>
    cases inherits with
    | false =>
      rw [compileNested]
      exact ⟨Nat.le_refl _, Nesting.within_sealed _, id⟩
    | true =>
      rw [compileNested]
      exact ⟨Nat.le_refl _, Nesting.within_inherit _, id⟩
  | rules list =>
    rw [compileNested]
    have hl := extends_compileList (label ++ ".nested") list b
    generalize compileList (label ++ ".nested") list b = result at hl
    obtain ⟨siblings, b'⟩ := result
    dsimp only at hl ⊢
    rw [Siblings.size_close]
    exact ⟨hl.size_le, Nesting.within_rules hl.ascending,
      fun h => Siblings.sound_close (hl.sound h) hl.ascending⟩

/-- The rules of a list are compiled behind the rules so far. -/
theorem extends_compileList (stem : String) (list : RuleList) (b : Build) :
    Extends b (compileList stem list b).1 (compileList stem list b).2 := by
  cases list with
  | one entry =>
    rw [compileList]
    exact extends_compileEntry (entry.label stem 0) entry b
  | many entries =>
    rw [compileList]
    exact extends_compileEntries stem 0 entries b

/-- The rules of some entries are compiled behind the rules so far. -/
theorem extends_compileEntries (stem : String) (i : Nat) (entries : List RuleEntry) (b : Build) :
    Extends b (compileEntries stem i entries b).1 (compileEntries stem i entries b).2 := by
  cases entries with
  | nil =>
    rw [compileEntries]
    exact .refl b b rfl
  | cons entry entries =>
    rw [compileEntries]
    exact (extends_compileEntry (entry.label stem i) entry b).append
      (extends_compileEntries stem (i + 1) entries _)

end

/-- Every set that compiling gives is well-formed. -/
theorem RuleSet.wf_compile (language : Language) (specific wildcard : List RuleEntry) :
    (RuleSet.compile language specific wildcard).1.WF := by
  have hf := extends_compileEntries language.key 0 specific Build.empty
  have hw := extends_compileEntries "*" 0 wildcard
    (compileEntries language.key 0 specific Build.empty).2
  have h := hf.append hw
  have hs := h.sound (by simp [Sound, Build.empty])
  refine ⟨Siblings.sound_close hs h.ascending, ?_⟩
  simp only [RuleSet.compile, RuleSet.size, Siblings.size_close]
  exact h.ascending

end CodeFold
