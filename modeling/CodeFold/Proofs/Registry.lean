import CodeFold.Config.Decode
import CodeFold.Config.Registry
import CodeFold.Proofs.SortedMap

/-!
# The registry agrees with compiling on demand

The registry holds a set for each language that some key names, and the set of the rules for every
language as the fallback. Whatever language is asked for, its set is the one that compiling for that
language gives, up to the language it is stored under. In a valid configuration every entry belongs to
exactly one of the languages with rules of their own or to every language.
Specification: §11.3.
-/

namespace CodeFold

/-- An entry of a configuration, with the key that it stands under and its place there. -/
structure PlacedEntry where
  key : String
  index : Nat
  entry : RuleEntry

/-- The entries under a key. -/
def PlacedEntry.under (key : String) (list : RuleList) : List PlacedEntry :=
  list.entries.zipIdx.map fun x => ⟨key, x.2, x.1⟩

namespace Config

variable {c : Config} {l : Language}

/-- All entries of a configuration. -/
def entries (c : Config) : List PlacedEntry :=
  c.rules.flatMap fun x => PlacedEntry.under x.1 x.2

/-- The entries whose key names a language. -/
def entriesFor (c : Config) (l : Language) : List PlacedEntry :=
  c.entries.filter fun x => Language.ofString? x.key = some l

private theorem map_entry_under (key : String) (list : RuleList) :
    (PlacedEntry.under key list).map (·.entry) = list.entries := by
  rw [PlacedEntry.under, List.map_map]
  exact List.zipIdx_map_fst 0 list.entries

private theorem key_of_mem_under {key : String} {list : RuleList} {x : PlacedEntry}
    (h : x ∈ PlacedEntry.under key list) : x.key = key := by
  obtain ⟨_, _, rfl⟩ := List.mem_map.mp h
  rfl

/-- The key decides on all entries under it at once. -/
theorem filter_under (l : Language) (key : String) (list : RuleList) :
    (PlacedEntry.under key list).filter (fun x => Language.ofString? x.key = some l) =
      if Language.ofString? key = some l then PlacedEntry.under key list else [] := by
  split
  · next h =>
    apply List.filter_eq_self.mpr
    intro x hx
    simp [key_of_mem_under hx, h]
  · next h =>
    apply List.filter_eq_nil_iff.mpr
    intro x hx
    simp [key_of_mem_under hx, h]

private theorem rulesFor_eq_entriesFor (c : Config) (l : Language) :
    c.rulesFor l = (c.entriesFor l).map (·.entry) := by
  unfold rulesFor entriesFor entries
  induction c.rules with
  | nil => rfl
  | cons x rest ih =>
    rw [List.flatMap_cons, List.filter_append, List.map_append, ← ih, filter_under]
    by_cases h : Language.ofString? x.1 = some l <;> simp [h, map_entry_under]

private theorem mem_keys_of_mem_entries {x : PlacedEntry} (h : x ∈ c.entries) :
    x.key ∈ c.rules.keys := by
  obtain ⟨pair, hpair, hx⟩ := List.mem_flatMap.mp h
  rw [key_of_mem_under hx]
  exact List.mem_map_of_mem hpair

/-- A language has rules of its own if a key names it and it does not stand for every language. -/
theorem mem_ruleLanguages : l ∈ c.ruleLanguages ↔
    l ≠ .wildcard ∧ ∃ key ∈ c.rules.keys, Language.ofString? key = some l := by
  simp [ruleLanguages, SortedMap.mem_keys_ofList, Language.isWildcard, and_comm]

private theorem isSome_of_fault?_eq_none (h : c.fault? = none) {key : String}
    (hkey : key ∈ c.rules.keys) : (Language.ofString? key).isSome = true := by
  have hfind : c.rules.keys.find? (fun key => (Language.ofString? key).isNone) = none := by
    cases hf : c.rules.keys.find? (fun key => (Language.ofString? key).isNone) with
    | none => rfl
    | some key => simp [fault?, hf] at h
  simpa [Option.isSome_iff_ne_none] using List.find?_eq_none.mp hfind key hkey

private theorem rulesFor_of_not_mem (h : l ∉ c.ruleLanguages) (hl : l ≠ .wildcard) :
    c.rulesFor l = [] := by
  rw [rulesFor_eq_entriesFor, List.map_eq_nil_iff]
  apply List.filter_eq_nil_iff.mpr
  intro x hx hkey
  exact h (mem_ruleLanguages.mpr ⟨hl, x.key, mem_keys_of_mem_entries hx, by simpa using hkey⟩)

/-- Without rules of its own a language has those for every language, and what they report. -/
theorem compile_of_not_mem (h : l ∉ c.ruleLanguages) :
    c.compile .wildcard = ({ (c.compile l).1 with language := .wildcard }, (c.compile l).2) := by
  have hspecific : (if l.isWildcard then [] else c.rulesFor l) = [] := by
    by_cases hl : l = .wildcard
    · simp [hl, Language.isWildcard]
    · simp [Language.isWildcard, hl, rulesFor_of_not_mem h hl]
  simp only [compile, hspecific]
  simp [Language.isWildcard, RuleSet.compile, compileEntries]

end Config

namespace Registry

variable (c : Config)

private theorem lookup_sets (l : Language) : (build c).1.sets.lookup l =
    if l ∈ c.ruleLanguages then some (c.compile l).1 else none := by
  simp only [build, List.map_map, Function.comp_def]
  induction c.ruleLanguages with
  | nil => rfl
  | cons x rest ih =>
    rw [List.map_cons, SortedMap.lookup_cons, ih]
    by_cases h : l = x <;> simp [h]

private theorem get_some (l : Language) : (build c).1.get (some l) =
    { (c.compile l).1 with language := if l ∈ c.ruleLanguages then l else .wildcard } := by
  rw [get, Option.bind_some, lookup_sets]
  by_cases h : l ∈ c.ruleLanguages
  · simp only [if_pos h]
    rfl
  · simp only [if_neg h]
    exact congrArg Prod.fst (c.compile_of_not_mem h)

/-- For every language the registry has the set that compiling for it gives, up to the language it is
stored under, and without a language that for every language. Every entry of a valid configuration
belongs to exactly one of the languages with rules of their own or to every language. -/
theorem get_build (valid : c.fault? = none) :
    (∀ l, (build c).1.get (some l) =
      { (c.compile l).1 with language := if l ∈ c.ruleLanguages then l else .wildcard }) ∧
    (build c).1.get none = (c.compile .wildcard).1 ∧
    (∀ l, c.rulesFor l = (c.entriesFor l).map (·.entry)) ∧
    ∀ x ∈ c.entries, ∃! l, l ∈ .wildcard :: c.ruleLanguages ∧ x ∈ c.entriesFor l := by
  refine ⟨get_some c, rfl, c.rulesFor_eq_entriesFor, ?_⟩
  intro x hx
  have hkey := Config.mem_keys_of_mem_entries hx
  obtain ⟨l, hl⟩ := Option.isSome_iff_exists.mp (Config.isSome_of_fault?_eq_none valid hkey)
  refine ⟨l, ⟨?_, List.mem_filter.mpr ⟨hx, by simp [hl]⟩⟩, ?_⟩
  · by_cases hw : l = .wildcard
    · exact hw ▸ List.mem_cons_self
    · exact List.mem_cons_of_mem _ (Config.mem_ruleLanguages.mpr ⟨hw, x.key, hkey, hl⟩)
  · rintro l' ⟨_, hx'⟩
    have hl' : Language.ofString? x.key = some l' := by simpa using (List.mem_filter.mp hx').2
    rw [hl] at hl'
    exact (Option.some.inj hl').symm

end Registry

/-- A configuration with two keys for one language and one for every language. -/
def twoSpellings : Config where
  rules :=
    [("*", .one (.rule { opening := some "(", closing := some ")" } .unset)),
      ("Rust", .many [.rule { offSide := some true } .unset]),
      ("[ rust ]", .one (.rule { name := some "loose" } .unset))]

/-- Both keys name one language, and another language has the rules for every language. -/
theorem get_build_of_twoSpellings :
    twoSpellings.fault? = none ∧ twoSpellings.ruleLanguages = [⟨"rust"⟩] ∧
      (twoSpellings.rulesFor ⟨"rust"⟩).length = 2 ∧
      (Registry.build twoSpellings).1.get (some ⟨"rust"⟩) = (twoSpellings.compile ⟨"rust"⟩).1 ∧
      (Registry.build twoSpellings).1.get (some ⟨"go"⟩) =
        { (twoSpellings.compile ⟨"go"⟩).1 with language := .wildcard } ∧
      ∃! l, l ∈ .wildcard :: twoSpellings.ruleLanguages ∧
        (⟨"[ rust ]", 0, .rule { name := some "loose" } .unset⟩ : PlacedEntry) ∈
          twoSpellings.entriesFor l := by
  have hvalid : twoSpellings.fault? = none := by decide +kernel
  have hlanguages : twoSpellings.ruleLanguages = [⟨"rust"⟩] := by decide +kernel
  obtain ⟨hget, _, _, hone⟩ := Registry.get_build twoSpellings hvalid
  refine ⟨hvalid, hlanguages, by decide +kernel, ?_, ?_, ?_⟩
  · have hrust := hget ⟨"rust"⟩
    rwa [hlanguages, if_pos List.mem_cons_self] at hrust
  · have hgo := hget ⟨"go"⟩
    rwa [hlanguages, if_neg (by decide)] at hgo
  · exact hone _ (by simp [Config.entries, PlacedEntry.under, twoSpellings, RuleList.entries])

end CodeFold
