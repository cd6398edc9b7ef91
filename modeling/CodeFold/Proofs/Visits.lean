import CodeFold.Proofs.Dropped
import Mathlib.Data.List.Forall2

/-!
# Every entry is kept or reported

Compiling meets the entries of the outermost lists and those in the lists of kept rules with
delimiters, and no others. An entry is met at a place, given by the numbers of the entries on the
way to it, and entries are met in the order of their places: one before those in its own list, and
these before the next one of the list it stands in. Each entry that is met makes one rule or one
report that it is invalid. That the field `descendants` is out of date is reported once if a kept
rule sets it.
Specification: §4.1, §7.
-/

namespace CodeFold

/-- An entry that is met while compiling. -/
structure Visit where
  /-- The number of the entry in its list, after those of the entries around it. -/
  path : List Nat
  label : String
  entry : RuleEntry

/-- The same entry, seen from the list around it. -/
def Visit.under (v : Visit) (i : Nat) : Visit := { v with path := i :: v.path }

/-- An entry is met in a list, or in the list of a kept rule with delimiters that is met. -/
inductive Met : String → List RuleEntry → Visit → Prop where
  | here {stem : String} {entries : List RuleEntry} {i : Nat} {entry : RuleEntry} :
    entries[i]? = some entry → Met stem entries ⟨[i], entry.label stem i, entry⟩
  | inside {stem : String} {entries : List RuleEntry} {i : Nat} {fields : RuleFields}
    {list : RuleList} {kind : RuleKind} {v : Visit} :
    entries[i]? = some (.rule fields (.rules list)) → compileKind fields = .ok kind →
    kind.isDelimited = true →
    Met (fields.name.getD (defaultLabel stem i) ++ ".nested") list.entries v →
    Met stem entries (v.under i)

/-- An entry is met in the lists that a set is compiled from, first those for its language. -/
inductive RuleSet.Visited (language : Language) (specific wildcard : List RuleEntry) :
    Visit → Prop where
  | specific {v : Visit} :
    Met language.key specific v → Visited language specific wildcard (v.under 0)
  | wildcard {v : Visit} : Met "*" wildcard v → Visited language specific wildcard (v.under 1)

namespace Visit

/-- What is kept of an entry that makes a rule. -/
def kept? (v : Visit) : Option KeptEntry :=
  match v.entry with
  | .malformed _ _ => none
  | .rule fields _ =>
    match compileKind fields with
    | .error _ => none
    | .ok kind => some ⟨v.label, { fields with name := none }, kind⟩

/-- What is reported of an entry that makes none. -/
def refusal? (v : Visit) : Option Diagnostic := v.entry.error?.map (.invalid v.label)

/-- An entry gives a rule all but its number and what is nested in it. -/
def Makes (v : Visit) (rule : Rule) : Prop :=
  ∃ fields nested kind, v.entry = .rule fields nested ∧ compileKind fields = .ok kind ∧
    rule = { fields.rule rule.id v.label kind with nesting := rule.nesting }

/-- A kept rule sets the field `descendants`. -/
def isOutdated (v : Visit) : Bool := v.kept?.any (·.fields.descendants.isSome)

/-- What an entry gives reason to report, apart from those in its own list. -/
def reports (v : Visit) : List Diagnostic :=
  v.refusal?.toList ++ if v.isOutdated then [.deprecated "descendants"] else []

end Visit

/-! ### The entries that are met in their order -/

mutual

/-- The entries that are met in the list of an entry. -/
def RuleEntry.inner (label : String) : RuleEntry → List Visit
  | .malformed _ _ => []
  | .rule fields nested =>
    match compileKind fields with
    | .error _ => []
    | .ok kind => if kind.isDelimited then Nested.visits label nested else []

/-- The entries that are met in the list of a rule with delimiters. -/
def Nested.visits (label : String) : Nested → List Visit
  | .unset | .flag _ => []
  | .rules list => RuleList.visits (label ++ ".nested") list

/-- The entries that are met in a rule list. -/
def RuleList.visits (stem : String) : RuleList → List Visit
  | .one entry =>
    ⟨[0], entry.label stem 0, entry⟩ :: (RuleEntry.inner (entry.label stem 0) entry).map (·.under 0)
  | .many entries => RuleEntry.visits stem 0 entries

/-- The entries that are met from the `i`-th of a list on. -/
def RuleEntry.visits (stem : String) (i : Nat) : List RuleEntry → List Visit
  | [] => []
  | entry :: entries =>
    ⟨[i], entry.label stem i, entry⟩ ::
      ((RuleEntry.inner (entry.label stem i) entry).map (·.under i) ++
        RuleEntry.visits stem (i + 1) entries)

end

private theorem RuleList.visits_eq (stem : String) (list : RuleList) :
    list.visits stem = RuleEntry.visits stem 0 list.entries := by
  cases list with
  | one entry => simp [visits, entries, RuleEntry.visits]
  | many entries => rw [visits, RuleList.entries]

/-- What becomes of an entry: it is dropped, or it is kept alone or with the list of its own. -/
inductive RuleEntry.Fate : RuleEntry → Prop where
  | dropped {entry : RuleEntry} {e : RuleError} (h : entry.error? = some e) : Fate entry
  | alone {fields : RuleFields} {nested : Nested} {kind : RuleKind}
    (hk : compileKind fields = .ok kind)
    (hn : ∀ list, nested = .rules list → kind.isDelimited = false) : Fate (.rule fields nested)
  | around {fields : RuleFields} {list : RuleList} {kind : RuleKind}
    (hk : compileKind fields = .ok kind) (hd : kind.isDelimited = true) :
    Fate (.rule fields (.rules list))

private theorem RuleEntry.fate (entry : RuleEntry) : entry.Fate := by
  cases entry with
  | malformed value fault => exact .dropped rfl
  | rule fields nested =>
    cases hk : compileKind fields with
    | error e => exact .dropped (by rw [RuleEntry.error?, hk])
    | ok kind =>
      cases nested with
      | rules list =>
        cases hd : kind.isDelimited with
        | true => exact .around hk hd
        | false => exact .alone hk fun _ _ => hd
      | unset | flag => exact .alone hk fun list heq => by cases heq

/-- Induction over a list of entries and the lists of those that are kept. -/
theorem RuleEntry.list_induction {P : String → Nat → List RuleEntry → Prop}
    (nil : ∀ stem i, P stem i [])
    (dropped : ∀ stem i entry entries e, entry.error? = some e → P stem (i + 1) entries →
      P stem i (entry :: entries))
    (alone : ∀ stem i fields nested kind entries, compileKind fields = .ok kind →
      (∀ list, nested = .rules list → kind.isDelimited = false) → P stem (i + 1) entries →
      P stem i (.rule fields nested :: entries))
    (around : ∀ stem i fields list kind entries, compileKind fields = .ok kind →
      kind.isDelimited = true →
      P (fields.name.getD (defaultLabel stem i) ++ ".nested") 0 list.entries →
      P stem (i + 1) entries → P stem i (.rule fields (.rules list) :: entries))
    (stem : String) (i : Nat) (entries : List RuleEntry) : P stem i entries := by
  induction hn : sizeOf entries using Nat.strongRecOn generalizing stem i entries with
  | ind n ih =>
    cases entries with
    | nil => exact nil stem i
    | cons entry entries =>
      have hrest : P stem (i + 1) entries := by
        refine ih (sizeOf entries) ?_ stem (i + 1) entries rfl
        rw [← hn, List.cons.sizeOf_spec]
        omega
      cases entry.fate with
      | dropped h => exact dropped stem i entry entries _ h hrest
      | alone hk hnested => exact alone stem i _ _ _ entries hk hnested hrest
      | @around fields list kind hk hd =>
        refine around stem i fields list kind entries hk hd ?_ hrest
        refine ih (sizeOf list.entries) ?_ _ 0 list.entries rfl
        rw [← hn, List.cons.sizeOf_spec, RuleEntry.rule.sizeOf_spec, Nested.rules.sizeOf_spec]
        cases list with
        | one entry =>
          simp only [RuleList.entries, RuleList.one.sizeOf_spec, List.cons.sizeOf_spec,
            List.nil.sizeOf_spec]
          omega
        | many entries =>
          simp only [RuleList.entries, RuleList.many.sizeOf_spec]
          omega

namespace RuleEntry

private theorem inner_of_error {entry : RuleEntry} {e : RuleError} (h : entry.error? = some e)
    (label : String) : entry.inner label = [] := by
  cases entry with
  | malformed value fault => rw [inner]
  | rule fields nested =>
    cases hk : compileKind fields with
    | error e' => rw [inner, hk]
    | ok kind => simp [error?, hk] at h

private theorem inner_alone {fields : RuleFields} {nested : Nested} {kind : RuleKind}
    (hk : compileKind fields = .ok kind)
    (hn : ∀ list, nested = .rules list → kind.isDelimited = false) (label : String) :
    RuleEntry.inner label (.rule fields nested) = [] := by
  rw [inner, hk]
  cases nested with
  | rules list => simp [hn list rfl]
  | unset | flag => simp [Nested.visits]

private theorem inner_around {fields : RuleFields} {list : RuleList} {kind : RuleKind}
    (hk : compileKind fields = .ok kind) (hd : kind.isDelimited = true) (label : String) :
    RuleEntry.inner label (.rule fields (.rules list)) =
      RuleEntry.visits (label ++ ".nested") 0 list.entries := by
  rw [inner, hk]
  dsimp only
  rw [if_pos hd, Nested.visits, RuleList.visits_eq]

/-! ### Where entries are met -/

private theorem visits_eq_flatMap (stem : String) (i : Nat) (entries : List RuleEntry) :
    visits stem i entries = (entries.zipIdx i).flatMap fun x =>
      ⟨[x.2], x.1.label stem x.2, x.1⟩ :: (x.1.inner (x.1.label stem x.2)).map (·.under x.2) := by
  induction entries generalizing i with
  | nil => rw [visits, List.zipIdx_nil, List.flatMap_nil]
  | cons entry entries ih => rw [visits, ih, List.zipIdx_cons, List.flatMap_cons, List.cons_append]

private theorem mem_visits {stem : String} {entries : List RuleEntry} {v : Visit} :
    v ∈ visits stem 0 entries ↔ ∃ i entry, entries[i]? = some entry ∧
      (v = ⟨[i], entry.label stem i, entry⟩ ∨
        ∃ u ∈ entry.inner (entry.label stem i), v = u.under i) := by
  simp only [visits_eq_flatMap, List.mem_flatMap, Prod.exists, List.mk_mem_zipIdx_iff_getElem?,
    List.mem_cons, List.mem_map]
  grind

/-- An entry has a number in the list. -/
theorem exists_path_of_mem_visits {stem : String} {i : Nat} {entries : List RuleEntry} {v : Visit}
    (h : v ∈ visits stem i entries) : ∃ j path, v.path = j :: path ∧ i ≤ j := by
  rw [visits_eq_flatMap] at h
  obtain ⟨⟨entry, j⟩, hmem, h⟩ := List.mem_flatMap.mp h
  have hle := (List.mem_zipIdx hmem).1
  obtain rfl | h := List.mem_cons.mp h
  · exact ⟨j, [], rfl, hle⟩
  · obtain ⟨u, -, rfl⟩ := List.mem_map.mp h
    exact ⟨j, u.path, rfl, hle⟩

/-- The entries of the list of a rule are met if the rule is kept and has delimiters. -/
theorem mem_inner {entry : RuleEntry} {label : String} {u : Visit} :
    u ∈ entry.inner label ↔ ∃ fields list kind, entry = .rule fields (.rules list) ∧
      compileKind fields = .ok kind ∧ kind.isDelimited = true ∧
      u ∈ visits (label ++ ".nested") 0 list.entries := by
  cases entry.fate with
  | dropped h =>
    rw [inner_of_error h]
    refine ⟨nofun, ?_⟩
    rintro ⟨fields, list, kind, rfl, hk, -⟩
    simp [error?, hk] at h
  | @alone fields nested kind hk hn =>
    rw [inner_alone hk hn]
    refine ⟨nofun, ?_⟩
    rintro ⟨fields', list, kind', heq, hk', hd, -⟩
    cases heq
    rw [hk] at hk'
    cases hk'
    rw [hn list rfl] at hd
    cases hd
  | @around fields list kind hk hd =>
    rw [inner_around hk hd]
    refine ⟨fun h => ⟨fields, list, kind, rfl, hk, hd, h⟩, ?_⟩
    rintro ⟨fields', list', kind', heq, -, -, h⟩
    cases heq
    exact h

/-- The entries that are visited are those that are met. -/
theorem mem_visits_iff_met {stem : String} {entries : List RuleEntry} {v : Visit} :
    v ∈ visits stem 0 entries ↔ Met stem entries v := by
  constructor
  · -- Behind each step into a list the path is shorter.
    obtain ⟨path, label, entry⟩ := v
    intro h
    induction path generalizing stem entries with
    | nil =>
      obtain ⟨j, path, heq, -⟩ := exists_path_of_mem_visits h
      cases heq
    | cons i path ih =>
      obtain ⟨j, entry', hget, heq | ⟨⟨path', label', entry''⟩, hu, heq⟩⟩ := mem_visits.mp h
      · cases heq
        exact .here hget
      · cases heq
        obtain ⟨fields, list, kind, rfl, hk, hd, hu⟩ := mem_inner.mp hu
        exact .inside hget hk hd (ih hu)
  · intro h
    induction h with
    | here hget => exact mem_visits.mpr ⟨_, _, hget, .inl rfl⟩
    | inside hget hk hd _ ih =>
      exact mem_visits.mpr ⟨_, _, hget, .inr ⟨_, mem_inner.mpr ⟨_, _, _, rfl, hk, hd, ih⟩, rfl⟩⟩

/-! ### The order of the entries -/

private theorem pairwise_under {vs : List Visit} (h : vs.Pairwise (·.path < ·.path)) (i : Nat) :
    (vs.map (·.under i)).Pairwise (·.path < ·.path) := by
  rw [List.pairwise_map]
  exact h.imp fun hlt => List.cons_lt_cons_iff.mpr (.inr ⟨rfl, hlt⟩)

/-- An entry is met before those in its own list, and these before the next one. -/
theorem pairwise_visits_cons {stem : String} {i : Nat} {entry : RuleEntry}
    {entries : List RuleEntry}
    (hinner : (entry.inner (entry.label stem i)).Pairwise (·.path < ·.path))
    (hrest : (visits stem (i + 1) entries).Pairwise (·.path < ·.path)) :
    (visits stem i (entry :: entries)).Pairwise (·.path < ·.path) := by
  have hlater {v : Visit} (hv : v ∈ visits stem (i + 1) entries) (path : List Nat) :
      i :: path < v.path := by
    obtain ⟨j, path', hpath, hle⟩ := exists_path_of_mem_visits hv
    rw [hpath]
    exact List.cons_lt_cons_iff.mpr (.inl hle)
  rw [visits, List.pairwise_cons, List.pairwise_append]
  refine ⟨fun v hv => ?_, pairwise_under hinner i, hrest, fun u hu v hv => ?_⟩
  · obtain hv | hv := List.mem_append.mp hv
    · obtain ⟨u, hu, rfl⟩ := List.mem_map.mp hv
      obtain ⟨fields, list, kind, -, -, -, hu⟩ := mem_inner.mp hu
      obtain ⟨j, path, hpath, -⟩ := exists_path_of_mem_visits hu
      refine List.cons_lt_cons_iff.mpr (.inr ⟨rfl, ?_⟩)
      rw [hpath]
      exact List.nil_lt_cons j path
    · exact hlater hv []
  · obtain ⟨u, -, rfl⟩ := List.mem_map.mp hu
    exact hlater hv u.path

/-- Entries are met in the order of their places. -/
theorem pairwise_visits (stem : String) (i : Nat) (entries : List RuleEntry) :
    (visits stem i entries).Pairwise (·.path < ·.path) := by
  induction stem, i, entries using list_induction with
  | nil stem i =>
    rw [visits]
    exact .nil
  | dropped stem i entry entries e h ih =>
    exact pairwise_visits_cons (by simp [inner_of_error h]) ih
  | alone stem i fields nested kind entries hk hn ih =>
    exact pairwise_visits_cons (by simp [inner_alone hk hn]) ih
  | around stem i fields list kind entries hk hd ih ih' =>
    refine pairwise_visits_cons ?_ ih'
    rw [inner_around hk hd]
    exact ih

example : (visits "test" 0 ((around [looseEntry, selfNested]).1 ++ [looseEntry])).map (·.path) =
    [[0], [0, 0], [0, 1], [1]] := by
  decide +kernel

/-! ### What becomes of the entries -/

private theorem tree?_alone {fields : RuleFields} {nested : Nested} {kind : RuleKind}
    (hk : compileKind fields = .ok kind)
    (hn : ∀ list, nested = .rules list → kind.isDelimited = false) (label : String) :
    ∃ flag, RuleEntry.tree? label (.rule fields nested) =
      some (.leaf ⟨label, { fields with name := none }, kind⟩ flag) := by
  rw [tree?, hk]
  dsimp only
  split
  · next hd =>
    cases nested with
    | rules list => simp [hn list rfl] at hd
    | unset => exact ⟨none, by rw [Nested.tree]⟩
    | flag inherits => exact ⟨some inherits, by rw [Nested.tree]⟩
  · exact ⟨none, rfl⟩

private theorem reports_alone {fields : RuleFields} {nested : Nested} {kind : RuleKind}
    (hk : compileKind fields = .ok kind)
    (hn : ∀ list, nested = .rules list → kind.isDelimited = false) (label : String) :
    RuleEntry.reports label (.rule fields nested) = fields.reports := by
  rw [reports, hk]
  cases nested with
  | rules list => simp [hn list rfl]
  | unset | flag => simp [Nested.reports]

end RuleEntry

namespace Visit

private theorem kept?_of_error {entry : RuleEntry} {e : RuleError} (h : entry.error? = some e)
    (path : List Nat) (label : String) : kept? ⟨path, label, entry⟩ = none := by
  cases entry with
  | malformed value fault => rfl
  | rule fields nested =>
    cases hk : compileKind fields with
    | error e' => simp [kept?, hk]
    | ok kind => simp [RuleEntry.error?, hk] at h

private theorem kept?_rule {fields : RuleFields} {kind : RuleKind}
    (hk : compileKind fields = .ok kind) (path : List Nat) (label : String) (nested : Nested) :
    kept? ⟨path, label, .rule fields nested⟩ =
      some ⟨label, { fields with name := none }, kind⟩ := by
  simp [kept?, hk]

private theorem reports_of_error {entry : RuleEntry} {e : RuleError} (h : entry.error? = some e)
    (path : List Nat) (label : String) : reports ⟨path, label, entry⟩ = [.invalid label e] := by
  simp [reports, refusal?, h, isOutdated, kept?_of_error h]

private theorem reports_rule {fields : RuleFields} {kind : RuleKind}
    (hk : compileKind fields = .ok kind) (path : List Nat) (label : String) (nested : Nested) :
    reports ⟨path, label, .rule fields nested⟩ = fields.reports := by
  simp [reports, refusal?, RuleEntry.error?, hk, isOutdated, kept?_rule hk, RuleFields.reports]

end Visit

namespace RuleEntry

/-- All reports are those of the entries that are met. -/
theorem allReports_eq_flatMap (stem : String) (i : Nat) (entries : List RuleEntry) :
    allReports stem i entries = (visits stem i entries).flatMap Visit.reports := by
  have hunder (vs : List Visit) (i : Nat) :
      (vs.map (·.under i)).flatMap Visit.reports = vs.flatMap Visit.reports := List.flatMap_map ..
  induction stem, i, entries using list_induction with
  | nil stem i => rw [allReports, visits, List.flatMap_nil]
  | dropped stem i entry entries e h ih =>
    rw [allReports, visits, reports_of_error h, inner_of_error h, ih]
    simp [Visit.reports_of_error h]
  | alone stem i fields nested kind entries hk hn ih =>
    rw [allReports, visits, reports_alone hk hn, inner_alone hk hn, ih]
    simp [Visit.reports_rule hk]
  | around stem i fields list kind entries hk hd ih ih' =>
    rw [allReports, visits, Drops.reports_of_rules hk hd, inner_around hk hd, Drops.label_rule, ih,
      ih']
    simp [Visit.reports_rule hk, hunder]

/-- The kept rules are those of the entries that are met. -/
theorem entry_allPlaces (stem : String) (i : Nat) (entries : List RuleEntry) (whole : Nesting)
    (n : Nat) : (RuleTree.allPlaces whole n (trees stem i entries)).map Place.entry =
      (visits stem i entries).filterMap Visit.kept? := by
  have hunder (vs : List Visit) (i : Nat) :
      (vs.map (·.under i)).filterMap Visit.kept? = vs.filterMap Visit.kept? := List.filterMap_map ..
  induction stem, i, entries using list_induction generalizing whole n with
  | nil stem i => rw [trees, visits, RuleTree.allPlaces, List.map_nil, List.filterMap_nil]
  | dropped stem i entry entries e h ih =>
    rw [trees, visits, tree?_of_error h, inner_of_error h]
    simp [Visit.kept?_of_error h, ih]
  | alone stem i fields nested kind entries hk hn ih =>
    obtain ⟨flag, htree⟩ := tree?_alone hk hn ((RuleEntry.rule fields nested).label stem i)
    rw [trees, visits, htree, inner_alone hk hn]
    simp [Visit.kept?_rule hk, RuleTree.allPlaces, RuleTree.places, ih]
  | around stem i fields list kind entries hk hd ih ih' =>
    rw [trees, visits, Drops.tree?_of_rules hk hd, inner_around hk hd, Drops.label_rule]
    simp [Visit.kept?_rule hk, RuleTree.allPlaces, RuleTree.places, hunder, ih, ih']

end RuleEntry

/-! ### Rules and reports -/

namespace Diagnostic

@[simp] private theorem isInvalid_deprecated (field : String) :
    (deprecated field).isInvalid = false := rfl

@[simp] private theorem isInvalid_invalid (label : String) (error : RuleError) :
    (invalid label error).isInvalid = true := rfl

/-- Refusals are all reported, however often. -/
theorem filter_isInvalid_once (reported : Bool) (ds : List Diagnostic) :
    (once reported ds).filter isInvalid = ds.filter isInvalid := by
  induction ds generalizing reported with
  | nil => rfl
  | cons d ds ih =>
    cases d with
    | deprecated field => cases reported <;> simp [once, ih]
    | invalid label error => simp [once, List.filter_cons, ih]

/-- Only the first report that a field is out of date is left. -/
theorem filter_deprecated_once (reported : Bool) (ds : List Diagnostic) :
    (once reported ds).filter (!·.isInvalid) =
      if reported then [] else (ds.filter (!·.isInvalid)).take 1 := by
  induction ds generalizing reported with
  | nil => cases reported <;> rfl
  | cons d ds ih =>
    cases d with
    | deprecated field => cases reported <;> simp [once, ih]
    | invalid label error => simp [once, ih]

end Diagnostic

namespace Visit

/-- The refusals among the reports are those of the visits, in their order. -/
theorem filter_isInvalid_reports (vs : List Visit) :
    (vs.flatMap reports).filter Diagnostic.isInvalid = vs.filterMap refusal? := by
  induction vs with
  | nil => rfl
  | cons v vs ih =>
    rw [List.flatMap_cons, List.filter_append, ih, List.filterMap_cons, reports, refusal?]
    cases v.entry.error? <;> cases v.isOutdated <;> simp [List.filter_cons]

private theorem filter_deprecated_reports (vs : List Visit) :
    (vs.flatMap reports).filter (!·.isInvalid) =
      (vs.filter isOutdated).map fun _ => .deprecated "descendants" := by
  induction vs with
  | nil => rfl
  | cons v vs ih =>
    rw [List.flatMap_cons, List.filter_append, ih, List.filter_cons, reports, refusal?]
    cases v.entry.error? <;> cases v.isOutdated <;> simp

/-- The field `descendants` is reported once if there is an entry to report it for. -/
theorem filter_deprecated_once (vs : List Visit) :
    (Diagnostic.once false (vs.flatMap reports)).filter (!·.isInvalid) =
      if vs.any isOutdated then [.deprecated "descendants"] else [] := by
  rw [Diagnostic.filter_deprecated_once, filter_deprecated_reports]
  cases h : vs.filter isOutdated with
  | nil =>
    have hnone : vs.any isOutdated = false := by simpa using h
    simp [hnone]
  | cons u us =>
    have hu : u ∈ vs.filter isOutdated := h ▸ List.mem_cons_self
    have hsome : vs.any isOutdated = true := List.any_eq_true.mpr ⟨u, List.mem_filter.mp hu⟩
    simp [hsome]

/-- An entry makes a rule unless there is a reason why it makes none. -/
theorem isSome_kept? (v : Visit) : v.kept?.isSome = v.entry.error?.isNone := by
  obtain ⟨path, label, entry⟩ := v
  cases entry with
  | malformed value fault => rfl
  | rule fields nested => cases hk : compileKind fields <;> simp [kept?, RuleEntry.error?, hk]

private theorem makes_rule {v : Visit} {p : Place} (h : v.kept? = some p.entry) :
    v.Makes p.rule := by
  obtain ⟨path, label, entry⟩ := v
  cases entry with
  | malformed value fault => cases h
  | rule fields nested =>
    cases hk : compileKind fields with
    | error e => simp [kept?, hk] at h
    | ok kind =>
      rw [kept?_rule hk, Option.some.injEq] at h
      refine ⟨fields, nested, kind, rfl, hk, ?_⟩
      rw [Place.rule, ← h]
      rfl

/-- The kept entries make the rules of their places. -/
theorem forall₂_makes {vs : List Visit} {ps : List Place}
    (h : ps.map Place.entry = vs.filterMap kept?) :
    List.Forall₂ Makes (vs.filter (·.entry.error?.isNone)) (ps.map Place.rule) := by
  induction vs generalizing ps with
  | nil =>
    rw [List.map_eq_nil_iff.mp h]
    exact .nil
  | cons v vs ih =>
    rw [List.filter_cons, ← isSome_kept?]
    rw [List.filterMap_cons] at h
    cases hv : v.kept? with
    | none =>
      rw [hv] at h
      exact ih h
    | some entry =>
      rw [hv] at h
      obtain ⟨p, ps, rfl, hp, hps⟩ := List.map_eq_cons_iff.mp h
      exact .cons (makes_rule (hv.trans (congrArg some hp.symm))) (ih hps)

end Visit

namespace RuleSet

/-- The visited entries account for all rules and reports of a compiled set. -/
structure Accounts (language : Language) (specific wildcard : List RuleEntry)
    (visits : List Visit) : Prop where
  mem_iff : ∀ v, v ∈ visits ↔ Visited language specific wildcard v
  preorder : visits.Pairwise (·.path < ·.path)
  /-- The entries that are not refused make the rules, one each and in this order. -/
  kept : List.Forall₂ Visit.Makes (visits.filter (·.entry.error?.isNone))
    (RuleSet.compile language specific wildcard).1.rules.toList
  /-- The others are reported, once each and in this order. -/
  dropped : (RuleSet.compile language specific wildcard).2.filter Diagnostic.isInvalid =
    visits.filterMap Visit.refusal?
  /-- There is at most one other report. -/
  deprecated : (RuleSet.compile language specific wildcard).2.filter (!·.isInvalid) =
    if visits.any Visit.isOutdated then [.deprecated "descendants"] else []

/-- Each entry that is visited makes one rule or is reported as invalid once, in the order of the
places where entries stand, and no other entry does. -/
theorem compile_accounts (language : Language) (specific wildcard : List RuleEntry) :
    ∃ visits, Accounts language specific wildcard visits := by
  let own := RuleEntry.visits language.key 0 specific
  let shared := RuleEntry.visits "*" 0 wildcard
  have hset := compile_eq language specific wildcard
  have hreports : (RuleSet.compile language specific wildcard).2 = Diagnostic.once false
      ((own.map (·.under 0) ++ shared.map (·.under 1)).flatMap Visit.reports) := by
    rw [hset, RuleEntry.allReports_eq_flatMap, RuleEntry.allReports_eq_flatMap, List.flatMap_append,
      List.flatMap_map, List.flatMap_map]
    rfl
  refine ⟨own.map (·.under 0) ++ shared.map (·.under 1), fun v => ?_, ?_, ?_, ?_, ?_⟩
  · rw [List.mem_append, List.mem_map, List.mem_map]
    constructor
    · rintro (⟨u, hu, rfl⟩ | ⟨u, hu, rfl⟩)
      · exact .specific (RuleEntry.mem_visits_iff_met.mp hu)
      · exact .wildcard (RuleEntry.mem_visits_iff_met.mp hu)
    · rintro (⟨hu⟩ | ⟨hu⟩)
      · exact .inl ⟨_, RuleEntry.mem_visits_iff_met.mpr hu, rfl⟩
      · exact .inr ⟨_, RuleEntry.mem_visits_iff_met.mpr hu, rfl⟩
  · refine List.pairwise_append.mpr ⟨RuleEntry.pairwise_under (RuleEntry.pairwise_visits ..) 0,
      RuleEntry.pairwise_under (RuleEntry.pairwise_visits ..) 1, fun u hu v hv => ?_⟩
    obtain ⟨u, -, rfl⟩ := List.mem_map.mp hu
    obtain ⟨v, -, rfl⟩ := List.mem_map.mp hv
    exact List.cons_lt_cons_iff.mpr (.inl Nat.zero_lt_one)
  · rw [hset]
    apply Visit.forall₂_makes
    rw [forest, RuleTree.allPlaces_append, List.map_append, RuleEntry.entry_allPlaces,
      RuleEntry.entry_allPlaces, List.filterMap_append, List.filterMap_map, List.filterMap_map]
    rfl
  · rw [hreports, Diagnostic.filter_isInvalid_once, Visit.filter_isInvalid_reports]
  · rw [hreports, Visit.filter_deprecated_once]

end RuleSet

end CodeFold
