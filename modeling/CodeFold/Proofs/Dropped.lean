import CodeFold.Proofs.Kept
import CodeFold.Proofs.Labels

/-!
# An entry that makes no rule drops only itself

If an entry that makes no rule is taken out of its list, at any depth, the set stays as it is and one
report is gone. The entries behind it are counted differently then, which shows in the labels of those
without a name and in labels made from these; if they keep their labels as names, nothing else changes
at all.
Specification: §4.1, §7.
-/

namespace CodeFold

/-- Why an entry makes no rule. -/
def RuleEntry.error? : RuleEntry → Option RuleError
  | .malformed _ fault => some (.malformed (.badField fault))
  | .rule fields _ =>
    match compileKind fields with
    | .error e => some e
    | .ok _ => none

/-- The entry with a name. -/
def RuleEntry.named (name : String) : RuleEntry → RuleEntry
  | .malformed _ fault => .malformed (.object [("name", .string name)]) fault
  | .rule fields nested => .rule { fields with name := some name } nested

/-- The entries of a list from the `i`-th on with their labels as names. -/
def RuleEntry.pinned (stem : String) (i : Nat) : List RuleEntry → List RuleEntry
  | [] => []
  | entry :: entries => entry.named (entry.label stem i) :: RuleEntry.pinned stem (i + 1) entries

/-- `Drops bad stem i entries plain pinned stem' n` says that `entries`, which are counted from `i` on
under `stem`, hold `bad` in their own list or in that of a kept rule at any depth, as the `n`-th entry
under `stem'`. Without it they are `plain`, and `pinned` if the entries behind it in its list also get
their labels as names. -/
inductive Drops (bad : RuleEntry) : String → Nat → List RuleEntry → List RuleEntry →
    List RuleEntry → String → Nat → Prop where
  | here (stem : String) (i : Nat) (before after : List RuleEntry) :
    Drops bad stem i (before ++ bad :: after) (before ++ after)
      (before ++ RuleEntry.pinned stem (i + before.length + 1) after) stem (i + before.length)
  | inside (stem : String) (i : Nat) (before after : List RuleEntry) (fields : RuleFields)
    (kind : RuleKind) (list plain pinned : RuleList) (stem' : String) (n : Nat) :
    compileKind fields = .ok kind → kind.isDelimited = true →
    Drops bad (fields.name.getD (defaultLabel stem (i + before.length)) ++ ".nested") 0
      list.entries plain.entries pinned.entries stem' n →
    Drops bad stem i (before ++ .rule fields (.rules list) :: after)
      (before ++ .rule fields (.rules plain) :: after)
      (before ++ .rule fields (.rules pinned) :: after) stem' n

/-! ### Lists of entries -/

namespace RuleEntry

/-- An entry with an error gives no rule. -/
theorem tree?_of_error {entry : RuleEntry} {e : RuleError} (h : entry.error? = some e)
    (label : String) : entry.tree? label = none := by
  cases entry with
  | malformed value fault => rw [tree?]
  | rule fields nested =>
    cases hk : compileKind fields with
    | error e' => rw [tree?, hk]
    | ok kind => simp [error?, hk] at h

/-- An entry with an error is reported, and nothing inside it is. -/
theorem reports_of_error {entry : RuleEntry} {e : RuleError} (h : entry.error? = some e)
    (label : String) : entry.reports label = [.invalid label e] := by
  cases entry with
  | malformed value fault =>
    cases h
    rw [reports]
  | rule fields nested =>
    cases hk : compileKind fields with
    | error e' =>
      have he : e' = e := by simpa [error?, hk] using h
      rw [reports, hk, he]
    | ok kind => simp [error?, hk] at h

@[simp] private theorem label_named (entry : RuleEntry) (name stem : String) (i : Nat) :
    (entry.named name).label stem i = name := by
  cases entry with
  | malformed value fault => simp [named, label, name?, Json.get?, Json.string?]
  | rule fields nested => rfl

private theorem tree?_named (entry : RuleEntry) (name label : String) :
    (entry.named name).tree? label = entry.tree? label := by
  cases entry with
  | malformed value fault => simp only [named, tree?]
  | rule fields nested =>
    simp only [named, tree?]
    rfl

private theorem reports_named (entry : RuleEntry) (name label : String) :
    (entry.named name).reports label = entry.reports label := by
  cases entry with
  | malformed value fault => simp only [named, reports]
  | rule fields nested =>
    simp only [named, reports]
    rfl

private theorem trees_append (stem : String) (i : Nat) (es fs : List RuleEntry) :
    trees stem i (es ++ fs) = trees stem i es ++ trees stem (i + es.length) fs := by
  induction es generalizing i with
  | nil => simp [trees]
  | cons e es ih =>
    rw [List.cons_append, trees, trees, ih, List.append_assoc, List.length_cons]
    congr 3
    omega

private theorem allReports_append (stem : String) (i : Nat) (es fs : List RuleEntry) :
    allReports stem i (es ++ fs) = allReports stem i es ++ allReports stem (i + es.length) fs := by
  induction es generalizing i with
  | nil => simp [allReports]
  | cons e es ih =>
    rw [List.cons_append, allReports, allReports, ih, List.append_assoc, List.length_cons]
    congr 3
    omega

/-- Entries that keep their labels as names make the same trees, however they are counted. -/
theorem trees_pinned (stem : String) (i j : Nat) (es : List RuleEntry) :
    trees stem j (pinned stem i es) = trees stem i es := by
  induction es generalizing i j with
  | nil => rw [pinned, trees, trees]
  | cons e es ih => rw [pinned, trees, trees, ih, label_named, tree?_named]

private theorem allReports_pinned (stem : String) (i j : Nat) (es : List RuleEntry) :
    allReports stem j (pinned stem i es) = allReports stem i es := by
  induction es generalizing i j with
  | nil => rw [pinned, allReports, allReports]
  | cons e es ih => rw [pinned, allReports, allReports, ih, label_named, reports_named]

end RuleEntry

private theorem RuleList.trees_eq (stem : String) (list : RuleList) :
    list.trees stem = RuleEntry.trees stem 0 list.entries := by
  cases list with
  | one entry => simp [trees, entries, RuleEntry.trees]
  | many entries => rw [trees, RuleList.entries]

private theorem RuleList.reports_eq (stem : String) (list : RuleList) :
    list.reports stem = RuleEntry.allReports stem 0 list.entries := by
  cases list with
  | one entry => simp [reports, entries, RuleEntry.allReports]
  | many entries => rw [reports, RuleList.entries]

/-! ### Without labels -/

/-- The report with an empty label. -/
def Diagnostic.unlabelled : Diagnostic → Diagnostic
  | deprecated field => deprecated field
  | invalid _ error => invalid "" error

private theorem Diagnostic.unlabelled_once (reported : Bool) (ds : List Diagnostic) :
    (once reported ds).map unlabelled = once reported (ds.map unlabelled) := by
  induction ds generalizing reported with
  | nil => rfl
  | cons d ds ih =>
    cases d with
    | deprecated field => cases reported <;> simp [once, unlabelled, ih]
    | invalid label error => simp [once, unlabelled, ih]

namespace RuleTree

mutual

/-- The tree with empty labels. -/
def unlabelled : RuleTree → RuleTree
  | leaf entry flag => leaf { entry with label := "" } flag
  | branch entry children => branch { entry with label := "" } (allUnlabelled children)

/-- The trees with empty labels. -/
def allUnlabelled : List RuleTree → List RuleTree
  | [] => []
  | t :: ts => unlabelled t :: allUnlabelled ts

end

private theorem allUnlabelled_eq_map (ts : List RuleTree) :
    allUnlabelled ts = ts.map unlabelled := by
  induction ts with
  | nil => rw [allUnlabelled, List.map_nil]
  | cons t ts ih => rw [allUnlabelled, ih, List.map_cons]

private theorem allUnlabelled_append (ts us : List RuleTree) :
    allUnlabelled (ts ++ us) = allUnlabelled ts ++ allUnlabelled us := by
  simp only [allUnlabelled_eq_map, List.map_append]

mutual

private theorem size_unlabelled (t : RuleTree) : t.unlabelled.size = t.size := by
  cases t with
  | leaf entry flag => rw [unlabelled, size, size]
  | branch entry children => rw [unlabelled, size, size, sizes_allUnlabelled children]

private theorem sizes_allUnlabelled (ts : List RuleTree) : sizes (allUnlabelled ts) = sizes ts := by
  cases ts with
  | nil => rw [allUnlabelled]
  | cons t ts => rw [allUnlabelled, sizes, sizes, size_unlabelled t, sizes_allUnlabelled ts]

end

private theorem roots_allUnlabelled (n : Nat) (ts : List RuleTree) :
    roots n (allUnlabelled ts) = roots n ts := by
  induction ts generalizing n with
  | nil => rw [allUnlabelled]
  | cons t ts ih => rw [allUnlabelled, roots, roots, ih, size_unlabelled]

mutual

private theorem rule_places_unlabelled (whole : Nesting) (n : Nat) (t : RuleTree) :
    (t.unlabelled.places whole n).map Place.rule =
      ((t.places whole n).map Place.rule).map Rule.unlabelled := by
  cases t with
  | leaf entry flag =>
    simp only [unlabelled, places]
    rfl
  | branch entry children =>
    rw [unlabelled, places, places, roots_allUnlabelled]
    simp only [List.map_cons, rule_allPlaces_unlabelled _ _ children]
    rfl

/-- Without labels a forest gives the same rules without labels. -/
theorem rule_allPlaces_unlabelled (whole : Nesting) (n : Nat) (ts : List RuleTree) :
    (allPlaces whole n (allUnlabelled ts)).map Place.rule =
      ((allPlaces whole n ts).map Place.rule).map Rule.unlabelled := by
  cases ts with
  | nil => simp only [allUnlabelled, allPlaces, List.map_nil]
  | cons t ts =>
    rw [allUnlabelled, allPlaces, allPlaces, size_unlabelled, List.map_append, List.map_append,
      List.map_append, rule_places_unlabelled whole n t, rule_allPlaces_unlabelled whole _ ts]

end

end RuleTree

mutual

private theorem RuleEntry.unlabelled_tree? (label label' : String) (entry : RuleEntry) :
    (entry.tree? label).map RuleTree.unlabelled = (entry.tree? label').map RuleTree.unlabelled := by
  cases entry with
  | malformed value fault => rw [RuleEntry.tree?, RuleEntry.tree?]
  | rule fields nested =>
    rw [RuleEntry.tree?, RuleEntry.tree?]
    cases compileKind fields with
    | error e => rfl
    | ok kind =>
      dsimp only
      split
      · exact congrArg some (Nested.unlabelled_tree ⟨"", { fields with name := none }, kind⟩
          label label' nested)
      · simp only [Option.map_some, RuleTree.unlabelled]

private theorem Nested.unlabelled_tree (entry : KeptEntry) (label label' : String)
    (nested : Nested) : (nested.tree { entry with label := label }).unlabelled =
      (nested.tree { entry with label := label' }).unlabelled := by
  cases nested with
  | unset => simp only [Nested.tree, RuleTree.unlabelled]
  | flag inherits => simp only [Nested.tree, RuleTree.unlabelled]
  | rules list =>
    rw [Nested.tree, Nested.tree, RuleTree.unlabelled, RuleTree.unlabelled,
      RuleList.unlabelled_trees (label ++ ".nested") (label' ++ ".nested") list]

private theorem RuleList.unlabelled_trees (stem stem' : String) (list : RuleList) :
    RuleTree.allUnlabelled (list.trees stem) = RuleTree.allUnlabelled (list.trees stem') := by
  cases list with
  | one entry =>
    have h := RuleEntry.unlabelled_tree? (entry.label stem 0) (entry.label stem' 0) entry
    simp only [RuleList.trees, RuleTree.allUnlabelled_eq_map, ← Option.toList_map, h]
  | many entries =>
    rw [RuleList.trees, RuleList.trees]
    exact RuleEntry.unlabelled_trees stem stem' 0 0 entries

/-- Labels apart, entries make the same trees wherever they stand. -/
theorem RuleEntry.unlabelled_trees (stem stem' : String) (i j : Nat) (entries : List RuleEntry) :
    RuleTree.allUnlabelled (RuleEntry.trees stem i entries) =
      RuleTree.allUnlabelled (RuleEntry.trees stem' j entries) := by
  cases entries with
  | nil => rw [RuleEntry.trees, RuleEntry.trees]
  | cons entry entries =>
    have h := RuleEntry.unlabelled_tree? (entry.label stem i) (entry.label stem' j) entry
    have ih := RuleEntry.unlabelled_trees stem stem' (i + 1) (j + 1) entries
    simp only [RuleTree.allUnlabelled_eq_map] at ih
    simp only [RuleEntry.trees, RuleTree.allUnlabelled_eq_map, List.map_append,
      ← Option.toList_map, h, ih]

end

mutual

private theorem RuleEntry.unlabelled_reports (label label' : String) (entry : RuleEntry) :
    (entry.reports label).map Diagnostic.unlabelled =
      (entry.reports label').map Diagnostic.unlabelled := by
  cases entry with
  | malformed value fault =>
    rw [RuleEntry.reports, RuleEntry.reports]
    rfl
  | rule fields nested =>
    rw [RuleEntry.reports, RuleEntry.reports]
    cases compileKind fields with
    | error e => rfl
    | ok kind =>
      dsimp only
      split
      · rw [List.map_append, List.map_append, Nested.unlabelled_reports label label' nested]
      · rfl

private theorem Nested.unlabelled_reports (label label' : String) (nested : Nested) :
    (nested.reports label).map Diagnostic.unlabelled =
      (nested.reports label').map Diagnostic.unlabelled := by
  cases nested with
  | unset => simp only [Nested.reports]
  | flag inherits => simp only [Nested.reports]
  | rules list =>
    rw [Nested.reports, Nested.reports]
    exact RuleList.unlabelled_reports (label ++ ".nested") (label' ++ ".nested") list

private theorem RuleList.unlabelled_reports (stem stem' : String) (list : RuleList) :
    (list.reports stem).map Diagnostic.unlabelled =
      (list.reports stem').map Diagnostic.unlabelled := by
  cases list with
  | one entry =>
    rw [RuleList.reports, RuleList.reports]
    exact RuleEntry.unlabelled_reports (entry.label stem 0) (entry.label stem' 0) entry
  | many entries =>
    rw [RuleList.reports, RuleList.reports]
    exact RuleEntry.unlabelled_allReports stem stem' 0 0 entries

/-- Labels apart, entries give reason to the same reports wherever they stand. -/
theorem RuleEntry.unlabelled_allReports (stem stem' : String) (i j : Nat)
    (entries : List RuleEntry) :
    (RuleEntry.allReports stem i entries).map Diagnostic.unlabelled =
      (RuleEntry.allReports stem' j entries).map Diagnostic.unlabelled := by
  cases entries with
  | nil => rw [RuleEntry.allReports, RuleEntry.allReports]
  | cons entry entries =>
    rw [RuleEntry.allReports, RuleEntry.allReports, List.map_append, List.map_append,
      RuleEntry.unlabelled_reports (entry.label stem i) (entry.label stem' j) entry,
      RuleEntry.unlabelled_allReports stem stem' (i + 1) (j + 1) entries]

end

/-! ### Dropping an entry -/

namespace Drops

variable {bad : RuleEntry} {e : RuleError} {stem stem' : String} {i n : Nat}
  {entries plain pinned : List RuleEntry}

/-- A rule is called by its name or else by its place. -/
theorem label_rule (fields : RuleFields) (nested : Nested) (stem : String) (i : Nat) :
    RuleEntry.label (.rule fields nested) stem i = fields.name.getD (defaultLabel stem i) :=
  rfl

/-- The tree of a kept rule with delimiters and a list of its own. -/
theorem tree?_of_rules {fields : RuleFields} {kind : RuleKind} (hk : compileKind fields = .ok kind)
    (hd : kind.isDelimited = true) (label : String) (list : RuleList) :
    RuleEntry.tree? label (.rule fields (.rules list)) =
      some (.branch ⟨label, { fields with name := none }, kind⟩
        (RuleEntry.trees (label ++ ".nested") 0 list.entries)) := by
  rw [RuleEntry.tree?, hk]
  dsimp only
  rw [if_pos hd, Nested.tree, RuleList.trees_eq]

/-- A rule with delimiters reports for itself and then for its nested rules. -/
theorem reports_of_rules {fields : RuleFields} {kind : RuleKind} (hk : compileKind fields = .ok kind)
    (hd : kind.isDelimited = true) (label : String) (list : RuleList) :
    RuleEntry.reports label (.rule fields (.rules list)) =
      fields.reports ++ RuleEntry.allReports (label ++ ".nested") 0 list.entries := by
  rw [RuleEntry.reports, hk]
  dsimp only
  rw [if_pos hd, Nested.reports, RuleList.reports_eq]

/-- If the entries behind it keep their labels, the trees stay as they are. -/
theorem trees_pinned (h : Drops bad stem i entries plain pinned stem' n) (hb : bad.error? = some e) :
    RuleEntry.trees stem i pinned = RuleEntry.trees stem i entries := by
  induction h with
  | here stem i before after =>
    simp only [RuleEntry.trees_append, RuleEntry.trees_pinned, RuleEntry.trees,
      RuleEntry.tree?_of_error hb, Option.toList_none, List.nil_append]
  | inside stem i before after fields kind list plain pinned stem' n hk hd _ ih =>
    simp only [RuleEntry.trees_append, RuleEntry.trees, tree?_of_rules hk hd, label_rule, ih]

/-- The trees stay as they are, labels apart. -/
theorem unlabelled_trees (h : Drops bad stem i entries plain pinned stem' n)
    (hb : bad.error? = some e) :
    RuleTree.allUnlabelled (RuleEntry.trees stem i plain) =
      RuleTree.allUnlabelled (RuleEntry.trees stem i entries) := by
  induction h with
  | here stem i before after =>
    simp only [RuleEntry.trees_append, RuleEntry.trees, RuleEntry.tree?_of_error hb,
      Option.toList_none, List.nil_append, RuleTree.allUnlabelled_append]
    rw [RuleEntry.unlabelled_trees stem stem (i + before.length) (i + before.length + 1) after]
  | inside stem i before after fields kind list plain pinned stem' n hk hd _ ih =>
    simp only [RuleEntry.trees_append, RuleEntry.trees, tree?_of_rules hk hd, label_rule,
      RuleTree.allUnlabelled_append, Option.toList_some, RuleTree.allUnlabelled,
      RuleTree.unlabelled, ih]

/-- One report is gone, and the others stay as they are if the entries behind it keep their labels,
and labels apart otherwise. -/
theorem allReports (h : Drops bad stem i entries plain pinned stem' n) (hb : bad.error? = some e) :
    ∃ before after after', RuleEntry.allReports stem i entries =
        before ++ .invalid (bad.label stem' n) e :: after ∧
      RuleEntry.allReports stem i pinned = before ++ after ∧
      RuleEntry.allReports stem i plain = before ++ after' ∧
      after'.map Diagnostic.unlabelled = after.map Diagnostic.unlabelled := by
  induction h with
  | here stem i before after =>
    refine ⟨RuleEntry.allReports stem i before,
      RuleEntry.allReports stem (i + before.length + 1) after,
      RuleEntry.allReports stem (i + before.length) after, ?_, ?_, ?_, ?_⟩
    · rw [RuleEntry.allReports_append, RuleEntry.allReports, RuleEntry.reports_of_error hb]
      rfl
    · rw [RuleEntry.allReports_append, RuleEntry.allReports_pinned]
    · rw [RuleEntry.allReports_append]
    · exact RuleEntry.unlabelled_allReports stem stem _ _ after
  | inside stem i before after fields kind list plain pinned stem' n hk hd _ ih =>
    obtain ⟨first, rest, rest', hentries, hpinned, hplain, halike⟩ := ih
    refine ⟨RuleEntry.allReports stem i before ++ fields.reports ++ first,
      rest ++ RuleEntry.allReports stem (i + before.length + 1) after,
      rest' ++ RuleEntry.allReports stem (i + before.length + 1) after, ?_, ?_, ?_, ?_⟩
    · simp [RuleEntry.allReports_append, RuleEntry.allReports, reports_of_rules hk hd, label_rule,
        hentries]
    · simp [RuleEntry.allReports_append, RuleEntry.allReports, reports_of_rules hk hd, label_rule,
        hpinned]
    · simp [RuleEntry.allReports_append, RuleEntry.allReports, reports_of_rules hk hd, label_rule,
        hplain]
    · rw [List.map_append, List.map_append, halike]

end Drops

/-- An entry is dropped from the entries for a language or from those for every language. -/
inductive DropsFrom (bad : RuleEntry) (language : Language) :
    List RuleEntry × List RuleEntry → List RuleEntry × List RuleEntry →
    List RuleEntry × List RuleEntry → String → Nat → Prop where
  | specific {entries plain pinned : List RuleEntry} {stem : String} {n : Nat}
    (wildcard : List RuleEntry) : Drops bad language.key 0 entries plain pinned stem n →
    DropsFrom bad language (entries, wildcard) (plain, wildcard) (pinned, wildcard) stem n
  | wildcard {entries plain pinned : List RuleEntry} {stem : String} {n : Nat}
    (specific : List RuleEntry) : Drops bad "*" 0 entries plain pinned stem n →
    DropsFrom bad language (specific, entries) (specific, plain) (specific, pinned) stem n

namespace DropsFrom

variable {bad : RuleEntry} {e : RuleError} {language : Language}
  {entries plain pinned : List RuleEntry × List RuleEntry} {stem : String} {n : Nat}

private theorem forest_pinned (h : DropsFrom bad language entries plain pinned stem n)
    (hb : bad.error? = some e) : RuleSet.forest language pinned.1 pinned.2 =
      RuleSet.forest language entries.1 entries.2 := by
  cases h with
  | specific wildcard h => simp only [RuleSet.forest, h.trees_pinned hb]
  | wildcard specific h => simp only [RuleSet.forest, h.trees_pinned hb]

private theorem unlabelled_forest (h : DropsFrom bad language entries plain pinned stem n)
    (hb : bad.error? = some e) :
    RuleTree.allUnlabelled (RuleSet.forest language plain.1 plain.2) =
      RuleTree.allUnlabelled (RuleSet.forest language entries.1 entries.2) := by
  cases h with
  | specific wildcard h =>
    simp only [RuleSet.forest, RuleTree.allUnlabelled_append, h.unlabelled_trees hb]
  | wildcard specific h =>
    simp only [RuleSet.forest, RuleTree.allUnlabelled_append, h.unlabelled_trees hb]

/-- The reports that a configuration gives reason to. -/
def reports (language : Language) (entries : List RuleEntry × List RuleEntry) : List Diagnostic :=
  RuleEntry.allReports language.key 0 entries.1 ++ RuleEntry.allReports "*" 0 entries.2

private theorem reports_eq (h : DropsFrom bad language entries plain pinned stem n)
    (hb : bad.error? = some e) :
    ∃ before after after', reports language entries =
        before ++ .invalid (bad.label stem n) e :: after ∧
      reports language pinned = before ++ after ∧ reports language plain = before ++ after' ∧
      after'.map Diagnostic.unlabelled = after.map Diagnostic.unlabelled := by
  cases h with
  | specific wildcard h =>
    obtain ⟨before, after, after', hentries, hpinned, hplain, halike⟩ := h.allReports hb
    refine ⟨before, after ++ RuleEntry.allReports "*" 0 wildcard,
      after' ++ RuleEntry.allReports "*" 0 wildcard, ?_, ?_, ?_, ?_⟩
    · simp [reports, hentries]
    · simp [reports, hpinned]
    · simp [reports, hplain]
    · rw [List.map_append, List.map_append, halike]
  | wildcard specific h =>
    obtain ⟨before, after, after', hentries, hpinned, hplain, halike⟩ := h.allReports hb
    refine ⟨RuleEntry.allReports language.key 0 specific ++ before, after, after', ?_, ?_, ?_, halike⟩
    · simp [reports, hentries]
    · simp [reports, hpinned]
    · simp [reports, hplain]

end DropsFrom

/-- Sets whose forests agree apart from labels agree apart from labels. -/
theorem RuleSet.unlabelled_compile {language : Language} {specific specific' wildcard wildcard' :
    List RuleEntry} (h : RuleTree.allUnlabelled (forest language specific' wildcard') =
      RuleTree.allUnlabelled (forest language specific wildcard)) :
    (RuleSet.compile language specific' wildcard').1.unlabelled =
      (RuleSet.compile language specific wildcard).1.unlabelled := by
  have hroots := congrArg (RuleTree.roots 0) h
  rw [RuleTree.roots_allUnlabelled, RuleTree.roots_allUnlabelled] at hroots
  have hrules := congrArg (fun ts => (RuleTree.allPlaces (.rules (RuleTree.roots 0
    (forest language specific wildcard))) 0 ts).map Place.rule) h
  simp only [RuleTree.rule_allPlaces_unlabelled] at hrules
  simp only [compile_eq, unlabelled, List.map_toArray, hroots, hrules]

/-- An entry that makes no rule drops only itself. It is reported once. Without it the set is the same,
labels apart, and so are the other reports; documents are folded in the same way. If the entries
behind it in its list have the labels that they had, then the set and the reports are the same with
their labels. -/
theorem RuleSet.compile_drop {bad : RuleEntry} {e : RuleError} {language : Language}
    {entries plain pinned : List RuleEntry × List RuleEntry} {stem : String} {n : Nat}
    (hbad : bad.error? = some e) (h : DropsFrom bad language entries plain pinned stem n) :
    let full := RuleSet.compile language entries.1 entries.2
    let rest := RuleSet.compile language plain.1 plain.2
    (∃ before after after', full.2 = before ++ .invalid (bad.label stem n) e :: after ∧
      rest.2 = before ++ after' ∧
      after'.map Diagnostic.unlabelled = after.map Diagnostic.unlabelled ∧
      RuleSet.compile language pinned.1 pinned.2 = (full.1, before ++ after)) ∧
    rest.1.unlabelled = full.1.unlabelled ∧
    ∀ lines, rest.1.foldLines lines = full.1.foldLines lines := by
  intro full rest
  have hset : rest.1.unlabelled = full.1.unlabelled :=
    unlabelled_compile (h.unlabelled_forest hbad)
  refine ⟨?_, hset, ?_⟩
  · obtain ⟨before, after, after', hentries, hpinned, hplain, halike⟩ := h.reports_eq hbad
    let reported := Diagnostic.anyDeprecated before
    refine ⟨Diagnostic.once false before, Diagnostic.once reported after,
      Diagnostic.once reported after', ?_, ?_, ?_, ?_⟩
    · simp only [full, compile_eq]
      change Diagnostic.once false (DropsFrom.reports language entries) = _
      rw [hentries, Diagnostic.once_append]
      rfl
    · simp only [rest, compile_eq]
      change Diagnostic.once false (DropsFrom.reports language plain) = _
      rw [hplain, Diagnostic.once_append]
      rfl
    · rw [Diagnostic.unlabelled_once, Diagnostic.unlabelled_once, halike]
    · simp only [full, compile_eq, h.forest_pinned hbad]
      change (_, Diagnostic.once false (DropsFrom.reports language pinned)) = _
      rw [hpinned, Diagnostic.once_append]
      rfl
  · intro lines
    rw [← foldLines_unlabelled, hset, foldLines_unlabelled]

/-- An entry with a text where a truth value belongs. -/
def looseEntry : RuleEntry :=
  .malformed (.object [("strict", .string "yes")]) (.wrongType (.string "yes") "a boolean")

/-- An entry that nests in its whole list. -/
def selfNested : RuleEntry :=
  .rule { opening := some "[", closing := some "]", descendants := some true } .unset

/-- The entries of a configuration with one rule that has a list of its own. -/
def around (entries : List RuleEntry) : List RuleEntry × List RuleEntry :=
  ([.rule { opening := some "(", closing := some ")" } (.rules (.many entries))], [])

/-- Without the entry in front of it, a nested rule is counted as the first of its list. -/
theorem compile_drop_of_looseEntry :
    let full := RuleSet.compile ⟨"test"⟩ (around [looseEntry, selfNested]).1 []
    let rest := RuleSet.compile ⟨"test"⟩ (around [selfNested]).1 []
    looseEntry.error? = some (.malformed (.badField (.wrongType (.string "yes") "a boolean"))) ∧
      full.1.rules.toList.map (·.label) = ["test[0]", "test[0].nested[1]"] ∧
      rest.1.rules.toList.map (·.label) = ["test[0]", "test[0].nested[0]"] ∧
      full.2.length = 2 ∧ rest.2.length = 1 ∧ rest.1.unlabelled = full.1.unlabelled ∧
      ∀ lines, rest.1.foldLines lines = full.1.foldLines lines := by
  intro full rest
  have hd : DropsFrom looseEntry ⟨"test"⟩ (around [looseEntry, selfNested]) (around [selfNested])
      (around [selfNested.named "test[0].nested[1]"]) "test[0].nested" 0 := by
    refine .specific [] (.inside "test" 0 [] [] _ _ _ _ _ _ _ rfl ?_ (.here _ 0 [] [selfNested]))
    rfl
  obtain ⟨_, hset, hfold⟩ := RuleSet.compile_drop rfl hd
  exact ⟨rfl, by decide +kernel, by decide +kernel, by decide +kernel, by decide +kernel, hset, hfold⟩

end CodeFold
