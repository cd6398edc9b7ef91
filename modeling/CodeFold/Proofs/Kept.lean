import CodeFold.Proofs.Arena

/-!
# Kept rules

The entries that make rules form a forest: below a rule with a list of its own stand the kept rules
of that list. Compiling puts the forest into an array in the order in which its rules are met, each
rule before those nested in it, and reports on the way. Here the result of compiling is given by the
forest and the list of all reports alone.
Specification: §4.1.
-/

namespace CodeFold

/-- An entry that makes a rule. -/
structure KeptEntry where
  label : String
  /-- The fields without the name, which is in the label. -/
  fields : RuleFields
  kind : RuleKind

/-- A rule that is kept, with the kept rules of its own list. -/
inductive RuleTree where
  /-- A rule without a list of its own; `flag` is what it says instead about nested rules. -/
  | leaf (entry : KeptEntry) (flag : Option Bool)
  | branch (entry : KeptEntry) (children : List RuleTree)

mutual

/-- The tree of an entry that makes a rule. -/
def RuleEntry.tree? (label : String) : RuleEntry → Option RuleTree
  | .malformed _ _ => none
  | .rule fields nested =>
    match compileKind fields with
    | .error _ => none
    | .ok kind =>
      let entry : KeptEntry := ⟨label, { fields with name := none }, kind⟩
      if kind.isDelimited then some (Nested.tree entry nested) else some (.leaf entry none)

/-- The tree of a rule that can have a list of its own. -/
def Nested.tree (entry : KeptEntry) : Nested → RuleTree
  | .unset => .leaf entry none
  | .flag inherits => .leaf entry (some inherits)
  | .rules list => .branch entry (RuleList.trees (entry.label ++ ".nested") list)

/-- The trees of a rule list. -/
def RuleList.trees (stem : String) : RuleList → List RuleTree
  | .one entry => (RuleEntry.tree? (entry.label stem 0) entry).toList
  | .many entries => RuleEntry.trees stem 0 entries

/-- The trees of the entries of a list from the `i`-th on. -/
def RuleEntry.trees (stem : String) (i : Nat) : List RuleEntry → List RuleTree
  | [] => []
  | entry :: entries =>
    (RuleEntry.tree? (entry.label stem i) entry).toList ++ RuleEntry.trees stem (i + 1) entries

end

namespace RuleTree

/-- The entry of the outermost rule. -/
def entry : RuleTree → KeptEntry
  | leaf entry _ | branch entry _ => entry

mutual

/-- The number of rules of a tree. -/
def size : RuleTree → Nat
  | leaf _ _ => 1
  | branch _ children => sizes children + 1

/-- The number of rules of some trees. -/
def sizes : List RuleTree → Nat
  | [] => 0
  | t :: ts => size t + sizes ts

end

/-- The numbers of the outermost rules of trees whose rules are numbered from `n` on. -/
def roots (n : Nat) : List RuleTree → List RuleId
  | [] => []
  | t :: ts => n :: roots (n + t.size) ts

end RuleTree

/-- A kept rule in its place. -/
structure Place where
  entry : KeptEntry
  flag : Option Bool
  id : RuleId
  /-- The list of its own, if it has one. -/
  children : Option (List RuleId)
  /-- What holds inside it if it nests in the whole list that it stands in. -/
  whole : Nesting

/-- The rules inside the regions of an entry without a list of its own. -/
def KeptEntry.nesting (entry : KeptEntry) (flag : Option Bool) (whole : Nesting) : Nesting :=
  match entry.kind.isDelimited, flag, entry.fields.descendants with
  | true, some true, _ => .inherit
  | true, some false, _ => .sealed
  | true, none, some true => whole
  | true, none, some false => .sealed
  | _, _, _ => .inherit

namespace Place

/-- The rules inside the regions of a rule. -/
def nesting (p : Place) : Nesting := p.children.elim (p.entry.nesting p.flag p.whole) .rules

/-- The compiled rule. -/
def rule (p : Place) : Rule :=
  { p.entry.fields.rule p.id p.entry.label p.entry.kind with nesting := p.nesting }

end Place

namespace RuleTree

mutual

/-- The rules of a tree, numbered from `n` on, each before those nested in it. -/
def places (whole : Nesting) (n : Nat) : RuleTree → List Place
  | leaf entry flag => [⟨entry, flag, n, none, whole⟩]
  | branch entry children =>
    ⟨entry, none, n, some (roots (n + 1) children), whole⟩ ::
      allPlaces (.rules (roots (n + 1) children)) (n + 1) children

/-- The rules of some trees, one tree after the other. -/
def allPlaces (whole : Nesting) (n : Nat) : List RuleTree → List Place
  | [] => []
  | t :: ts => places whole n t ++ allPlaces whole (n + t.size) ts

end

/-- The outermost rule of a tree. -/
def root (whole : Nesting) (n : Nat) : RuleTree → Place
  | leaf entry flag => ⟨entry, flag, n, none, whole⟩
  | branch entry children => ⟨entry, none, n, some (roots (n + 1) children), whole⟩

/-- The rules below the outermost one, numbered from `n` on. -/
def inner (n : Nat) : RuleTree → List Place
  | leaf _ _ => []
  | branch _ children => allPlaces (.rules (roots n children)) n children

/-- Whether the outermost rule nests in the whole list that it stands in. -/
def nestsInWhole : RuleTree → Bool
  | leaf entry none => entry.kind.isDelimited && entry.fields.descendants = some true
  | _ => false

/-- The outermost rules that nest in the whole list. -/
def wholeRoots (n : Nat) : List RuleTree → List RuleId
  | [] => []
  | t :: ts => (if t.nestsInWhole then [n] else []) ++ wholeRoots (n + t.size) ts

end RuleTree

/-- The report that the field `descendants` is set. -/
def RuleFields.reports (f : RuleFields) : List Diagnostic :=
  if f.descendants.isSome then [.deprecated "descendants"] else []

mutual

/-- What an entry gives reason to report. -/
def RuleEntry.reports (label : String) : RuleEntry → List Diagnostic
  | .malformed _ fault => [.invalid label (.malformed (.badField fault))]
  | .rule fields nested =>
    match compileKind fields with
    | .error e => [.invalid label e]
    | .ok kind => fields.reports ++ if kind.isDelimited then Nested.reports label nested else []

/-- What nested rules give reason to report. -/
def Nested.reports (label : String) : Nested → List Diagnostic
  | .unset | .flag _ => []
  | .rules list => RuleList.reports (label ++ ".nested") list

/-- What a rule list gives reason to report. -/
def RuleList.reports (stem : String) : RuleList → List Diagnostic
  | .one entry => RuleEntry.reports (entry.label stem 0) entry
  | .many entries => RuleEntry.allReports stem 0 entries

/-- What the entries of a list from the `i`-th on give reason to report. -/
def RuleEntry.allReports (stem : String) (i : Nat) : List RuleEntry → List Diagnostic
  | [] => []
  | entry :: entries =>
    RuleEntry.reports (entry.label stem i) entry ++ RuleEntry.allReports stem (i + 1) entries

end

namespace Diagnostic

/-- Leaves out that a field is out of date where it has been reported already. -/
def once (reported : Bool) : List Diagnostic → List Diagnostic
  | [] => []
  | deprecated field :: ds => if reported then once true ds else deprecated field :: once true ds
  | invalid label error :: ds => invalid label error :: once reported ds

/-- Whether a field is reported as out of date. -/
def anyDeprecated (ds : List Diagnostic) : Bool := ds.any (!·.isInvalid)

/-- A report that is made once is made in the first part that holds it. -/
theorem once_append (reported : Bool) (ds es : List Diagnostic) :
    once reported (ds ++ es) = once reported ds ++ once (reported || anyDeprecated ds) es := by
  induction ds generalizing reported with
  | nil => simp [once, anyDeprecated]
  | cons d ds ih =>
    cases d with
    | deprecated field => cases reported <;> simp [once, ih, anyDeprecated, isInvalid]
    | invalid label error => simp [once, ih, anyDeprecated, isInvalid]

end Diagnostic

/-! ### Trees -/

namespace RuleTree

private theorem places_eq (whole : Nesting) (n : Nat) (t : RuleTree) :
    t.places whole n = t.root whole n :: t.inner (n + 1) := by
  cases t <;> rw [places] <;> rfl

private theorem rule_root (whole : Nesting) (n : Nat) (t : RuleTree) : (t.root whole n).rule =
    { t.entry.fields.rule n t.entry.label t.entry.kind with
      nesting := (t.root whole n).nesting } := by
  cases t <;> rfl

/-- Only for a rule that nests in the whole list it matters what that list is. -/
theorem rule_root_of_not_nestsInWhole {t : RuleTree} (h : t.nestsInWhole = false)
    (whole whole' : Nesting) (n : Nat) : (t.root whole n).rule = (t.root whole' n).rule := by
  cases t with
  | branch entry children => rfl
  | leaf entry flag =>
    have hn : entry.nesting flag whole = entry.nesting flag whole' := by
      unfold KeptEntry.nesting
      split
      · rfl
      · rfl
      · next hk hd => simp [nestsInWhole, hk, hd] at h
      · rfl
      · rfl
    simp only [Place.rule, root, Place.nesting, Option.elim, hn]

/-- For a rule that nests in the whole list it matters only for what holds inside it. -/
theorem rule_root_of_nestsInWhole {t : RuleTree} (h : t.nestsInWhole = true)
    (whole whole' : Nesting) (n : Nat) :
    (t.root whole n).rule = { (t.root whole' n).rule with nesting := whole } := by
  cases t with
  | branch entry children => cases h
  | leaf entry flag =>
    cases flag with
    | some flag => cases h
    | none =>
      simp only [nestsInWhole, Bool.and_eq_true, decide_eq_true_iff] at h
      simp only [Place.rule, root, Place.nesting, Option.elim, KeptEntry.nesting, h.1, h.2]

mutual

private theorem length_places (whole : Nesting) (n : Nat) (t : RuleTree) :
    (t.places whole n).length = t.size := by
  cases t with
  | leaf entry flag => rw [places, size, List.length_singleton]
  | branch entry children =>
    rw [places, size, List.length_cons, length_allPlaces _ _ children]

/-- There are as many places as trees have nodes. -/
theorem length_allPlaces (whole : Nesting) (n : Nat) (ts : List RuleTree) :
    (allPlaces whole n ts).length = sizes ts := by
  cases ts with
  | nil => rw [allPlaces, sizes, List.length_nil]
  | cons t ts =>
    rw [allPlaces, sizes, List.length_append, length_places whole n t, length_allPlaces _ _ ts]

end

private theorem roots_append (n : Nat) (ts us : List RuleTree) :
    roots n (ts ++ us) = roots n ts ++ roots (n + sizes ts) us := by
  induction ts generalizing n with
  | nil => simp [roots, sizes]
  | cons t ts ih => simp only [List.cons_append, roots, ih, sizes, Nat.add_assoc]

private theorem wholeRoots_append (n : Nat) (ts us : List RuleTree) :
    wholeRoots n (ts ++ us) = wholeRoots n ts ++ wholeRoots (n + sizes ts) us := by
  induction ts generalizing n with
  | nil => simp [wholeRoots, sizes]
  | cons t ts ih =>
    simp only [List.cons_append, wholeRoots, ih, sizes, Nat.add_assoc, List.append_assoc]

/-- The places of more trees follow behind those of the first ones. -/
theorem allPlaces_append (whole : Nesting) (n : Nat) (ts us : List RuleTree) :
    allPlaces whole n (ts ++ us) = allPlaces whole n ts ++ allPlaces whole (n + sizes ts) us := by
  induction ts generalizing n with
  | nil => simp [allPlaces, sizes]
  | cons t ts ih =>
    simp only [List.cons_append, allPlaces, ih, sizes, Nat.add_assoc, List.append_assoc]

@[simp] private theorem roots_toList (n : Nat) (t : RuleTree) : roots n (some t).toList = [n] := rfl

@[simp] private theorem wholeRoots_toList (n : Nat) (t : RuleTree) :
    wholeRoots n (some t).toList = if t.nestsInWhole then [n] else [] :=
  List.append_nil _

@[simp] private theorem allPlaces_toList (whole : Nesting) (n : Nat) (t : RuleTree) :
    allPlaces whole n (some t).toList = t.places whole n := by
  simp [allPlaces]

/-- The rules of trees before those that nest in the whole list are told what it is. -/
def drafts (n : Nat) (ts : List RuleTree) : List Rule := (allPlaces .inherit n ts).map Place.rule

end RuleTree

/-! ### Builds -/

namespace Build

/-- Adds rules and what there is reason to report. -/
def extend (b : Build) (rules : List Rule) (reports : List Diagnostic) : Build where
  rules := b.rules ++ rules.toArray
  diagnostics := b.diagnostics ++ Diagnostic.once b.deprecationReported reports
  deprecationReported := b.deprecationReported || Diagnostic.anyDeprecated reports

@[simp] private theorem size_extend (b : Build) (rules : List Rule) (reports : List Diagnostic) :
    (b.extend rules reports).rules.size = b.rules.size + rules.length := by
  simp [extend]

private theorem extend_nil (b : Build) : b.extend [] [] = b := by
  simp [extend, Diagnostic.once, Diagnostic.anyDeprecated]

private theorem extend_extend (b : Build) (rules rules' : List Rule)
    (reports reports' : List Diagnostic) : (b.extend rules reports).extend rules' reports' =
      b.extend (rules ++ rules') (reports ++ reports') := by
  simp [extend, Diagnostic.once_append, Diagnostic.anyDeprecated, Bool.or_assoc]

private theorem push_eq_extend (b : Build) (r : Rule) : b.push r = b.extend [r] [] := by
  simp [push, extend, Diagnostic.once, Diagnostic.anyDeprecated]

private theorem report_eq_extend (b : Build) (label : String) (e : RuleError) :
    b.report (.invalid label e) = b.extend [] [.invalid label e] := by
  simp [report, extend, Diagnostic.once, Diagnostic.anyDeprecated, Diagnostic.isInvalid]

private theorem reportDescendants_eq_extend (b : Build) (f : RuleFields) :
    b.reportDescendants f = b.extend [] f.reports := by
  obtain ⟨rules, diagnostics, reported⟩ := b
  cases hd : f.descendants <;> cases reported <;>
    simp [reportDescendants, report, RuleFields.reports, extend, hd, Diagnostic.once,
      Diagnostic.anyDeprecated, Diagnostic.isInvalid]

/-- The first of the rules that are added has the next number. -/
theorem setNesting_extend (b : Build) (r : Rule) (rules : List Rule) (reports : List Diagnostic)
    (nesting : Nesting) :
    (b.extend (r :: rules) reports).setNesting nesting b.rules.size =
      b.extend ({ r with nesting } :: rules) reports := by
  simp only [setNesting, extend, Build.mk.injEq, and_self, and_true]
  apply Array.toList_inj.mp
  rw [Array.toList_modify]
  simp [List.modify_eq_take_cons_drop, List.drop_append]

end Build

/-- Telling the rules that nest in the whole list what it is. -/
theorem Siblings.close_extend (ids : List RuleId) (ts : List RuleTree) (b : Build)
    (reports : List Diagnostic) :
    (⟨ids, RuleTree.wholeRoots b.rules.size ts⟩ : Siblings).close
        (b.extend (RuleTree.drafts b.rules.size ts) reports) =
      b.extend ((RuleTree.allPlaces (.rules ids) b.rules.size ts).map Place.rule) reports := by
  induction ts generalizing b with
  | nil => rfl
  | cons t ts ih =>
    -- The rules of the first tree are set apart, as they are after its outermost one was told.
    have hstep (self : Nesting) (more : List Rule) :
        b.extend ((t.places self b.rules.size).map Place.rule ++ more) reports =
          (b.extend ((t.places self b.rules.size).map Place.rule) []).extend more reports := by
      rw [Build.extend_extend, List.nil_append]
    have hsize (self : Nesting) :
        (b.extend ((t.places self b.rules.size).map Place.rule) []).rules.size =
          b.rules.size + t.size := by
      rw [Build.size_extend, List.length_map, RuleTree.length_places]
    have ih := ih (b.extend ((t.places (.rules ids) b.rules.size).map Place.rule) [])
    simp only [RuleTree.drafts, hsize, ← hstep] at ih
    simp only [RuleTree.drafts, RuleTree.allPlaces, List.map_append, RuleTree.wholeRoots]
    rw [← ih]
    simp only [close, List.foldl_append]
    congr 1
    simp only [RuleTree.places_eq, List.map_cons, List.cons_append]
    split
    · next h =>
      rw [List.foldl_cons, List.foldl_nil, Build.setNesting_extend,
        ← RuleTree.rule_root_of_nestsInWhole h]
    · next h =>
      rw [RuleTree.rule_root_of_not_nestsInWhole (by simpa using h) .inherit (.rules ids)]
      rfl

/-! ### Compiling -/

private theorem Nested.entry_tree (entry : KeptEntry) (nested : Nested) :
    (nested.tree entry).entry = entry := by
  cases nested <;> rw [tree] <;> rfl

/-- The result of compiling entries that make some trees and reports. -/
def Build.compiled (b : Build) (ts : List RuleTree) (reports : List Diagnostic) :
    Siblings × Build :=
  (⟨RuleTree.roots b.rules.size ts, RuleTree.wholeRoots b.rules.size ts⟩,
    b.extend (RuleTree.drafts b.rules.size ts) reports)

private theorem Build.compiled_some (b : Build) (t : RuleTree) (reports : List Diagnostic) :
    b.compiled (some t).toList reports =
      (⟨[b.rules.size], if t.nestsInWhole then [b.rules.size] else []⟩,
        b.extend ({ t.entry.fields.rule b.rules.size t.entry.label t.entry.kind with
          nesting := (t.root .inherit b.rules.size).nesting } ::
            (t.inner (b.rules.size + 1)).map Place.rule) reports) := by
  simp only [compiled, RuleTree.roots_toList, RuleTree.wholeRoots_toList, RuleTree.drafts,
    RuleTree.allPlaces_toList, RuleTree.places_eq, List.map_cons, RuleTree.rule_root]

/-- Entries that are compiled one after the other make one longer list of trees. -/
theorem Build.compiled_append (b : Build) (ts us : List RuleTree) (ds es : List Diagnostic) :
    (((b.compiled ts ds).1.append ((b.compiled ts ds).2.compiled us es).1,
      ((b.compiled ts ds).2.compiled us es).2) : Siblings × Build) =
      b.compiled (ts ++ us) (ds ++ es) := by
  have hsize : (b.extend (RuleTree.drafts b.rules.size ts) ds).rules.size =
      b.rules.size + RuleTree.sizes ts := by
    rw [size_extend, RuleTree.drafts, List.length_map, RuleTree.length_allPlaces]
  simp only [compiled, Siblings.append, hsize, extend_extend, RuleTree.roots_append,
    RuleTree.wholeRoots_append]
  rw [RuleTree.drafts, RuleTree.drafts, ← List.map_append, ← RuleTree.allPlaces_append,
    RuleTree.drafts]

private theorem Build.compiled_nil (b : Build) : b.compiled [] [] = (.none, b) := by
  simp only [compiled, RuleTree.drafts, RuleTree.allPlaces, List.map_nil, extend_nil]
  rfl

mutual

private theorem compileEntry_eq (label : String) (entry : RuleEntry) (b : Build) :
    compileEntry label entry b = b.compiled (entry.tree? label).toList (entry.reports label) := by
  cases entry with
  | malformed value fault =>
    rw [compileEntry, RuleEntry.tree?, RuleEntry.reports, Build.report_eq_extend]
    rfl
  | rule fields nested =>
    rw [compileEntry, RuleEntry.tree?, RuleEntry.reports]
    cases hkind : compileKind fields with
    | error e => exact congrArg (Prod.mk _) (b.report_eq_extend label e)
    | ok kind =>
      dsimp only
      rw [Build.reportDescendants_eq_extend, Build.push_eq_extend, Build.extend_extend]
      split
      · next hd =>
        have hn := compileNested_eq ⟨label, { fields with name := none }, kind⟩ hd b.rules.size nested
          (b.extend [fields.rule b.rules.size label kind] fields.reports) (by simp)
        dsimp only at hn
        rw [List.append_nil, List.nil_append, hn]
        dsimp only
        rw [Build.extend_extend, List.singleton_append, Build.setNesting_extend,
          Build.compiled_some, Nested.entry_tree]
        rfl
      · next hd =>
        have hn : KeptEntry.nesting ⟨label, { fields with name := none }, kind⟩ none .inherit =
            .inherit := by
          simp [KeptEntry.nesting, hd]
        have hw : (RuleTree.leaf ⟨label, { fields with name := none }, kind⟩ none).nestsInWhole =
            false := by
          simp [RuleTree.nestsInWhole, hd]
        rw [Build.compiled_some, hw]
        simp only [RuleTree.entry, RuleTree.root, RuleTree.inner, Place.nesting, Option.elim, hn,
          List.nil_append, List.append_nil]
        rfl

private theorem compileNested_eq (entry : KeptEntry) (hd : entry.kind.isDelimited = true) (n : Nat)
    (nested : Nested) (b : Build) (hb : b.rules.size = n + 1) :
    compileNested entry.label entry.fields.descendants nested b =
      (((nested.tree entry).root .inherit n).nesting, (nested.tree entry).nestsInWhole,
        b.extend (((nested.tree entry).inner (n + 1)).map Place.rule)
          (nested.reports entry.label)) := by
  cases nested with
  | unset =>
    rcases hdesc : entry.fields.descendants with _ | (_ | _) <;>
      simp [compileNested, Nested.tree, Nested.reports, RuleTree.root, Place.nesting,
        KeptEntry.nesting, RuleTree.nestsInWhole, RuleTree.inner, hd, hdesc, Build.extend_nil]
  | flag inherits =>
    cases inherits <;>
      simp [compileNested, Nested.tree, Nested.reports, RuleTree.root, Place.nesting,
        KeptEntry.nesting, RuleTree.nestsInWhole, RuleTree.inner, hd, Build.extend_nil]
  | rules list =>
    rw [compileNested, compileList_eq (entry.label ++ ".nested") list b, Nested.tree, Nested.reports]
    have hclose := Siblings.close_extend (RuleTree.roots b.rules.size
      (list.trees (entry.label ++ ".nested"))) (list.trees (entry.label ++ ".nested")) b
      (list.reports (entry.label ++ ".nested"))
    simp only [Build.compiled, hclose, RuleTree.root, RuleTree.inner, ← hb]
    rfl

private theorem compileList_eq (stem : String) (list : RuleList) (b : Build) :
    compileList stem list b = b.compiled (list.trees stem) (list.reports stem) := by
  cases list with
  | one entry =>
    rw [compileList, RuleList.trees, RuleList.reports]
    exact compileEntry_eq (entry.label stem 0) entry b
  | many entries =>
    rw [compileList, RuleList.trees, RuleList.reports]
    exact compileEntries_eq stem 0 entries b

private theorem compileEntries_eq (stem : String) (i : Nat) (entries : List RuleEntry) (b : Build) :
    compileEntries stem i entries b =
      b.compiled (RuleEntry.trees stem i entries) (RuleEntry.allReports stem i entries) := by
  cases entries with
  | nil => rw [compileEntries, RuleEntry.trees, RuleEntry.allReports, Build.compiled_nil]
  | cons entry entries =>
    rw [compileEntries, RuleEntry.trees, RuleEntry.allReports,
      compileEntry_eq (entry.label stem i) entry b]
    dsimp only
    rw [compileEntries_eq stem (i + 1) entries, Build.compiled_append]

end

namespace RuleSet

/-- The forest of the entries for a language and those for every language. -/
def forest (language : Language) (specific wildcard : List RuleEntry) : List RuleTree :=
  RuleEntry.trees language.key 0 specific ++ RuleEntry.trees "*" 0 wildcard

/-- A set lists the rules of its forest, and what is reported are the reports of all entries, a field
that is out of date once. -/
theorem compile_eq (language : Language) (specific wildcard : List RuleEntry) :
    let forest := forest language specific wildcard
    RuleSet.compile language specific wildcard =
      (⟨language, ((RuleTree.allPlaces (.rules (RuleTree.roots 0 forest)) 0 forest).map
          Place.rule).toArray, RuleTree.roots 0 forest⟩,
        Diagnostic.once false (RuleEntry.allReports language.key 0 specific ++
          RuleEntry.allReports "*" 0 wildcard)) := by
  intro forest
  have hall := Build.compiled_append Build.empty (RuleEntry.trees language.key 0 specific)
    (RuleEntry.trees "*" 0 wildcard) (RuleEntry.allReports language.key 0 specific)
    (RuleEntry.allReports "*" 0 wildcard)
  obtain ⟨hsiblings, hbuild⟩ := Prod.mk.inj hall
  simp only [RuleSet.compile, compileEntries_eq, hsiblings, hbuild, Siblings.close_extend]
  simp [forest, RuleSet.forest, Build.extend, Build.empty]

end RuleSet

end CodeFold
