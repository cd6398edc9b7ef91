import CodeFold.Files.Execute
import CodeFold.Proofs.Assemble
import Mathlib.Data.List.Forall2
import Mathlib.Data.List.Nodup

/-!
# Folding files loses nothing

Every entry gives one record: the ranges of its file, or the reason why that cannot be read. The
records are put in the order of the paths, which compares components and not texts. Paths with the same
components are at one place in it, so the order in which entries are given shows only if two of them
have one path.
Specification: §11.4.
-/

namespace CodeFold

/-! ### The order of paths -/

namespace Path

namespace Component

/-- The name of a component that has one. -/
def text : Component → String
  | name s => s
  | _ => ""

instance : LT Component := ⟨fun a b => a.lt b = true⟩

instance : LE Component := ⟨fun a b => a.rank < b.rank ∨ a.rank = b.rank ∧ a.text ≤ b.text⟩

variable {a b c : Component}

/-- Components are ordered by their rank and then by their text. -/
theorem le_iff : a ≤ b ↔ a.rank < b.rank ∨ a.rank = b.rank ∧ a.text ≤ b.text := Iff.rfl

/-- Components are strictly ordered by their rank and then by their text. -/
theorem lt_iff_lt : a < b ↔ a.rank < b.rank ∨ a.rank = b.rank ∧ a.text < b.text := by
  show a.lt b = true ↔ _
  cases a <;> cases b <;> simp [lt, rank, text]

/-- Rank and name determine a component. -/
theorem eq_of_rank_of_text (hr : a.rank = b.rank) (ht : a.text = b.text) : a = b := by
  cases a <;> cases b <;> simp_all [rank, text]

instance : Std.IsLinearOrder Component where
  le_refl a := by
    rw [le_iff]
    exact .inr ⟨rfl, String.le_refl _⟩
  le_trans a b c hab hbc := by
    rw [le_iff] at hab hbc ⊢
    rcases hab with hab | ⟨hab, hab'⟩
    · left
      omega
    · rcases hbc with hbc | ⟨hbc, hbc'⟩
      · left
        omega
      · exact .inr ⟨hab.trans hbc, String.le_trans hab' hbc'⟩
  le_antisymm a b hab hba := by
    rw [le_iff] at hab hba
    rcases hab with hab | ⟨hab, hab'⟩
    · omega
    · rcases hba with hba | ⟨_, hba'⟩
      · omega
      · exact eq_of_rank_of_text hab (String.le_antisymm hab' hba')
  le_total a b := by
    rw [le_iff, le_iff]
    rcases Nat.lt_trichotomy a.rank b.rank with h | h | h
    · exact .inl (.inl h)
    · exact (String.le_total a.text b.text).imp (fun ht => .inr ⟨h, ht⟩) fun ht => .inr ⟨h.symm, ht⟩
    · exact .inr (.inl h)

instance : Std.LawfulOrderLT Component where
  lt_iff a b := by
    rw [lt_iff_lt, le_iff, le_iff]
    by_cases hr : a.rank = b.rank
    · simp only [hr, Nat.lt_irrefl, false_or, true_and]
      exact Std.LawfulOrderLT.lt_iff _ _
    · simp only [hr, Ne.symm hr, false_and, or_false]
      omega

end Component

private theorem componentsLE_iff {as bs : List Component} :
    componentsLE as bs = true ↔ as ≤ bs := by
  induction as generalizing bs with
  | nil => simp [componentsLE]
  | cons a as ih =>
    cases bs with
    | nil => simp [componentsLE]
    | cons b bs =>
      rw [componentsLE, List.cons_le_cons_iff, ← ih]
      by_cases hab : a < b
      · have hlt : a.lt b = true := hab
        simp [hlt, hab]
      · have hge : ¬ a.lt b = true := hab
        by_cases hba : b < a
        · have hgt : b.lt a = true := hba
          have hne : a ≠ b := by
            rintro rfl
            exact hab hba
          simp [hge, hgt, hab, hne]
        · have hle : ¬ b.lt a = true := hba
          have heq : a = b := Std.Trichotomous.trichotomous (r := (· < ·)) _ _ hab hba
          rw [if_neg hge, if_neg hle]
          subst heq
          simp [hab]

private theorem le_iff {p q : String} :
    le p q = true ↔ components p ≤ components q := componentsLE_iff

private theorem le_trans (p q r : String) (hpq : le p q = true) (hqr : le q r = true) :
    le p r = true := by
  rw [le_iff] at hpq hqr ⊢
  exact List.le_trans hpq hqr

private theorem le_total (p q : String) : (le p q || le q p) = true := by
  rw [Bool.or_eq_true, le_iff, le_iff]
  exact List.le_total _ _

end Path

/-- Files that cannot be read are listed by their paths, those at one place by the reasons. -/
theorem Unreadable.le_iff {a b : Unreadable} : a.le b = true ↔
    Path.components a.path ≤ Path.components b.path ∧
      (Path.components a.path = Path.components b.path → a.reason ≤ b.reason) := by
  unfold le
  by_cases h : Path.components a.path = Path.components b.path
  · simp [Path.same, h]
  · simp [Path.same, h, Path.le_iff]

private theorem Unreadable.le_trans (a b c : Unreadable) (hab : a.le b = true)
    (hbc : b.le c = true) : a.le c = true := by
  rw [le_iff] at hab hbc ⊢
  refine ⟨List.le_trans hab.1 hbc.1, ?_⟩
  intro hac
  have hba : Path.components b.path ≤ Path.components a.path := hac ▸ hbc.1
  have heq : Path.components a.path = Path.components b.path := List.le_antisymm hab.1 hba
  exact String.le_trans (hab.2 heq) (hbc.2 (heq.symm.trans hac))

private theorem Unreadable.le_total (a b : Unreadable) : (a.le b || b.le a) = true := by
  rw [Bool.or_eq_true, le_iff, le_iff]
  by_cases h : Path.components a.path = Path.components b.path
  · have hle : Path.components b.path ≤ Path.components b.path := List.le_refl _
    simpa [h, hle] using String.le_total a.reason b.reason
  · rcases List.le_total (Path.components a.path) (Path.components b.path) with hle | hle
    · exact .inl ⟨hle, fun heq => absurd heq h⟩
    · exact .inr ⟨hle, fun heq => absurd heq.symm h⟩

/-! ### One record for each entry -/

/-- What comes of an entry: the ranges of its file by the rules for its language if the file can be
read as text, and else the reason why it cannot. -/
inductive FileEntry.Yields {ε : Type} [ToString ε] (read : String → Except ε String)
    (registry : Registry) (entry : FileEntry) : FileRanges ⊕ Unreadable → Prop where
  | ranges {text : String} : read entry.path = .ok text →
    Yields read registry entry
      (.inl ⟨entry.path, entry.language, (registry.get entry.language).fold text⟩)
  | reason {e : ε} : read entry.path = .error e →
    Yields read registry entry (.inr ⟨entry.path, toString e⟩)

/-- All records of some results. -/
def FoldResults.fileRecords (r : FoldResults) : List (FileRanges ⊕ Unreadable) :=
  r.files.map .inl ++ r.unreadable.map .inr

/-- The record of an outcome. -/
def recordOf : Except Unreadable FileRanges → FileRanges ⊕ Unreadable
  | .ok file => .inl file
  | .error e => .inr e

/-- Outcomes are parted into two lists, and none is lost or comes twice. -/
theorem perm_map_recordOf (outcomes : List (Except Unreadable FileRanges)) :
    ((outcomes.filterMap Except.toOption).map Sum.inl ++
      (outcomes.filterMap Unreadable.ofOutcome?).map Sum.inr).Perm (outcomes.map recordOf) := by
  induction outcomes with
  | nil => exact .nil
  | cons outcome outcomes ih =>
    cases outcome with
    | ok file => exact ih.cons _
    | error e => exact List.perm_middle.trans (ih.cons _)

section Execute

variable {ε : Type} [ToString ε] {read : String → Except ε String} {registry : Registry}
  {entries : List FileEntry}

private theorem FileEntry.yields_fold (entry : FileEntry) :
    entry.Yields read registry (recordOf (entry.fold read registry)) := by
  cases h : read entry.path with
  | ok text =>
    simp only [fold, h]
    exact .ranges h
  | error e =>
    simp only [fold, h]
    exact .reason h

private theorem FileEntry.path_of_fold_ok {entry : FileEntry} {file : FileRanges}
    (h : (entry.fold read registry).toOption = some file) : file.path = entry.path := by
  cases hr : read entry.path with
  | ok text =>
    simp only [fold, hr] at h
    cases h
    rfl
  | error e =>
    simp only [fold, hr] at h
    cases h

private theorem FileEntry.path_of_fold_error {entry : FileEntry} {e : Unreadable}
    (h : Unreadable.ofOutcome? (entry.fold read registry) = some e) : e.path = entry.path := by
  cases hr : read entry.path with
  | ok text =>
    simp only [fold, hr] at h
    cases h
  | error e' =>
    simp only [fold, hr] at h
    cases h
    rfl

/-! ### Both lists are in order -/

private theorem files_execute : (registry.execute read entries).files =
    (entries.filterMap fun e => (e.fold read registry).toOption).mergeSort fun a b =>
      Path.le a.path b.path := by
  simp only [Registry.execute, List.filterMap_map]
  rfl

private theorem unreadable_execute : (registry.execute read entries).unreadable =
    (entries.filterMap fun e => Unreadable.ofOutcome? (e.fold read registry)).mergeSort
      Unreadable.le := by
  simp only [Registry.execute, List.filterMap_map]
  rfl

private theorem sorted_files : (registry.execute read entries).files.Pairwise fun a b =>
    Path.components a.path ≤ Path.components b.path := by
  rw [files_execute]
  refine (List.pairwise_mergeSort ?_ ?_ _).imp Path.le_iff.mp
  · intro a b c
    exact Path.le_trans a.path b.path c.path
  · intro a b
    exact Path.le_total a.path b.path

private theorem sorted_unreadable : (registry.execute read entries).unreadable.Pairwise fun a b =>
    Path.components a.path ≤ Path.components b.path := by
  rw [unreadable_execute]
  have hsorted := List.pairwise_mergeSort Unreadable.le_trans Unreadable.le_total
    (entries.filterMap fun e => Unreadable.ofOutcome? (e.fold read registry))
  exact hsorted.imp fun h => (Unreadable.le_iff.mp h).1

private theorem perm_fileRecords : (registry.execute read entries).fileRecords.Perm
    (entries.map fun e => recordOf (e.fold read registry)) := by
  have hparts := perm_map_recordOf (entries.map fun e => e.fold read registry)
  rw [List.filterMap_map, List.filterMap_map, List.map_map] at hparts
  rw [FoldResults.fileRecords, files_execute, unreadable_execute]
  refine List.Perm.trans ?_ hparts
  exact ((List.mergeSort_perm _ _).map _).append ((List.mergeSort_perm _ _).map _)

/-- What is taken from entries with different paths and sorted by the paths does not depend on the
order of the entries. -/
theorem mergeSort_filterMap_of_perm {α : Type} {f : FileEntry → Option α} {path : α → String}
    {le : α → α → Bool} {entries' : List FileEntry}
    (hpath : ∀ e x, f e = some x → path x = e.path)
    (trans : ∀ a b c, le a b = true → le b c = true → le a c = true)
    (total : ∀ a b, (le a b || le b a) = true)
    (hle : ∀ a b, le a b = true → Path.components (path a) ≤ Path.components (path b))
    (hne : entries.Pairwise fun a b => Path.components a.path ≠ Path.components b.path)
    (hp : entries.Perm entries') :
    (entries.filterMap f).mergeSort le = (entries'.filterMap f).mergeSort le := by
  have hnodup : ((entries.filterMap f).map fun x => Path.components (path x)).Nodup := by
    rw [List.Nodup, List.pairwise_map]
    refine hne.filterMap f ?_
    intro e e' he x hx y hy
    rwa [hpath e x hx, hpath e' y hy]
  apply mergeSort_eq trans total
  · intro a ha b hb hab hba
    exact List.inj_on_of_nodup_map hnodup ha hb (List.le_antisymm (hle a b hab) (hle b a hba))
  · exact List.pairwise_mergeSort trans total _
  · exact (hp.filterMap f).trans (List.mergeSort_perm _ _).symm

/-- If no two entries have one path, the order in which they are given does not matter. -/
theorem execute_of_perm {entries' : List FileEntry}
    (hne : entries.Pairwise fun a b => Path.components a.path ≠ Path.components b.path)
    (hp : entries.Perm entries') :
    registry.execute read entries = registry.execute read entries' := by
  have hfiles : (registry.execute read entries).files =
      (registry.execute read entries').files := by
    rw [files_execute, files_execute]
    apply mergeSort_filterMap_of_perm _ _ _ _ hne hp
    · exact FileRanges.path
    · intro e x hx
      exact FileEntry.path_of_fold_ok hx
    · intro a b c
      exact Path.le_trans a.path b.path c.path
    · intro a b
      exact Path.le_total a.path b.path
    · intro a b
      exact Path.le_iff.mp
  have hunreadable : (registry.execute read entries).unreadable =
      (registry.execute read entries').unreadable := by
    rw [unreadable_execute, unreadable_execute]
    apply mergeSort_filterMap_of_perm _ Unreadable.le_trans Unreadable.le_total _ hne hp
    · exact Unreadable.path
    · intro e x hx
      exact FileEntry.path_of_fold_error hx
    · intro a b h
      exact (Unreadable.le_iff.mp h).1
  cases hr : registry.execute read entries
  cases hr' : registry.execute read entries'
  rw [hr, hr'] at hfiles hunreadable
  exact congrArg₂ FoldResults.mk hfiles hunreadable

end Execute

/-- Every range that is listed counts once. -/
theorem FoldResults.rangeCount_eq (r : FoldResults) :
    r.rangeCount = (r.files.flatMap (·.ranges)).length := by
  unfold rangeCount
  induction r.files with
  | nil => rfl
  | cons file files ih =>
    rw [List.map_cons, List.foldr_cons, ih, List.flatMap_cons, List.length_append]

/-- A path of a tree reads as text if a file stands there whose bytes are the text in UTF-8. -/
theorem Workspace.readText_eq_ok_iff (w : Workspace) (path text : String) :
    w.readText path = .ok text ↔
      ∃ content, w.find path = .ok (.file content) ∧ String.fromUTF8? content = some text := by
  unfold readText
  cases hf : w.find path with
  | error e => simp [bind, Except.bind]
  | ok node =>
    cases node with
    | directory entries => simp [bind, Except.bind, FileTree.text]
    | file content =>
      cases ht : String.fromUTF8? content <;> simp [bind, Except.bind, FileTree.text, ht]

/-- Folding files gives exactly one record for each entry, which holds the ranges of the file by the
rules for its language if the path reads as text and the reason if it does not. Both lists are in the
order of the paths, and the ranges that they list are counted. If no two entries have one path, the
order of the entries does not show. -/
theorem Registry.execute_complete {ε : Type} [ToString ε] (registry : Registry)
    (read : String → Except ε String) (entries : List FileEntry) :
    (∃ records, List.Forall₂ (FileEntry.Yields read registry) entries records ∧
      (registry.execute read entries).fileRecords.Perm records) ∧
    (registry.execute read entries).files.Pairwise
      (fun a b => Path.components a.path ≤ Path.components b.path) ∧
    (registry.execute read entries).unreadable.Pairwise
      (fun a b => Path.components a.path ≤ Path.components b.path) ∧
    (registry.execute read entries).rangeCount =
      ((registry.execute read entries).files.flatMap (·.ranges)).length ∧
    (entries.Pairwise (fun a b => Path.components a.path ≠ Path.components b.path) →
      ∀ entries', entries.Perm entries' →
        registry.execute read entries = registry.execute read entries') ∧
    ∀ (w : Workspace) (path text : String), w.readText path = .ok text ↔
      ∃ content, w.find path = .ok (.file content) ∧ String.fromUTF8? content = some text := by
  refine ⟨⟨_, ?_, perm_fileRecords⟩, sorted_files, sorted_unreadable, FoldResults.rangeCount_eq _, ?_,
    Workspace.readText_eq_ok_iff⟩
  · rw [List.forall₂_map_right_iff, List.forall₂_same]
    intro e _
    exact e.yields_fold
  · intro hne entries' hp
    exact execute_of_perm hne hp

/-- Parentheses in every language, and blocks by their indentation in one. -/
def parensOrBlocks : Registry :=
  (Registry.build { rules :=
    [("*", .one (.rule { opening := some "(", closing := some ")" } .unset)),
      ("python", .one (.rule { offSide := some true } .unset))] }).1

/-- A tree with two texts, one of them in a directory, and a file that is no text. -/
def mixedTree : Workspace where
  root := .directory
    [("a.txt", .file "x (\n)".toUTF8), ("b", .directory [("c.py", .file "if x:\n  y".toUTF8)]),
      ("d.bin", .file ⟨#[0x28, 0xff]⟩)]
  cwd := []

/-- The files of the tree, and one that is not there. -/
def mixedTreeEntries : List FileEntry :=
  [⟨"a.txt", none⟩, ⟨"b/c.py", some ⟨"python"⟩⟩, ⟨"d.bin", none⟩, ⟨"e", none⟩]

/-- Four entries from the last to the first give two files with ranges and two reasons, in order. -/
theorem execute_complete_of_mixedTree :
    (parensOrBlocks.execute mixedTree.readText mixedTreeEntries.reverse).files =
      [⟨"a.txt", none, [⟨0, 1, .region⟩]⟩, ⟨"b/c.py", some ⟨"python"⟩, [⟨0, 1, .region⟩]⟩] ∧
    (parensOrBlocks.execute mixedTree.readText mixedTreeEntries.reverse).unreadable =
      [⟨"d.bin", "stream did not contain valid UTF-8"⟩,
        ⟨"e", "No such file or directory (os error 2)"⟩] := by
  have hfiles : mixedTreeEntries.filterMap (fun e =>
      (e.fold mixedTree.readText parensOrBlocks).toOption) =
      [⟨"a.txt", none, [⟨0, 1, .region⟩]⟩, ⟨"b/c.py", some ⟨"python"⟩, [⟨0, 1, .region⟩]⟩] := by
    decide +kernel
  have hunreadable : mixedTreeEntries.filterMap (fun e =>
      Unreadable.ofOutcome? (e.fold mixedTree.readText parensOrBlocks)) =
      [⟨"d.bin", "stream did not contain valid UTF-8"⟩,
        ⟨"e", "No such file or directory (os error 2)"⟩] := by decide +kernel
  obtain ⟨_, _, _, _, horder, _⟩ :=
    Registry.execute_complete parensOrBlocks mixedTree.readText mixedTreeEntries
  have hreverse := horder (by decide +kernel) _ mixedTreeEntries.reverse_perm.symm
  rw [← hreverse, files_execute, unreadable_execute, hfiles, hunreadable]
  exact ⟨List.mergeSort_of_pairwise (by decide +kernel),
    List.mergeSort_of_pairwise (by decide +kernel)⟩

end CodeFold
