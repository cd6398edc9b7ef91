import CodeFold.Proofs.Decoding
import CodeFold.Proofs.SortedMap
import Mathlib.Data.List.Find

/-!
# Writing rules and reading them back

What is read from a value and written is read back as the same rules: the fields that are set, the
rules nested in them at every depth, and the values that are no rules. Two halves meet at the lists in
which a malformed entry keeps a value that is read as this entry. Reading gives only such lists, and
writing loses nothing of them.
Specification: §10.
-/

namespace CodeFold

/-! ### Members in order -/

namespace Json

private theorem lastOr_append {α : Type} (names : List String) (read : Json → α) (old : α)
    (first second : List (String × Json)) :
    lastOr names read old (first ++ second) =
      lastOr names read (lastOr names read old first) second := by
  induction first generalizing old with
  | nil => rfl
  | cons m first ih => rw [List.cons_append, lastOr_cons, ih, ← lastOr_cons]

private theorem lastOr_name {α : Type} (name : String) (read : Json → α) (old : α)
    (members : List (String × Json)) :
    lastOr [name] read old members = (members.reverse.lookup name).elim old read := by
  unfold lastOr
  induction members.reverse with
  | nil => rfl
  | cons m rest ih =>
    by_cases hm : m.1 = name
    · simp [SortedMap.lookup_cons, hm]
    · have hne : ¬name = m.1 := Ne.symm hm
      simpa [SortedMap.lookup_cons, hm, hne] using ih

/-- Putting members in order does not change what stands under a name. -/
theorem lastOr_ofList {α : Type} (name : String) (read : Json → α) (old : α)
    (members : List (String × Json)) :
    lastOr [name] read old (SortedMap.ofList members) = lastOr [name] read old members := by
  rw [lastOr_name, lastOr_name, (SortedMap.sorted_ofList members).lookup_reverse,
    SortedMap.lookup_ofList]

/-- A name that does not occur can be left out. -/
theorem lastOr_of_not_mem {α : Type} {unused : String} (name : String) (read : Json → α) (old : α)
    {members : List (String × Json)} (h : ∀ m ∈ members, m.1 ≠ unused) :
    lastOr [name, unused] read old members = lastOr [name] read old members := by
  unfold lastOr
  congr 1
  apply List.find?_congr
  intro m hm
  simp [h m (List.mem_reverse.mp hm)]

private theorem lastOr_of_forall_ne {α : Type} {name : String} {read : Json → α} {old : α}
    {members : List (String × Json)} (h : ∀ m ∈ members, m.1 ≠ name) :
    lastOr [name] read old members = old := by
  have hnone : members.reverse.find? ([name].contains ·.1) = none := by
    rw [List.find?_eq_none]
    intro m hm
    simp [h m (List.mem_reverse.mp hm)]
  rw [lastOr, hnone]
  rfl

private theorem lastOr_toList {α β : Type} (names : List String) (read : Json → α) (old : α)
    (key : String) (write : β → Json) (value : Option β) :
    lastOr names read old (value.toList.map fun b => (key, write b)) =
      if key ∈ names then value.elim old (fun b => read (write b)) else old := by
  cases value with
  | none => simp [lastOr_nil]
  | some b => simp [lastOr_singleton]

end Json

/-! ### Fields -/

namespace RuleFields

variable (f : RuleFields)

/-- Each field is written under its first name and as a value of its type. -/
theorem forall_mem_members : ∀ m ∈ f.members,
    (FieldType.ofKey m.1).admits m.2 = true ∧ m.1 ≠ "indentation" ∧ m.1 ≠ "nested" := by
  have hkind : ∀ s ∈ (f.kind.map (·.name)).toList, FieldType.kind.admits (.string s) = true := by
    cases f.kind with
    | none => simp
    | some k => cases k <;> simp [FoldKind.name, FieldType.admits, Json.kind?, FoldKind.ofName?]
  simp only [members, List.forall_mem_append, List.forall_mem_map]
  and_intros
  all_goals first
    | exact fun _ _ => ⟨rfl, by decide, by decide⟩
    | exact fun s hs => ⟨hkind s hs, by decide, by decide⟩

private theorem updated_append (first second : List (String × Json)) :
    f.updated (first ++ second) = (f.updated first).updated second := by
  simp only [updated, Json.lastOr_append]

private theorem updated_nestedMembers (nested : Nested) : f.updated nested.members = f := by
  cases nested <;> rfl

private theorem ofMembers_members : ofMembers f.members = f := by
  have hkind : (f.kind.map (·.name)).elim none (fun s => (Json.string s).kind?) = f.kind := by
    cases f.kind with
    | none => rfl
    | some k => cases k <;> rfl
  have htext (v : Option String) : v.elim none (fun s => (Json.string s).string?) = v := by
    cases v <;> rfl
  have hflag (v : Option Bool) : v.elim none (fun b => (Json.bool b).bool?) = v := by
    cases v <;> rfl
  simp [ofMembers, updated, members, Json.lastOr_append, Json.lastOr_toList, hkind, htext, hflag]

private theorem ofMembers_ofList {members : List (String × Json)}
    (h : ∀ m ∈ members, m.1 ≠ "indentation") :
    ofMembers (SortedMap.ofList members) = ofMembers members := by
  have hsorted : ∀ m ∈ SortedMap.ofList members, m.1 ≠ "indentation" :=
    fun m hm => h m (SortedMap.mem_of_mem_ofList hm)
  simp only [ofMembers, updated, Json.lastOr_of_not_mem _ _ _ hsorted,
    Json.lastOr_of_not_mem _ _ _ h, Json.lastOr_ofList]

end RuleFields

/-- Members of the right types are well-typed in order, if the second name of the off-side field does
not occur. -/
theorem wellTyped_ofList {members : List (String × Json)}
    (htype : ∀ m ∈ members, (FieldType.ofKey m.1).admits m.2 = true)
    (hname : ∀ m ∈ members, m.1 ≠ "indentation") :
    wellTyped (SortedMap.ofList members) = true := by
  have hcount : (SortedMap.ofList members).countP (isOffSideKey ·.1) ≤ 1 := calc
    (SortedMap.ofList members).countP (isOffSideKey ·.1) =
        (SortedMap.ofList members).countP (·.1 == "offSide") := by
      apply List.countP_congr
      intro m hm
      simp [isOffSideKey, hname m (SortedMap.mem_of_mem_ofList hm)]
    _ = (SortedMap.ofList members).keys.count "offSide" := by
      rw [SortedMap.keys, List.count, List.countP_map]
      rfl
    _ ≤ 1 := List.nodup_iff_count.mp (SortedMap.sorted_ofList members).nodup_keys _
  unfold wellTyped
  rw [Bool.and_eq_true, List.all_eq_true]
  exact ⟨fun m hm => htype m (SortedMap.mem_of_mem_ofList hm), decide_eq_true hcount⟩

/-! ### Entries that are read -/

mutual

/-- A malformed entry keeps a value that is read as this entry, here and in the nested rules. -/
def RuleEntry.Faithful : RuleEntry → Prop
  | .rule _ nested => Nested.Faithful nested
  | .malformed value fault => RuleEntry.ofJson value = .ok (.malformed value fault)

/-- The rules nested in a rule are faithful. -/
def Nested.Faithful : Nested → Prop
  | .unset => True
  | .flag _ => True
  | .rules list => RuleList.Faithful list

/-- The entries of a list are faithful. -/
def RuleList.Faithful : RuleList → Prop
  | .one entry => RuleEntry.Faithful entry
  | .many entries => RuleEntry.AllFaithful entries

/-- Some entries are faithful. -/
def RuleEntry.AllFaithful : List RuleEntry → Prop
  | [] => True
  | entry :: entries => RuleEntry.Faithful entry ∧ RuleEntry.AllFaithful entries

end

/-- An entry is faithful if the rules nested in it are. -/
theorem RuleEntry.faithful_object {members : List (String × Json)} {entry : RuleEntry}
    (hread : ∀ result, RuleEntry.readMembers {} .unset false members = .ok result →
      result.2.Faithful)
    (h : RuleEntry.ofJson (.object members) = .ok entry) : entry.Faithful := by
  have hself := h
  rw [RuleEntry.ofJson] at h
  split at h
  · next hresult =>
    cases h
    exact hread _ hresult
  · cases h
    exact hself

-- By recursion on the value, along the functions that read it. The members of an object are read with
-- the nested rules met so far, which have to be faithful already.
mutual

private theorem RuleEntry.faithful_ofJson {v : Json} {entry : RuleEntry}
    (h : RuleEntry.ofJson v = .ok entry) : entry.Faithful := by
  match v with
  | .object members =>
    exact RuleEntry.faithful_object (fun _ hr => RuleEntry.faithful_readMembers (by trivial) hr) h

private theorem RuleEntry.faithful_readMembers {f : RuleFields} {nested : Nested}
    {offSideSet : Bool}
    {members : List (String × Json)} {result : RuleFields × Nested} (hnested : nested.Faithful)
    (h : RuleEntry.readMembers f nested offSideSet members = .ok result) : result.2.Faithful := by
  match members with
  | [] =>
    rw [RuleEntry.readMembers] at h
    cases h
    exact hnested
  | (key, v) :: rest =>
    rw [RuleEntry.readMembers] at h
    split at h
    · cases hv : Nested.ofJson? v with
      | none =>
        rw [hv] at h
        cases h
      | some inner =>
        rw [hv] at h
        exact RuleEntry.faithful_readMembers (Nested.faithful_ofJson? hv) h
    · split at h
      · exact RuleEntry.faithful_readMembers hnested h
      · cases h

private theorem Nested.faithful_ofJson? {v : Json} {nested : Nested}
    (h : Nested.ofJson? v = some nested) : nested.Faithful := by
  match v with
  | .null =>
    cases h
    trivial
  | .bool b =>
    cases h
    trivial
  | .array items =>
    rw [Nested.ofJson?] at h
    split at h
    · next hitems =>
      cases h
      exact RuleEntry.faithful_ofItems hitems
    · cases h
  | .object members =>
    obtain ⟨entry, he⟩ : ∃ entry, RuleEntry.ofJson (.object members) = .ok entry :=
      RuleEntry.exists_ofJson_iff.mpr rfl
    rw [Nested.ofJson?_of_isRuleList rfl, RuleList.ofJson, he] at h
    cases h
    exact RuleEntry.faithful_object (fun _ hr => RuleEntry.faithful_readMembers (by trivial) hr) he

private theorem RuleEntry.faithful_ofItems {items : List Json} {entries : List RuleEntry}
    (h : RuleEntry.ofItems items = .ok entries) : RuleEntry.AllFaithful entries := by
  match items with
  | [] =>
    cases h
    trivial
  | v :: vs =>
    rw [RuleEntry.ofItems] at h
    split at h
    · cases h
    · next hv =>
      split at h
      · cases h
      · next hvs =>
        cases h
        exact ⟨RuleEntry.faithful_ofJson hv, RuleEntry.faithful_ofItems hvs⟩

end

/-- Lists that are read are faithful. -/
theorem RuleList.faithful_ofJson {v : Json} {list : RuleList} (h : RuleList.ofJson v = .ok list) :
    list.Faithful := by
  have hv : v.isRuleList = true := RuleList.exists_ofJson_iff.mp ⟨list, h⟩
  have hnested : Nested.ofJson? v = some (.rules list) := by
    rw [Nested.ofJson?_of_isRuleList hv, h]
    rfl
  exact Nested.faithful_ofJson? hnested

/-! ### Writing and reading -/

private theorem FieldType.admits_of_isRuleList {v : Json} (h : v.isRuleList = true) :
    FieldType.nested.admits v = true := by
  cases v <;> simp_all [FieldType.admits, Json.isRuleList]

/-- A rule is read from its members, if its nested rules are read from theirs. -/
theorem RuleEntry.ofJson_members (f : RuleFields) {nested : Nested}
    (htype : ∀ m ∈ nested.members, (FieldType.ofKey m.1).admits m.2 = true)
    (hupdated : Nested.updated .unset nested.members = nested) :
    RuleEntry.ofJson (.ofMembers (f.members ++ nested.members)) = .ok (.rule f nested) := by
  have hnested : ∀ m ∈ nested.members, m.1 = "nested" := by
    cases nested <;> simp [Nested.members]
  have htypes : ∀ m ∈ f.members ++ nested.members, (FieldType.ofKey m.1).admits m.2 = true :=
    List.forall_mem_append.mpr ⟨fun m hm => (f.forall_mem_members m hm).1, htype⟩
  have hnames : ∀ m ∈ f.members ++ nested.members, m.1 ≠ "indentation" := by
    refine List.forall_mem_append.mpr ⟨fun m hm => (f.forall_mem_members m hm).2.1, ?_⟩
    intro m hm
    rw [hnested m hm]
    decide
  have hfields : RuleFields.ofMembers (SortedMap.ofList (f.members ++ nested.members)) = f := calc
    _ = RuleFields.ofMembers (f.members ++ nested.members) := RuleFields.ofMembers_ofList hnames
    _ = (RuleFields.ofMembers f.members).updated nested.members := RuleFields.updated_append _ _ _
    _ = f := by rw [RuleFields.updated_nestedMembers, RuleFields.ofMembers_members]
  have hunset : Nested.updated .unset f.members = .unset :=
    Json.lastOr_of_forall_ne fun m hm => (f.forall_mem_members m hm).2.2
  have hrules :
      Nested.updated .unset (SortedMap.ofList (f.members ++ nested.members)) = nested := calc
    _ = Nested.updated .unset (f.members ++ nested.members) := Json.lastOr_ofList ..
    _ = Nested.updated (Nested.updated .unset f.members) nested.members := Json.lastOr_append ..
    _ = nested := by rw [hunset, hupdated]
  rw [Json.ofMembers, RuleEntry.ofJson_of_wellTyped (wellTyped_ofList htypes hnames), hfields, hrules]

mutual

private theorem RuleEntry.ofJson_toJson {entry : RuleEntry} (h : entry.Faithful) :
    RuleEntry.ofJson entry.toJson = .ok entry := by
  match entry with
  | .malformed value fault => exact h
  | .rule f nested =>
    rw [RuleEntry.toJson]
    obtain ⟨htype, hupdated⟩ := Nested.updated_members h
    exact RuleEntry.ofJson_members f htype hupdated

private theorem Nested.updated_members {nested : Nested} (h : nested.Faithful) :
    (∀ m ∈ nested.members, (FieldType.ofKey m.1).admits m.2 = true) ∧
      Nested.updated .unset nested.members = nested := by
  match nested with
  | .unset => exact ⟨by simp [Nested.members], rfl⟩
  | .flag b => exact ⟨by simp [Nested.members, FieldType.ofKey, FieldType.admits, Json.bool?], rfl⟩
  | .rules list =>
    have hread : RuleList.ofJson list.toJson = .ok list := RuleList.ofJson_toJson h
    have hlist : list.toJson.isRuleList = true := RuleList.exists_ofJson_iff.mp ⟨list, hread⟩
    rw [Nested.members, Nested.updated_nested, Nested.ofJson?_of_isRuleList hlist, hread]
    refine ⟨?_, rfl⟩
    rw [List.forall_mem_singleton]
    exact FieldType.admits_of_isRuleList hlist

/-- Faithful lists are read from what is written for them. -/
theorem RuleList.ofJson_toJson {list : RuleList} (h : list.Faithful) :
    RuleList.ofJson list.toJson = .ok list := by
  match list with
  | .one entry =>
    have hread : RuleEntry.ofJson entry.toJson = .ok entry := RuleEntry.ofJson_toJson h
    have hobject : entry.toJson.isObject = true := RuleEntry.exists_ofJson_iff.mp ⟨entry, hread⟩
    rw [RuleList.toJson, RuleList.ofJson_of_isObject hobject, hread]
    rfl
  | .many entries =>
    rw [RuleList.toJson, RuleList.ofJson, RuleEntry.ofItems_toItems h]
    rfl

private theorem RuleEntry.ofItems_toItems {entries : List RuleEntry}
    (h : RuleEntry.AllFaithful entries) :
    RuleEntry.ofItems (RuleEntry.toItems entries) = .ok entries := by
  match entries with
  | [] => rfl
  | entry :: entries =>
    rw [RuleEntry.toItems, RuleEntry.ofItems, RuleEntry.ofJson_toJson h.1,
      RuleEntry.ofItems_toItems h.2]

end

/-- A value is a rule list if it is an object or an array of objects, and nothing else is. Each object
gives one entry, in order, which depends on this object alone and describes it. The list that is read
is read again from what is written for it. -/
theorem RuleList.ofJson_exact (v : Json) :
    ((∃ fault, RuleList.ofJson v = .error fault) ↔ v.isRuleList = false) ∧
      (v.isRuleList = true → ∃ list, RuleList.ofJson v = .ok list ∧
        list.isOne = v.isObject ∧
        List.Forall₂
          (fun object entry => RuleEntry.ofJson object = .ok entry ∧ entry.Describes object)
          v.ruleObjects list.entries ∧
        RuleList.ofJson list.toJson = .ok list) := by
  refine ⟨RuleList.exists_error_iff, ?_⟩
  intro hv
  obtain ⟨list, hlist⟩ := RuleList.exists_ofJson_iff.mpr hv
  obtain ⟨hone, hentries⟩ := RuleList.entries_ofJson hlist
  refine ⟨list, hlist, hone, ?_, RuleList.ofJson_toJson (RuleList.faithful_ofJson hlist)⟩
  exact hentries.imp fun _ _ he => ⟨he, RuleEntry.describes_ofJson he⟩

/-- A rule with the second name of a field, a kind as an object, a null and a malformed rule inside
it, before two objects that are no rules. -/
def mixedRules : Json :=
  .array
    [.object
      [("begin", .string "do"), ("end", .string "done"), ("indentation", .bool true),
        ("kind", .object [("comment", .null)]), ("name", .null),
        ("nested", .object [("begin", .bool true)])],
    .object [("indentation", .null), ("offSide", .bool true)],
    .object [("nested", .array [.null])]]

/-- What is read from these values. -/
def mixedEntries : RuleList :=
  .many
    [.rule
      { opening := some "do", closing := some "done", offSide := some true, kind := some .comment }
      (.rules (.one (.malformed (.object [("begin", .bool true)])
        (.wrongType (.bool true) "a string")))),
    .malformed (.object [("indentation", .null), ("offSide", .bool true)]) (.duplicate "offSide"),
    .malformed (.object [("nested", .array [.null])]) .badNested]

/-- A list that mixes a rule with objects that are no rules is read in full and written back. -/
theorem ofJson_exact_of_mixedRules :
    mixedRules.isRuleList = true ∧ RuleList.ofJson mixedRules = .ok mixedEntries ∧
      RuleList.ofJson mixedEntries.toJson = .ok mixedEntries := by
  have hread : RuleList.ofJson mixedRules = .ok mixedEntries := rfl
  obtain ⟨list, hlist, -, -, hback⟩ := (RuleList.ofJson_exact mixedRules).2 rfl
  obtain rfl : mixedEntries = list := Except.ok.inj (hread.symm.trans hlist)
  exact ⟨rfl, hread, hback⟩

end CodeFold
