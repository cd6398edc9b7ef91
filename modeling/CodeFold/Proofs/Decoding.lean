import CodeFold.Rule.Codec
import Mathlib.Data.List.Forall2

/-!
# What rule objects say

An object is a rule if each of its members has the type that its key asks for and the two names of
one field do not both occur. Its fields are then the values of the members, and null counts as
nothing. Otherwise it is kept as a malformed entry. A nested value only has to be null, a truth value,
an object or an array of objects; what stands in these objects is their own affair.
Specification: §10.
-/

namespace CodeFold

namespace Json

/-- Whether a value is an object. -/
def isObject : Json → Bool
  | object _ => true
  | _ => false

/-- Whether a value is an object or an array of objects. -/
def isRuleList : Json → Bool
  | object _ => true
  | array items => items.all isObject
  | _ => false

/-- The objects of a value that is an object or an array of objects, in their order. -/
def ruleObjects : Json → List Json
  | array items => items
  | v => [v]

/-- The truth value of a value that is one. -/
def bool? : Json → Option Bool
  | bool b => some b
  | _ => none

/-- The kind of a value that is a name of one, or an object with such a name as its only key. -/
def kind? : Json → Option FoldKind
  | string s => FoldKind.ofName? s
  | object [(name, value)] =>
    match value with
    | null => FoldKind.ofName? name
    | _ => none
  | _ => none

/-- The last member with one of some names, read in some way. -/
def lastOr {α : Type} (names : List String) (read : Json → α) (old : α)
    (members : List (String × Json)) : α :=
  (members.reverse.find? (names.contains ·.1)).elim old (read ·.2)

/-- What an object says under a name. The last of several members counts, and null is nothing. -/
def under (name : String) (members : List (String × Json)) : Json :=
  lastOr [name] id null members

/-- Without members a field keeps its value. -/
theorem lastOr_nil {α : Type} (names : List String) (read : Json → α) (old : α) :
    lastOr names read old [] = old := rfl

/-- A field takes its value from the members one after the other. -/
theorem lastOr_cons {α : Type} (names : List String) (read : Json → α) (old : α)
    (m : String × Json) (members : List (String × Json)) :
    lastOr names read old (m :: members) =
      lastOr names read (lastOr names read old [m]) members := by
  unfold lastOr
  rw [List.reverse_cons, List.find?_append]
  cases members.reverse.find? (names.contains ·.1) <;> rfl

/-- One member sets a field exactly if it has one of its names. -/
theorem lastOr_singleton {α : Type} (names : List String) (read : Json → α) (old : α) (key : String)
    (v : Json) : lastOr names read old [(key, v)] = if key ∈ names then read v else old := by
  by_cases h : key ∈ names <;> simp [lastOr, h]

end Json

/-- The type that a key asks for. -/
inductive FieldType where
  | text
  | flag
  | kind
  | nested
  | unknown
deriving DecidableEq, Repr

namespace FieldType

/-- The type of a field. -/
def ofKey : String → FieldType
  | "name" | "begin" | "end" | "beginRegex" | "endRegex" | "foldEndRegex" | "beginEndRegex" => text
  | "consecutive" | "offSide" | "indentation" | "foldLastLine" | "strict" | "descendants" => flag
  | "kind" => kind
  | "nested" => nested
  | _ => unknown

/-- Whether a value has a type. -/
def admits : FieldType → Json → Bool
  | _, .null => true
  | text, v => v.string?.isSome
  | flag, v => v.bool?.isSome
  | kind, v => v.kind?.isSome
  | nested, v => v.bool?.isSome || v.isRuleList
  | unknown, _ => true

end FieldType

/-- The members of an object have the types of their keys, and at most one of them has one of the two
names of the off-side field. -/
def wellTyped (members : List (String × Json)) : Bool :=
  members.all (fun m => (FieldType.ofKey m.1).admits m.2) &&
    members.countP (isOffSideKey ·.1) ≤ 1

namespace RuleFields

/-- The fields `f` after the members of an object have been read. -/
def updated (f : RuleFields) (members : List (String × Json)) : RuleFields where
  name := Json.lastOr ["name"] Json.string? f.name members
  opening := Json.lastOr ["begin"] Json.string? f.opening members
  closing := Json.lastOr ["end"] Json.string? f.closing members
  openingRegex := Json.lastOr ["beginRegex"] Json.string? f.openingRegex members
  closingRegex := Json.lastOr ["endRegex"] Json.string? f.closingRegex members
  nearestClosingRegex := Json.lastOr ["foldEndRegex"] Json.string? f.nearestClosingRegex members
  pairRegex := Json.lastOr ["beginEndRegex"] Json.string? f.pairRegex members
  consecutive := Json.lastOr ["consecutive"] Json.bool? f.consecutive members
  offSide := Json.lastOr ["offSide", "indentation"] Json.bool? f.offSide members
  foldLastLine := Json.lastOr ["foldLastLine"] Json.bool? f.foldLastLine members
  strict := Json.lastOr ["strict"] Json.bool? f.strict members
  kind := Json.lastOr ["kind"] Json.kind? f.kind members
  descendants := Json.lastOr ["descendants"] Json.bool? f.descendants members

/-- The fields that the members of an object set. -/
def ofMembers (members : List (String × Json)) : RuleFields := updated {} members

private theorem updated_cons (f : RuleFields) (m : String × Json) (members : List (String × Json)) :
    f.updated (m :: members) = (f.updated [m]).updated members := by
  simp only [updated, Json.lastOr_cons _ _ _ m members]

end RuleFields

/-- What is said about nested rules after the members of an object have been read, if it was `nested`
before. -/
def Nested.updated (nested : Nested) (members : List (String × Json)) : Nested :=
  Json.lastOr ["nested"] (fun v => (Nested.ofJson? v).getD .unset) nested members

private theorem Nested.updated_cons (nested : Nested) (m : String × Json)
    (members : List (String × Json)) :
    nested.updated (m :: members) = (nested.updated [m]).updated members :=
  Json.lastOr_cons ..

private theorem RuleFields.updated_nested (f : RuleFields) (v : Json) :
    f.updated [("nested", v)] = f := rfl

/-- The member for nested rules decides what is nested. -/
theorem Nested.updated_nested (nested : Nested) (v : Json) :
    nested.updated [("nested", v)] = (Nested.ofJson? v).getD .unset := rfl

/-! ### Fields -/

/-- A reading gives a result if a condition holds, and a fault otherwise. -/
def Yields {ε α : Type} (r : Except ε α) (ok : Bool) (a : α) : Prop :=
  if ok then r = .ok a else ∃ fault, r = .error fault

namespace FieldFault

variable (v : Json)

private theorem yields_readString : Yields (readString v) (FieldType.text.admits v) v.string? := by
  cases v <;> simp [Yields, readString, FieldType.admits, Json.string?]

private theorem yields_readBool : Yields (readBool v) (FieldType.flag.admits v) v.bool? := by
  cases v <;> simp [Yields, readBool, FieldType.admits, Json.bool?]

private theorem readKindName_eq (name : String) : readKindName name =
    (FoldKind.ofName? name).elim (.error (.unknownKind name)) .ok := by
  unfold readKindName
  cases FoldKind.ofName? name <;> rfl

private theorem yields_readKind? : Yields (readKind? v) (FieldType.kind.admits v) v.kind? := by
  cases v with
  | null => rfl
  | bool b => exact ⟨_, rfl⟩
  | number n => exact ⟨_, rfl⟩
  | array items => exact ⟨_, rfl⟩
  | string s =>
    simp only [Yields, readKind?, readKind, readKindName_eq, FieldType.admits, Json.kind?]
    cases FoldKind.ofName? s with
    | none => exact ⟨_, rfl⟩
    | some k => rfl
  | object members =>
    rcases members with _ | ⟨⟨name, value⟩, _ | ⟨second, rest⟩⟩
    · exact ⟨_, rfl⟩
    · simp only [Yields, readKind?, readKind, readKindName_eq, FieldType.admits]
      cases hk : FoldKind.ofName? name with
      | none => cases value <;> simp [Json.kind?, hk, Except.map, bind, Except.bind]
      | some k => cases value <;> simp [Json.kind?, hk, Except.map, bind, Except.bind]; rfl
    · exact ⟨_, rfl⟩

end FieldFault

private theorem Yields.map {ε α β : Type} {r : Except ε α} {ok : Bool} {a : α} (h : Yields r ok a)
    (g : α → β) : Yields (do return g (← r)) ok (g a) := by
  cases ok with
  | true =>
    have hr : r = .ok a := h
    rw [hr]
    rfl
  | false =>
    obtain ⟨fault, hr⟩ : ∃ fault, r = .error fault := h
    exact ⟨fault, by rw [hr]; rfl⟩

namespace RuleFields

variable (f : RuleFields) (offSideSet : Bool)

/-- A member sets its field if it has the right type and the field has not been met under its other
name. -/
theorem yields_read {key : String} (hkey : key ≠ "nested") (v : Json) :
    Yields (f.read offSideSet key v)
      ((FieldType.ofKey key).admits v && !(isOffSideKey key && offSideSet))
      (f.updated [(key, v)]) := by
  have htext (g : Option String → RuleFields) := (FieldFault.yields_readString v).map g
  have hflag (g : Option Bool → RuleFields) := (FieldFault.yields_readBool v).map g
  have hkind (g : Option FoldKind → RuleFields) := (FieldFault.yields_readKind? v).map g
  unfold read
  split
  case h_1 | h_2 | h_3 | h_4 | h_5 | h_6 | h_7 =>
    simpa [FieldType.ofKey, isOffSideKey, updated, Json.lastOr_singleton] using htext _
  case h_9 | h_10 =>
    -- Only these two keys look at what has been met before.
    cases offSideSet with
    | true => simp [Yields, FieldType.ofKey, isOffSideKey]
    | false => simpa [FieldType.ofKey, isOffSideKey, updated, Json.lastOr_singleton] using hflag _
  case h_8 | h_11 | h_12 | h_14 =>
    simpa [FieldType.ofKey, isOffSideKey, updated, Json.lastOr_singleton] using hflag _
  case h_13 => simpa [FieldType.ofKey, isOffSideKey, updated, Json.lastOr_singleton] using hkind _
  case h_15 =>
    -- Any other key leaves the fields alone, and every value will do.
    have hunknown : FieldType.ofKey key = .unknown := by
      unfold FieldType.ofKey
      split
      all_goals simp_all
    have hadmits : FieldType.unknown.admits v = true := by cases v <;> rfl
    simp_all [Yields, isOffSideKey, updated, Json.lastOr_singleton]

end RuleFields

/-! ### Lists of rules -/

/-- An entry can be read from every object and from nothing else. -/
theorem RuleEntry.exists_ofJson_iff {v : Json} :
    (∃ entry, RuleEntry.ofJson v = .ok entry) ↔ v.isObject = true := by
  cases v with
  | object members =>
    rw [RuleEntry.ofJson]
    cases RuleEntry.readMembers {} .unset false members with
    | error fault => exact ⟨fun _ => rfl, fun _ => ⟨_, rfl⟩⟩
    | ok result => exact ⟨fun _ => rfl, fun _ => ⟨_, rfl⟩⟩
  | _ => simp [RuleEntry.ofJson, Json.isObject]

/-- Values make entries one by one. -/
theorem RuleEntry.ofItems_eq_ok_iff {items : List Json} {entries : List RuleEntry} :
    RuleEntry.ofItems items = .ok entries ↔
      List.Forall₂ (fun v entry => RuleEntry.ofJson v = .ok entry) items entries := by
  induction items generalizing entries with
  | nil =>
    rw [RuleEntry.ofItems, List.forall₂_nil_left_iff]
    exact ⟨fun h => (Except.ok.inj h).symm, fun h => h ▸ rfl⟩
  | cons v vs ih =>
    rw [RuleEntry.ofItems, List.forall₂_cons_left_iff]
    cases RuleEntry.ofJson v with
    | error fault => simp
    | ok entry =>
      cases hvs : RuleEntry.ofItems vs with
      | error fault => simp [← ih, hvs]
      | ok rest =>
        simp only [← ih, hvs, Except.ok.injEq, exists_and_left, exists_eq_left']
        exact eq_comm

private theorem RuleEntry.exists_ofItems_iff {items : List Json} :
    (∃ entries, RuleEntry.ofItems items = .ok entries) ↔ items.all Json.isObject = true := by
  simp only [ofItems_eq_ok_iff]
  induction items with
  | nil => simp
  | cons v vs ih =>
    rw [List.all_cons, Bool.and_eq_true, ← ih, ← exists_ofJson_iff]
    constructor
    · rintro ⟨_, _ | ⟨hv, hvs⟩⟩
      exact ⟨⟨_, hv⟩, _, hvs⟩
    · rintro ⟨⟨entry, hv⟩, entries, hvs⟩
      exact ⟨entry :: entries, .cons hv hvs⟩

/-- A list of rules can be read from a value exactly if it has that form. -/
theorem RuleList.exists_ofJson_iff {v : Json} :
    (∃ list, RuleList.ofJson v = .ok list) ↔ v.isRuleList = true := by
  cases v with
  | object members =>
    obtain ⟨entry, he⟩ : ∃ entry, RuleEntry.ofJson (.object members) = .ok entry :=
      RuleEntry.exists_ofJson_iff.mpr rfl
    simp [RuleList.ofJson, he, Except.map, Json.isRuleList]
  | array items =>
    rw [Json.isRuleList, ← RuleEntry.exists_ofItems_iff, RuleList.ofJson]
    cases RuleEntry.ofItems items <;> simp [Except.map]
  | _ => simp [RuleList.ofJson, Json.isRuleList]

/-- Reading a list of rules fails exactly if the value has not that form. -/
theorem RuleList.exists_error_iff {v : Json} :
    (∃ fault, RuleList.ofJson v = .error fault) ↔ v.isRuleList = false := by
  rw [← Bool.not_eq_true, ← RuleList.exists_ofJson_iff]
  cases RuleList.ofJson v <;> simp

/-- An object is read as the only rule of a list. -/
theorem RuleList.ofJson_of_isObject {v : Json} (h : v.isObject = true) :
    RuleList.ofJson v = (RuleEntry.ofJson v).map .one := by
  cases v with
  | object members => rfl
  | _ => cases h

/-- A list has the form of its value, and its entries are those of the objects. -/
theorem RuleList.entries_ofJson {v : Json} {list : RuleList} (h : RuleList.ofJson v = .ok list) :
    list.isOne = v.isObject ∧
      List.Forall₂ (fun object entry => RuleEntry.ofJson object = .ok entry)
        v.ruleObjects list.entries := by
  cases v with
  | object members =>
    rw [RuleList.ofJson] at h
    cases he : RuleEntry.ofJson (.object members) with
    | error fault =>
      rw [he] at h
      cases h
    | ok entry =>
      rw [he] at h
      cases h
      exact ⟨rfl, .cons he .nil⟩
  | array items =>
    rw [RuleList.ofJson] at h
    cases hi : RuleEntry.ofItems items with
    | error fault =>
      rw [hi] at h
      cases h
    | ok entries =>
      rw [hi] at h
      cases h
      exact ⟨rfl, RuleEntry.ofItems_eq_ok_iff.mp hi⟩
  | _ => cases h

/-- What a value says about nested rules. -/
inductive Nested.Says : Json → Nested → Prop where
  | nothing : Says .null .unset
  | flag (inherits : Bool) : Says (.bool inherits) (.flag inherits)
  | rules {v : Json} {list : RuleList} : RuleList.ofJson v = .ok list → Says v (.rules list)

/-- An object or an array says what it says as a rule list. -/
theorem Nested.ofJson?_of_isRuleList {v : Json} (hv : v.isRuleList = true) :
    Nested.ofJson? v = (RuleList.ofJson v).toOption.map .rules := by
  cases v with
  | object members =>
    rw [Nested.ofJson?, RuleList.ofJson, RuleEntry.ofJson]
    cases RuleEntry.readMembers {} .unset false members <;> rfl
  | array items =>
    rw [Nested.ofJson?, RuleList.ofJson]
    cases RuleEntry.ofItems items <;> rfl
  | _ => cases hv

/-- A nested value is one of the four kinds that are allowed, and then says one thing. -/
theorem Nested.says_ofJson? {v : Json} (hv : FieldType.nested.admits v = true) :
    ∃ nested, Nested.ofJson? v = some nested ∧ Nested.Says v nested := by
  have hlist (h : v.isRuleList = true) :
      ∃ nested, Nested.ofJson? v = some nested ∧ Nested.Says v nested := by
    obtain ⟨list, hl⟩ := RuleList.exists_ofJson_iff.mpr h
    exact ⟨.rules list, by rw [ofJson?_of_isRuleList h, hl]; rfl, .rules hl⟩
  cases v with
  | null => exact ⟨.unset, rfl, .nothing⟩
  | bool b => exact ⟨.flag b, rfl, .flag b⟩
  | _ => exact hlist hv

private theorem Nested.ofJson?_eq_none {v : Json} (hv : FieldType.nested.admits v = false) :
    Nested.ofJson? v = none := by
  cases v with
  | array items =>
    have hitems : ¬∃ entries, RuleEntry.ofItems items = .ok entries := by
      rw [RuleEntry.exists_ofItems_iff]
      exact ne_true_of_eq_false hv
    rw [Nested.ofJson?]
    cases hi : RuleEntry.ofItems items with
    | error fault => rfl
    | ok entries => exact absurd ⟨entries, hi⟩ hitems
  | number n => rfl
  | string s => rfl
  | _ => cases hv

/-! ### Objects -/

/-- The condition on the members that follow some others, of which one may have had one of the two
names of the off-side field. -/
def wellTypedAfter (offSideSet : Bool) (members : List (String × Json)) : Bool :=
  members.all (fun m => (FieldType.ofKey m.1).admits m.2) &&
    members.countP (isOffSideKey ·.1) + offSideSet.toNat ≤ 1

private theorem wellTypedAfter_cons (offSideSet : Bool) (key : String) (v : Json)
    (members : List (String × Json)) :
    wellTypedAfter offSideSet ((key, v) :: members) =
      ((FieldType.ofKey key).admits v && !(isOffSideKey key && offSideSet) &&
        wellTypedAfter (offSideSet || isOffSideKey key) members) := by
  unfold wellTypedAfter
  rw [List.all_cons, List.countP_cons]
  cases isOffSideKey key <;> cases offSideSet <;> simp [Bool.and_assoc] <;> rfl

/-- The members of an object set its fields one after the other if they are well-typed. -/
theorem RuleEntry.yields_readMembers (f : RuleFields) (nested : Nested) (offSideSet : Bool)
    (members : List (String × Json)) :
    Yields (RuleEntry.readMembers f nested offSideSet members)
      (wellTypedAfter offSideSet members) (f.updated members, nested.updated members) := by
  induction members generalizing f nested offSideSet with
  | nil => cases offSideSet <;> rfl
  | cons m members ih =>
    obtain ⟨key, v⟩ := m
    rw [RuleEntry.readMembers, RuleFields.updated_cons, Nested.updated_cons, wellTypedAfter_cons]
    by_cases hkey : key = "nested"
    · subst hkey
      rw [if_pos rfl, RuleFields.updated_nested, Nested.updated_nested]
      cases hv : FieldType.nested.admits v with
      | true =>
        obtain ⟨inner, hi, -⟩ := Nested.says_ofJson? hv
        rw [hi]
        simpa [FieldType.ofKey, hv, isOffSideKey] using ih f inner offSideSet
      | false =>
        rw [Nested.ofJson?_eq_none hv]
        simp [Yields, FieldType.ofKey, hv]
    · have hread := f.yields_read offSideSet hkey v
      have hnested : nested.updated [(key, v)] = nested := by
        simp [Nested.updated, Json.lastOr_singleton, hkey]
      rw [if_neg hkey, hnested]
      cases hok : (FieldType.ofKey key).admits v && !(isOffSideKey key && offSideSet) with
      | true =>
        rw [hok] at hread
        have hr : f.read offSideSet key v = .ok (f.updated [(key, v)]) := hread
        rw [hr]
        exact ih ..
      | false =>
        rw [hok] at hread
        obtain ⟨fault, hr⟩ : ∃ fault, f.read offSideSet key v = .error fault := hread
        rw [hr]
        exact ⟨fault, rfl⟩

/-- An object is the rule that its members describe, if they are well-typed. -/
theorem RuleEntry.ofJson_of_wellTyped {members : List (String × Json)}
    (h : wellTyped members = true) : RuleEntry.ofJson (.object members) =
      .ok (.rule (RuleFields.ofMembers members) (Nested.updated .unset members)) := by
  have hread := RuleEntry.yields_readMembers {} .unset false members
  have hok : RuleEntry.readMembers {} .unset false members =
      .ok (RuleFields.ofMembers members, Nested.updated .unset members) := by
    rwa [show wellTypedAfter false members = true from h] at hread
  rw [RuleEntry.ofJson, hok]

/-- An object is malformed and kept if its members are not well-typed. -/
theorem RuleEntry.ofJson_of_not_wellTyped {members : List (String × Json)}
    (h : wellTyped members = false) :
    ∃ fault, RuleEntry.ofJson (.object members) = .ok (.malformed (.object members) fault) := by
  have hread := RuleEntry.yields_readMembers {} .unset false members
  obtain ⟨fault, hfault⟩ :
      ∃ fault, RuleEntry.readMembers {} .unset false members = .error fault := by
    rwa [show wellTypedAfter false members = false from h] at hread
  exact ⟨fault, by rw [RuleEntry.ofJson, hfault]⟩

/-- If the members are well-typed, the nested rules are what stands under their name. -/
theorem Nested.says_updated {members : List (String × Json)} (h : wellTyped members = true) :
    Nested.Says (Json.under "nested" members) (Nested.updated .unset members) := by
  unfold Json.under Nested.updated Json.lastOr
  cases hm : members.reverse.find? (["nested"].contains ·.1) with
  | none => exact .nothing
  | some m =>
    have hkey : m.1 = "nested" := by simpa using List.find?_some hm
    have hmem : m ∈ members := List.mem_reverse.mp (List.mem_of_find?_eq_some hm)
    have htype : (FieldType.ofKey m.1).admits m.2 = true :=
      List.all_eq_true.mp (Bool.and_eq_true_iff.mp h).1 m hmem
    rw [hkey] at htype
    obtain ⟨nested, hn, hsays⟩ := Nested.says_ofJson? htype
    simpa [hn] using hsays

/-- How an entry describes a value: it has the fields that a well-typed object gives, with what stands
under `nested`, and it keeps an object that is not well-typed. -/
inductive RuleEntry.Describes : RuleEntry → Json → Prop where
  | rule {members : List (String × Json)} {nested : Nested} :
      wellTyped members = true → Nested.Says (Json.under "nested" members) nested →
      Describes (.rule (RuleFields.ofMembers members) nested) (.object members)
  | malformed {members : List (String × Json)} (fault : FieldFault) :
      wellTyped members = false →
      Describes (.malformed (.object members) fault) (.object members)

/-- An entry that is read describes the value that it is read from. -/
theorem RuleEntry.describes_ofJson {v : Json} {entry : RuleEntry}
    (h : RuleEntry.ofJson v = .ok entry) : entry.Describes v := by
  cases v with
  | object members =>
    cases hw : wellTyped members with
    | true =>
      rw [RuleEntry.ofJson_of_wellTyped hw] at h
      cases h
      exact .rule hw (Nested.says_updated hw)
    | false =>
      obtain ⟨fault, hf⟩ := RuleEntry.ofJson_of_not_wellTyped hw
      rw [hf] at h
      cases h
      exact .malformed fault hw
  | _ => cases h

end CodeFold
