import CodeFold.Data.JsonText
import CodeFold.Rule.Entry

/-!
# Rule entries as JSON

An object is a rule entry, and an array of objects a list of them; nothing else is. The fields of an
object are visited in the order of their keys and the first fault makes the entry malformed. A field
that is null counts as absent, and unknown fields are ignored. Writing an entry keeps the fields that
are set, or the value of a malformed entry.
Specification: §10, §11.3.
-/

namespace CodeFold

/-- What stands where rules were expected. -/
inductive RuleListFault where
  | notARule (found : Json)
  | notAList (found : Json)

namespace RuleListFault

/-- The words for a fault. -/
def message : RuleListFault → String
  | notARule found => "expected a rule object, found " ++ found.toText
  | notAList found => "expected a rule object or an array of rule objects, found " ++ found.toText

end RuleListFault

namespace FieldFault

/-- Reads a field that holds a text. -/
def readString (v : Json) : Except FieldFault (Option String) :=
  match v with
  | .null => .ok none
  | .string s => .ok (some s)
  | v => .error (.wrongType v "a string")

/-- Reads a field that holds a truth value. -/
def readBool (v : Json) : Except FieldFault (Option Bool) :=
  match v with
  | .null => .ok none
  | .bool b => .ok (some b)
  | v => .error (.wrongType v "a boolean")

/-- Reads the name of a kind. -/
def readKindName (name : String) : Except FieldFault FoldKind :=
  match FoldKind.ofName? name with
  | some k => .ok k
  | none => .error (.unknownKind name)

/-- Reads a kind: its name, or an object with the name as its only key and null as its value. -/
def readKind (v : Json) : Except FieldFault FoldKind :=
  match v with
  | .string s => readKindName s
  | .object [(name, value)] => do
    let k ← readKindName name
    match value with
    | .null => return k
    | value => .error (.wrongType value "unit")
  | .object _ => .error .severalKinds
  | v => .error (.wrongType v "string or map")

/-- Reads a field that holds a kind. -/
def readKind? (v : Json) : Except FieldFault (Option FoldKind) :=
  match v with
  | .null => .ok none
  | v => (readKind v).map some

end FieldFault

open FieldFault in
/-- Sets a field other than `nested`. `offSideSet` tells whether one of the two names of that field
has been met. -/
def RuleFields.read (fields : RuleFields) (offSideSet : Bool) (key : String) (v : Json) :
    Except FieldFault RuleFields :=
  match key with
  | "name" => do return { fields with name := ← readString v }
  | "begin" => do return { fields with opening := ← readString v }
  | "end" => do return { fields with closing := ← readString v }
  | "beginRegex" => do return { fields with openingRegex := ← readString v }
  | "endRegex" => do return { fields with closingRegex := ← readString v }
  | "foldEndRegex" => do return { fields with nearestClosingRegex := ← readString v }
  | "beginEndRegex" => do return { fields with pairRegex := ← readString v }
  | "consecutive" => do return { fields with consecutive := ← readBool v }
  | "offSide" | "indentation" =>
    if offSideSet then .error (.duplicate "offSide")
    else do return { fields with offSide := ← readBool v }
  | "foldLastLine" => do return { fields with foldLastLine := ← readBool v }
  | "strict" => do return { fields with strict := ← readBool v }
  | "kind" => do return { fields with kind := ← readKind? v }
  | "descendants" => do return { fields with descendants := ← readBool v }
  | _ => .ok fields

/-- Whether a key is one of the two names of the off-side field. -/
def isOffSideKey (key : String) : Bool := key = "offSide" || key = "indentation"

mutual

/-- The entry of a value (§10). -/
def RuleEntry.ofJson : Json → Except RuleListFault RuleEntry
  | .object members =>
    match RuleEntry.readMembers {} .unset false members with
    | .ok (fields, nested) => .ok (.rule fields nested)
    | .error fault => .ok (.malformed (.object members) fault)
  | v => .error (.notARule v)

/-- Reads the fields of an object one after the other. -/
def RuleEntry.readMembers (fields : RuleFields) (nested : Nested) (offSideSet : Bool) :
    List (String × Json) → Except FieldFault (RuleFields × Nested)
  | [] => .ok (fields, nested)
  | (key, v) :: rest =>
    if key = "nested" then
      match Nested.ofJson? v with
      | some nested => RuleEntry.readMembers fields nested offSideSet rest
      | none => .error .badNested
    else
      match fields.read offSideSet key v with
      | .ok fields => RuleEntry.readMembers fields nested (offSideSet || isOffSideKey key) rest
      | .error fault => .error fault

/-- What a value says about nested rules (§11.3). -/
def Nested.ofJson? : Json → Option Nested
  | .null => some .unset
  | .bool b => some (.flag b)
  | .array items =>
    match RuleEntry.ofItems items with
    | .ok entries => some (.rules (.many entries))
    | .error _ => none
  | .object members =>
    match RuleEntry.readMembers {} .unset false members with
    | .ok (fields, nested) => some (.rules (.one (.rule fields nested)))
    | .error fault => some (.rules (.one (.malformed (.object members) fault)))
  | .number _ => none
  | .string _ => none

/-- The entries of some values. -/
def RuleEntry.ofItems : List Json → Except RuleListFault (List RuleEntry)
  | [] => .ok []
  | v :: vs =>
    match RuleEntry.ofJson v with
    | .error fault => .error fault
    | .ok entry =>
      match RuleEntry.ofItems vs with
      | .error fault => .error fault
      | .ok entries => .ok (entry :: entries)

end

/-- The rule list of a value (§11.3). -/
def RuleList.ofJson : Json → Except RuleListFault RuleList
  | .array items => (RuleEntry.ofItems items).map .many
  | .object members => (RuleEntry.ofJson (.object members)).map .one
  | v => .error (.notAList v)

/-- The members of the fields that are set. -/
def RuleFields.members (f : RuleFields) : List (String × Json) :=
  let text (key : String) (v : Option String) := v.toList.map fun s => (key, Json.string s)
  let flag (key : String) (v : Option Bool) := v.toList.map fun b => (key, Json.bool b)
  text "name" f.name ++ text "begin" f.opening ++ text "end" f.closing ++
    text "beginRegex" f.openingRegex ++ text "endRegex" f.closingRegex ++
    text "foldEndRegex" f.nearestClosingRegex ++ text "beginEndRegex" f.pairRegex ++
    flag "consecutive" f.consecutive ++ flag "offSide" f.offSide ++
    flag "foldLastLine" f.foldLastLine ++ flag "strict" f.strict ++
    text "kind" (f.kind.map (·.name)) ++ flag "descendants" f.descendants

mutual

/-- The value of an entry. -/
def RuleEntry.toJson : RuleEntry → Json
  | .rule fields nested => .ofMembers (fields.members ++ Nested.members nested)
  | .malformed value _ => value

/-- The member for nested rules, if they are set. -/
def Nested.members : Nested → List (String × Json)
  | .unset => []
  | .flag b => [("nested", .bool b)]
  | .rules list => [("nested", RuleList.toJson list)]

/-- The value of a rule list. -/
def RuleList.toJson : RuleList → Json
  | .one entry => RuleEntry.toJson entry
  | .many entries => .array (RuleEntry.toItems entries)

/-- The values of some entries. -/
def RuleEntry.toItems : List RuleEntry → List Json
  | [] => []
  | entry :: entries => RuleEntry.toJson entry :: RuleEntry.toItems entries

end

end CodeFold
