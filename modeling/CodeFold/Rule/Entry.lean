import CodeFold.Data.Json
import CodeFold.Range
import CodeFold.Text.Quoted

/-!
# Rule entries

A rule as it is written in a configuration. Which fields are set decides what kind of rule it is. An
entry with a badly typed field stays in its list together with what is wrong with it.
Specification: §3, §10.
-/

namespace CodeFold

/-- The fields of a rule apart from the rules nested in it (§10). -/
structure RuleFields where
  name : Option String := none
  opening : Option String := none
  closing : Option String := none
  openingRegex : Option String := none
  closingRegex : Option String := none
  nearestClosingRegex : Option String := none
  pairRegex : Option String := none
  consecutive : Option Bool := none
  offSide : Option Bool := none
  foldLastLine : Option Bool := none
  strict : Option Bool := none
  kind : Option FoldKind := none
  descendants : Option Bool := none
deriving DecidableEq, Repr

/-- What is wrong with the fields of an entry. -/
inductive FieldFault where
  | wrongType (found : Json) (expected : String)
  | unknownKind (name : String)
  | severalKinds
  | duplicate (field : String)
  | badNested

namespace FieldFault

/-- What stands in place of what was expected. -/
def describe : Json → String
  | .null => "null"
  | .bool b => "boolean `" ++ (if b then "true" else "false") ++ "`"
  | .number (.int n) => "integer `" ++ toString n ++ "`"
  | .number (.float x) => "floating point `" ++ x.toText ++ "`"
  | .string s => "string " ++ Text.quoted s
  | .array _ => "sequence"
  | .object _ => "map"

/-- The words for a fault. -/
def message : FieldFault → String
  | wrongType found expected => "invalid type: " ++ describe found ++ ", expected " ++ expected
  | unknownKind name => "unknown variant `" ++ name ++ "`, expected `region` or `comment`"
  | severalKinds => "invalid value: map, expected map with a single key"
  | duplicate field => "duplicate field `" ++ field ++ "`"
  | badNested => "data did not match any variant of untagged enum NestedValue"

end FieldFault

mutual

/-- An entry of a rule list: a rule, or a value that is none. -/
inductive RuleEntry where
  | rule (fields : RuleFields) (nested : Nested)
  | malformed (value : Json) (fault : FieldFault)

/-- What a rule says about the rules inside its regions (§10). -/
inductive Nested where
  | unset
  | flag (inherit : Bool)
  | rules (list : RuleList)

/-- One rule, or a list of rules (§4.1). -/
inductive RuleList where
  | one (entry : RuleEntry)
  | many (entries : List RuleEntry)

end

namespace RuleEntry

/-- The name that an entry gives itself. -/
def name? : RuleEntry → Option String
  | rule fields _ => fields.name
  | malformed value _ => (value.get? "name").bind Json.string?

/-- What is wrong with an entry that is no rule. -/
def fault? : RuleEntry → Option FieldFault
  | rule _ _ => none
  | malformed _ fault => some fault

end RuleEntry

namespace RuleList

/-- The entries in their order. -/
def entries : RuleList → List RuleEntry
  | one entry => [entry]
  | many entries => entries

/-- Whether the list was written as a single rule. -/
def isOne : RuleList → Bool
  | one _ => true
  | many _ => false

end RuleList

end CodeFold
