import CodeFold.Rule.Entry
import CodeFold.Rule.Template

/-!
# Diagnostics

What is reported when rules are compiled: rules that are dropped, with the reason, and fields that
are out of date.
Specification: §6, §7, §11.1.
-/

namespace CodeFold

/-- Why the fields of an entry make no rule. -/
inductive RuleFault where
  | badField (fault : FieldFault)
  | conflictingKinds (kinds : List String)
  | consecutiveWithoutOpening
  | missingGroups
  | exclusiveClosings
  | missingClosing
  | missingOpening
  | nothingDeclared
  | emptyPattern
  | unknownGroup (ref : GroupRef)

namespace RuleFault

/-- The words for a fault. -/
def message : RuleFault → String
  | badField fault => fault.message
  | conflictingKinds kinds => "conflicting rule kinds: " ++ ", ".intercalate kinds
  | consecutiveWithoutOpening => "consecutive rule needs `begin` or `beginRegex`"
  | missingGroups => "beginEndRegex needs named groups `begin` and `end`"
  | exclusiveClosings => "`endRegex` and `foldEndRegex` are mutually exclusive"
  | missingClosing => "missing end pattern"
  | missingOpening => "end pattern without a begin pattern"
  | nothingDeclared => "rule declares no begin/end, beginEndRegex, offSide or consecutive marker"
  | emptyPattern => "empty pattern"
  | unknownGroup ref => "end pattern references unknown begin group " ++ ref.describe

end RuleFault

/-- Why a rule is dropped (§11.1). -/
inductive RuleError where
  | malformed (fault : RuleFault)
  | pattern (source : String) (fault : PatternError)

namespace RuleError

/-- The words for a malformed rule. -/
def malformedMessage (label reason : String) : String :=
  "Malformed rule " ++ label ++ ": " ++ reason

/-- The words for a pattern that does not compile. -/
def patternMessage (label source reason : String) : String :=
  "Invalid pattern '" ++ source ++ "' in rule " ++ label ++ ": " ++ reason

/-- The words for the rule of that label; `describe` words the faults of patterns. -/
def message (describe : PatternError → String) (label : String) : RuleError → String
  | malformed fault => malformedMessage label fault.message
  | pattern source fault => patternMessage label source (describe fault)

end RuleError

/-- A report about a rule (§6). -/
inductive Diagnostic where
  | deprecated (field : String)
  | invalid (label : String) (error : RuleError)

namespace Diagnostic

/-- Whether a rule was dropped. -/
def isInvalid : Diagnostic → Bool
  | deprecated _ => false
  | invalid _ _ => true

/-- The field that is out of date. -/
def deprecated? : Diagnostic → Option String
  | deprecated field => some field
  | invalid _ _ => none

end Diagnostic

end CodeFold
