import CodeFold.Language
import CodeFold.Range
import CodeFold.Rule.Template

/-!
# Compiled rules

A rule set holds all rules for one language, nested ones included, each under its number. The rules
that hold everywhere are listed in order of precedence, and a rule refers to those inside its regions
by their numbers, so that rules can nest in themselves.
Specification: §3, §10.
-/

namespace CodeFold

/-- The number of a rule in its set. -/
abbrev RuleId := Nat

/-- What closes a region. -/
inductive Closing where
  | fixed (pattern : Pattern)
  | template (t : Template)

/-- What a rule looks for (§3). -/
inductive RuleKind where
  /-- A pattern opens regions and another one closes them. -/
  | delimited (opening : Pattern) (closing : Closing)
  /-- One pattern has a group for each. -/
  | paired (pattern : Pattern)
  /-- Two or more lines in a row match a pattern. -/
  | consecutive (line : Pattern)
  /-- Blocks of lines that are indented further. -/
  | indentation

namespace RuleKind

/-- The name of a kind. -/
def name : RuleKind → String
  | delimited _ _ => "begin_end"
  | paired _ => "single_pattern"
  | consecutive _ => "consecutive"
  | indentation => "indentation"

/-- Whether regions are opened and closed inside lines. -/
def isDelimited : RuleKind → Bool
  | delimited _ _ | paired _ => true
  | consecutive _ | indentation => false

end RuleKind

/-- The region that a closing match closes (§3). -/
inductive Pairing where
  /-- The innermost one; regions opened after it are given up. -/
  | innermost
  /-- The nearest one of the rule; all others stay open. -/
  | nearest
deriving DecidableEq, Repr

/-- The rules inside a region (§10). -/
inductive Nesting where
  /-- Those that hold around it. -/
  | inherit
  /-- None: only its end is looked for. -/
  | sealed
  /-- These, and after them those that hold around it. -/
  | rules (ids : List RuleId)
deriving DecidableEq, Repr

/-- A compiled rule (§3). -/
structure Rule where
  id : RuleId
  label : String
  kind : RuleKind
  pairing : Pairing
  nesting : Nesting
  strict : Bool
  foldLastLine : Bool
  foldKind : FoldKind

/-- The rules for one language (§3). -/
structure RuleSet where
  language : Language
  rules : Array Rule
  topLevel : List RuleId

namespace RuleSet

/-- No rules. -/
def empty (language : Language) : RuleSet := ⟨language, #[], []⟩

/-- The rule with a number. -/
def rule? (s : RuleSet) (id : RuleId) : Option Rule := s.rules[id]?

/-- The number of rules, nested ones included. -/
def size (s : RuleSet) : Nat := s.rules.size

/-- Whether there are no rules. -/
def isEmpty (s : RuleSet) : Bool := s.rules.isEmpty

end RuleSet

end CodeFold
