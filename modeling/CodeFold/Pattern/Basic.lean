import CodeFold.Pattern.Meaning
import CodeFold.Pattern.Parser
import CodeFold.Pattern.Search

/-!
# Patterns

A pattern is a regular expression compiled from its source, which may be of any size. Positions
count characters. A search may start inside a text; its assertions still see all of it.
Specification: §3, §4.2.
-/

namespace CodeFold

/-- A regular expression that compiles. -/
structure Pattern where
  source : String
  program : Array Pattern.Instr
  groupNames : List (Option String)

namespace Pattern

/-- The meaning of a source. -/
def expr (source : List Char) : Except PatternError Expr := do
  let tree ← Parser.parse source
  let (e, _) ← tree.meaning {}
  return e

/-- Compiles a source. -/
def compile (source : String) : Except PatternError Pattern := do
  let e ← expr source.toList
  return { source, program := e.program, groupNames := e.groupNames }

/-- The first match at or after a position. -/
def matchAt (p : Pattern) (text : List Char) (pos : Nat) : Option Match :=
  search p.program text pos

/-- Whether the pattern matches somewhere in a text. -/
def isMatch (p : Pattern) (text : List Char) : Bool := (p.matchAt text 0).isSome

/-- The number of the group with a name. -/
def groupIndex? (p : Pattern) (name : String) : Option Nat :=
  p.groupNames.findIdx? (· = some name)

/-- Part of a text. -/
def slice (text : List Char) (span : Nat × Nat) : List Char :=
  (text.drop span.1).take (span.2 - span.1)

/-- The texts of all groups of a match; those that took no part have none. -/
def captures (p : Pattern) (text : List Char) (m : Match) : List (Option String) :=
  (List.range p.groupNames.length).map fun i =>
    (m.group? i).map fun span => String.ofList (slice text span)

/-- Writes a text so that it matches itself. -/
def escapeChars : List Char → List Char
  | [] => []
  | c :: cs => if Parser.isMeta c then '\\' :: c :: escapeChars cs else c :: escapeChars cs

/-- The source of the pattern that matches a text only (§10). -/
def escape (text : String) : String := String.ofList (escapeChars text.toList)

end Pattern

end CodeFold
