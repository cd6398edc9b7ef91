import CodeFold.Rule.Basic

/-!
# Scopes

The open regions form a stack, the outermost at position 0. The stack decides which rules are tried
and which ends are looked for. Each entry keeps the scope that holds while it is the innermost one;
`rebuild` computes it from the entries alone.
Specification: §4.2.
-/

namespace CodeFold

/-- Ends that are searched for together: those of one rule, or those of one rule with one pattern
made from captures. -/
inductive EndKey where
  | rule (id : RuleId)
  | resolved (id : RuleId) (source : String)
deriving DecidableEq, Repr

/-- What holds inside a region (§4.2). -/
structure Scope where
  /-- The rules whose openings are tried, those of the innermost region first. -/
  active : List RuleId
  /-- The rules that are tried here or once inner regions have closed. -/
  reachable : List RuleId
  /-- The highest position of each end that is looked for, innermost first. -/
  ends : List (EndKey × Nat)
deriving DecidableEq, Repr

/-- An open region (§3). -/
structure OpenEntry where
  rule : RuleId
  line : Nat
  /-- The position of the opening match in its line. -/
  column : Nat
  /-- The position behind the opening match. -/
  body : Nat
  /-- The texts of the groups of the opening match, if the closing refers to them. -/
  captures : List (Option String)
  /-- The closing pattern made from the captures. -/
  closing : Option Pattern
  scope : Scope

/-- What the ends of an entry are searched by. An entry whose closing pattern could not be made never
closes. -/
def endKey? (rule : Rule) (closing : Option Pattern) : Option EndKey :=
  match rule.kind with
  | .delimited _ (.template _) => closing.map fun p => .resolved rule.id p.source
  | _ => some (.rule rule.id)

/-- The members of a list without repetition, each where it comes first. -/
def unique : List RuleId → List RuleId
  | [] => []
  | id :: ids => id :: (unique ids).filter (· ≠ id)

/-- `ids` followed by the members of `rest` that are not among them. -/
def prepend (ids rest : List RuleId) : List RuleId := unique (ids ++ rest)

namespace Scope

/-- What holds outside all regions. -/
def base (rules : RuleSet) : Scope := ⟨rules.topLevel, rules.topLevel, []⟩

/-- The ends that are looked for inside a region at position `index`: its own, and those below
unless the region hides them. -/
def enterEnds (below : Scope) (nesting : Nesting) (key : Option EndKey) (index : Nat) :
    List (EndKey × Nat) :=
  let own := key.toList.map fun k => (k, index)
  match nesting with
  | .sealed => own
  | _ => own ++ below.ends.filter fun (k, _) => key ≠ some k

/-- What holds inside a region of a rule at position `index` of the stack. -/
def enter (below : Scope) (rule : Rule) (key : Option EndKey) (index : Nat) : Scope where
  active :=
    match rule.nesting with
    | .inherit => below.active
    | .sealed => []
    | .rules ids => prepend ids below.active
  reachable :=
    match rule.nesting with
    | .inherit | .sealed => below.reachable
    | .rules ids => prepend ids below.reachable
  ends := below.enterEnds rule.nesting key index

end Scope

/-- The open regions, the outermost first. -/
abbrev Stack := Array OpenEntry

namespace Stack

/-- What holds inside the innermost region. -/
def scope (rules : RuleSet) (stack : Stack) : Scope :=
  match stack.back? with
  | some entry => entry.scope
  | none => .base rules

/-- Puts an entry on top with the scope that holds inside it. -/
def enter (rules : RuleSet) (stack : Stack) (entry : OpenEntry) : Stack :=
  match rules.rule? entry.rule with
  | none => stack.push entry
  | some rule =>
    let key := endKey? rule entry.closing
    stack.push { entry with scope := (stack.scope rules).enter rule key stack.size }

/-- Puts entries on top, one after the other, with the scopes that hold inside them. -/
def rebuild (rules : RuleSet) (stack : Stack) (entries : List OpenEntry) : Stack :=
  entries.foldl (enter rules) stack

/-- The stack below a position. -/
def below (stack : Stack) (index : Nat) : Stack := stack.extract 0 index

/-- Takes the entry at a position out and computes the scopes above it again (§12). -/
def removeAt (rules : RuleSet) (stack : Stack) (index : Nat) : Stack :=
  (stack.below index).rebuild rules (stack.toList.drop (index + 1))

end Stack

end CodeFold
