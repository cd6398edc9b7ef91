import CodeFold.Scan.Scope
import CodeFold.Text.Line

/-!
# Hits

The next place in a line where a region opens or closes. The earliest match wins; at one place an end
wins over an opening, an inner region over an outer one and an earlier rule over a later one.
Specification: §4.2, §12.
-/

namespace CodeFold

/-- Where the search goes on after a match: behind it, or one character further if it is empty
(§12). -/
def nextPos? (line : Line) (start stop : Nat) : Option Nat :=
  if start < stop then some stop
  else if stop < line.length then some (stop + 1)
  else none

/-- The first match at or after a position in which a group took part. -/
def findGroupFrom (p : Pattern) (line : Line) (group : Nat) : Nat → Nat → Option (Nat × Nat)
  | 0, _ => none
  | fuel + 1, pos =>
    match p.matchAt line pos with
    | none => none
    | some m =>
      if (m.group? group).isSome then some (m.start, m.stop)
      else (nextPos? line m.start m.stop).bind (findGroupFrom p line group fuel)

/-- The first match at or after a position in which the group of that name took part. -/
def findGroup (p : Pattern) (line : Line) (name : String) (pos : Nat) : Option (Nat × Nat) :=
  (p.groupIndex? name).bind fun group => findGroupFrom p line group (line.length + 1) pos

/-- An opening match: its span and the captures that the closing refers to. -/
structure OpeningMatch where
  start : Nat
  stop : Nat
  captures : List (Option String)

/-- The first opening of a rule at or after a position (§4.2). -/
def Rule.findOpening (rule : Rule) (line : Line) (pos : Nat) : Option OpeningMatch :=
  match rule.kind with
  | .delimited p (.template _) =>
    (p.matchAt line pos).map fun m => ⟨m.start, m.stop, p.captures line m⟩
  | .delimited p (.fixed _) => (p.matchAt line pos).map fun m => ⟨m.start, m.stop, []⟩
  | .paired p => (findGroup p line "begin" pos).map fun (start, stop) => ⟨start, stop, []⟩
  | .consecutive _ | .indentation => none

/-- The first match of what closes an entry, at or after a position. -/
def Rule.closingMatch (rule : Rule) (entry : OpenEntry) (line : Line) (pos : Nat) :
    Option (Nat × Nat) :=
  match rule.kind with
  | .delimited _ (.fixed p) => (p.matchAt line pos).map fun m => (m.start, m.stop)
  | .delimited _ (.template _) =>
    entry.closing.bind fun p => (p.matchAt line pos).map fun m => (m.start, m.stop)
  | .paired p => findGroup p line "end" pos
  | .consecutive _ | .indentation => none

/-- Whether only white space stands between the opening of an entry and a place in the same line. -/
def OpenEntry.onlyBlankBefore (entry : OpenEntry) (lineNo : Nat) (line : Line) (start : Nat) :
    Bool :=
  entry.line = lineNo && entry.body ≤ start && allBlank (Pattern.slice line (entry.body, start))

/-- The first end of an entry at or after a position. A strict rule passes over an end that only
white space parts from the opening (§3). -/
def Rule.findClosingFrom (rule : Rule) (entry : OpenEntry) (lineNo : Nat) (line : Line) :
    Nat → Nat → Option (Nat × Nat)
  | 0, _ => none
  | fuel + 1, pos =>
    match rule.closingMatch entry line pos with
    | none => none
    | some (start, stop) =>
      if rule.strict && entry.onlyBlankBefore lineNo line start then
        (nextPos? line start stop).bind (rule.findClosingFrom entry lineNo line fuel)
      else some (start, stop)

/-- The first end of an entry at or after a position. -/
def Rule.findClosing (rule : Rule) (entry : OpenEntry) (lineNo : Nat) (line : Line) (pos : Nat) :
    Option (Nat × Nat) :=
  rule.findClosingFrom entry lineNo line (line.length + 1) pos

/-- What happens at a hit. -/
inductive Action where
  | close (index : Nat)
  | open_ (rule : RuleId) (captures : List (Option String))
deriving DecidableEq, Repr

/-- A place where a region opens or closes. -/
structure Hit where
  start : Nat
  stop : Nat
  action : Action
deriving DecidableEq, Repr

/-- The hit that starts first; among equals the one that is listed first (§12). -/
def Hit.earliest (hits : List Hit) : Option Hit :=
  hits.foldl (fun best hit =>
    match best with
    | none => some hit
    | some b => if hit.start < b.start then some hit else best) none

namespace Stack

/-- The first end of the entry at a position of the stack. -/
def closingHit (rules : RuleSet) (stack : Stack) (lineNo : Nat) (line : Line) (pos index : Nat) :
    Option Hit := do
  let entry ← stack[index]?
  let rule ← rules.rule? entry.rule
  let (start, stop) ← rule.findClosing entry lineNo line pos
  return ⟨start, stop, .close index⟩

/-- The first opening of a rule. -/
def openingHit (rules : RuleSet) (line : Line) (pos : Nat) (id : RuleId) : Option Hit := do
  let rule ← rules.rule? id
  let m ← rule.findOpening line pos
  return ⟨m.start, m.stop, .open_ id m.captures⟩

/-- The next hit at or after a position (§12). -/
def nextHit (rules : RuleSet) (stack : Stack) (lineNo : Nat) (line : Line) (pos : Nat) :
    Option Hit :=
  let scope := stack.scope rules
  let closings := scope.ends.filterMap fun (_, index) =>
    stack.closingHit rules lineNo line pos index
  let openings := scope.active.filterMap (openingHit rules line pos)
  Hit.earliest (closings ++ openings)

end Stack

end CodeFold
