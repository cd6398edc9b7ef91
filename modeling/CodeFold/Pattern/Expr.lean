import CodeFold.Unicode.CharSet
import CodeFold.Unicode.Property

/-!
# Pattern expressions

What a pattern means once flags and classes are resolved. `concat`, `alternation` and `repetition`
build expressions in a normal form: sequences and choices are flat, branches share the parts that
they all begin with, and repetitions that cannot repeat are dropped.
-/

namespace CodeFold.Pattern

/-- Where a place stands with respect to the words around it. -/
inductive WordEdge where
  | boundary
  | interior
  | start
  | stop
  | startHalf
  | stopHalf
deriving DecidableEq, Repr

/-- A condition on a place, decided by the characters on its two sides. -/
inductive Look where
  | textStart
  | textEnd
  | lineStart (crlf : Bool)
  | lineEnd (crlf : Bool)
  | word (edge : WordEdge) (unicode : Bool)
deriving DecidableEq, Repr

namespace Look

/-- Whether a character belongs to words, in Unicode or in ASCII. -/
def isWord (unicode : Bool) (c : Char) : Bool :=
  if c.toNat < 0x80 then c.isAlphanum || c = '_'
  else unicode && Unicode.wordSet.contains c

/-- Whether the condition holds between two characters; a side without one is an end of the text. -/
def holds (prev next : Option Char) : Look → Bool
  | textStart => prev.isNone
  | textEnd => next.isNone
  | lineStart false => prev.isNone || prev == some '\n'
  | lineEnd false => next.isNone || next == some '\n'
  | lineStart true =>
    prev.isNone || prev == some '\n' || (prev == some '\r' && next != some '\n')
  | lineEnd true =>
    next.isNone || next == some '\r' || (next == some '\n' && prev != some '\r')
  | word edge unicode =>
    let before := prev.any (isWord unicode)
    let after := next.any (isWord unicode)
    match edge with
    | .boundary => before != after
    | .interior => before == after
    | .start => !before && after
    | .stop => before && !after
    | .startHalf => !before
    | .stopHalf => !after

end Look

/-- The alphabet that a class is written for. Two classes of the same characters for different
alphabets are not the same part of a pattern. -/
inductive Alphabet where
  | unicode
  | ascii
deriving DecidableEq, Repr

/-- The meaning of a pattern. -/
inductive Expr where
  | empty
  | one (set : CharSet) (alphabet : Alphabet)
  | look (cond : Look)
  | loop (body : Expr) (least : Nat) (most : Option Nat) (greedy : Bool)
  | group (index : Nat) (name : Option String) (body : Expr)
  | cat (a b : Expr)
  | alt (a b : Expr)
deriving DecidableEq, Repr

namespace Expr

/-- Whether every match takes at least one character. -/
def consumes : Expr → Bool
  | empty | look _ => false
  | one s _ => !s.ranges.isEmpty
  | loop body least _ _ => 0 < least && body.consumes
  | group _ _ body => body.consumes
  | cat a b => a.consumes || b.consumes
  | alt a b => a.consumes && b.consumes

/-- Whether no match takes a character. -/
def staysPut : Expr → Bool
  | empty | look _ => true
  | one _ _ => false
  | loop body _ most _ => body.staysPut || most == some 0
  | group _ _ body => body.staysPut
  | cat a b => a.staysPut && b.staysPut
  | alt a b => a.staysPut && b.staysPut

/-- One character of a class. Where there is no choice, the alphabet does not matter. -/
def ofClass (alphabet : Alphabet) (s : CharSet) : Expr :=
  one s (if s.isSingle || s.ranges.isEmpty then .unicode else alphabet)

/-- One character of a set. -/
def ofSet (s : CharSet) : Expr := ofClass .unicode s

/-- The parts of a sequence. -/
def factors : Expr → List Expr
  | empty => []
  | cat a b => a.factors ++ b.factors
  | e => [e]

/-- The branches of a choice. -/
def branches : Expr → List Expr
  | alt a b => a.branches ++ b.branches
  | e => [e]

/-- A sequence of parts that are no sequences themselves. -/
def ofFactors : List Expr → Expr
  | [] => empty
  | [e] => e
  | e :: es => cat e (ofFactors es)

/-- A choice of branches that are no choices themselves. -/
def ofBranches : List Expr → Expr
  | [] => ofSet .empty
  | [e] => e
  | e :: es => alt e (ofBranches es)

/-- Expressions one after the other. -/
def concat (es : List Expr) : Expr := ofFactors (es.flatMap factors)

/-- The longest list that both lists begin with. -/
def commonStart : List Expr → List Expr → List Expr
  | a :: as, b :: bs => if a = b then a :: commonStart as bs else []
  | _, _ => []

/-- The parts that all branches begin with; a branch of one part has none to share. -/
def sharedStart : List (List Expr) → List Expr
  | [] => []
  | fs :: rest =>
    if (fs :: rest).all (2 ≤ ·.length) then rest.foldl commonStart fs else []

/-- The set of a branch that is one character. -/
def literal? : Expr → Option CharSet
  | one s _ => if s.isSingle then some s else none
  | _ => none

/-- The set of a branch that is a class. -/
def class? : Expr → Option CharSet
  | one s _ => if s.isSingle then none else some s
  | _ => none

/-- A choice between flat branches. Branches that are all characters or all classes are one class,
and the parts that all branches begin with are matched once, before the choice. -/
def choice (fuel : Nat) (bs : List Expr) : Expr :=
  match bs with
  | [e] => e
  | _ =>
    match bs.mapM literal? <|> bs.mapM class? with
    | some sets => ofSet (sets.foldl .union .empty)
    | none =>
      match fuel, sharedStart (bs.map factors) with
      | fuel + 1, p :: ps =>
        let rests := bs.map fun b => ofFactors (b.factors.drop (p :: ps).length)
        concat (p :: ps ++ [choice fuel (rests.flatMap branches)])
      | _, _ => ofBranches bs

/-- The number of parts in an expression, which bounds how often parts can be shared. -/
def size : Expr → Nat
  | empty | one _ _ | look _ => 1
  | loop body _ _ _ => body.size + 1
  | group _ _ body => body.size + 1
  | cat a b => a.size + b.size + 1
  | alt a b => a.size + b.size + 1

/-- A choice between expressions, the first that matches being preferred. -/
def alternation (es : List Expr) : Expr :=
  choice ((es.map size).foldr (· + ·) 0 + 1) (es.flatMap branches)

/-- An expression repeated from `least` to `most` times. -/
def repetition (body : Expr) (least : Nat) (most : Option Nat) (greedy : Bool) : Expr :=
  let (least, most) :=
    if body.staysPut then (min least 1, some (min (most.getD 1) 1)) else (least, most)
  if most = some 0 then empty
  else if least = 1 && most = some 1 then body
  else loop body least most greedy

/-- The groups of an expression, with their numbers and names. -/
def groups : Expr → List (Nat × Option String)
  | empty | one _ _ | look _ => []
  | loop body _ _ _ => body.groups
  | group index name body => (index, name) :: body.groups
  | cat a b => a.groups ++ b.groups
  | alt a b => a.groups ++ b.groups

/-- The name of every group from number 0 up; numbers without a group have no name. -/
def groupNames (e : Expr) : List (Option String) :=
  let count := e.groups.foldl (fun n g => max n (g.1 + 1)) 1
  (List.range count).map fun i => (e.groups.lookup i).join

end Expr

end CodeFold.Pattern
