import CodeFold.Pattern.Error

/-!
# Pattern trees

The shape of a pattern as it is written, before flags and classes get their meaning.
-/

namespace CodeFold.Pattern

/-- A mode of reading or matching that a pattern can switch. -/
inductive Flag where
  | ignoreCase
  | multiLine
  | dotAll
  | swapGreed
  | unicode
  | crlf
  | verbose
deriving DecidableEq, Repr

/-- Switches written in one place, each with its new state. -/
abbrev FlagChanges := List (Flag × Bool)

namespace FlagChanges

/-- The new state of a flag, if it is switched. -/
def state? (changes : FlagChanges) (flag : Flag) : Option Bool :=
  changes.lookup flag

end FlagChanges

/-- A place that an assertion asks for. -/
inductive Anchor where
  | lineStart
  | lineEnd
  | textStart
  | textEnd
  | wordBoundary
  | notWordBoundary
  | wordStart
  | wordEnd
  | wordStartHalf
  | wordEndHalf
deriving DecidableEq, Repr

/-- Classes with a one-letter escape. -/
inductive Shorthand where
  | digit
  | space
  | word
deriving DecidableEq, Repr

/-- Classes named between colons, which hold ASCII characters only. -/
inductive AsciiClass where
  | alnum
  | alpha
  | ascii
  | blank
  | cntrl
  | digit
  | graph
  | lower
  | print
  | punct
  | space
  | upper
  | word
  | xdigit
deriving DecidableEq, Repr

namespace AsciiClass

/-- The class of that name. -/
def ofName? : String → Option AsciiClass
  | "alnum" => some alnum
  | "alpha" => some alpha
  | "ascii" => some ascii
  | "blank" => some blank
  | "cntrl" => some cntrl
  | "digit" => some digit
  | "graph" => some graph
  | "lower" => some lower
  | "print" => some print
  | "punct" => some punct
  | "space" => some space
  | "upper" => some upper
  | "word" => some word
  | "xdigit" => some xdigit
  | _ => none

end AsciiClass

/-- A question about a character property. -/
inductive PropertyQuery where
  | named (name : String)
  | valued (property value : String)
deriving DecidableEq, Repr

/-- Operations between classes inside brackets. -/
inductive ClassOp where
  | inter
  | diff
  | symmDiff
deriving DecidableEq, Repr

/-- The inside of a bracketed class. -/
inductive ClassTree where
  | empty
  | char (c : Char)
  | range (lo hi : Char)
  | ascii (negated : Bool) (kind : AsciiClass)
  | shorthand (negated : Bool) (kind : Shorthand)
  | property (negated : Bool) (query : PropertyQuery)
  | bracket (negated : Bool) (inner : ClassTree)
  | union (a b : ClassTree)
  | op (kind : ClassOp) (a b : ClassTree)
deriving DecidableEq, Repr

namespace ClassTree

/-- The class of some members; one member stands for itself. -/
def ofMembers : List ClassTree → ClassTree
  | [] => empty
  | [t] => t
  | t :: ts => union t (ofMembers ts)

/-- How deep classes stand in one another. A list of members counts once, however long it is. -/
def depth (inUnion : Bool) : ClassTree → Nat
  | bracket _ t => depth false t + 1
  | union a b =>
    let inner := max (depth false a) (depth true b)
    if inUnion then inner else inner + 1
  | op _ a b => max (depth false a) (depth false b) + 1
  | _ => 0

end ClassTree

/-- What a group does beside grouping. -/
inductive GroupKind where
  | plain (changes : FlagChanges)
  | capture (index : Nat) (name : Option String)
deriving DecidableEq, Repr

/-- A pattern as it is written. A character knows whether it was written as two hexadecimal digits,
which stand for a byte where Unicode is switched off. -/
inductive Tree where
  | empty
  | directive (changes : FlagChanges)
  | char (c : Char) (byte : Bool)
  | dot
  | anchor (kind : Anchor)
  | shorthand (negated : Bool) (kind : Shorthand)
  | property (negated : Bool) (query : PropertyQuery)
  | bracket (negated : Bool) (inner : ClassTree)
  | loop (body : Tree) (least : Nat) (most : Option Nat) (greedy : Bool)
  | group (kind : GroupKind) (body : Tree)
  | cat (items : List Tree)
  | alt (branches : List Tree)

namespace Tree

/-- Items one after the other; a single item stands for itself. -/
def ofItems : List Tree → Tree
  | [] => empty
  | [t] => t
  | ts => cat ts

/-- Branches to choose from; a single branch stands for itself. -/
def ofBranches : List Tree → Tree
  | [] => empty
  | [t] => t
  | ts => alt ts

mutual

/-- How deep the parts of a pattern stand in one another. -/
def depth : Tree → Nat
  | bracket _ t => t.depth false + 1
  | loop body _ _ _ => depth body + 1
  | group _ body => depth body + 1
  | cat items => depthAll items + 1
  | alt branches => depthAll branches + 1
  | _ => 0

/-- The greatest depth among some patterns. -/
def depthAll : List Tree → Nat
  | [] => 0
  | t :: ts => max (depth t) (depthAll ts)

end

/-- The greatest depth that is accepted. -/
def maxDepth : Nat := 250

end Tree

end CodeFold.Pattern
