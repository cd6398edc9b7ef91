import CodeFold.Pattern.Expr

/-!
# Pattern programs

An expression is laid out as a list of instructions with absolute addresses. Execution falls through
from each instruction to the next, apart from jumps and forks; a fork prefers its first target.
-/

namespace CodeFold.Pattern

/-- One instruction of a program. -/
inductive Instr where
  | one (set : CharSet)
  | look (cond : Look)
  | save (slot : Nat)
  | jump (target : Nat)
  | fork (first second : Nat)
  | accept
deriving DecidableEq, Repr

/-- A fork between the body of a repetition and what follows it. -/
def loopFork (greedy : Bool) (body after : Nat) : Instr :=
  if greedy then .fork body after else .fork after body

/-- `n` copies of a piece of code of length `len`, one after the other from address `base` on. -/
def copies (code : Nat → List Instr) (len : Nat) : (n base : Nat) → List Instr
  | 0, _ => []
  | n + 1, base => code base ++ copies code len n (base + len)

/-- `n` copies of a piece of code of length `len`, each of which may be left out together with those
after it. -/
def optionalCopies (code : Nat → List Instr) (greedy : Bool) (len stop : Nat) :
    (n base : Nat) → List Instr
  | 0, _ => []
  | n + 1, base =>
    loopFork greedy (base + 1) stop ::
      (code (base + 1) ++ optionalCopies code greedy len stop n (base + 1 + len))

namespace Expr

/-- The number of instructions in the code of an expression. -/
def codeLength : Expr → Nat
  | empty => 0
  | one _ _ | look _ => 1
  | group _ _ body => body.codeLength + 2
  | cat a b => a.codeLength + b.codeLength
  | alt a b => a.codeLength + b.codeLength + 2
  | loop body least (some most) _ =>
    least * body.codeLength + (most - least) * (body.codeLength + 1)
  | loop body least none _ =>
    if least = 0 then body.codeLength + 2 else least * body.codeLength + 1

/-- The code of an expression from address `base` on. A body that can match without taking a
character is entered before the choice to go on, so that it is tried once at every place. -/
def code : Expr → Nat → List Instr
  | empty, _ => []
  | one s _, _ => [.one s]
  | look cond, _ => [.look cond]
  | group index _ body, base =>
    .save (2 * index) :: (body.code (base + 1) ++ [.save (2 * index + 1)])
  | cat a b, base => a.code base ++ b.code (base + a.codeLength)
  | alt a b, base =>
    let second := base + a.codeLength + 2
    .fork (base + 1) second ::
      (a.code (base + 1) ++ .jump (second + b.codeLength) :: b.code second)
  | loop body least most greedy, base =>
    let len := body.codeLength
    match most with
    | some most =>
      let start := base + least * len
      let stop := start + (most - least) * (len + 1)
      copies body.code len least base ++
        optionalCopies body.code greedy len stop (most - least) start
    | none =>
      if least = 0 && body.consumes then
        loopFork greedy (base + 1) (base + len + 2) :: (body.code (base + 1) ++ [.jump base])
      else if least = 0 then
        loopFork greedy (base + 1) (base + len + 2) ::
          (body.code (base + 1) ++ [loopFork greedy (base + 1) (base + len + 2)])
      else
        let last := base + (least - 1) * len
        copies body.code len least base ++ [loopFork greedy last (last + len + 1)]

/-- The program of an expression. -/
def program (e : Expr) : Array Instr := (e.code 0 ++ [Instr.accept]).toArray

end Expr

end CodeFold.Pattern
