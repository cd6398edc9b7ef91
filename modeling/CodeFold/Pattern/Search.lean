import CodeFold.Pattern.Program

/-!
# Searching

All ways through a program are followed at once, one character at a time. The ways at a place are
kept in order of preference and no two of them stand at one instruction. The match found is the one
that starts first and, among those, the one that is preferred.
-/

namespace CodeFold.Pattern

/-- Places noted on the way, newest first: the number of a slot with a position. -/
abbrev Slots := List (Nat × Nat)

/-- A way through the program: the instruction it goes on with, where it started and what it noted. -/
structure Thread where
  pc : Nat
  start : Nat
  slots : Slots
deriving Repr

/-- A place in a text: what stands before it and after it, and its position. -/
structure Place where
  prev : Option Char
  next : Option Char
  pos : Nat

/-- What a search finds: the span and the slots noted on the way. -/
structure Match where
  start : Nat
  stop : Nat
  slots : Slots
deriving Repr

namespace Match

/-- The span of a group, if it took part. -/
def group? (m : Match) (index : Nat) : Option (Nat × Nat) :=
  if index = 0 then some (m.start, m.stop)
  else
    match m.slots.lookup (2 * index), m.slots.lookup (2 * index + 1) with
    | some start, some stop => some (start, stop)
    | _, _ => none

end Match

/-- The ways at one place. -/
structure Frontier where
  /-- For every instruction the last place where it was reached, counted from one. -/
  marks : Array Nat
  /-- The ways that take the next character, the least preferred first. -/
  threads : List Thread
  /-- The way that ends here. All others are preferred to it. -/
  done : Option Match

namespace Frontier

/-- No ways yet through a program. -/
def empty (prog : Array Instr) : Frontier := ⟨Array.replicate prog.size 0, [], none⟩

/-- Whether an instruction leads to nothing new at a place: it was reached there before, or a
preferred way has ended. -/
@[inline] def isClosed (f : Frontier) (here : Place) (pc : Nat) : Bool :=
  f.done.isSome || f.marks.getD pc 0 = here.pos + 1

/-- Notes that an instruction was reached. -/
@[inline] def mark (f : Frontier) (here : Place) (pc : Nat) : Frontier :=
  { f with marks := f.marks.setIfInBounds pc (here.pos + 1) }

/-- Adds a way that takes the next character. -/
@[inline] def push (f : Frontier) (t : Thread) : Frontier := { f with threads := t :: f.threads }

end Frontier

/-- Follows the instructions that take no character from `pc` on and adds the ways they lead to. -/
def follow (prog : Array Instr) (here : Place) (start : Nat) :
    Nat → Nat → Slots → Frontier → Frontier
  | 0, _, _, f => f
  | fuel + 1, pc, slots, f =>
    if f.isClosed here pc then f
    else
      let f := f.mark here pc
      match prog[pc]? with
      | none => f
      | some (.jump target) => follow prog here start fuel target slots f
      | some (.fork first second) =>
        follow prog here start fuel second slots (follow prog here start fuel first slots f)
      | some (.look cond) =>
        if cond.holds here.prev here.next then follow prog here start fuel (pc + 1) slots f else f
      | some (.save slot) => follow prog here start fuel (pc + 1) ((slot, here.pos) :: slots) f
      | some (.one set) =>
        if here.next.any set.contains then f.push ⟨pc + 1, start, slots⟩ else f
      | some .accept => { f with done := some ⟨start, here.pos, slots⟩ }

/-- The number of steps that reach everything: no way passes an instruction twice. -/
def followBound (prog : Array Instr) : Nat := prog.size + 1

/-- The ways at the next place, behind the character that all ways take. -/
def advance (prog : Array Instr) (here : Place) (f : Frontier) : Frontier :=
  f.threads.reverse.foldl
    (fun f t => follow prog here t.start (followBound prog) t.pc t.slots f)
    { f with threads := [], done := none }

/-- The ways at a place and the best match so far. As long as there is none, a new way starts at
every place. -/
@[inline] def settle (prog : Array Instr) (here : Place) (ways : Frontier) (found : Option Match) :
    Frontier × Option Match :=
  let ways :=
    if found.isNone then follow prog here here.pos (followBound prog) 0 [] ways else ways
  match ways.done with
  | some m => (ways, some m)
  | none => (ways, found)

/-- Runs a program along the rest of a text. `ways` are those at the current place, `found` the best
match so far. -/
def run (prog : Array Instr) (prev : Option Char) (pos : Nat) (ways : Frontier)
    (found : Option Match) : List Char → Option Match
  | [] => (settle prog ⟨prev, none, pos⟩ ways found).2
  | c :: rest =>
    let (ways, found) := settle prog ⟨prev, some c, pos⟩ ways found
    if ways.threads.isEmpty && found.isSome then found
    else
      run prog (some c) (pos + 1) (advance prog ⟨some c, rest.head?, pos + 1⟩ ways) found rest

/-- The first match at or after a position of a text. -/
def search (prog : Array Instr) (text : List Char) (pos : Nat) : Option Match :=
  match pos with
  | 0 => run prog none 0 (.empty prog) none text
  | before + 1 =>
    match text.drop before with
    | [] => none
    | prev :: rest => run prog (some prev) pos (.empty prog) none rest

end CodeFold.Pattern
