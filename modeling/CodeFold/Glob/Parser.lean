import CodeFold.Glob.Token

/-!
# Reading globs

A glob is read from left to right. Groups in braces can stand in one another; a comma divides the
branches of the innermost open one.
-/

namespace CodeFold.GlobParser

/-- What has been read: the tokens of the branch at hand, and for each open group the tokens in front
of it and its finished branches. All lists have the last token first. -/
structure State where
  current : List GlobToken := []
  outer : List (List GlobToken × List (List GlobToken)) := []
  /-- Whether a bracket that no other one closes has been met. -/
  openBracket : Bool := false

namespace State

/-- Adds a token. -/
def push (s : State) (t : GlobToken) : State := { s with current := t :: s.current }

/-- Whether a group is open. -/
def inGroup (s : State) : Bool := !s.outer.isEmpty

/-- Opens a group. -/
def openGroup (s : State) : State := { s with current := [], outer := (s.current, []) :: s.outer }

/-- Begins the next branch of a group; outside of groups a comma stands for itself. -/
def comma (s : State) : State :=
  match s.outer with
  | [] => s.push (.literal ',')
  | (before, done) :: rest =>
    { s with current := [], outer := (before, s.current.reverse :: done) :: rest }

/-- Closes a group. -/
def closeGroup (s : State) : Except GlobError State :=
  match s.outer with
  | [] => .error .unopenedAlternates
  | (before, done) :: rest =>
    let branches := (s.current.reverse :: done).reverse
    .ok { s with current := .alternates branches :: before, outer := rest }

/-- Puts `t` in the place of the last token, which is a slash unless it stands for directories
itself. -/
def replaceLast (s : State) (t : GlobToken) : State :=
  match s.current with
  | .recursivePrefix :: _ | .recursiveSuffix :: _ | [] => s
  | _ :: rest => { s with current := t :: rest }

end State

/-- The state after some characters, the last of these and the characters that follow. -/
abbrev Step := State × Option Char × List Char

/-- Reads what follows a star. Two stars stand for directories if they have slashes or ends on both
sides. -/
def star (s : State) (prev : Option Char) : List Char → Step
  | '*' :: rest =>
    let plain : Step := ((s.push .zeroOrMore).push .zeroOrMore, some '*', rest)
    if s.current.isEmpty then
      match rest with
      | [] => (s.push .recursivePrefix, some '*', [])
      | '/' :: rest => (s.push .recursivePrefix, some '/', rest)
      | _ => plain
    else if prev ≠ some '/' && !(s.inGroup && (prev = some ',' || prev = some '\x7b')) then plain
    else
      match rest with
      | [] => (s.replaceLast .recursiveSuffix, some '*', [])
      | '/' :: rest => (s.replaceLast .recursiveMiddle, some '/', rest)
      | c :: _ =>
        if s.inGroup && (c = ',' || c = '\x7d') then
          (s.replaceLast .recursiveSuffix, some '*', rest)
        else plain
  | rest => (s.push .zeroOrMore, some '*', rest)

/-- Reads the members of a class. `pending` tells whether a hyphen after the last member waits for
the end of a range; `ranges` has the last member first. -/
def members (first pending : Bool) (ranges : List (Char × Char)) :
    List Char → Except GlobError (List (Char × Char) × List Char)
  | [] => .error .unclosedClass
  | c :: rest =>
    if c = ']' && !first then
      .ok ((if pending then ('-', '-') :: ranges else ranges).reverse, rest)
    else if c = '-' && !first && !pending then members false true ranges rest
    else
      match pending, ranges with
      | true, (lo, _) :: others =>
        if c < lo then .error (.invalidRange lo c)
        else members false false ((lo, c) :: others) rest
      | _, _ => members false false ((c, c) :: ranges) rest

/-- Reads a class after its opening bracket. -/
def charClass (cs : List Char) : Except GlobError (GlobToken × List Char) := do
  let (negated, cs) :=
    match cs with
    | '!' :: rest | '^' :: rest => (true, rest)
    | _ => (false, cs)
  let (ranges, rest) ← members true false [] cs
  return (.charClass negated ranges, rest)

/-- Reads one character and what belongs to it. -/
def step (options : GlobOptions) (s : State) (prev : Option Char) (c : Char) (rest : List Char) :
    Except GlobError Step :=
  match c with
  | '?' => .ok (s.push .any, some c, rest)
  | '*' => .ok (star s prev rest)
  | '[' =>
    if s.openBracket then .ok (s.push (.literal c), some c, rest)
    else
      match charClass rest with
      | .ok (t, rest) => .ok (s.push t, some ']', rest)
      | .error .unclosedClass =>
        if options.openBrackets then
          .ok ({ s.push (.literal c) with openBracket := true }, some c, rest)
        else .error .unclosedClass
      | .error e => .error e
  | '\x7b' => .ok (s.openGroup, some c, rest)
  | '\x7d' => (s.closeGroup).map (·, some c, rest)
  | ',' => .ok (s.comma, some c, rest)
  | '\\' =>
    match rest with
    | [] => .error .danglingEscape
    | d :: rest => .ok (s.push (.literal d), some d, rest)
  | c => .ok (s.push (.literal c), some c, rest)

/-- Reads characters up to the end. -/
def parseFrom (options : GlobOptions) :
    Nat → State → Option Char → List Char → Except GlobError (List GlobToken)
  | fuel + 1, s, prev, c :: rest => do
    let (s, prev, rest) ← step options s prev c rest
    parseFrom options fuel s prev rest
  | _, s, _, _ => if s.inGroup then .error .unclosedAlternates else .ok s.current.reverse

/-- The tokens of a glob. -/
def parse (options : GlobOptions) (source : String) : Except GlobError (List GlobToken) :=
  let cs := source.toList
  parseFrom options cs.length {} none cs

end CodeFold.GlobParser
