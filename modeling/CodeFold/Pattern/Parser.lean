import CodeFold.Pattern.Tree
import CodeFold.Text.Digit
import CodeFold.Unicode.Amendment
import CodeFold.Unicode.WhiteSpace

/-!
# Reading patterns

A pattern is read from left to right into a `Tree`. In verbose mode white space and comments from
`#` to the end of the line separate the parts and mean nothing else. Every function returns what it
has not read; those that call themselves take a bound on the number of calls, which the length of
the pattern gives.
-/

namespace CodeFold.Pattern.Parser

/-- What the reader knows beside the text: the mode, and the capturing groups opened so far. -/
structure State where
  verbose : Bool
  groups : Nat
  names : List String

/-- The state before the first character. -/
def State.start : State := ⟨false, 0, []⟩

/-- Drops white space and comments; `inComment` tells whether the text starts inside a comment. -/
def dropSpace (inComment : Bool) : List Char → List Char
  | [] => []
  | c :: cs =>
    if inComment then dropSpace (c != '\n') cs
    else if isBlank c then dropSpace false cs
    else if c = '#' then dropSpace true cs
    else c :: cs

/-- Drops what separates parts in the current mode. -/
def State.skip (st : State) (cs : List Char) : List Char :=
  if st.verbose then dropSpace false cs else cs

/-- The character that the reader will look at after the one before `cs`. -/
def State.peek (st : State) (cs : List Char) : Option Char :=
  if st.verbose then
    match cs.dropWhile isBlank with
    | '#' :: rest => (rest.dropWhile isBlank).head? <|> cs.head?
    | c :: _ => some c
    | [] => cs.head?
  else cs.head?

/-- Characters that mean something in a pattern. -/
def isMeta (c : Char) : Bool :=
  ['\\', '.', '+', '*', '?', '(', ')', '|', '[', ']', '\x7b', '\x7d', '^', '$', '#', '&', '-',
    '~'].contains c

/-- Characters that stand for themselves after a backslash. -/
def isEscapable (c : Char) : Bool :=
  isMeta c || (c.toNat < 0x80 && !c.isAlphanum && c != '<' && c != '>')

/-- The character with that code. -/
def charOf (code : Nat) : Except PatternError Char :=
  if code.isValidChar then .ok (Char.ofNat code) else .error .invalidCodePoint

/-- Reads exactly `n` hexadecimal digits. -/
def hexFixed (st : State) (value : Nat) : Nat → List Char → Except PatternError (Nat × List Char)
  | 0, cs => .ok (value, cs)
  | _ + 1, [] => .error .unexpectedEnd
  | n + 1, c :: cs =>
    match hexDigit? c with
    | none => .error (.invalidHexDigit c)
    | some d => hexFixed st (16 * value + d) n (st.skip cs)

/-- Reads hexadecimal digits up to a closing brace. -/
def hexBraced (st : State) (value : Option Nat) :
    Nat → List Char → Except PatternError (Option Nat × List Char)
  | 0, _ => .error .unexpectedEnd
  | fuel + 1, cs =>
    match st.skip cs with
    | [] => .error .unexpectedEnd
    | '\x7d' :: rest => .ok (value, st.skip rest)
    | c :: rest =>
      match hexDigit? c with
      | none => .error (.invalidHexDigit c)
      | some d => hexBraced st (some (16 * value.getD 0 + d)) fuel rest

/-- One thing that an escape or a plain character stands for. -/
inductive Atom where
  | char (c : Char) (byte : Bool)
  | dot
  | anchor (kind : Anchor)
  | shorthand (negated : Bool) (kind : Shorthand)
  | property (negated : Bool) (query : PropertyQuery)

/-- The tree of an atom. -/
def Atom.tree : Atom → Tree
  | char c byte => .char c byte
  | dot => .dot
  | anchor kind => .anchor kind
  | shorthand negated kind => .shorthand negated kind
  | property negated query => .property negated query

/-- Reads a character given by its code, after the letter that says how many digits follow. -/
def parseHex (st : State) (digits : Nat) (cs : List Char) : Except PatternError (Atom × List Char) :=
  match st.skip cs with
  | [] => .error .unexpectedEnd
  | '\x7b' :: rest => do
    match ← hexBraced st none (rest.length + 1) rest with
    | (none, _) => .error .emptyHex
    | (some code, rest) => return (.char (← charOf code) false, rest)
  | cs => do
    let (code, rest) ← hexFixed st 0 digits cs
    return (.char (← charOf code) (digits = 2), rest)

/-- Splits a text at the first occurrence of a separator. -/
def splitAtFirst (sep : List Char) : List Char → Option (List Char × List Char)
  | [] => if sep.isEmpty then some ([], []) else none
  | c :: cs =>
    if sep.isPrefixOf (c :: cs) then some ([], (c :: cs).drop sep.length)
    else (splitAtFirst sep cs).map fun (a, b) => (c :: a, b)

/-- The question that the text between the braces asks, and whether it asks for the opposite. -/
def queryOf (name : List Char) : Bool × PropertyQuery :=
  match splitAtFirst ['!', '='] name with
  | some (p, v) => (true, .valued (String.ofList p) (String.ofList v))
  | none =>
    match splitAtFirst [':'] name <|> splitAtFirst ['='] name with
    | some (p, v) => (false, .valued (String.ofList p) (String.ofList v))
    | none => (false, .named (String.ofList name))

/-- Reads the name of a property up to a closing brace. -/
def propertyName (st : State) (name : List Char) :
    Nat → List Char → Except PatternError (List Char × List Char)
  | 0, _ => .error .unexpectedEnd
  | fuel + 1, cs =>
    match st.skip cs with
    | [] => .error .unexpectedEnd
    | '\x7d' :: rest => .ok (name.reverse, rest)
    | c :: rest => propertyName st (c :: name) fuel rest

/-- Reads a property class after its letter. -/
def parseProperty (st : State) (negated : Bool) (cs : List Char) :
    Except PatternError (Atom × List Char) :=
  match st.skip cs with
  | [] => .error .unexpectedEnd
  | '\x7b' :: rest => do
    let (name, rest) ← propertyName st [] (rest.length + 1) rest
    let (opposite, query) := queryOf name
    return (.property (negated != opposite) query, rest)
  | '\\' :: _ => .error .unknownProperty
  | c :: rest => .ok (.property negated (.named (String.singleton c)), st.skip rest)

/-- Whether a character can stand in the name of a word boundary. -/
def isBoundaryChar (c : Char) : Bool := c.isAlpha || c = '-'

/-- Reads the name of a word boundary. -/
def boundaryName (st : State) (name : List Char) : Nat → List Char → List Char × List Char
  | 0, cs => (name.reverse, cs)
  | fuel + 1, cs =>
    match cs with
    | c :: rest =>
      if isBoundaryChar c then boundaryName st (c :: name) fuel (st.skip rest)
      else (name.reverse, cs)
    | [] => (name.reverse, [])

/-- Reads what follows `\b`: a word boundary may be named between braces, and braces that hold no
name are left for a repetition. -/
def parseBoundary (st : State) (cs : List Char) : Except PatternError (Atom × List Char) :=
  match cs with
  | '\x7b' :: rest =>
    match st.skip rest with
    | [] => .error .unclosedCount
    | c :: inner =>
      if isBoundaryChar c then
        match boundaryName st [] (inner.length + 1) (c :: inner) with
        | (name, '\x7d' :: rest) =>
          match String.ofList name with
          | "start" => .ok (.anchor .wordStart, rest)
          | "end" => .ok (.anchor .wordEnd, rest)
          | "start-half" => .ok (.anchor .wordStartHalf, rest)
          | "end-half" => .ok (.anchor .wordEndHalf, rest)
          | _ => .error .unknownWordBoundary
        | _ => .error .unclosedWordBoundary
      else .ok (.anchor .wordBoundary, cs)
  | _ => .ok (.anchor .wordBoundary, cs)

/-- Reads an escape after its backslash. -/
def parseEscape (st : State) : List Char → Except PatternError (Atom × List Char)
  | [] => .error .unexpectedEnd
  | c :: cs =>
    if c.isDigit then .error .backreference
    else if isEscapable c then .ok (.char c false, cs)
    else
      match c with
      | 'x' => parseHex st 2 cs
      | 'u' => parseHex st 4 cs
      | 'U' => parseHex st 8 cs
      | 'p' => parseProperty st false cs
      | 'P' => parseProperty st true cs
      | 'd' => .ok (.shorthand false .digit, cs)
      | 'D' => .ok (.shorthand true .digit, cs)
      | 's' => .ok (.shorthand false .space, cs)
      | 'S' => .ok (.shorthand true .space, cs)
      | 'w' => .ok (.shorthand false .word, cs)
      | 'W' => .ok (.shorthand true .word, cs)
      | 'a' => .ok (.char '\x07' false, cs)
      | 'f' => .ok (.char '\x0c' false, cs)
      | 't' => .ok (.char '\t' false, cs)
      | 'n' => .ok (.char '\n' false, cs)
      | 'r' => .ok (.char '\r' false, cs)
      | 'v' => .ok (.char '\x0b' false, cs)
      | 'A' => .ok (.anchor .textStart, cs)
      | 'z' => .ok (.anchor .textEnd, cs)
      | 'b' => parseBoundary st cs
      | 'B' => .ok (.anchor .notWordBoundary, cs)
      | '<' => .ok (.anchor .wordStart, cs)
      | '>' => .ok (.anchor .wordEnd, cs)
      | _ => .error (.unknownEscape c)

/-- Reads a character or an escape inside brackets. -/
def parseMember (st : State) : List Char → Except PatternError (Atom × List Char)
  | [] => .error .unclosedClass
  | '\\' :: cs => parseEscape st cs
  | c :: cs => .ok (.char c false, cs)

/-- An atom as a member of a class. -/
def Atom.member : Atom → Except PatternError ClassTree
  | char c _ => .ok (.char c)
  | shorthand negated kind => .ok (.shorthand negated kind)
  | property negated query => .ok (.property negated query)
  | dot | anchor _ => .error .invalidClassMember

/-- An atom as a bound of a range. -/
def Atom.bound : Atom → Except PatternError Char
  | char c _ => .ok c
  | _ => .error .rangeOfClass

/-- Reads a member of a class or a range of characters. A hyphen makes no range before a closing
bracket and before another hyphen. -/
def parseRange (st : State) (cs : List Char) : Except PatternError (ClassTree × List Char) := do
  let (first, rest) ← parseMember st cs
  match st.skip rest with
  | [] => .error .unclosedClass
  | '-' :: after =>
    if st.peek after = some ']' || st.peek after = some '-' then
      return (← first.member, '-' :: after)
    else
      match st.skip after with
      | [] => .error .unclosedClass
      | after =>
        let (second, rest) ← parseMember st after
        let lo ← first.bound
        let hi ← second.bound
        if lo ≤ hi then return (.range lo hi, rest) else .error (.invalidRange lo hi)
  | rest => return (← first.member, rest)

/-- Reads a class such as `[:alpha:]` after its opening bracket, if there is one. -/
def parseAsciiClass? : List Char → Option (ClassTree × List Char)
  | ':' :: cs =>
    let (negated, cs) :=
      match cs with
      | '^' :: rest => (true, rest)
      | _ => (false, cs)
    let name := cs.takeWhile (· != ':')
    match cs.dropWhile (· != ':') with
    | ':' :: ']' :: rest =>
      (AsciiClass.ofName? (String.ofList name)).map fun kind => (.ascii negated kind, rest)
    | _ => none
  | _ => none

/-- Reads the hyphens that stand for themselves at the start of a class. -/
def parseHyphens (st : State) (members : List ClassTree) :
    Nat → List Char → Except PatternError (List ClassTree × List Char)
  | 0, _ => .error .unclosedClass
  | fuel + 1, cs =>
    match cs with
    | '-' :: rest => parseHyphens st (.char '-' :: members) fuel (st.skip rest)
    | [] => .error .unclosedClass
    | _ => .ok (members, cs)

/-- Reads the start of a class after its opening bracket: a caret negates it, then hyphens and after
those a closing bracket stand for themselves. -/
def parseClassStart (st : State) (cs : List Char) :
    Except PatternError (Bool × List ClassTree × List Char) := do
  let (negated, cs) :=
    match st.skip cs with
    | '^' :: rest => (true, st.skip rest)
    | cs => (false, cs)
  let (members, cs) ← parseHyphens st [] (cs.length + 1) cs
  match members, cs with
  | [], ']' :: rest =>
    match st.skip rest with
    | [] => .error .unclosedClass
    | rest => return (negated, [.char ']'], rest)
  | _, _ => return (negated, members, cs)

/-- Joins what stands left of the members read so far with them. -/
def joinOperand (left : Option (ClassOp × ClassTree)) (members : List ClassTree) : ClassTree :=
  let right := ClassTree.ofMembers members.reverse
  match left with
  | none => right
  | some (op, a) => .op op a right

/-- Reads a class up to its closing bracket. -/
def parseClass (st : State) : Nat → Option (ClassOp × ClassTree) → List ClassTree → List Char →
    Except PatternError (ClassTree × List Char)
  | 0, _, _, _ => .error .unclosedClass
  | fuel + 1, left, members, cs =>
    match st.skip cs with
    | [] => .error .unclosedClass
    | ']' :: rest => .ok (joinOperand left members, rest)
    | '[' :: rest =>
      match parseAsciiClass? rest with
      | some (t, rest) => parseClass st fuel left (t :: members) rest
      | none => do
        let (negated, inner, rest) ← parseClassStart st rest
        let (t, rest) ← parseClass st fuel none inner rest
        parseClass st fuel left (.bracket negated t :: members) rest
    | '&' :: '&' :: rest => parseClass st fuel (some (.inter, joinOperand left members)) [] rest
    | '-' :: '-' :: rest => parseClass st fuel (some (.diff, joinOperand left members)) [] rest
    | '~' :: '~' :: rest => parseClass st fuel (some (.symmDiff, joinOperand left members)) [] rest
    | cs => do
      let (t, rest) ← parseRange st cs
      parseClass st fuel left (t :: members) rest

/-- The flag of a letter. -/
def flagOf : Char → Except PatternError Flag
  | 'i' => .ok .ignoreCase
  | 'm' => .ok .multiLine
  | 's' => .ok .dotAll
  | 'U' => .ok .swapGreed
  | 'u' => .ok .unicode
  | 'R' => .ok .crlf
  | 'x' => .ok .verbose
  | c => .error (.unknownFlag c)

/-- Reads flags up to a colon or a closing parenthesis, which is left. `negated` tells whether a
hyphen came before, and `dangling` whether it came last. -/
def parseFlags (negated dangling : Bool) (changes : FlagChanges) :
    List Char → Except PatternError (FlagChanges × List Char)
  | [] => .error .unexpectedEnd
  | c :: cs =>
    if c = ':' || c = ')' then
      if dangling then .error .danglingNegation else .ok (changes, c :: cs)
    else if c = '-' then
      if negated then .error .repeatedNegation else parseFlags true true changes cs
    else do
      let flag ← flagOf c
      if changes.any (·.1 = flag) then .error .duplicateFlag
      else parseFlags negated false (changes ++ [(flag, !negated)]) cs

/-- Whether a character can stand in the name of a group. -/
def isNameChar (first : Bool) (c : Char) : Bool :=
  c = '_' || Unicode.alphabeticSet.contains c ||
    (!first && (c = '.' || c = '[' || c = ']' || Unicode.numberSet.contains c))

/-- Reads the name of a group up to the closing angle bracket. -/
def parseGroupName (name : List Char) : List Char → Except PatternError (String × List Char)
  | [] => .error .unexpectedEnd
  | '>' :: cs => if name.isEmpty then .error .emptyGroupName else .ok (String.ofList name.reverse, cs)
  | c :: cs =>
    if isNameChar name.isEmpty c then parseGroupName (c :: name) cs else .error .invalidGroupName

/-- What an opening parenthesis starts. -/
inductive Opening where
  | directive (changes : FlagChanges)
  | group (kind : GroupKind)

/-- Opens a capturing group with a name. -/
def openNamed (st : State) (cs : List Char) : Except PatternError (Opening × State × List Char) := do
  let (name, rest) ← parseGroupName [] cs
  if st.names.contains name then .error (.duplicateGroupName name)
  else
    let index := st.groups + 1
    let st := { st with groups := index, names := name :: st.names }
    return (.group (.capture index (some name)), st, rest)

/-- Reads what follows an opening parenthesis up to the content of the group. -/
def parseOpening (st : State) (cs : List Char) :
    Except PatternError (Opening × State × List Char) :=
  match st.skip cs with
  | '?' :: '=' :: _ | '?' :: '!' :: _ | '?' :: '<' :: '=' :: _ | '?' :: '<' :: '!' :: _ =>
    .error .lookAround
  | '?' :: 'P' :: '<' :: rest => openNamed st rest
  | '?' :: '<' :: rest => openNamed st rest
  | '?' :: rest => do
    let (changes, rest) ← parseFlags false false [] rest
    match rest with
    | ')' :: rest =>
      if changes.isEmpty then .error .nothingToRepeat
      else
        let verbose := (changes.state? .verbose).getD st.verbose
        return (.directive changes, { st with verbose }, rest)
    | _ => return (.group (.plain changes), st, rest.drop 1)
  | cs => .ok (.group (.capture (st.groups + 1) none), { st with groups := st.groups + 1 }, cs)

/-- The mode inside a group. -/
def GroupKind.verboseInside (verbose : Bool) : GroupKind → Bool
  | .plain changes => (changes.state? .verbose).getD verbose
  | .capture _ _ => verbose

/-- The item before a repetition sign, and the items before that one. -/
def takeRepeated : List Tree → Except PatternError (Tree × List Tree)
  | [] | .empty :: _ | .directive _ :: _ => .error .nothingToRepeat
  | t :: ts => .ok (t, ts)

/-- Whether a question mark makes a repetition reluctant. -/
def parseGreed : List Char → Bool × List Char
  | '?' :: cs => (false, cs)
  | cs => (true, cs)

/-- Reads the digits of a number. -/
def decimalDigits (st : State) (value : Option Nat) : Nat → List Char → Option Nat × List Char
  | 0, cs => (value, cs)
  | fuel + 1, cs =>
    match cs with
    | c :: rest =>
      if c.isDigit then
        decimalDigits st (some (10 * value.getD 0 + (c.toNat - 48))) fuel (st.skip rest)
      else (value, cs)
    | [] => (value, [])

/-- Reads a number with white space around it. -/
def parseDecimal (st : State) (cs : List Char) : Option Nat × List Char :=
  let cs := cs.dropWhile isBlank
  let (value, cs) := decimalDigits st none (cs.length + 1) cs
  (value, st.skip (cs.dropWhile isBlank))

/-- The largest number of repetitions that can be written. -/
def maxCount : Nat := Nat.pow 2 32 - 1

/-- A number of repetitions. -/
def countOf : Option Nat → Except PatternError Nat
  | none => .error .emptyCount
  | some n => if n ≤ maxCount then .ok n else .error .invalidCount

/-- Reads the numbers of repetitions between braces, and after them whether they are reluctant. -/
def parseCount (st : State) (cs : List Char) :
    Except PatternError ((Nat × Option Nat × Bool) × List Char) := do
  match st.skip cs with
  | [] => .error .unclosedCount
  | cs =>
    let (least, cs) := parseDecimal st cs
    match cs with
    | [] => .error .unclosedCount
    | ',' :: cs =>
      match st.skip cs with
      | [] => .error .unclosedCount
      | '\x7d' :: rest =>
        let least ← countOf least
        let (greedy, rest) := parseGreed (st.skip rest)
        return ((least, none, greedy), rest)
      | cs =>
        let least ← countOf least
        let (most, cs) := parseDecimal st cs
        let most ← countOf most
        match cs with
        | '\x7d' :: rest =>
          let (greedy, rest) := parseGreed (st.skip rest)
          if least ≤ most then return ((least, some most, greedy), rest)
          else .error .invalidCount
        | _ => .error .unclosedCount
    | '\x7d' :: rest =>
      let least ← countOf least
      let (greedy, rest) := parseGreed (st.skip rest)
      return ((least, some least, greedy), rest)
    | _ => do
      let _ ← countOf least
      .error .unclosedCount

/-- The pattern of the branches and items read so far, both in reverse. -/
def closeBranches (branches items : List Tree) : Tree :=
  Tree.ofBranches ((Tree.ofItems items.reverse :: branches).reverse)

/-- Reads a pattern up to its end or to a closing parenthesis, which is left. -/
def parseItems : Nat → State → (branches items : List Tree) → List Char →
    Except PatternError (Tree × State × List Char)
  | 0, _, _, _, _ => .error .unexpectedEnd
  | fuel + 1, st, branches, items, cs =>
    match st.skip cs with
    | [] => .ok (closeBranches branches items, st, [])
    | ')' :: rest => .ok (closeBranches branches items, st, ')' :: rest)
    | '|' :: rest => parseItems fuel st (Tree.ofItems items.reverse :: branches) [] rest
    | '(' :: rest => do
      match ← parseOpening st rest with
      | (.directive changes, st, rest) =>
        parseItems fuel st branches (.directive changes :: items) rest
      | (.group kind, inside, rest) =>
        let inside := { inside with verbose := GroupKind.verboseInside st.verbose kind }
        match ← parseItems fuel inside [] [] rest with
        | (body, after, ')' :: rest) =>
          let after := { after with verbose := st.verbose }
          parseItems fuel after branches (.group kind body :: items) rest
        | _ => .error .unclosedGroup
    | '[' :: rest => do
      let (negated, members, rest) ← parseClassStart st rest
      let (inner, rest) ← parseClass st (rest.length + 1) none members rest
      parseItems fuel st branches (.bracket negated inner :: items) rest
    | '?' :: rest => do
      let (body, items) ← takeRepeated items
      let (greedy, rest) := parseGreed rest
      parseItems fuel st branches (.loop body 0 (some 1) greedy :: items) rest
    | '*' :: rest => do
      let (body, items) ← takeRepeated items
      let (greedy, rest) := parseGreed rest
      parseItems fuel st branches (.loop body 0 none greedy :: items) rest
    | '+' :: rest => do
      let (body, items) ← takeRepeated items
      let (greedy, rest) := parseGreed rest
      parseItems fuel st branches (.loop body 1 none greedy :: items) rest
    | '\x7b' :: rest => do
      let (body, items) ← takeRepeated items
      let ((least, most, greedy), rest) ← parseCount st rest
      parseItems fuel st branches (.loop body least most greedy :: items) rest
    | '\\' :: rest => do
      let (atom, rest) ← parseEscape st rest
      parseItems fuel st branches (atom.tree :: items) rest
    | '.' :: rest => parseItems fuel st branches (.dot :: items) rest
    | '^' :: rest => parseItems fuel st branches (.anchor .lineStart :: items) rest
    | '$' :: rest => parseItems fuel st branches (.anchor .lineEnd :: items) rest
    | c :: rest => parseItems fuel st branches (.char c false :: items) rest

/-- Reads a whole pattern. -/
def parse (cs : List Char) : Except PatternError Tree := do
  match ← parseItems (cs.length + 1) State.start [] [] cs with
  | (tree, _, []) => if tree.depth ≤ Tree.maxDepth then return tree else .error .tooDeep
  | _ => .error .unopenedGroup

end CodeFold.Pattern.Parser
