import CodeFold.Glob.Parser
import CodeFold.Pattern.Search

/-!
# Globs

A glob is matched against the bytes of a whole path. It is compiled to a pattern whose characters
stand for bytes.
Specification: §11.3, §11.4.
-/

namespace CodeFold

open Pattern (Expr)

namespace GlobToken

/-- The bytes of a character. -/
def bytes (c : Char) : List Nat := (String.utf8EncodeChar c).map UInt8.toNat

/-- One of some bytes. -/
def byteSet (ranges : List (Nat × Nat)) : CharSet :=
  .ofRanges (ranges.map fun (lo, hi) => ⟨lo, hi⟩)

/-- Every byte. -/
def allBytes : CharSet := byteSet [(0, 0xFF)]

/-- Every byte, or every byte but the slash. -/
def wildBytes (options : GlobOptions) : CharSet :=
  if options.literalSeparator then byteSet [(0, 0x2E), (0x30, 0xFF)] else allBytes

/-- Exactly this byte. -/
def byte (b : Nat) : Expr := .ofSet (byteSet [(b, b)])

/-- A slash. -/
def slash : Expr := byte '/'.toNat

/-- Any number of bytes. -/
def anything : Expr := .repetition (.ofSet allBytes) 0 none true

/-- The bytes that a range of characters stands for: those of its ends, and the bytes between the
last one of its lower and the first one of its upper end. -/
def classBytes (lo hi : Char) : List (Nat × Nat) :=
  let single (b : Nat) : Nat × Nat := (b, b)
  if lo = hi then (bytes lo).map single
  else
    let first := bytes lo
    let last := bytes hi
    first.dropLast.map single ++ [(first.getLastD 0, last.headD 0)] ++ last.tail.map single

mutual

/-- The meaning of a token. -/
def expr (options : GlobOptions) : GlobToken → Expr
  | literal c => .concat ((bytes c).map byte)
  | any => .ofSet (wildBytes options)
  | zeroOrMore => .repetition (.ofSet (wildBytes options)) 0 none true
  | recursivePrefix =>
    .alternation [.repetition slash 0 (some 1) true, .concat [anything, slash]]
  | recursiveSuffix => .concat [slash, anything]
  | recursiveMiddle => .alternation [slash, .concat [slash, anything, slash]]
  | charClass negated ranges =>
    let set := byteSet (ranges.flatMap fun (lo, hi) => classBytes lo hi)
    .ofSet (if negated then allBytes.diff set else set)
  | alternates branches =>
    -- A branch that matches the empty text only is dropped.
    match (exprs options branches).filter (· ≠ .empty) with
    | [] => .empty
    | es => .alternation es

/-- The meanings of some branches. -/
def exprs (options : GlobOptions) : List (List GlobToken) → List Expr
  | [] => []
  | branch :: rest => .concat (factors options branch) :: exprs options rest

/-- The meanings of some tokens. -/
def factors (options : GlobOptions) : List GlobToken → List Expr
  | [] => []
  | t :: rest => expr options t :: factors options rest

end

/-- The meaning of a whole glob. The glob `**` matches everything. -/
def wholeExpr (options : GlobOptions) : List GlobToken → Expr
  | [recursivePrefix] => anything
  | tokens => .concat (.look .textStart :: factors options tokens ++ [.look .textEnd])

/-- Whether the token stands for itself. -/
def isLiteral : GlobToken → Bool
  | literal _ => true
  | _ => false

/-- Whether the token is this character. -/
def isChar (c : Char) : GlobToken → Bool
  | literal d => c = d
  | _ => false

/-- Whether the tokens spell a name: literals without a slash. -/
def spellName (tokens : List GlobToken) : Bool :=
  tokens.all fun t => t.isLiteral && !t.isChar '/'

/-- Whether a glob is a name in any directory. -/
def isName : List GlobToken → Bool
  | recursivePrefix :: rest => !rest.isEmpty && spellName rest
  | _ => false

/-- Whether a glob ends in an extension: a dot and the rest of a name. -/
def endsInExtension (tokens : List GlobToken) : Bool :=
  let (ext, rest) := tokens.reverse.span fun t => !t.isChar '.'
  spellName ext && !rest.isEmpty

/-- Whether a glob is an extension of any name. A star in front takes the directories too if it
matches slashes. -/
def isExtension (options : GlobOptions) : List GlobToken → Bool
  | recursivePrefix :: zeroOrMore :: t :: rest => t.isChar '.' && isPlain rest
  | zeroOrMore :: t :: rest => !options.literalSeparator && t.isChar '.' && isPlain rest
  | _ => false
where
  /-- Whether the tokens spell what follows the last dot of a name. -/
  isPlain (rest : List GlobToken) : Bool := spellName rest && !rest.any (isChar '.')

/-- Whether a glob is the end of a path, spelled out after anything that may stand before it. -/
def isEnding (options : GlobOptions) (tokens : List GlobToken) : Bool :=
  let tokens :=
    match tokens with
    | recursivePrefix :: rest => rest
    | _ => tokens
  match tokens with
  | zeroOrMore :: rest => !options.literalSeparator && rest.all isLiteral
  | _ => tokens.all isLiteral

/-- Whether a glob asks for the name at the end of a path. The end of a path that is spelled out
needs no name. -/
def asksForName (options : GlobOptions) (tokens : List GlobToken) : Bool :=
  isName tokens || isExtension options tokens ||
    (endsInExtension tokens && !isEnding options tokens)

end GlobToken

/-- A glob that was read. -/
structure Glob where
  source : String
  program : Array Pattern.Instr
  asksForName : Bool

namespace Glob

/-- Reads a glob. -/
def compile (options : GlobOptions) (source : String) : Except GlobError Glob := do
  let tokens ← GlobParser.parse options source
  return ⟨source, (GlobToken.wholeExpr options tokens).program,
    GlobToken.asksForName options tokens⟩

/-- The bytes of a text, each as a character. -/
def byteChars (text : String) : List Char :=
  text.toList.flatMap fun c => (GlobToken.bytes c).map Char.ofNat

/-- Whether a path ends in the step to the directory above, which is no name. -/
def endsAbove (path : String) : Bool := path = ".." || path.endsWith "/.."

/-- Whether the glob matches a path. -/
def isMatch (g : Glob) (path : String) : Bool :=
  !(g.asksForName && endsAbove path) && (Pattern.search g.program (byteChars path) 0).isSome

end Glob

/-- A glob that could not be read, and why. -/
structure InvalidGlob where
  source : String
  error : GlobError
deriving DecidableEq, Repr

namespace InvalidGlob

/-- The words for it. -/
def message (e : InvalidGlob) : String :=
  "Invalid glob pattern '" ++ e.source ++ "': " ++ e.error.message e.source

end InvalidGlob

/-- Several globs that are tried together. -/
structure GlobList where
  globs : List Glob

namespace GlobList

/-- Reads globs up to the first that cannot be read. -/
def compile (sources : List String) : Except InvalidGlob GlobList := do
  let globs ← sources.mapM fun source => (Glob.compile {} source).mapError (⟨source, ·⟩)
  return ⟨globs⟩

/-- The numbers of the globs that match a path. -/
def matchIndices (s : GlobList) (path : String) : List Nat :=
  (s.globs.zipIdx.filter (·.1.isMatch path)).map (·.2)

/-- Whether some glob matches a path. -/
def isMatch (s : GlobList) (path : String) : Bool := s.globs.any (·.isMatch path)

end GlobList

end CodeFold
