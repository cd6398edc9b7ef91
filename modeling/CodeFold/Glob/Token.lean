/-!
# Parts of globs

A glob is a list of tokens. `**` between slashes stands for any number of directories; it has tokens
of its own, which also stand for the slashes beside it.
-/

namespace CodeFold

/-- Why a text is no glob. -/
inductive GlobError where
  | unclosedClass
  | invalidRange (lo hi : Char)
  | unopenedAlternates
  | unclosedAlternates
  | danglingEscape
deriving DecidableEq, Repr

namespace GlobError

/-- The words for a fault. -/
def reason : GlobError → String
  | unclosedClass => "unclosed character class; missing ']'"
  | invalidRange lo hi => "invalid range; '" ++ lo.toString ++ "' > '" ++ hi.toString ++ "'"
  | unopenedAlternates =>
    "unopened alternate group; missing '\x7b' (maybe escape '\x7d' with '[\x7d]'?)"
  | unclosedAlternates =>
    "unclosed alternate group; missing '\x7d' (maybe escape '\x7b' with '[\x7b]'?)"
  | danglingEscape => "dangling '\\'"

/-- The words for a fault of the glob `source`. -/
def message (source : String) (e : GlobError) : String :=
  "error parsing glob '" ++ source ++ "': " ++ e.reason

end GlobError

/-- A part of a glob. -/
inductive GlobToken where
  | literal (c : Char)
  /-- One byte. -/
  | any
  /-- Any number of bytes. -/
  | zeroOrMore
  /-- Directories in front of a path. -/
  | recursivePrefix
  /-- All that a directory holds. -/
  | recursiveSuffix
  /-- Directories between two parts of a path. -/
  | recursiveMiddle
  | charClass (negated : Bool) (ranges : List (Char × Char))
  | alternates (branches : List (List GlobToken))

/-- How globs are read and matched. -/
structure GlobOptions where
  /-- Whether only a slash matches a slash. -/
  literalSeparator : Bool := false
  /-- Whether an opening bracket without a closing one stands for itself. -/
  openBrackets : Bool := false
deriving DecidableEq, Repr

end CodeFold
