/-!
# Faults of patterns

Why a text is no pattern.
-/

namespace CodeFold

/-- Why a text is no pattern. -/
inductive PatternError where
  | unopenedGroup
  | unclosedGroup
  | unclosedClass
  | emptyGroupName
  | invalidGroupName
  | duplicateGroupName (name : String)
  | lookAround
  | backreference
  | unknownFlag (c : Char)
  | duplicateFlag
  | repeatedNegation
  | danglingNegation
  | unexpectedEnd
  | unknownEscape (c : Char)
  | invalidHexDigit (c : Char)
  | emptyHex
  | invalidCodePoint
  | unknownWordBoundary
  | unclosedWordBoundary
  | nothingToRepeat
  | emptyCount
  | unclosedCount
  | invalidCount
  | invalidRange (lo hi : Char)
  | rangeOfClass
  | invalidClassMember
  | unknownProperty
  | unicodeNotAllowed
  | notText
  | tooDeep
deriving DecidableEq, Repr

namespace PatternError

/-- The words for a fault. -/
def message : PatternError → String
  | unopenedGroup => "unopened group"
  | unclosedGroup => "unclosed group"
  | unclosedClass => "unclosed character class"
  | emptyGroupName => "empty capture group name"
  | invalidGroupName => "invalid capture group character"
  | duplicateGroupName name => "duplicate capture group name '" ++ name ++ "'"
  | lookAround => "look-around is not supported"
  | backreference => "backreferences are not supported"
  | unknownFlag c => "unrecognized flag '" ++ c.toString ++ "'"
  | duplicateFlag => "duplicate flag"
  | repeatedNegation => "flag negation operator repeated"
  | danglingNegation => "dangling flag negation operator"
  | unexpectedEnd => "unexpected end of the pattern"
  | unknownEscape c => "unrecognized escape sequence of '" ++ c.toString ++ "'"
  | invalidHexDigit c => "invalid hexadecimal digit '" ++ c.toString ++ "'"
  | emptyHex => "hexadecimal literal empty"
  | invalidCodePoint => "hexadecimal literal is not a character"
  | unknownWordBoundary => "unrecognized special word boundary assertion"
  | unclosedWordBoundary => "special word boundary assertion is unclosed"
  | nothingToRepeat => "repetition operator missing expression"
  | emptyCount => "repetition quantifier expects a valid decimal"
  | unclosedCount => "unclosed counted repetition"
  | invalidCount => "invalid repetition count range"
  | invalidRange lo hi => "invalid class range from '" ++ lo.toString ++ "' to '" ++ hi.toString ++ "'"
  | rangeOfClass => "invalid range boundary, must be a literal"
  | invalidClassMember => "invalid escape sequence found in character class"
  | unknownProperty => "property or property value not found"
  | unicodeNotAllowed => "Unicode not allowed here"
  | notText => "pattern can match a part of a character"
  | tooDeep => "pattern is nested too deeply"

end PatternError

end CodeFold
