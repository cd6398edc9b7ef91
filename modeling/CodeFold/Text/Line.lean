import CodeFold.Unicode.WhiteSpace

/-!
# Lines

A document is a list of lines. A line ends with a line feed or with a carriage return and a line
feed; the last line may lack its end.
Specification: §6, §12.
-/

namespace CodeFold

/-- The characters of one line, without its end. -/
abbrev Line := List Char

namespace Line

/-- Drops a carriage return at the start of a reversed line. -/
def dropReturn : List Char → List Char
  | '\r' :: cs => cs
  | cs => cs

/-- The lines of a text, `acc` being the start of the first one in reverse. -/
def splitFrom (acc : List Char) : List Char → List Line
  | [] => if acc.isEmpty then [] else [acc.reverse]
  | c :: cs =>
    if c = '\n' then (dropReturn acc).reverse :: splitFrom [] cs else splitFrom (c :: acc) cs

/-- The lines of a text (§12). -/
def split (text : String) : List Line := splitFrom [] text.toList

/-- The number of columns that a tab fills up to a multiple of (§12). -/
def tabWidth : Nat := 4

/-- The column behind the blanks and tabs at the start of a line, counted from `width` on. -/
def widthFrom (width : Nat) : Line → Nat
  | ' ' :: cs => widthFrom (width + 1) cs
  | '\t' :: cs => widthFrom (width + (tabWidth - width % tabWidth)) cs
  | _ => width

/-- How far a line is indented; a line of white space only has no indentation (§12). -/
def indentWidth (line : Line) : Option Nat :=
  if allBlank line then none else some (widthFrom 0 line)

end Line

end CodeFold
