import CodeFold.Unicode.Amendment

/-!
# Quoted text

Text between double quotes in which every character can be seen: controls, separators other than the
blank, characters that are not assigned or have no sign of their own, and marks that would join the
character before them are written as codes.
-/

namespace CodeFold.Text

/-- The characters that cannot be seen. -/
def unseenSet : CharSet :=
  [Unicode.category? "cc", Unicode.category? "cf", Unicode.category? "co", Unicode.category? "z",
    Unicode.binary? "defaultignorablecodepoint"].foldl
    (fun s t => s.union (t.getD .empty)) Unicode.assignedSet.compl

/-- A code between braces. -/
def codeChars (c : Char) : List Char :=
  '\\' :: 'u' :: '\x7b' :: (Nat.toDigits 16 c.toNat ++ ['\x7d'])

/-- A character between quotes. -/
def quotedChar (c : Char) : List Char :=
  if c = '"' || c = '\\' then ['\\', c]
  else if c.toNat = 0 then ['\\', '0']
  else if c = '\t' then ['\\', 't']
  else if c = '\n' then ['\\', 'n']
  else if c = '\r' then ['\\', 'r']
  else if 0x20 ≤ c.toNat && c.toNat < 0x7F then [c]
  else if Unicode.joiningSet.contains c || unseenSet.contains c then codeChars c
  else [c]

/-- A text between quotes. -/
def quoted (s : String) : String :=
  String.ofList ('"' :: (s.toList.flatMap quotedChar ++ ['"']))

end CodeFold.Text
