import CodeFold.Data.Json

/-!
# Written JSON

The compact form of a value: no white space, object members in the order of the value, and escapes
only where the format asks for them.
Specification: §11.4.
-/

namespace CodeFold

namespace JsonNumber

/-- The text of a number. -/
def toText : JsonNumber → String
  | int n => toString n
  | float x => x.toText

end JsonNumber

namespace Json

/-- A hexadecimal digit in lower case. -/
def hexChar (n : Nat) : Char := if n < 10 then Char.ofNat (48 + n) else Char.ofNat (87 + n)

/-- A character inside a string. -/
def escapeChar (c : Char) : List Char :=
  if c = '"' then ['\\', '"']
  else if c = '\\' then ['\\', '\\']
  else if 0x20 ≤ c.toNat then [c]
  else
    match c.toNat with
    | 0x08 => ['\\', 'b']
    | 0x09 => ['\\', 't']
    | 0x0A => ['\\', 'n']
    | 0x0C => ['\\', 'f']
    | 0x0D => ['\\', 'r']
    | n => ['\\', 'u', '0', '0', hexChar (n / 16), hexChar (n % 16)]

/-- A string with its quotes. -/
def quote (s : String) : List Char :=
  '"' :: (s.toList.flatMap escapeChar ++ ['"'])

/-- Texts with commas between them. -/
def withCommas : List (List Char) → List Char
  | [] => []
  | [t] => t
  | t :: ts => t ++ ',' :: withCommas ts

mutual

/-- The characters of a value. -/
def chars : Json → List Char
  | null => ['n', 'u', 'l', 'l']
  | bool true => ['t', 'r', 'u', 'e']
  | bool false => ['f', 'a', 'l', 's', 'e']
  | number n => n.toText.toList
  | string s => quote s
  | array items => '[' :: (withCommas (itemChars items) ++ [']'])
  | object members => '\x7b' :: (withCommas (memberChars members) ++ ['\x7d'])

/-- The characters of each item. -/
def itemChars : List Json → List (List Char)
  | [] => []
  | v :: vs => chars v :: itemChars vs

/-- The characters of each member. -/
def memberChars : List (String × Json) → List (List Char)
  | [] => []
  | (k, v) :: rest => (quote k ++ ':' :: chars v) :: memberChars rest

end

/-- The text of a value. -/
def toText (v : Json) : String := String.ofList v.chars

end Json

end CodeFold
