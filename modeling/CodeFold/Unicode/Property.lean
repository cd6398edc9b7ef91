import CodeFold.Unicode.Age
import CodeFold.Unicode.Binary
import CodeFold.Unicode.Break
import CodeFold.Unicode.Category
import CodeFold.Unicode.Script

/-!
# Character properties by name

Property names are compared without regard to case, blanks, hyphens, underscores and a leading
"is". A bare name is a binary property, a general category or a script, in that order; a name with
a value asks for one property.
-/

namespace CodeFold.Unicode

/-- The form in which names are compared. Characters outside ASCII are dropped. -/
def normalizeName (name : String) : String :=
  let keep (cs : List Char) : List Char :=
    (cs.filter fun c => c.toNat < 0x80 && c != ' ' && c != '_' && c != '-').map Char.toLower
  match name.toList with
  | c :: d :: rest =>
    if (c = 'i' || c = 'I') && (d = 's' || d = 'S') then
      -- A lone "c" after "is" abbreviates a property of comments, and not the category of "c".
      if keep rest = ['c'] then "isc" else String.ofList (keep rest)
    else String.ofList (keep (c :: d :: rest))
  | cs => String.ofList (keep cs)

/-- The names that are both a category and a property without a set; the category wins. -/
def categoryOverProperty : List String := ["cf", "sc", "lc"]

/-- The set of a bare property name. -/
def named? (name : String) : Option CharSet :=
  let name := normalizeName name
  let property := if categoryOverProperty.contains name then none else binary? name
  property <|> category? name <|> script? name

/-- The set of the characters for which a property has a value. -/
def valued? (property value : String) : Option CharSet :=
  let property := normalizeName property
  let value := normalizeName value
  if ["gc", "generalcategory"].contains property then category? value
  else if ["sc", "script"].contains property then script? value
  else if ["scx", "scriptextensions"].contains property then scriptExtension? value
  else if property = "age" then age? value
  else if ["gcb", "graphemeclusterbreak"].contains property then graphemeBreak? value
  else if ["wb", "wordbreak"].contains property then wordBreak? value
  else if ["sb", "sentencebreak"].contains property then sentenceBreak? value
  else none

/-- Decimal digits. -/
def digitSet : CharSet := (category? "nd").getD .empty

/-- White space. -/
def spaceSet : CharSet := (binary? "whitespace").getD .empty

/-- The characters of words: alphabetic ones, marks, decimal digits, connecting punctuation and
join controls. -/
def wordSet : CharSet :=
  [category? "m", category? "nd", category? "pc", binary? "joincontrol"].foldl
    (fun s t => s.union (t.getD .empty)) ((binary? "alphabetic").getD .empty)

end CodeFold.Unicode
