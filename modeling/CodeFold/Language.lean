import CodeFold.Unicode.Lowercase
import CodeFold.Unicode.WhiteSpace

/-!
# Language keys

A language is named by a key in lower case without white space. Keys may be written in capitals,
with white space around them and in brackets. The key `*` stands for every language.
Specification: §10.
-/

namespace CodeFold

/-- A language, by its normalized key. -/
structure Language where
  key : String
deriving DecidableEq, Repr

namespace Language

instance : LT Language := ⟨fun a b => a.key < b.key⟩

instance : DecidableLT Language := fun a b => inferInstanceAs (Decidable (a.key < b.key))

/-- Every language (§10). -/
def wildcard : Language := ⟨"*"⟩

/-- Whether the key stands for every language. -/
def isWildcard (l : Language) : Bool := l = wildcard

/-- Drops a pair of brackets around a key. -/
def dropBrackets (cs : List Char) : List Char :=
  match cs with
  | '[' :: rest =>
    match rest.reverse with
    | ']' :: inner => inner.reverse
    | _ => cs
  | _ => cs

/-- The normal form of a key (§10). -/
def normalize (cs : List Char) : List Char :=
  Unicode.lowercase (trimBlank (dropBrackets (trimBlank cs)))

/-- The language of a key as it is written; a key may not be empty or hold white space. -/
def ofString? (key : String) : Option Language :=
  let cs := normalize key.toList
  if cs.isEmpty || cs.any isBlank then none else some ⟨String.ofList cs⟩

/-- What is wrong with a key that names no language. -/
def invalidMessage (key : String) : String := "Invalid language key '" ++ key ++ "'"

end Language

end CodeFold
