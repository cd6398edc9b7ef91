import CodeFold.Data.SortedMap
import CodeFold.Number.Shortest

/-!
# JSON values

Objects that are read list their members in increasing order of the keys, each key once, so that a
value has one written form.
-/

namespace CodeFold

/-- A number: an integer of 64 bits with or without a sign, or a binary floating-point number. -/
inductive JsonNumber where
  | int (n : Int)
  | float (x : Binary64)
deriving DecidableEq, Repr

/-- A JSON value. -/
inductive Json where
  | null
  | bool (b : Bool)
  | number (n : JsonNumber)
  | string (s : String)
  | array (items : List Json)
  | object (members : List (String × Json))
deriving Repr

namespace Json

instance : Inhabited Json := ⟨null⟩

/-- A natural number. -/
def ofNat (n : Nat) : Json := number (.int n)

/-- The value of a text, or null. -/
def ofString? (s : Option String) : Json := s.elim null string

/-- The object of some members; the last of several with one key counts. -/
def ofMembers (members : List (String × Json)) : Json :=
  object (SortedMap.ofList members)

/-- The member of an object with that key. -/
def get? (key : String) : Json → Option Json
  | object members => members.lookup key
  | _ => none

/-- The text of a string. -/
def string? : Json → Option String
  | string s => some s
  | _ => none

end Json

end CodeFold
