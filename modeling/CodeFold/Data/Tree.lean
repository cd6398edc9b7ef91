import CodeFold.Data.Json

/-!
# Data as it was read

A tree holds what a text says up to the first fault of its form, in the order of the text. Whoever
takes a tree apart in that order meets a fault of the form exactly where a reader of the text would,
after all faults of the content before it.
-/

namespace CodeFold

/-- A number as it was read. -/
inductive NumberText where
  | number (n : JsonNumber)
  | outOfRange
  | notFinite
deriving DecidableEq, Repr

/-- A value as it was read. A text that is no Unicode text has no string; `broken` stands for a value
that does not begin properly, and `closed` tells whether a list or an object comes to its end. -/
inductive DataTree where
  | null
  | bool (b : Bool)
  | number (n : NumberText)
  | string (s : Option String)
  | array (items : List DataTree) (closed : Bool)
  | object (members : List (Option String × DataTree)) (closed : Bool)
  | broken

namespace DataTree

mutual

/-- The value of a tree whose lists and objects stand at most `depth` deep in one another, if it is
whole. -/
def value? : Nat → DataTree → Option Json
  | _, null => some .null
  | _, bool b => some (.bool b)
  | _, number (.number n) => some (.number n)
  | _, number .notFinite => some .null
  | _, number .outOfRange => none
  | _, string s => s.map .string
  | 0, array _ _ => none
  | depth + 1, array items closed =>
    if closed then (values? depth items).map .array else none
  | 0, object _ _ => none
  | depth + 1, object members closed =>
    if closed then (members? depth members).map .ofMembers else none
  | _, broken => none

/-- The values of some trees. -/
def values? : Nat → List DataTree → Option (List Json)
  | _, [] => some []
  | depth, t :: ts => do return (← value? depth t) :: (← values? depth ts)

/-- The values of some members. -/
def members? : Nat → List (Option String × DataTree) → Option (List (String × Json))
  | _, [] => some []
  | depth, (key, t) :: rest => do
    return (← key, ← value? depth t) :: (← members? depth rest)

end

end DataTree

end CodeFold
