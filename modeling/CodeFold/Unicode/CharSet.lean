/-!
# Sets of characters

A set of characters is kept as closed intervals of code points in increasing order, so that a look-up
stops at the first interval that lies above the character. `insert` keeps that form, and the other
operations go through it or through the complement.
-/

namespace CodeFold

/-- The code points from `lo` to `hi`, both included. -/
structure CharRange where
  lo : Nat
  hi : Nat
deriving DecidableEq, Repr

/-- A set of characters as increasing intervals with a gap between any two. -/
structure CharSet where
  ranges : List CharRange
deriving DecidableEq, Repr

namespace CharSet

/-- The largest code point. -/
def lastCode : Nat := 0x10FFFF

/-- No characters. -/
def empty : CharSet := ⟨[]⟩

/-- All characters. -/
def any : CharSet := ⟨[⟨0, lastCode⟩]⟩

/-- The first 128 characters. -/
def ascii : CharSet := ⟨[⟨0, 0x7F⟩]⟩

/-- One character. -/
def single (c : Char) : CharSet := ⟨[⟨c.toNat, c.toNat⟩]⟩

/-- Whether a code point lies in increasing intervals. -/
def hasCodeIn (code : Nat) : List CharRange → Bool
  | [] => false
  | r :: rest => if code < r.lo then false else code ≤ r.hi || hasCodeIn code rest

/-- Whether a code point is a member. -/
def hasCode (s : CharSet) (code : Nat) : Bool := hasCodeIn code s.ranges

/-- Whether a character is a member. -/
def contains (s : CharSet) (c : Char) : Bool := s.hasCode c.toNat

/-- Puts an interval into increasing ones and joins those that it meets. -/
def insertInto (r : CharRange) : List CharRange → List CharRange
  | [] => [r]
  | s :: rest =>
    if r.hi + 1 < s.lo then r :: s :: rest
    else if s.hi + 1 < r.lo then s :: insertInto r rest
    else insertInto ⟨min r.lo s.lo, max r.hi s.hi⟩ rest

/-- Adds the code points of an interval. -/
def insert (s : CharSet) (r : CharRange) : CharSet := ⟨insertInto r s.ranges⟩

/-- The set of all code points of some intervals, given in any order. -/
def ofRanges (rs : List CharRange) : CharSet := rs.foldl insert empty

/-- The members of either set. -/
def union (s t : CharSet) : CharSet := t.ranges.foldl insert s

/-- The gaps that increasing intervals leave between `start` and the last code point. -/
def gapsFrom (start last : Nat) : List CharRange → List CharRange
  | [] => if start ≤ last then [⟨start, last⟩] else []
  | r :: rest =>
    if start < r.lo then ⟨start, r.lo - 1⟩ :: gapsFrom (r.hi + 1) last rest
    else gapsFrom (r.hi + 1) last rest

/-- The characters that are no members. -/
def compl (s : CharSet) : CharSet := ⟨gapsFrom 0 lastCode s.ranges⟩

/-- The members of both sets. -/
def inter (s t : CharSet) : CharSet := (s.compl.union t.compl).compl

/-- The members of the first set that are not in the second. -/
def diff (s t : CharSet) : CharSet := (s.compl.union t).compl

/-- The members of exactly one of the sets. -/
def symmDiff (s t : CharSet) : CharSet := (s.diff t).union (t.diff s)

/-- Whether there is one member. -/
def isSingle (s : CharSet) : Bool :=
  match s.ranges with
  | [r] => r.lo = r.hi
  | _ => false

/-- The value of a hexadecimal digit written in capitals. -/
def hexDigitValue (c : Char) : Nat :=
  if c ≤ '9' then c.toNat - 48 else c.toNat - 55

/-- Whether a character separates the entries of a table. -/
def isSeparator (c : Char) : Bool := c = ' ' || c = '\n' || c = ','

/-- Reads intervals such as `41-5A 5F`; `lo` and `n` are the bounds read so far of the interval at
hand. -/
def readFrom (lo n : Option Nat) : List Char → List CharRange
  | [] => n.toList.map fun hi => ⟨lo.getD hi, hi⟩
  | c :: cs =>
    if isSeparator c then
      match n with
      | none => readFrom lo n cs
      | some hi => ⟨lo.getD hi, hi⟩ :: readFrom none none cs
    else if c = '-' then readFrom n none cs
    else readFrom lo (some (16 * n.getD 0 + hexDigitValue c)) cs

/-- Reads a set written as increasing intervals in hexadecimal. -/
def read (text : String) : CharSet := ⟨readFrom none none text.toList⟩

end CharSet

/-- A row of a character table: the names of a set, in lower case and without separators, and its
intervals in hexadecimal. -/
structure NamedSet where
  names : List String
  text : String

namespace NamedSet

/-- The set of a row. -/
def set (row : NamedSet) : CharSet := CharSet.read row.text

/-- The set of the first row with that name. -/
def find? (rows : List NamedSet) (name : String) : Option CharSet :=
  (rows.find? (·.names.contains name)).map set

end NamedSet

end CodeFold
