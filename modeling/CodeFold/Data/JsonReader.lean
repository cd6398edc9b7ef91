import CodeFold.Data.Tree
import CodeFold.Text.Digit

/-!
# Reading JSON

A text is read into a `DataTree` from left to right. Integers of 64 bits stay integers; all other
numbers become floating-point numbers: the first digits that fit into 64 bits are scaled by a power
of ten, with one rounding for each of the two steps.
Specification: §10.
-/

namespace CodeFold.JsonReader

/-- White space between the parts. -/
def isSpace (c : Char) : Bool := c = ' ' || c = '\n' || c = '\t' || c = '\r'

/-- Drops white space. -/
def skip (cs : List Char) : List Char := cs.dropWhile isSpace

/-- The largest integer without a sign. -/
def maxUnsigned : Nat := Nat.pow 2 64 - 1

/-- The largest power of ten. -/
def maxPower : Nat := 308

/-- A power of ten. -/
def powerOfTen (n : Nat) : Binary64 := (Binary64.ofNat false (Nat.pow 10 n)).getD (.zero false)

/-- Divides by the largest power of ten until the rest of the exponent is in reach. -/
def scaleDown : Nat → Binary64 → Nat → Option Binary64
  | 0, x, _ => some x
  | fuel + 1, x, e =>
    if e ≤ maxPower then x.div (powerOfTen e)
    else if x.isZero then some x
    else do scaleDown fuel (← x.div (powerOfTen maxPower)) (e - maxPower)

/-- The number `digits * 10 ^ e`. -/
def scale (negative : Bool) (digits : Nat) (e : Int) : NumberText :=
  let scaled : Option Binary64 := do
    let x ← Binary64.ofNat negative digits
    if x.isZero then some x
    else if 0 ≤ e then
      if e ≤ maxPower then x.mul (powerOfTen e.toNat) else none
    else scaleDown 5 x (-e).toNat
  scaled.elim .outOfRange fun x => .number (.float x)

/-- The digits at the start of a text. -/
def takeDigits (cs : List Char) : List Char × List Char := cs.span Char.isDigit

/-- Adds digits to a number as long as it fits into 64 bits. Returns the number, how many digits it
took and how many are left over. -/
def addDigits (n : Nat) : List Char → Nat × Nat × Nat
  | [] => (n, 0, 0)
  | c :: cs =>
    let next := 10 * n + digitValue c
    if next ≤ maxUnsigned then
      let (m, taken, left) := addDigits next cs
      (m, taken + 1, left)
    else (n, 0, cs.length + 1)

/-- The largest exponent that is read. -/
def maxExponent : Nat := Nat.pow 2 31 - 1

/-- Reads an exponent after its letter: its value, if it is not too large, its sign and the rest. -/
def readExponent (cs : List Char) : Option (Option Nat × Bool × List Char) :=
  let (down, cs) :=
    match cs with
    | '+' :: rest => (false, rest)
    | '-' :: rest => (true, rest)
    | _ => (false, cs)
  match takeDigits cs with
  | ([], _) => none
  | (ds, rest) =>
    let e := ofDecimalDigits ds
    some (if e ≤ maxExponent then some e else none, down, rest)

/-- Puts together a number with a fraction or an exponent. -/
def finish (negative : Bool) (digits : Nat) (e : Int) (cs : List Char) : DataTree × List Char :=
  match cs with
  | c :: rest =>
    if c = 'e' || c = 'E' then
      match readExponent rest with
      | none => (.broken, rest)
      | some (none, down, rest) =>
        if digits = 0 || down then (.number (.number (.float (.zero negative))), rest)
        else (.number .outOfRange, rest)
      | some (some n, down, rest) =>
        (.number (scale negative digits (if down then e - n else e + n)), rest)
    else (.number (scale negative digits e), cs)
  | [] => (.number (scale negative digits e), [])

/-- Reads a number after its sign. -/
def readNumber (negative : Bool) (cs : List Char) : DataTree × List Char :=
  match takeDigits cs with
  | ([], rest) => (.broken, rest)
  | ('0' :: _ :: _, rest) => (.broken, rest)
  | (ds, rest) =>
    let (digits, _, left) := addDigits 0 ds
    match rest with
    | '.' :: rest =>
      match takeDigits rest with
      | ([], rest) => (.broken, rest)
      | (fs, rest) =>
        let (digits, taken, _) := addDigits digits fs
        finish negative digits ((left : Int) - taken) rest
    | _ =>
      let isFloat := match rest with
        | c :: _ => c = 'e' || c = 'E'
        | [] => false
      if left = 0 && !isFloat then
        if !negative then (.number (.number (.int digits)), rest)
        else if 0 < digits && digits ≤ Nat.pow 2 63 then (.number (.number (.int (-digits))), rest)
        else (.number (scale true digits 0), rest)
      else finish negative digits left rest

/-- The value of four hexadecimal digits. -/
def hex4 : List Char → Option (Nat × List Char)
  | a :: b :: c :: d :: rest => do
    return (← ofDigits? 16 [a, b, c, d], rest)
  | _ => none

/-- The character of a one-letter escape. -/
def escapeOf? : Char → Option Char
  | '"' => some '"'
  | '\\' => some '\\'
  | '/' => some '/'
  | 'b' => some '\x08'
  | 'f' => some '\x0c'
  | 'n' => some '\n'
  | 'r' => some '\r'
  | 't' => some '\t'
  | _ => none

/-- Reads a string after its opening quote. The text is `none` if it holds half of a pair of code
units; the result is `none` if the string does not come to its end. -/
def readString : Nat → Option (List Char) → List Char → Option (Option String × List Char)
  | 0, _, _ => none
  | fuel + 1, acc, cs =>
    match cs with
    | [] => none
    | '"' :: rest => some (acc.map fun cs => String.ofList cs.reverse, rest)
    | '\\' :: 'u' :: rest =>
      match hex4 rest with
      | none => none
      | some (n, rest) =>
        if n < 0xD800 || 0xDFFF < n then readString fuel (acc.map (Char.ofNat n :: ·)) rest
        else if 0xDC00 ≤ n then readString fuel none rest
        else
          match rest with
          | '\\' :: 'u' :: rest =>
            match hex4 rest with
            | none => none
            | some (m, rest) =>
              if 0xDC00 ≤ m && m ≤ 0xDFFF then
                let code := 0x10000 + (n - 0xD800) * 0x400 + (m - 0xDC00)
                readString fuel (acc.map (Char.ofNat code :: ·)) rest
              else readString fuel none rest
          | _ => readString fuel none rest
    | '\\' :: c :: rest =>
      match escapeOf? c with
      | none => none
      | some d => readString fuel (acc.map (d :: ·)) rest
    | c :: rest => if c.toNat < 0x20 then none else readString fuel (acc.map (c :: ·)) rest

mutual

/-- Reads a value. -/
def readValue : Nat → List Char → DataTree × List Char
  | 0, cs => (.broken, cs)
  | fuel + 1, cs =>
    match skip cs with
    | 'n' :: 'u' :: 'l' :: 'l' :: rest => (.null, rest)
    | 't' :: 'r' :: 'u' :: 'e' :: rest => (.bool true, rest)
    | 'f' :: 'a' :: 'l' :: 's' :: 'e' :: rest => (.bool false, rest)
    | '-' :: rest => readNumber true rest
    | '"' :: rest =>
      match readString fuel (some []) rest with
      | some (s, rest) => (.string s, rest)
      | none => (.broken, rest)
    | '[' :: rest =>
      match skip rest with
      | ']' :: rest => (.array [] true, rest)
      | rest =>
        let (items, closed, rest) := readItems fuel rest
        (.array items closed, rest)
    | '\x7b' :: rest =>
      match skip rest with
      | '\x7d' :: rest => (.object [] true, rest)
      | rest =>
        let (members, closed, rest) := readMembers fuel rest
        (.object members closed, rest)
    | c :: rest => if c.isDigit then readNumber false (c :: rest) else (.broken, c :: rest)
    | [] => (.broken, [])

/-- Reads the items of a list up to its end or to a fault. -/
def readItems : Nat → List Char → List DataTree × Bool × List Char
  | 0, cs => ([], false, cs)
  | fuel + 1, cs =>
    let (item, rest) := readValue fuel cs
    match skip rest with
    | ']' :: rest => ([item], true, rest)
    | ',' :: rest =>
      let (items, closed, rest) := readItems fuel rest
      (item :: items, closed, rest)
    | rest => ([item], false, rest)

/-- Reads the members of an object up to its end or to a fault. -/
def readMembers : Nat → List Char → List (Option String × DataTree) × Bool × List Char
  | 0, cs => ([], false, cs)
  | fuel + 1, cs =>
    match skip cs with
    | '"' :: rest =>
      match readString fuel (some []) rest with
      | none => ([], false, rest)
      | some (key, rest) =>
        match skip rest with
        | ':' :: rest =>
          let (value, rest) := readValue fuel rest
          match skip rest with
          | '\x7d' :: rest => ([(key, value)], true, rest)
          | ',' :: rest =>
            let (members, closed, rest) := readMembers fuel rest
            ((key, value) :: members, closed, rest)
          | rest => ([(key, value)], false, rest)
        | rest => ([(key, .broken)], false, rest)
    | rest => ([], false, rest)

end

/-- Reads a text. The second part tells whether anything but white space follows the value. -/
def read (text : String) : DataTree × Bool :=
  let cs := text.toList
  let (tree, rest) := readValue (2 * cs.length + 2) cs
  (tree, !(skip rest).isEmpty)

/-- How deep lists and objects may stand in one another. -/
def maxDepth : Nat := 127

/-- The value that a text holds. -/
def parse? (text : String) : Option Json :=
  match read text with
  | (tree, false) => tree.value? maxDepth
  | (_, true) => none

end CodeFold.JsonReader
