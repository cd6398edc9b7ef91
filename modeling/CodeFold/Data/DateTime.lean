import CodeFold.Text.Digit

/-!
# Dates and times

A date, a time of day, or both with an optional offset from universal time. Seconds may be 60, and
fractions of a second are kept to nine digits.
-/

namespace CodeFold

/-- A day of the Gregorian calendar. -/
structure Date where
  year : Nat
  month : Nat
  day : Nat
deriving DecidableEq, Repr

/-- A time of day. -/
structure TimeOfDay where
  hour : Nat
  minute : Nat
  second : Nat
  nanosecond : Nat
deriving DecidableEq, Repr

/-- A distance from universal time. -/
inductive UtcOffset where
  | zulu
  | minutes (n : Int)
deriving DecidableEq, Repr

/-- A date, a time of day, or both. -/
inductive DateTime where
  | date (d : Date)
  | time (t : TimeOfDay)
  | both (d : Date) (t : TimeOfDay) (offset : Option UtcOffset)
deriving DecidableEq, Repr

/-- The digits of a number, with zeros in front up to a width. -/
def padded (width n : Nat) : List Char :=
  let digits := Nat.toDigits 10 n
  List.replicate (width - digits.length) '0' ++ digits

namespace Date

/-- Whether a year has a leap day. -/
def isLeap (year : Nat) : Bool := year % 4 = 0 && (year % 100 ≠ 0 || year % 400 = 0)

/-- The number of days of a month. -/
def daysIn (year month : Nat) : Nat :=
  if month = 2 then if isLeap year then 29 else 28
  else if month = 4 || month = 6 || month = 9 || month = 11 then 30
  else 31

/-- Whether the day exists. -/
def isValid (d : Date) : Bool :=
  1 ≤ d.month && d.month ≤ 12 && 1 ≤ d.day && d.day ≤ daysIn d.year d.month

/-- The written form. -/
def toChars (d : Date) : List Char :=
  padded 4 d.year ++ '-' :: (padded 2 d.month ++ '-' :: padded 2 d.day)

end Date

namespace TimeOfDay

/-- Whether the time exists. -/
def isValid (t : TimeOfDay) : Bool := t.hour ≤ 23 && t.minute ≤ 59 && t.second ≤ 60

/-- Drops zeros at the end. -/
def trimZeros (cs : List Char) : List Char := (cs.reverse.dropWhile (· = '0')).reverse

/-- The written form; a fraction has no zeros at its end. -/
def toChars (t : TimeOfDay) : List Char :=
  padded 2 t.hour ++ ':' :: (padded 2 t.minute ++ ':' :: padded 2 t.second) ++
    if t.nanosecond = 0 then [] else '.' :: trimZeros (padded 9 t.nanosecond)

end TimeOfDay

namespace UtcOffset

/-- The written form. -/
def toChars : UtcOffset → List Char
  | zulu => ['Z']
  | minutes n =>
    (if n < 0 then '-' else '+') :: (padded 2 (n.natAbs / 60) ++ ':' :: padded 2 (n.natAbs % 60))

end UtcOffset

namespace DateTime

/-- The written form. -/
def toText : DateTime → String
  | date d => String.ofList d.toChars
  | time t => String.ofList t.toChars
  | both d t offset =>
    String.ofList (d.toChars ++ 'T' :: t.toChars ++ offset.elim [] UtcOffset.toChars)

/-- Reads exactly `n` decimal digits. -/
def readDigits? (n : Nat) (cs : List Char) : Option (Nat × List Char) :=
  let ds := cs.take n
  if ds.length = n && ds.all Char.isDigit then some (ofDecimalDigits ds, cs.drop n) else none

/-- Reads a given character. -/
def readChar? (c : Char) : List Char → Option (List Char)
  | [] => none
  | d :: rest => if c = d then some rest else none

/-- Reads a day that exists. -/
def readDate? (cs : List Char) : Option (Date × List Char) := do
  let (year, cs) ← readDigits? 4 cs
  let cs ← readChar? '-' cs
  let (month, cs) ← readDigits? 2 cs
  let cs ← readChar? '-' cs
  let (day, cs) ← readDigits? 2 cs
  let d : Date := ⟨year, month, day⟩
  if d.isValid then some (d, cs) else none

/-- Reads a fraction of a second; digits after the ninth are dropped. -/
def readFraction : List Char → Nat × List Char
  | '.' :: rest =>
    match rest.span Char.isDigit with
    | ([], _) => (0, '.' :: rest)
    | (ds, rest) =>
      let ds := ds.take 9
      (ofDecimalDigits ds * Nat.pow 10 (9 - ds.length), rest)
  | cs => (0, cs)

/-- Reads a time of day that exists. -/
def readTime? (cs : List Char) : Option (TimeOfDay × List Char) := do
  let (hour, cs) ← readDigits? 2 cs
  let cs ← readChar? ':' cs
  let (minute, cs) ← readDigits? 2 cs
  let cs ← readChar? ':' cs
  let (second, cs) ← readDigits? 2 cs
  let (nanosecond, cs) := readFraction cs
  let t : TimeOfDay := ⟨hour, minute, second, nanosecond⟩
  if t.isValid then some (t, cs) else none

/-- Reads hours and minutes of an offset. -/
def readMinutes? (cs : List Char) : Option (Nat × List Char) := do
  let (hour, cs) ← readDigits? 2 cs
  let cs ← readChar? ':' cs
  let (minute, cs) ← readDigits? 2 cs
  if hour ≤ 23 && minute ≤ 59 then some (60 * hour + minute, cs) else none

/-- Reads an offset if there is one. A sign has to be followed by hours and minutes. -/
def readOffset? : List Char → Option (Option UtcOffset × List Char)
  | 'Z' :: rest | 'z' :: rest => some (some .zulu, rest)
  | '+' :: rest => (readMinutes? rest).map fun (n, rest) => (some (.minutes n), rest)
  | '-' :: rest => (readMinutes? rest).map fun (n, rest) => (some (.minutes (-n)), rest)
  | cs => some (none, cs)

/-- Reads a date, a time, or both with `T` or a blank between them. -/
def read? (cs : List Char) : Option (DateTime × List Char) :=
  match readDate? cs with
  | none => (readTime? cs).map fun (t, rest) => (.time t, rest)
  | some (d, rest) =>
    match rest with
    | c :: after =>
      if c = 'T' || c = 't' || c = ' ' then
        match readTime? after with
        | none => some (.date d, rest)
        | some (t, rest) => (readOffset? rest).map fun (offset, rest) => (.both d t offset, rest)
      else some (.date d, rest)
    | [] => some (.date d, rest)

end DateTime

end CodeFold
