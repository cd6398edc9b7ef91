import CodeFold.Number.Binary64

/-!
# Shortest decimals

The fewest decimal digits that are read back as the same number, and the way they are written:
positional from 10⁻⁵ to 10¹⁶, with an exponent and its sign outside, and always with a mark that the
number is no integer.
-/

namespace CodeFold

/-- The number `digits * 10 ^ exp`. -/
structure Decimal where
  digits : Nat
  exp : Int
deriving DecidableEq, Repr

namespace Binary64

/-- Twice a number and the two middles around it, over a common denominator: the decimals between
the middles are read back as the number. The gap below a power of two is half as wide. -/
structure Interval where
  low : Nat
  value : Nat
  high : Nat
  den : Nat
  closed : Bool

/-- The interval of a number other than zero. -/
def interval (x : Binary64) : Interval :=
  let narrow := x.mant = mantBound / 2 && minExp < x.exp
  let scale := if 0 ≤ x.exp then Nat.pow 2 x.exp.toNat else 1
  let den := if 0 ≤ x.exp then 4 else 4 * Nat.pow 2 (-x.exp).toNat
  { low := (4 * x.mant - if narrow then 1 else 2) * scale
    value := 4 * x.mant * scale
    high := (4 * x.mant + 2) * scale
    den
    closed := x.mant % 2 = 0 }

namespace Interval

/-- Whether `n * 10 ^ e` lies in the interval. -/
def has (i : Interval) (n : Nat) (e : Int) : Bool :=
  let lhs := if 0 ≤ e then n * Nat.pow 10 e.toNat * i.den else n * i.den
  let unit := if 0 ≤ e then 1 else Nat.pow 10 (-e).toNat
  if i.closed then i.low * unit ≤ lhs && lhs ≤ i.high * unit
  else i.low * unit < lhs && lhs < i.high * unit

/-- The multiple of `10 ^ e` at or below the value, and whether the next one is nearer; a value in
the middle counts as nearer to the even multiple. -/
def grid (i : Interval) (e : Int) : Nat × Bool :=
  let num := if 0 ≤ e then i.value else i.value * Nat.pow 10 (-e).toNat
  let den := if 0 ≤ e then i.den * Nat.pow 10 e.toNat else i.den
  let q := num / den
  let r := num % den
  (q, den < 2 * r || (den = 2 * r && q % 2 = 1))

/-- The multiple of `10 ^ e` in the interval that is nearest to the value. -/
def onGrid (i : Interval) (e : Int) : Option Decimal :=
  let (q, up) := i.grid e
  let first := if up then q + 1 else q
  let second := if up then q else q + 1
  if i.has first e then some ⟨first, e⟩
  else if i.has second e then some ⟨second, e⟩
  else none

/-- The first grid with a decimal in the interval, from `10 ^ e` down. -/
def search (i : Interval) : Nat → Int → Decimal
  | 0, e => ⟨(i.grid e).1, e⟩
  | n + 1, e =>
    match i.onGrid e with
    | some d => if d.digits = 0 then search i n (e - 1) else d
    | none => search i n (e - 1)

end Interval

/-- A power of ten above the number. -/
def topExp (x : Binary64) : Int :=
  ((Nat.log2 x.mant : Int) + x.exp) * 30103 / 100000 + 2

/-- Drops zeros at the end of the digits. -/
def dropZeros : Nat → Decimal → Decimal
  | 0, d => d
  | n + 1, d => if d.digits % 10 = 0 && d.digits ≠ 0 then dropZeros n ⟨d.digits / 10, d.exp + 1⟩ else d

/-- The shortest decimal of a number other than zero. -/
def shortest (x : Binary64) : Decimal :=
  dropZeros 20 (x.interval.search 25 x.topExp)

/-- The text of a number. -/
def toText (x : Binary64) : String :=
  let sign := if x.negative then "-" else ""
  if x.isZero then sign ++ "0.0"
  else
    let d := x.shortest
    let digits := Nat.toDigits 10 d.digits
    let n : Int := digits.length
    let point := n + d.exp
    let body : List Char :=
      if 0 ≤ d.exp && point ≤ 16 then digits ++ List.replicate d.exp.toNat '0' ++ ['.', '0']
      else if 0 < point && point ≤ 16 then
        digits.take point.toNat ++ '.' :: digits.drop point.toNat
      else if -5 < point && point ≤ 0 then
        '0' :: '.' :: (List.replicate (-point).toNat '0' ++ digits)
      else
        let fraction := if digits.length = 1 then [] else '.' :: digits.drop 1
        let mark := if 0 < point then ['e', '+'] else ['e']
        digits.take 1 ++ fraction ++ mark ++ (toString (point - 1)).toList
    sign ++ String.ofList body

end Binary64

end CodeFold
