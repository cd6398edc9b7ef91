/-!
# Binary floating-point numbers

Finite numbers of 53 binary digits, kept as a sign, a significand and a power of two. Operations
round the exact result to the nearest such number, and a result in the middle to the one with an
even significand.
-/

namespace CodeFold

/-- The number `± mant * 2 ^ exp`. -/
structure Binary64 where
  negative : Bool
  mant : Nat
  exp : Int
deriving DecidableEq, Repr

namespace Binary64

/-- The least power of two of a significand. -/
def minExp : Int := -1074

/-- The greatest power of two of a significand. -/
def maxExp : Int := 971

/-- Significands lie below this number. -/
def mantBound : Nat := Nat.pow 2 53

/-- Zero with a sign. -/
def zero (negative : Bool) : Binary64 := ⟨negative, 0, minExp⟩

/-- Whether the number is zero. -/
def isZero (x : Binary64) : Bool := x.mant = 0

/-- The quotient rounded to a natural number, the middle going to the even one. -/
def divNearest (num den : Nat) : Nat :=
  let q := num / den
  let r := num % den
  if 2 * r < den then q
  else if 2 * r = den then q + q % 2
  else q + 1

/-- The power of two that gives the quotient a significand of 53 digits, or the least one. -/
def quotientExp (num den : Nat) : Int :=
  let guess : Int := (Nat.log2 num : Int) - Nat.log2 den - 52
  -- The guess is right or one too large.
  let low := guess - 1
  let fits :=
    if 0 ≤ low then num < den * Nat.pow 2 low.toNat * mantBound
    else num * Nat.pow 2 (-low).toNat < den * mantBound
  max minExp (if fits then low else guess)

/-- The number nearest to a quotient; there is none above the largest number. -/
def ofQuotient (negative : Bool) (num den : Nat) : Option Binary64 :=
  if num = 0 then some (zero negative)
  else
    let e := quotientExp num den
    let m :=
      if 0 ≤ e then divNearest num (den * Nat.pow 2 e.toNat)
      else divNearest (num * Nat.pow 2 (-e).toNat) den
    let (m, e) := if m = mantBound then (mantBound / 2, e + 1) else (m, e)
    if maxExp < e then none else some ⟨negative, m, e⟩

/-- The number nearest to a natural number. -/
def ofNat (negative : Bool) (n : Nat) : Option Binary64 := ofQuotient negative n 1

/-- The number nearest to `n * 10 ^ e`. -/
def ofDecimal (negative : Bool) (n : Nat) (e : Int) : Option Binary64 :=
  if n = 0 then some (zero negative)
  else if 0 ≤ e then
    -- More than 310 digits are out of range whatever they are.
    if 310 < e then none else ofQuotient negative (n * Nat.pow 10 e.toNat) 1
  else if (Nat.log2 n : Int) + 1100 < -3 * e then some (zero negative)
  else ofQuotient negative n (Nat.pow 10 (-e).toNat)

/-- The product of two numbers. -/
def mul (x y : Binary64) : Option Binary64 :=
  let e := x.exp + y.exp
  let m := x.mant * y.mant
  let sign := x.negative != y.negative
  if 0 ≤ e then ofQuotient sign (m * Nat.pow 2 e.toNat) 1
  else ofQuotient sign m (Nat.pow 2 (-e).toNat)

/-- The quotient of two numbers. -/
def div (x y : Binary64) : Option Binary64 :=
  let e := x.exp - y.exp
  let sign := x.negative != y.negative
  if y.mant = 0 then none
  else if 0 ≤ e then ofQuotient sign (x.mant * Nat.pow 2 e.toNat) y.mant
  else ofQuotient sign x.mant (y.mant * Nat.pow 2 (-e).toNat)

end Binary64

end CodeFold
