/-!
# Finite binary64 numbers

A finite double-precision number is kept as its sign and the 63 bits below it, so equality of
numbers is equality of their bit patterns and `0.0` differs from `-0.0`. All arithmetic is exact
arithmetic on natural numbers followed by one rounding to the nearest number, ties going to the even
pattern.
-/

namespace PromptLibrary

/-- A finite binary64 number. -/
structure Binary64 where
  /-- The sign bit. -/
  negative : Bool
  /-- The eleven exponent bits followed by the 52 fraction bits. -/
  magnitude : Nat
  /-- The all-ones exponent, which no finite number has, is not reached. -/
  finite : magnitude < 2047 <<< 52
  deriving DecidableEq

namespace Binary64

/-! ## The value of a pattern -/

/-- Zero of either sign. -/
def zero (negative : Bool) : Binary64 :=
  ⟨negative, 0, by decide⟩

/-- The number differs from zero in at most its sign bit. -/
def isZero (x : Binary64) : Bool :=
  x.magnitude == 0

/-- The integer that the power of two scales. -/
def significand (x : Binary64) : Nat :=
  if x.magnitude < 1 <<< 52 then x.magnitude else 1 <<< 52 + x.magnitude % 1 <<< 52

/-- The power of two: the number is `significand * 2 ^ exponent`, apart from its sign. -/
def exponent (x : Binary64) : Int :=
  (max (x.magnitude >>> 52) 1 : Nat) - 1075

/-- The absolute value as a quotient of natural numbers. -/
def toRatio (x : Binary64) : Nat × Nat :=
  (x.significand <<< x.exponent.toNat, 1 <<< (-x.exponent).toNat)

/-! ## Rounding -/

/-- The quotient `num / den` divided by `2 ^ e`, rounded to an integer, a tie going to the even
one. -/
def roundScaled (num den : Nat) (e : Int) : Nat :=
  let n := num <<< (-e).toNat
  let d := den <<< e.toNat
  let q := n / d
  let r := n % d
  if 2 * r > d || (2 * r == d && q % 2 == 1) then q + 1 else q

/-- The power of two whose multiples are the candidates for a quotient: the one that leaves 53
binary digits, but never below the smallest power there is. -/
def unitExponent (num den : Nat) : Int :=
  let guess := max ((Nat.log2 num : Int) - Nat.log2 den - 52) (-1074)
  if num <<< (-guess).toNat / den <<< guess.toNat < 1 <<< 52 then max (guess - 1) (-1074)
  else guess

/-- The number nearest to `num / den`; none if that lies beyond the largest finite number. -/
def ofRatio (negative : Bool) (num den : Nat) : Option Binary64 :=
  if num = 0 then some (zero negative)
  else
    let e := unitExponent num den
    let magnitude := (e + 1074).toNat <<< 52 + roundScaled num den e
    if h : magnitude < 2047 <<< 52 then some ⟨negative, magnitude, h⟩ else none

/-! ## Powers of ten -/

/-- The number nearest to `10 ^ k`, as a quotient. -/
def powerOfTen (k : Nat) : Nat × Nat :=
  match ofRatio false (Nat.pow 10 k) 1 with
  | some p => p.toRatio
  | none => (Nat.pow 10 k, 1)

/-- The product with the number nearest to `10 ^ k`. -/
def timesPowerOfTen (x : Binary64) (k : Nat) : Option Binary64 :=
  let (n, d) := x.toRatio
  let (pn, pd) := powerOfTen k
  ofRatio x.negative (n * pn) (d * pd)

/-- The quotient by the number nearest to `10 ^ k`. -/
def overPowerOfTen (x : Binary64) (k : Nat) : Option Binary64 :=
  let (n, d) := x.toRatio
  let (pn, pd) := powerOfTen k
  ofRatio x.negative (n * pd) (d * pn)

/-- A 64-bit significand times a power of ten. Every step is rounded on its own: the significand,
the power of ten, and their product or quotient. A power beyond `10 ^ 308` is out of range unless
the significand is zero, and one below `10 ^ -308` is divided out in two steps, after which nothing
of a 64-bit significand is left beyond `10 ^ -616`. -/
def ofDecimal (negative : Bool) (significand : Nat) (exponent : Int) : Option Binary64 := do
  let x ← ofRatio negative significand 1
  if x.isZero then
    return x
  else if exponent > 308 then
    none
  else if exponent ≥ 0 then
    x.timesPowerOfTen exponent.toNat
  else if exponent ≥ -308 then
    x.overPowerOfTen (-exponent).toNat
  else if exponent ≥ -616 then
    (← x.overPowerOfTen 308).overPowerOfTen (-exponent - 308).toNat
  else
    return zero negative

end Binary64

end PromptLibrary
