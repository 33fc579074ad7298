import PromptLibrary.Decimal.Shortest

/-!
# JSON numbers

A numeral is what is written in a document; a number is what it denotes. Integers stay exact as long
as they fit into 64 bits, signed or unsigned. Every other numeral becomes a binary64 number, by a
rule that is cheap rather than exactly rounded: the leading digits that fit into 64 bits are the
significand, and a power of ten is applied to it afterwards (`Binary64.ofDecimal`).
-/

namespace PromptLibrary.Json

/-! ## Numerals -/

/-- A number as it is written. Digits are kept as their values. -/
structure Numeral where
  /-- A minus sign is written. -/
  negative : Bool
  /-- The digits before the point. -/
  whole : List Nat
  /-- The digits after the point, if a point is written. -/
  fraction : Option (List Nat)
  /-- The exponent, if one is written: whether it has a minus sign, and its digits. -/
  exponent : Option (Bool × List Nat)
  deriving DecidableEq

/-! ## Numbers -/

/-- The value of a numeral. -/
inductive Number where
  /-- An exact integer. -/
  | integer (value : Int)
  /-- A binary64 number. -/
  | float (value : Binary64)
  deriving DecidableEq

/-- The integers that are kept exactly: those of a signed or an unsigned 64-bit word. -/
def Number.InRange : Number → Prop
  | .integer n => -0x8000_0000_0000_0000 ≤ n ∧ n < 0x1_0000_0000_0000_0000
  | .float _ => True

/-- The value of a digit string. -/
def digitsValue (ds : List Nat) : Nat :=
  ds.foldl (fun n d ↦ 10 * n + d) 0

/-- Extends a significand by digits as long as it fits into 64 bits. The result comes with the
number of digits that were used. -/
def absorb (significand : Nat) : List Nat → Nat × Nat
  | [] => (significand, 0)
  | d :: ds =>
    let next := 10 * significand + d
    if next < 1 <<< 64 then
      let (s, used) := absorb next ds
      (s, used + 1)
    else (significand, 0)

/-- The power of ten that an exponent part asks for. -/
def exponentValue : Option (Bool × List Nat) → Int
  | none => 0
  | some (negative, ds) => if negative then -(digitsValue ds : Int) else digitsValue ds

/-- The number that a numeral denotes; none if it is beyond the largest finite number. A digit
before the point that does not fit into the significand counts as a factor of ten, one after the
point is dropped. Minus zero is a float. -/
def Numeral.toNumber? (n : Numeral) : Option Number :=
  let (s, used) := absorb 0 n.whole
  let dropped := n.whole.length - used
  match n.fraction, n.exponent with
  | none, none =>
    if dropped = 0 && !n.negative then some (.integer s)
    else if dropped = 0 && 0 < s && s ≤ 1 <<< 63 then some (.integer (-s))
    else (Binary64.ofDecimal n.negative s dropped).map .float
  | fraction, exponent =>
    let (s, placed) := absorb s (fraction.getD [])
    (Binary64.ofDecimal n.negative s (dropped - placed + exponentValue exponent)).map .float

/-! ## Writing numbers -/

/-- An integer in decimal. -/
def integerText (n : Int) : List Char :=
  if n < 0 then '-' :: Nat.toDigits 10 n.natAbs else Nat.toDigits 10 n.natAbs

/-- Shortest digits laid out for a document: positionally, always with a point, if the leading digit
stands for a power of ten from `-5` to `15`, else with one digit before the point and an
exponent. -/
def layDigits (digits : List Char) (lead : Int) : List Char :=
  if 0 ≤ lead && lead < 16 then
    let whole := lead.toNat + 1
    if digits.length ≤ whole then
      digits ++ List.replicate (whole - digits.length) '0' ++ ['.', '0']
    else digits.take whole ++ '.' :: digits.drop whole
  else if -5 ≤ lead && lead < 0 then
    ['0', '.'] ++ List.replicate ((-lead).toNat - 1) '0' ++ digits
  else
    let exponent := if 0 ≤ lead then '+' :: Nat.toDigits 10 lead.toNat else integerText lead
    match digits with
    | [d] => d :: 'e' :: exponent
    | d :: ds => d :: '.' :: ds ++ 'e' :: exponent
    | [] => 'e' :: exponent

/-- A float by the shortest digits that read back. -/
def floatText (x : Binary64) : List Char :=
  let sign := if x.negative then ['-'] else []
  if x.isZero then sign ++ ['0', '.', '0']
  else
    let (digits, lead) := x.shortest
    sign ++ layDigits digits lead

/-- A number as it is written into a document. -/
def Number.text : Number → List Char
  | .integer n => integerText n
  | .float x => floatText x

end PromptLibrary.Json
