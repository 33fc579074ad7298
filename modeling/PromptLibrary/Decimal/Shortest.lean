import PromptLibrary.Decimal.Binary64

/-!
# The shortest decimal that reads back

Among the decimals that round to a given binary64 number, the one with the fewest digits, and of
those the one nearest to the number. For each digit count only the two neighbours of the number on
that decimal grid can qualify, and both are tested in exact arithmetic. Seventeen digits always
suffice.
-/

namespace PromptLibrary.Binary64

/-! ## The interval of decimals that read back -/

/-- `c * 10 ^ u` compared with `x * 2 ^ (q - 2)`. -/
def compareScaled (c : Nat) (u : Int) (x : Nat) (q : Int) : Ordering :=
  compare ((c * Nat.pow 10 u.toNat) <<< (2 - q).toNat) (x <<< (q - 2).toNat * Nat.pow 10 (-u).toNat)

/-- `c * 10 ^ u` rounds to the absolute value of `x`. The interval reaches half way to either
neighbour, which below a power of two is only half as far, and its ends belong to it if the pattern
is even. -/
def readsBack (x : Binary64) (c : Nat) (u : Int) : Bool :=
  let m := x.significand
  let below := if m == 1 <<< 52 && x.exponent > -1074 then 1 else 2
  let lower := compareScaled c u (4 * m - below) x.exponent
  let upper := compareScaled c u (4 * m + 2) x.exponent
  if m % 2 == 0 then lower != .lt && upper != .gt else lower == .gt && upper == .lt

/-! ## The decimal grid -/

/-- The least power of ten, searched from `k`, that lifts `num / den` to at least one. -/
def liftingPower (num den : Nat) : Nat → Nat → Nat
  | 0, k => k
  | fuel + 1, k => if num * Nat.pow 10 k ≥ den then k else liftingPower num den fuel (k + 1)

/-- The exponent of the leading decimal digit of a positive quotient. No binary64 number is below
`10 ^ -330`. -/
def leadingExponent (num den : Nat) : Int :=
  if num ≥ den then ((Nat.toDigits 10 (num / den)).length : Int) - 1
  else -(liftingPower num den 330 1 : Int)

/-- The better of the two neighbours of the number on the grid of multiples of `10 ^ u`. -/
def neighbour? (x : Binary64) (u : Int) : Option Nat :=
  let (num, den) := x.toRatio
  let n := num * Nat.pow 10 (-u).toNat
  let d := den * Nat.pow 10 u.toNat
  let below := n / d
  let r := n % d
  let upperFirst := 2 * r > d || (2 * r == d && below % 2 == 1)
  let (first, second) := if upperFirst then (below + 1, below) else (below, below + 1)
  if x.readsBack first u then some first
  else if x.readsBack second u then some second
  else none

/-- The first grid, from coarse to fine, that has a decimal which reads back. -/
def searchGrid (x : Binary64) (lead : Int) : Nat → Nat → Nat × Int
  | 0, _ => (0, 0)
  | fuel + 1, digits =>
    let u := lead - digits + 1
    match x.neighbour? u with
    | some c => (c, u)
    | none => searchGrid x lead fuel (digits + 1)

/-- The digits of the shortest decimal, without trailing zeros, and the exponent of the first of
them. The number must not be zero. -/
def shortest (x : Binary64) : List Char × Int :=
  let (num, den) := x.toRatio
  let (c, u) := searchGrid x (leadingExponent num den) 17 1
  let all := Nat.toDigits 10 c
  ((all.reverse.dropWhile (· == '0')).reverse, u + all.length - 1)

end PromptLibrary.Binary64
