import Mathlib.Algebra.Order.Ring.Nat
import Mathlib.Tactic.Linarith
import Mathlib.Tactic.Positivity
import Mathlib.Tactic.Ring
import PromptLibrary.Decimal.Binary64

/-!
# Rounding to binary64

A quotient is rounded to a multiple of its unit, and the pattern is put together from the unit and
the multiple. What is needed about this is when it gives no number, and how far a natural number is
from what it is rounded to.

Rounding fails exactly from half a unit above the largest number on. Below that bound there is
always a number (`Binary64.exists_ofRatio`), also where the multiple is rounded up to the next power
of two: then the pattern is that of the next unit. A significand of 64 bits is far below the bound,
and is rounded with a relative error of at most one part in `2 ^ 53`
(`Binary64.exists_nearNatural`).
-/

namespace PromptLibrary.Binary64

/-! ## The largest number -/

/-- Half a unit above the largest number: what is below is rounded to a number. -/
def overflowBound : Nat := (2 ^ 54 - 1) * 2 ^ 970

theorem two_pow_le_two_mul {k n : Nat} (h : k ≤ n + 1) : 2 ^ k ≤ 2 * 2 ^ n := by
  rw [← Nat.pow_succ']
  exact Nat.pow_le_pow_right (by decide) h

theorem mul_two_pow_lt (n : Nat) : (2 ^ 53 - 1) * (2 * 2 ^ n) < (2 ^ 54 - 1) * 2 ^ n := by
  have hpos := Nat.two_pow_pos n
  omega

theorem two_pow_le_mul {p : Nat} (hp : 64 ≤ p) : 2 ^ 64 ≤ (2 ^ 54 - 1) * 2 ^ p := by
  have hle : 2 ^ 64 ≤ 2 ^ p := Nat.pow_le_pow_right (by decide) hp
  omega

theorem significand_lt (x : Binary64) : x.significand < 2 ^ 53 := by
  have hmod := Nat.mod_lt x.magnitude (show 0 < 1 <<< 52 by decide)
  rw [significand]
  split <;> omega

theorem exponent_le (x : Binary64) : x.exponent ≤ 971 := by
  have hfinite := x.finite
  have hshift : x.magnitude >>> 52 < 2047 := by
    rw [Nat.shiftRight_eq_div_pow]
    omega
  rw [exponent]
  omega

theorem toRatio_snd_pos (x : Binary64) : 0 < x.toRatio.2 := by
  rw [toRatio]
  exact Nat.shiftLeft_pos_iff.mpr Nat.one_pos

theorem toRatio_lt (x : Binary64) : x.toRatio.1 < overflowBound * x.toRatio.2 := by
  have hsignificand := x.significand_lt
  have hpower : 2 ^ x.exponent.toNat ≤ 2 * 2 ^ 970 := by
    have hle := x.exponent_le
    exact two_pow_le_two_mul (by omega)
  calc x.toRatio.1 = x.significand * 2 ^ x.exponent.toNat := by rw [toRatio, Nat.shiftLeft_eq]
    _ ≤ (2 ^ 53 - 1) * (2 * 2 ^ 970) := Nat.mul_le_mul (by omega) hpower
    _ < overflowBound := mul_two_pow_lt 970
    _ ≤ overflowBound * x.toRatio.2 := Nat.le_mul_of_pos_right _ x.toRatio_snd_pos

/-! ## Rounding to an integer -/

theorem roundScaled_cases (num : Nat) {den : Nat} (hden : 0 < den) (e : Int) :
    ∃ q r, num <<< (-e).toNat = den <<< e.toNat * q + r ∧ r < den <<< e.toNat ∧
      (roundScaled num den e = q ∧ 2 * r ≤ den <<< e.toNat ∨
        roundScaled num den e = q + 1 ∧ den <<< e.toNat ≤ 2 * r) := by
  have hpos : 0 < den <<< e.toNat := Nat.shiftLeft_pos_iff.mpr hden
  refine ⟨num <<< (-e).toNat / den <<< e.toNat, num <<< (-e).toNat % den <<< e.toNat,
    (Nat.div_add_mod _ _).symm, Nat.mod_lt _ hpos, ?_⟩
  rw [roundScaled]
  split
  · rename_i hup
    simp only [Bool.or_eq_true, decide_eq_true_iff, Bool.and_eq_true, beq_iff_eq] at hup
    exact .inr ⟨rfl, by omega⟩
  · rename_i hdown
    simp only [Bool.or_eq_true, decide_eq_true_iff] at hdown
    exact .inl ⟨rfl, by omega⟩

theorem roundScaled_le {num den k : Nat} {e : Int} (hden : 0 < den)
    (h : 2 * (num <<< (-e).toNat) < (2 * k + 1) * (den <<< e.toNat)) :
    roundScaled num den e ≤ k := by
  obtain ⟨q, r, hsplit, -, hround⟩ := roundScaled_cases num hden e
  generalize num <<< (-e).toNat = n at h hsplit
  generalize den <<< e.toNat = d at h hsplit hround
  by_contra hgt
  rcases hround with ⟨heq, -⟩ | ⟨heq, hhalf⟩
  · have hle : d * (k + 1) ≤ d * q := Nat.mul_le_mul_left d (by omega)
    linarith
  · have hle : d * k ≤ d * q := Nat.mul_le_mul_left d (by omega)
    linarith

theorem le_roundScaled {num den k : Nat} {e : Int} (hden : 0 < den)
    (h : k * (den <<< e.toNat) ≤ num <<< (-e).toNat) : k ≤ roundScaled num den e := by
  obtain ⟨q, r, hsplit, hr, hround⟩ := roundScaled_cases num hden e
  generalize num <<< (-e).toNat = n at h hsplit
  generalize den <<< e.toNat = d at h hsplit hr hround
  have hle : k ≤ q := by
    by_contra hgt
    have hlt : d * (q + 1) ≤ d * k := Nat.mul_le_mul_left d (by omega)
    linarith
  omega

theorem roundScaled_mul_le (num : Nat) {den : Nat} (hden : 0 < den) (e : Int) :
    2 * (roundScaled num den e * (den <<< e.toNat)) ≤
      2 * (num <<< (-e).toNat) + den <<< e.toNat := by
  obtain ⟨q, r, hsplit, -, hround⟩ := roundScaled_cases num hden e
  generalize num <<< (-e).toNat = n at hsplit ⊢
  generalize den <<< e.toNat = d at hsplit hround ⊢
  rcases hround with ⟨heq, -⟩ | ⟨heq, hhalf⟩
  · rw [heq]
    linarith
  · rw [heq]
    linarith

/-! ## The unit -/

theorem shiftLeft_lt_of_log2 {num den k a b : Nat} (hden : den ≠ 0)
    (h : num.log2 + 1 + a ≤ k + den.log2 + b) : num <<< a < 2 ^ k * (den <<< b) := by
  rw [Nat.shiftLeft_eq, Nat.shiftLeft_eq]
  calc num * 2 ^ a < 2 ^ (num.log2 + 1) * 2 ^ a :=
        Nat.mul_lt_mul_of_pos_right Nat.lt_log2_self (Nat.two_pow_pos a)
    _ = 2 ^ (num.log2 + 1 + a) := (Nat.pow_add _ _ _).symm
    _ ≤ 2 ^ (k + den.log2 + b) := Nat.pow_le_pow_right (by decide) h
    _ = 2 ^ k * (2 ^ den.log2 * 2 ^ b) := by rw [Nat.pow_add, Nat.pow_add, Nat.mul_assoc]
    _ ≤ 2 ^ k * (den * 2 ^ b) :=
        Nat.mul_le_mul_left _ (Nat.mul_le_mul_right _ (Nat.log2_self_le hden))

theorem le_shiftLeft_of_log2 {num den k a b : Nat} (hnum : num ≠ 0)
    (h : k + (den.log2 + 1) + b ≤ num.log2 + a) : 2 ^ k * (den <<< b) ≤ num <<< a := by
  rw [Nat.shiftLeft_eq, Nat.shiftLeft_eq]
  calc 2 ^ k * (den * 2 ^ b) ≤ 2 ^ k * (2 ^ (den.log2 + 1) * 2 ^ b) :=
        Nat.mul_le_mul_left _ (Nat.mul_le_mul_right _ (Nat.le_of_lt Nat.lt_log2_self))
    _ = 2 ^ (k + (den.log2 + 1) + b) := by
        rw [Nat.pow_add _ (k + _), Nat.pow_add _ k, Nat.mul_assoc]
    _ ≤ 2 ^ (num.log2 + a) := Nat.pow_le_pow_right (by decide) h
    _ = 2 ^ num.log2 * 2 ^ a := Nat.pow_add _ _ _
    _ ≤ num * 2 ^ a := Nat.mul_le_mul_right _ (Nat.log2_self_le hnum)

/-- The quotient is less than `2 ^ 53` units, and at least `2 ^ 52` of them unless the unit is the
smallest. -/
theorem unitExponent_spec {num den : Nat} (hnum : num ≠ 0) (hden : den ≠ 0) {e : Int}
    (he : unitExponent num den = e) :
    e ≥ -1074 ∧ num <<< (-e).toNat < 2 ^ 53 * (den <<< e.toNat) ∧
      (e = -1074 ∨ 2 ^ 52 * (den <<< e.toNat) ≤ num <<< (-e).toNat) := by
  have hshift : ∀ g : Int, 0 < den <<< g.toNat := fun g ↦
    Nat.shiftLeft_pos_iff.mpr (Nat.pos_of_ne_zero hden)
  rw [unitExponent] at he
  generalize hguess : max ((num.log2 : Int) - den.log2 - 52) (-1074) = guess at he
  split at he
  · rename_i hsmall
    rw [Nat.div_lt_iff_lt_mul (hshift guess)] at hsmall
    by_cases hleast : guess = -1074
    · obtain rfl : e = -1074 := by omega
      subst hleast
      exact ⟨le_refl _, by omega, .inl rfl⟩
    · -- the guess was one too high
      obtain rfl : e = guess - 1 := by omega
      refine ⟨by omega, ?_, .inr (le_shiftLeft_of_log2 hnum (by omega))⟩
      rcases lt_or_ge 0 guess with hpos | hneg
      · have hnext : guess.toNat = (guess - 1).toNat + 1 := by omega
        have hzero : (-guess).toNat = 0 ∧ (-(guess - 1)).toNat = 0 := by omega
        rw [hzero.1, hnext, Nat.shiftLeft_succ den] at hsmall
        rw [hzero.2]
        omega
      · have hnext : (-(guess - 1)).toNat = (-guess).toNat + 1 := by omega
        have hzero : guess.toNat = 0 ∧ (guess - 1).toNat = 0 := by omega
        rw [hzero.1] at hsmall
        rw [hzero.2, hnext, Nat.shiftLeft_succ num]
        omega
  · rename_i hlarge
    subst he
    rw [Nat.not_lt, Nat.le_div_iff_mul_le (hshift guess)] at hlarge
    exact ⟨by omega, shiftLeft_lt_of_log2 hden (by omega), .inr hlarge⟩

/-! ## Rounding to a number -/

/-- Half a unit below `2 ^ (54 + p)`, the unit is at most `2 ^ (p + 1)`, and of that unit there are
fewer than `2 ^ 53` after rounding. -/
theorem roundScaled_lt_of_lt {num den p : Nat} (hden : den ≠ 0) {e : Int} (he : (p : Int) + 1 ≤ e)
    (hunit : 2 ^ 52 * (den <<< e.toNat) ≤ num <<< (-e).toNat)
    (h : num < (2 ^ 54 - 1) * 2 ^ p * den) : e = p + 1 ∧ roundScaled num den e < 2 ^ 53 := by
  obtain ⟨k, rfl⟩ : ∃ k : Nat, e = p + 1 + k := ⟨(e - (p + 1)).toNat, by omega⟩
  have hneg : (-((p : Int) + 1 + k)).toNat = 0 := by omega
  have hshift : den <<< ((p : Int) + 1 + k).toNat = den * 2 ^ p * 2 * 2 ^ k := by
    have heq : ((p : Int) + 1 + k).toNat = p + 1 + k := by omega
    rw [heq, Nat.shiftLeft_eq, Nat.pow_add, Nat.pow_succ, Nat.mul_assoc, Nat.mul_assoc,
      Nat.mul_assoc]
  have hbound : num < (2 ^ 54 - 1) * (den * 2 ^ p) := by
    rwa [Nat.mul_comm den, ← Nat.mul_assoc]
  have hpos : 1 ≤ 2 ^ k := Nat.two_pow_pos k
  rw [hneg, Nat.shiftLeft_zero, hshift] at hunit
  have hk : k = 0 := by
    by_contra hne
    -- four times the unit below is too much
    have htwo : 2 ≤ 2 ^ k := Nat.le_self_pow hne 2
    have hle := Nat.mul_le_mul_left (den * 2 ^ p * 2) htwo
    omega
  subst hk
  have hround : roundScaled num den (p + 1 + (0 : Nat)) ≤ 2 ^ 53 - 1 := by
    refine roundScaled_le (Nat.pos_of_ne_zero hden) ?_
    rw [hneg, Nat.shiftLeft_zero, hshift]
    omega
  exact ⟨by omega, by omega⟩

theorem magnitude_of_ofRatio {negative : Bool} {num den : Nat} {x : Binary64} (hnum : num ≠ 0)
    (h : ofRatio negative num den = some x) :
    x.magnitude = (unitExponent num den + 1074).toNat <<< 52 +
      roundScaled num den (unitExponent num den) := by
  rw [ofRatio, if_neg hnum] at h
  dsimp only at h
  split at h
  · rw [← Option.some.inj h]
  · cases h

theorem exists_ofRatio (negative : Bool) {num den : Nat} (hden : den ≠ 0)
    (h : num < overflowBound * den) : ∃ x, ofRatio negative num den = some x := by
  rw [ofRatio]
  split
  · exact ⟨_, rfl⟩
  · rename_i hnum
    obtain ⟨hge, hlt, hunit⟩ := unitExponent_spec hnum hden rfl
    generalize unitExponent num den = e at hge hlt hunit ⊢
    have hmagnitude : (e + 1074).toNat <<< 52 + roundScaled num den e < 2047 <<< 52 := by
      rw [Nat.shiftLeft_eq]
      by_cases hlarge : 971 ≤ e
      · obtain ⟨heq, hround⟩ :=
          roundScaled_lt_of_lt (p := 970) hden hlarge (hunit.resolve_left (by omega)) h
        omega
      · have hround : roundScaled num den e ≤ 2 ^ 53 :=
          roundScaled_le (Nat.pos_of_ne_zero hden) (by omega)
        omega
    exact ⟨_, dif_pos hmagnitude⟩

/-! ## Rounding natural numbers -/

theorem significand_of_normal {x : Binary64} (h : 2 ^ 52 ≤ x.magnitude) :
    x.significand = 2 ^ 52 + x.magnitude % 2 ^ 52 :=
  if_neg (Nat.not_lt.mpr h)

theorem exponent_of_normal {x : Binary64} (h : 2 ^ 52 ≤ x.magnitude) :
    x.exponent = (x.magnitude / 2 ^ 52 : Nat) - 1075 := by
  rw [exponent, Nat.shiftRight_eq_div_pow]
  omega

theorem toRatio_of_magnitude {x : Binary64} {e : Int} {q : Nat} (he : -1074 ≤ e) (hlow : 2 ^ 52 ≤ q)
    (hhigh : q ≤ 2 ^ 53) (hx : x.magnitude = (e + 1074).toNat <<< 52 + q) :
    x.toRatio.1 * 2 ^ (-e).toNat = q * 2 ^ e.toNat * x.toRatio.2 := by
  rw [Nat.shiftLeft_eq] at hx
  have hnormal : 2 ^ 52 ≤ x.magnitude := by omega
  rcases Nat.lt_or_eq_of_le hhigh with hlt | rfl
  · have hsignificand : x.significand = q := by
      rw [significand_of_normal hnormal]
      omega
    have hexponent : x.exponent = e := by
      rw [exponent_of_normal hnormal]
      omega
    rw [toRatio, hsignificand, hexponent, Nat.shiftLeft_eq, Nat.shiftLeft_eq, Nat.one_mul]
  · -- the rounding has carried into the next binade
    have hsignificand : x.significand = 2 ^ 52 := by
      rw [significand_of_normal hnormal]
      omega
    have hexponent : x.exponent = e + 1 := by
      rw [exponent_of_normal hnormal]
      omega
    rw [toRatio, hsignificand, hexponent, Nat.shiftLeft_eq, Nat.shiftLeft_eq, Nat.one_mul]
    rcases le_or_gt 0 e with hpos | hneg
    · have hnext : (e + 1).toNat = e.toNat + 1 := by omega
      have hzero : (-e).toNat = 0 ∧ (-(e + 1)).toNat = 0 := by omega
      rw [hzero.1, hzero.2, hnext]
      ring
    · have hnext : (-e).toNat = (-(e + 1)).toNat + 1 := by omega
      have hzero : e.toNat = 0 ∧ (e + 1).toNat = 0 := by omega
      rw [hzero.1, hzero.2, hnext]
      ring

/-- Rounding a natural number adds at most one part in `2 ^ 53`, and at most one up to `2 ^ 54`. -/
structure NearNatural (s : Nat) (x : Binary64) : Prop where
  /-- The number is not zero. -/
  isZero_eq : x.isZero = false
  /-- The relative error. -/
  relative : 2 ^ 53 * x.toRatio.1 ≤ (2 ^ 53 + 1) * s * x.toRatio.2
  /-- The absolute error. -/
  absolute : s < 2 ^ 54 → x.toRatio.1 ≤ (s + 1) * x.toRatio.2

/-- A natural number is rounded to a multiple of a unit with 53 binary digits. -/
theorem neg_lt_unitExponent {s : Nat} (hs : s ≠ 0) : -53 < unitExponent s 1 := by
  obtain ⟨-, hunits, -⟩ := unitExponent_spec hs Nat.one_ne_zero rfl
  generalize unitExponent s 1 = e at hunits
  by_contra hsmall
  have hzero : e.toNat = 0 := by omega
  have hpower : 2 ^ 53 ≤ 2 ^ (-e).toNat := Nat.pow_le_pow_right (by decide) (by omega)
  have hle := Nat.mul_le_mul (Nat.pos_of_ne_zero hs) hpower
  rw [hzero, Nat.shiftLeft_eq, Nat.shiftLeft_zero] at hunits
  omega

/-- A multiple of the unit that is at most half a unit above the number is near it. -/
theorem NearNatural.of_units {s q : Nat} {e : Int} {x : Binary64} (hzero : x.isZero = false)
    (hvalue : x.toRatio.1 * 2 ^ (-e).toNat = q * 2 ^ e.toNat * x.toRatio.2)
    (hnormal : 2 ^ 52 * 2 ^ e.toNat ≤ s * 2 ^ (-e).toNat)
    (herror : 2 * (q * 2 ^ e.toNat) ≤ 2 * (s * 2 ^ (-e).toNat) + 2 ^ e.toNat) :
    NearNatural s x := by
  suffices hnear : 2 ^ 53 * x.toRatio.1 ≤ (2 ^ 53 + 1) * s * x.toRatio.2 ∧
      (s < 2 ^ 54 → x.toRatio.1 ≤ (s + 1) * x.toRatio.2) from ⟨hzero, hnear.1, hnear.2⟩
  generalize x.toRatio.1 = n at hvalue ⊢
  generalize x.toRatio.2 = d at hvalue ⊢
  rcases le_or_gt 0 e with hpos | hneg
  · have hwhole : (-e).toNat = 0 := by omega
    rw [hwhole, Nat.pow_zero, Nat.mul_one] at hnormal herror hvalue
    rw [hvalue]
    refine ⟨?_, fun hsmall ↦ ?_⟩
    · rw [← Nat.mul_assoc]
      exact Nat.mul_le_mul_right d (by omega)
    · have hunit : 2 ^ e.toNat ≤ 2 ^ 1 := by
        refine Nat.pow_le_pow_right (by decide) (Nat.lt_succ_iff.mp ?_)
        refine (Nat.pow_lt_pow_iff_right (show 1 < 2 by decide)).mp ?_
        omega
      exact Nat.mul_le_mul_right d (by omega)
  · -- a unit below one leaves nothing to round up
    have hbelow : e.toNat = 0 := by omega
    rw [hbelow, Nat.pow_zero, Nat.mul_one] at herror hvalue
    have hexact : n ≤ s * d := by
      refine Nat.le_of_mul_le_mul_right ?_ (Nat.two_pow_pos (-e).toNat)
      rw [hvalue, Nat.mul_right_comm]
      exact Nat.mul_le_mul_right d (by omega)
    refine ⟨?_, fun _ ↦ Nat.le_trans hexact (Nat.mul_le_mul_right d (Nat.le_succ s))⟩
    calc 2 ^ 53 * n ≤ 2 ^ 53 * (s * d) := Nat.mul_le_mul_left _ hexact
      _ ≤ (2 ^ 53 + 1) * (s * d) := Nat.mul_le_mul_right _ (by decide)
      _ = (2 ^ 53 + 1) * s * d := (Nat.mul_assoc _ _ _).symm

/-- A significand of 64 bits is rounded to a number that is near it. -/
theorem exists_nearNatural (negative : Bool) {s : Nat} (hs : s ≠ 0) (hlt : s < 2 ^ 64) :
    ∃ x, ofRatio negative s 1 = some x ∧ NearNatural s x := by
  have hbound : s < overflowBound * 1 := by
    rw [Nat.mul_one]
    exact Nat.lt_of_lt_of_le hlt (two_pow_le_mul (p := 970) (by decide))
  obtain ⟨x, hx⟩ := exists_ofRatio negative Nat.one_ne_zero hbound
  have hmagnitude := magnitude_of_ofRatio hs hx
  have hlarge := neg_lt_unitExponent hs
  obtain ⟨-, hunits, hnormal⟩ := unitExponent_spec hs Nat.one_ne_zero rfl
  generalize unitExponent s 1 = e at hmagnitude hlarge hunits hnormal
  have hnormal := hnormal.resolve_left (by omega)
  have hlow : 2 ^ 52 ≤ roundScaled s 1 e := le_roundScaled Nat.one_pos hnormal
  have hhigh : roundScaled s 1 e ≤ 2 ^ 53 := roundScaled_le Nat.one_pos (by omega)
  have herror := roundScaled_mul_le s Nat.one_pos e
  have hvalue := toRatio_of_magnitude (by omega) hlow hhigh hmagnitude
  have hzero : x.isZero = false := by
    rw [Nat.shiftLeft_eq] at hmagnitude
    rw [isZero, beq_eq_false_iff_ne]
    omega
  rw [Nat.shiftLeft_eq, Nat.shiftLeft_eq, Nat.one_mul] at hnormal herror
  exact ⟨x, hx, .of_units hzero hvalue hnormal herror⟩

end PromptLibrary.Binary64
