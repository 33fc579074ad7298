import PromptLibrary.Decimal.Shortest
import PromptLibrary.Proofs.Decimal.Rounding

/-!
# The shortest decimal is read as a number

A decimal is read in steps that are rounded one by one, so it need not give back the number that it
was printed for. What is shown here is that it gives some number: none of the steps goes beyond the
largest one (`Binary64.exists_ofDecimal_shortest`).

Only a decimal with a positive exponent could get there, when its significand is multiplied by a
power of ten. If it was printed for another number than the largest, it lies at least one unit below
the decimals that overflow. The significand and the power of ten are rounded before they are
multiplied; that these two roundings never use up the unit is checked for every power
(`Binary64.powerFits`). The largest number has one decimal, which is read as a number.
-/

namespace PromptLibrary.Binary64

/-! ## Decimals -/

/-- The decimals that round to another number than the largest are at most this. -/
def decimalBound : Nat := (2 ^ 55 - 6) * 2 ^ 969

/-- The number nearest to a power of ten is not below one, and no significand of seventeen digits
brings its product with it above the largest number unless the decimal is above the bound. -/
def PowerFits (k : Nat) : Prop :=
  let p := powerOfTen k
  let most := min (10 ^ 17) (decimalBound / Nat.pow 10 k)
  p.2 ≤ p.1 ∧ 0 < p.2 ∧
    ((2 ^ 53 + 1) * most * p.1 < 2 ^ 53 * (overflowBound * p.2) ∨
      most < 2 ^ 54 ∧ (most + 1) * p.1 < overflowBound * p.2)

instance (k : Nat) : Decidable (PowerFits k) :=
  inferInstanceAs (Decidable (_ ∧ _ ∧ _))

theorem powerFits : ∀ k < 309, PowerFits k := by
  decide +kernel

theorem timesPowerOfTen_eq (x : Binary64) (k : Nat) : x.timesPowerOfTen k =
    ofRatio x.negative (x.toRatio.1 * (powerOfTen k).1) (x.toRatio.2 * (powerOfTen k).2) := rfl

theorem overPowerOfTen_eq (x : Binary64) (k : Nat) : x.overPowerOfTen k =
    ofRatio x.negative (x.toRatio.1 * (powerOfTen k).2) (x.toRatio.2 * (powerOfTen k).1) := rfl

theorem exists_overPowerOfTen (x : Binary64) {k : Nat} (hk : k < 309) :
    ∃ y, x.overPowerOfTen k = some y := by
  obtain ⟨hone, hpos, -⟩ := powerFits k hk
  rw [overPowerOfTen_eq]
  refine exists_ofRatio x.negative ?_ ?_
  · exact Nat.mul_ne_zero (Nat.ne_of_gt x.toRatio_snd_pos) (by omega)
  · calc x.toRatio.1 * (powerOfTen k).2 < overflowBound * x.toRatio.2 * (powerOfTen k).2 :=
          Nat.mul_lt_mul_of_pos_right x.toRatio_lt hpos
      _ ≤ overflowBound * x.toRatio.2 * (powerOfTen k).1 := Nat.mul_le_mul_left _ hone
      _ = overflowBound * (x.toRatio.2 * (powerOfTen k).1) := Nat.mul_assoc _ _ _

theorem exists_timesPowerOfTen {s k : Nat} {x : Binary64} (hx : NearNatural s x) (hk : k < 309)
    (hs : s ≤ 10 ^ 17) (hbound : s * 10 ^ k ≤ decimalBound) :
    ∃ y, x.timesPowerOfTen k = some y := by
  obtain ⟨hone, hpos, hfits⟩ := powerFits k hk
  have hmost : s ≤ min (10 ^ 17) (decimalBound / Nat.pow 10 k) :=
    Nat.le_min.mpr ⟨hs, (Nat.le_div_iff_mul_le (Nat.pow_pos (by decide))).mpr hbound⟩
  generalize min (10 ^ 17) (decimalBound / Nat.pow 10 k) = most at hmost hfits
  have hden := x.toRatio_snd_pos
  rw [timesPowerOfTen_eq]
  refine exists_ofRatio x.negative ?_ ?_
  · exact Nat.mul_ne_zero (Nat.ne_of_gt hden) (Nat.ne_of_gt hpos)
  · rcases hfits with hrelative | ⟨hsmall, habsolute⟩
    · refine Nat.lt_of_mul_lt_mul_left (a := 2 ^ 53) ?_
      calc 2 ^ 53 * (x.toRatio.1 * (powerOfTen k).1)
          = 2 ^ 53 * x.toRatio.1 * (powerOfTen k).1 := (Nat.mul_assoc _ _ _).symm
        _ ≤ (2 ^ 53 + 1) * s * x.toRatio.2 * (powerOfTen k).1 := Nat.mul_le_mul_right _ hx.relative
        _ ≤ (2 ^ 53 + 1) * most * x.toRatio.2 * (powerOfTen k).1 := by gcongr
        _ = (2 ^ 53 + 1) * most * (powerOfTen k).1 * x.toRatio.2 := Nat.mul_right_comm _ _ _
        _ < 2 ^ 53 * (overflowBound * (powerOfTen k).2) * x.toRatio.2 :=
            Nat.mul_lt_mul_of_pos_right hrelative hden
        _ = 2 ^ 53 * (overflowBound * (x.toRatio.2 * (powerOfTen k).2)) := by ring
    · calc x.toRatio.1 * (powerOfTen k).1 ≤ (s + 1) * x.toRatio.2 * (powerOfTen k).1 :=
            Nat.mul_le_mul_right _ (hx.absolute (by omega))
        _ ≤ (most + 1) * x.toRatio.2 * (powerOfTen k).1 := by gcongr
        _ = (most + 1) * (powerOfTen k).1 * x.toRatio.2 := Nat.mul_right_comm _ _ _
        _ < overflowBound * (powerOfTen k).2 * x.toRatio.2 :=
            Nat.mul_lt_mul_of_pos_right habsolute hden
        _ = overflowBound * (x.toRatio.2 * (powerOfTen k).2) := by ring

theorem exists_timesPowerOfTen_zero (x : Binary64) : ∃ y, x.timesPowerOfTen 0 = some y := by
  obtain ⟨-, hpos, -⟩ := powerFits 0 (by decide)
  have hone : (powerOfTen 0).1 = (powerOfTen 0).2 := by decide +kernel
  rw [timesPowerOfTen_eq, hone]
  generalize (powerOfTen 0).2 = p at hpos
  refine exists_ofRatio x.negative ?_ ?_
  · exact Nat.mul_ne_zero (Nat.ne_of_gt x.toRatio_snd_pos) (Nat.ne_of_gt hpos)
  · rw [← Nat.mul_assoc]
    exact Nat.mul_lt_mul_of_pos_right x.toRatio_lt hpos

theorem ten_pow_le {k n : Nat} (h : k ≤ n) : Nat.pow 10 k ≤ 10 ^ n :=
  Nat.pow_le_pow_right (by decide) h

/-- A decimal is read as a number if it has no positive exponent, or seventeen digits and a value
below the bound. -/
theorem exists_ofDecimal (negative : Bool) {s : Nat} {e : Int} (hlt : s < 2 ^ 64)
    (h : 0 < e → s ≤ 10 ^ 17 ∧ s * 10 ^ e.toNat ≤ decimalBound) :
    ∃ y, ofDecimal negative s e = some y := by
  by_cases hs : s = 0
  · subst hs
    exact ⟨zero negative, rfl⟩
  obtain ⟨x, hx, hnear⟩ := exists_nearNatural negative hs hlt
  rw [ofDecimal, hx, Option.bind_eq_bind, Option.bind_some, if_neg (by simp [hnear.isZero_eq])]
  by_cases hpos : 0 < e
  · obtain ⟨hdigits, hbound⟩ := h hpos
    have hpower : e.toNat < 309 := by
      by_contra hlarge
      have hpower := ten_pow_le (show 309 ≤ e.toNat by omega)
      have hle : 10 ^ e.toNat ≤ s * 10 ^ e.toNat := Nat.le_mul_of_pos_left _ (by omega)
      exact absurd (Nat.le_trans hpower (Nat.le_trans hle hbound)) (by decide +kernel)
    rw [if_neg (by omega), if_pos (by omega)]
    exact exists_timesPowerOfTen hnear hpower hdigits hbound
  · rw [if_neg (by omega)]
    split
    · obtain rfl : e = 0 := by omega
      exact exists_timesPowerOfTen_zero x
    · split
      · exact exists_overPowerOfTen x (by omega)
      · split
        · obtain ⟨y, hy⟩ := exists_overPowerOfTen x (k := 308) (by decide)
          rw [hy]
          exact exists_overPowerOfTen y (by omega)
        · exact ⟨_, rfl⟩

/-! ## The decimal grid -/

theorem liftingPower_spec {num den : Nat} (fuel : Nat) {k : Nat} (hk : 1 ≤ k)
    (h : num * 10 ^ (k - 1) < den) :
    1 ≤ liftingPower num den fuel k ∧ num * 10 ^ (liftingPower num den fuel k - 1) < den := by
  induction fuel generalizing k with
  | zero => exact ⟨hk, h⟩
  | succ fuel ih =>
    rw [liftingPower]
    split
    · exact ⟨hk, h⟩
    · rename_i hlow
      refine ih (by omega) ?_
      rw [Nat.add_sub_cancel]
      exact Nat.lt_of_not_le hlow

theorem lt_of_leadingExponent (num : Nat) {den : Nat} (hden : den ≠ 0) (digits : Nat) {u : Int}
    (hu : u = leadingExponent num den - digits + 1) :
    num * 10 ^ (-u).toNat < 10 ^ digits * (den * 10 ^ u.toNat) := by
  rw [leadingExponent] at hu
  split at hu
  · have hpos := Nat.length_toDigits_pos (b := 10) (n := num / den)
    have hdiv : num / den < 10 ^ (Nat.toDigits 10 (num / den)).length :=
      (Nat.length_toDigits_le_iff (by decide) hpos).mp (Nat.le_refl _)
    generalize (Nat.toDigits 10 (num / den)).length = n at hu hdiv
    rw [Nat.div_lt_iff_lt_mul (Nat.pos_of_ne_zero hden)] at hdiv
    have heq : n + (-u).toNat = digits + u.toNat := by omega
    calc num * 10 ^ (-u).toNat < 10 ^ n * den * 10 ^ (-u).toNat :=
          Nat.mul_lt_mul_of_pos_right hdiv (Nat.pow_pos (by decide))
      _ = 10 ^ (n + (-u).toNat) * den := by rw [Nat.pow_add, Nat.mul_right_comm]
      _ = 10 ^ digits * (den * 10 ^ u.toNat) := by
          rw [heq, Nat.pow_add, Nat.mul_assoc, Nat.mul_comm den]
  · rename_i hless
    have hlift : num * 10 ^ (1 - 1) < den := by simpa using hless
    obtain ⟨hpos, hlt⟩ := liftingPower_spec 330 (Nat.le_refl 1) hlift
    generalize liftingPower num den 330 1 = k at hu hpos hlt
    have hzero : u.toNat = 0 := by omega
    have heq : (-u).toNat = k - 1 + digits := by omega
    rw [hzero, heq, Nat.pow_zero, Nat.mul_one, Nat.pow_add, ← Nat.mul_assoc, Nat.mul_comm _ den]
    exact Nat.mul_lt_mul_of_pos_right hlt (Nat.pow_pos (by decide))

/-- What is found on a grid reads back, and is the number rounded down or up. -/
theorem of_neighbour? {x : Binary64} {u : Int} {c : Nat} (h : x.neighbour? u = some c) :
    x.readsBack c u = true ∧
      c ≤ x.toRatio.1 * 10 ^ (-u).toNat / (x.toRatio.2 * 10 ^ u.toNat) + 1 := by
  have hpick : ∀ {first second : Nat},
      (if x.readsBack first u = true then some first
        else if x.readsBack second u = true then some second else none) = some c →
      x.readsBack c u = true ∧ (c = first ∨ c = second) := by
    intro first second h
    split at h
    · rename_i hfirst
      obtain rfl := Option.some.inj h
      exact ⟨hfirst, .inl rfl⟩
    · split at h
      · rename_i hsecond
        obtain rfl := Option.some.inj h
        exact ⟨hsecond, .inr rfl⟩
      · cases h
  rcases hratio : x.toRatio with ⟨num, den⟩
  rw [neighbour?, hratio] at h
  dsimp only at h
  show _ ∧ c ≤ num * Nat.pow 10 (-u).toNat / (den * Nat.pow 10 u.toNat) + 1
  generalize num * Nat.pow 10 (-u).toNat / (den * Nat.pow 10 u.toNat) = n at h ⊢
  split at h
  all_goals
    obtain ⟨hreads, hc⟩ := hpick h
    dsimp only at hc
    exact ⟨hreads, by omega⟩

theorem searchGrid_cases (x : Binary64) (lead : Int) (fuel digits : Nat) :
    searchGrid x lead fuel digits = (0, 0) ∨
      ∃ n c, n < digits + fuel ∧ searchGrid x lead fuel digits = (c, lead - n + 1) ∧
        x.neighbour? (lead - n + 1) = some c := by
  induction fuel generalizing digits with
  | zero => exact .inl rfl
  | succ fuel ih =>
    rw [searchGrid]
    split
    · rename_i c hc
      exact .inr ⟨digits, c, by omega, rfl, hc⟩
    · refine (ih (digits + 1)).imp_right ?_
      rintro ⟨n, c, hn, hsearch, hc⟩
      exact ⟨n, c, by omega, hsearch, hc⟩

/-- A decimal that reads back lies between half a unit below and half a unit above the number. -/
theorem between_of_readsBack {x : Binary64} {c : Nat} {u : Int} (h : x.readsBack c u = true) :
    ∃ below ≤ 2, compareScaled c u (4 * x.significand - below) x.exponent ≠ .lt ∧
      compareScaled c u (4 * x.significand + 2) x.exponent ≠ .gt := by
  rw [readsBack] at h
  generalize hbelow : (if x.significand == 1 <<< 52 && decide (x.exponent > -1074) then 1 else 2) =
    below at h
  refine ⟨below, by rw [← hbelow]; split <;> omega, ?_⟩
  split at h
  · rw [Bool.and_eq_true, bne_iff_ne, bne_iff_ne] at h
    exact h
  · rw [Bool.and_eq_true, beq_iff_eq, beq_iff_eq] at h
    exact ⟨by rw [h.1]; decide, by rw [h.2]; decide⟩

theorem pos_of_readsBack {x : Binary64} (hx : x.isZero = false) {c : Nat} {u : Int}
    (h : x.readsBack c u = true) : 0 < c := by
  obtain ⟨below, hbelow, hlow, -⟩ := between_of_readsBack h
  by_contra hzero
  obtain rfl : c = 0 := by omega
  have hpos : 0 < x.significand := by
    rw [isZero, beq_eq_false_iff_ne] at hx
    rw [significand]
    split <;> omega
  refine hlow (Nat.compare_eq_lt.mpr ?_)
  rw [Nat.zero_mul, Nat.zero_shiftLeft]
  exact Nat.mul_pos (Nat.shiftLeft_pos_iff.mpr (by omega)) (Nat.pow_pos (by decide))

theorem le_of_readsBack {x : Binary64} {c : Nat} {u : Int} (h : x.readsBack c u = true) :
    c * 10 ^ u.toNat * 2 ^ (2 - x.exponent).toNat ≤
      (4 * x.significand + 2) * 2 ^ (x.exponent - 2).toNat * 10 ^ (-u).toNat := by
  obtain ⟨below, -, -, hhigh⟩ := between_of_readsBack h
  rw [← Nat.shiftLeft_eq, ← Nat.shiftLeft_eq]
  exact Nat.compare_ne_gt.mp hhigh

/-- The greatest number. -/
def largest (negative : Bool) : Binary64 :=
  ⟨negative, 2047 <<< 52 - 1, by decide⟩

theorem eq_largest {x : Binary64} (h : x.exponent = 971) (hs : 2 ^ 53 - 1 ≤ x.significand) :
    x = largest x.negative := by
  have hfinite := x.finite
  have hnormal : 2 ^ 52 ≤ x.magnitude := by
    by_contra hsmall
    rw [exponent, Nat.shiftRight_eq_div_pow] at h
    omega
  rw [exponent_of_normal hnormal] at h
  rw [significand_of_normal hnormal] at hs
  have hmagnitude : x.magnitude = 2047 <<< 52 - 1 := by omega
  cases x
  cases hmagnitude
  rfl

theorem mul_two_pow_le {m k p : Nat} (h : k < p ∧ m < 2 ^ 53 ∨ k = p ∧ m < 2 ^ 53 - 1) :
    (4 * m + 2) * 2 ^ k ≤ (2 ^ 55 - 6) * 2 ^ p := by
  rcases h with ⟨hk, hm⟩ | ⟨rfl, hm⟩
  · have htwo : 2 * 2 ^ k ≤ 2 ^ p := by
      rw [← Nat.pow_succ']
      exact Nat.pow_le_pow_right (by decide) hk
    calc (4 * m + 2) * 2 ^ k ≤ (2 * (2 ^ 55 - 6)) * 2 ^ k := Nat.mul_le_mul_right _ (by omega)
      _ = (2 ^ 55 - 6) * (2 * 2 ^ k) := by ring
      _ ≤ (2 ^ 55 - 6) * 2 ^ p := Nat.mul_le_mul_left _ htwo
  · exact Nat.mul_le_mul_right _ (by omega)

theorem le_decimalBound {x : Binary64} (hx : x ≠ largest x.negative) {s z : Nat} {u : Int}
    (h : x.readsBack (s * 10 ^ z) u = true) (hpos : 0 ≤ u + z) :
    s * 10 ^ (u + z).toNat ≤ decimalBound := by
  have hle := le_of_readsBack h
  have hcancel : s * 10 ^ (u + z).toNat * 2 ^ (2 - x.exponent).toNat ≤
      (4 * x.significand + 2) * 2 ^ (x.exponent - 2).toNat := by
    refine Nat.le_of_mul_le_mul_right ?_ (Nat.pow_pos (n := (-u).toNat) (show 0 < 10 by decide))
    have heq : z + u.toNat = (u + z).toNat + (-u).toNat := by omega
    calc s * 10 ^ (u + z).toNat * 2 ^ (2 - x.exponent).toNat * 10 ^ (-u).toNat
        = s * 10 ^ ((u + z).toNat + (-u).toNat) * 2 ^ (2 - x.exponent).toNat := by
          rw [Nat.pow_add]; ring
      _ = s * 10 ^ z * 10 ^ u.toNat * 2 ^ (2 - x.exponent).toNat := by
          rw [← heq, Nat.pow_add]; ring
      _ ≤ _ := hle
  have hsignificand := x.significand_lt
  have hexponent := x.exponent_le
  have hbound : (4 * x.significand + 2) * 2 ^ (x.exponent - 2).toNat ≤ decimalBound := by
    refine mul_two_pow_le (p := 969) ?_
    by_contra hlargest
    refine hx (eq_largest (by omega) (by omega))
  calc s * 10 ^ (u + z).toNat
      ≤ s * 10 ^ (u + z).toNat * 2 ^ (2 - x.exponent).toNat :=
        Nat.le_mul_of_pos_right _ (Nat.two_pow_pos _)
    _ ≤ _ := hcancel
    _ ≤ decimalBound := hbound

/-! ## The shortest digits -/

/-- The digits of a number without the zeros at their end are those of what remains when it is
divided by ten as often as possible. -/
theorem exists_strip {c : Nat} (hc : 0 < c) : ∃ s z, 0 < s ∧ c = s * 10 ^ z ∧
    ((Nat.toDigits 10 c).reverse.dropWhile (· == '0')).reverse = Nat.toDigits 10 s ∧
      (Nat.toDigits 10 c).length = (Nat.toDigits 10 s).length + z := by
  induction c using Nat.strongRecOn with
  | ind c ih =>
    by_cases hlast : c % 10 = 0
    · have hdigits : Nat.toDigits 10 c = Nat.toDigits 10 (c / 10) ++ ['0'] := by
        rw [Nat.toDigits_eq_if (by decide), if_neg (by omega), hlast]
        rfl
      obtain ⟨s, z, hs, hsplit, hstrip, hlength⟩ := ih (c / 10) (by omega) (by omega)
      refine ⟨s, z + 1, hs, ?_, ?_, ?_⟩
      · rw [Nat.pow_succ, ← Nat.mul_assoc, ← hsplit]
        omega
      · rw [hdigits, List.reverse_append, List.reverse_singleton, List.singleton_append,
          List.dropWhile_cons_of_pos (by rfl), hstrip]
      · rw [hdigits, List.length_append, hlength]
        rfl
    · refine ⟨c, 0, hc, by simp, ?_, rfl⟩
      -- the last digit is not zero, so nothing is taken away
      have hend : ∃ init d, Nat.toDigits 10 c = init ++ [d] ∧ d ≠ '0' := by
        rw [Nat.toDigits_eq_if (by decide)]
        split
        · refine ⟨[], c.digitChar, rfl, ?_⟩
          rw [ne_eq, Nat.digitChar_eq_zero]
          omega
        · refine ⟨_, _, rfl, ?_⟩
          rw [ne_eq, Nat.digitChar_eq_zero]
          exact hlast
      obtain ⟨init, d, hdigits, hd⟩ := hend
      rw [hdigits, List.reverse_append, List.reverse_singleton, List.singleton_append,
        List.dropWhile_cons_of_neg (by simpa using hd), ← List.singleton_append,
        List.reverse_append, List.reverse_reverse, List.reverse_singleton]

/-- The shortest digits are those of a decimal that reads back, with at most seventeen digits; if
the search has failed, there are none. -/
theorem shortest_cases {x : Binary64} (hx : x.isZero = false) : x.shortest = ([], 0) ∨
    ∃ (s z : Nat) (u : Int), 0 < s ∧ s ≤ 10 ^ 17 ∧ x.readsBack (s * 10 ^ z) u = true ∧
      x.shortest = (Nat.toDigits 10 s, u + z + (Nat.toDigits 10 s).length - 1) := by
  rcases hratio : x.toRatio with ⟨num, den⟩
  have hden : den ≠ 0 := by
    have hpos := x.toRatio_snd_pos
    rw [hratio] at hpos
    exact Nat.ne_of_gt hpos
  rw [shortest, hratio]
  dsimp only
  obtain hfailed | ⟨n, c, hn, hsearch, hc⟩ := searchGrid_cases x (leadingExponent num den) 17 1
  · rw [hfailed]
    exact .inl rfl
  · obtain ⟨hreads, hle⟩ := of_neighbour? hc
    obtain ⟨s, z, hs, hsplit, hstrip, hlength⟩ := exists_strip (pos_of_readsBack hx hreads)
    have hquotient := lt_of_leadingExponent num hden n rfl
    rw [hsearch]
    refine .inr ⟨s, z, _, hs, ?_, by rwa [← hsplit], ?_⟩
    · rw [hratio] at hle
      dsimp only at hle
      have hpower : 10 ^ n ≤ 10 ^ 17 := Nat.pow_le_pow_right (by decide) (by omega)
      have hgrid : 0 < den * 10 ^ (leadingExponent num den - n + 1).toNat :=
        Nat.mul_pos (Nat.pos_of_ne_zero hden) (Nat.pow_pos (by decide))
      have hdiv := (Nat.div_lt_iff_lt_mul hgrid).mpr hquotient
      have hsc : s ≤ s * 10 ^ z := Nat.le_mul_of_pos_right s (Nat.pow_pos (by decide))
      omega
    · dsimp only
      rw [hstrip, hlength]
      simp only [Prod.mk.injEq, true_and]
      omega

theorem shortest_largest (negative : Bool) : (largest negative).shortest =
    (Nat.toDigits 10 17976931348623157, 308) := by
  cases negative <;> decide +kernel

theorem exists_ofDecimal_largest (negative : Bool) :
    ∃ y, ofDecimal negative 17976931348623157 292 = some y := by
  refine Option.isSome_iff_exists.mp ?_
  cases negative <;> decide +kernel

/-- **The shortest decimal of a number is read as a number.** It may be another one, since the
reader rounds several times, but it is never beyond the largest. -/
theorem exists_ofDecimal_shortest {x : Binary64} (hx : x.isZero = false) : x.shortest = ([], 0) ∨
    ∃ (s : Nat) (lead : Int), 0 < s ∧ s ≤ 10 ^ 17 ∧ x.shortest = (Nat.toDigits 10 s, lead) ∧
      ∀ negative, ∃ y, ofDecimal negative s (lead - (Nat.toDigits 10 s).length + 1) = some y := by
  by_cases hlargest : x = largest x.negative
  · refine .inr ⟨17976931348623157, 308, by decide, by decide, ?_, exists_ofDecimal_largest⟩
    rw [hlargest]
    exact shortest_largest x.negative
  · refine (shortest_cases hx).imp_right ?_
    rintro ⟨s, z, u, hpos, hdigits, hreads, hshortest⟩
    refine ⟨s, _, hpos, hdigits, hshortest, fun negative ↦ ?_⟩
    have hexponent : u + z + (Nat.toDigits 10 s).length - 1 - (Nat.toDigits 10 s).length + 1 =
        u + z := by omega
    rw [hexponent]
    refine exists_ofDecimal negative (by omega) fun hlt ↦ ⟨hdigits, ?_⟩
    exact le_decimalBound hlargest hreads (by omega)

end PromptLibrary.Binary64
