import Mathlib
import ImageWorkflow.Proofs.ShortestDecimal

/-!
# Whole numbers in binary

* `Binary64.toRat?_ofRat_natCast` : the whole numbers below `2⁵³` are represented exactly;
* `Binary64.le_of_toRat?_ofRat` : what is rounded from there on stays there;
* `Binary64.toRat?_natCast_mul_one`, `Binary64.le_of_toRat?_mul_one` : products with one;
* `roundEven_natCast`, `le_roundEven` : so it is with the nearest whole number.
-/

namespace ImageWorkflow

theorem roundEven_nonneg {q : ℚ} (h : 0 ≤ q) : 0 ≤ roundEven q := by
  have hnum : ¬ q.num < 0 := not_lt.mpr (Rat.num_nonneg.mpr h)
  simp [roundEven, hnum]

theorem roundEven_natCast (n : ℕ) : roundEven n = n := by
  have heven : divHalfEven n 1 = n := divHalfEven_eq Nat.one_pos (by simp)
  simp [roundEven, heven]

theorem le_roundEven {n : ℕ} {q : ℚ} (h : (n : ℚ) ≤ q) : (n : ℤ) ≤ roundEven q := by
  have hq : 0 ≤ q := (Nat.cast_nonneg n).trans h
  have hnonneg := roundEven_nonneg hq
  have hnear := (abs_le.mp (Decimal.abs_roundEven_sub_le hq)).1
  have hlt : (n : ℚ) < (roundEven q).toNat + 1 := by linarith
  have : n < (roundEven q).toNat + 1 := by exact_mod_cast hlt
  omega

namespace Binary64

/-- Below `2⁵³` every whole number is represented. -/
theorem exists_toRat?_eq_natCast {n : ℕ} (hn : n ≠ 0) (hlt : n < 2 ^ 53) :
    ∃ exponent fraction, (finite false exponent fraction).toRat? = some (n : ℚ) := by
  have hlog : n.log2 < 53 := (Nat.log2_lt hn).mpr hlt
  have hlow : 2 ^ n.log2 ≤ n := Nat.log2_self_le hn
  have hhigh : n < 2 ^ (n.log2 + 1) := Nat.lt_log2_self
  generalize n.log2 = l at hlog hlow hhigh
  -- the significand is `n`, moved up to fifty-three binary places
  have hpow : 2 ^ l * 2 ^ (52 - l) = 2 ^ 52 := by rw [← pow_add]; congr 1; omega
  have hfrom : fractionCount ≤ n * 2 ^ (52 - l) := by
    calc fractionCount = 2 ^ l * 2 ^ (52 - l) := hpow.symm
      _ ≤ n * 2 ^ (52 - l) := Nat.mul_le_mul_right _ hlow
  have hbelow : n * 2 ^ (52 - l) < 2 * fractionCount := by
    calc n * 2 ^ (52 - l) < 2 ^ (l + 1) * 2 ^ (52 - l) :=
          Nat.mul_lt_mul_of_pos_right hhigh (Nat.two_pow_pos _)
      _ = 2 * fractionCount := by rw [pow_succ, mul_right_comm, hpow]; rfl
  refine ⟨⟨l + 1023, by omega⟩, ⟨n * 2 ^ (52 - l) - fractionCount, by omega⟩, ?_⟩
  have hscale : scale ⟨l + 1023, by omega⟩ = -((52 - l : ℕ) : ℤ) := by
    unfold scale
    simp only
    omega
  simp only [toRat?, hscale, twoPow_eq, significand]
  rw [if_neg (by simp), if_neg (by simp), Nat.add_sub_cancel' hfrom, zpow_neg, zpow_natCast]
  push_cast
  rw [mul_inv_cancel_right₀ (by positivity)]

theorem toRat?_ofRat_natCast {n : ℕ} (hlt : n < 2 ^ 53) (negativeZero : Bool) :
    (ofRat n negativeZero).toRat? = some (n : ℚ) := by
  rw [ofRat, Rat.num_natCast, Rat.den_natCast, Int.natAbs_natCast]
  by_cases hn : n = 0
  · subst hn
    cases negativeZero <;> decide +kernel
  · obtain ⟨exponent, fraction, hfinite⟩ := exists_toRat?_eq_natCast hn hlt
    have hpos : (0 : ℚ) < n := by exact_mod_cast Nat.pos_of_ne_zero hn
    have hround : ofRatio false n 1 = finite false exponent fraction := by
      refine ofRatio_near hfinite hpos Nat.one_ne_zero ?_
      simp only [Nat.cast_one, div_one, sub_self, abs_zero]
      positivity
    have hsign : (if (n : ℤ) = 0 then negativeZero else decide ((n : ℤ) < 0)) = false := by
      rw [if_neg (by exact_mod_cast hn)]
      simp
    rw [hsign, hround, hfinite]

/-- A number from `2⁵³` on is rounded to one from there on. -/
theorem le_of_toRat?_ofRat {q p : ℚ} {negativeZero : Bool} (h : 2 ^ 53 ≤ q)
    (hp : (ofRat q negativeZero).toRat? = some p) : 2 ^ 53 ≤ p := by
  have hpos : 0 < q := lt_of_lt_of_le (by norm_num) h
  have hnum : 0 < q.num := Rat.num_pos.mpr hpos
  have hn : q.num.natAbs ≠ 0 := Int.natAbs_ne_zero.mpr hnum.ne'
  have hsign : (if q.num = 0 then negativeZero else decide (q.num < 0)) = false := by
    rw [if_neg hnum.ne']
    simp [hpos.le]
  have hlog : 53 ≤ floorLog2 q.num.natAbs q.den := by
    rw [le_floorLog2_iff hn q.den_nz, natAbs_num_div_den hpos.le]
    exact_mod_cast h
  have hunit : unitOf q.num.natAbs q.den = floorLog2 q.num.natAbs q.den - 52 := by
    unfold unitOf
    omega
  have hsteps := le_stepsAt_floorLog2 hn q.den_nz
  rw [ofRat, hsign, ofRatio_eq hn, hunit] at hp
  generalize floorLog2 q.num.natAbs q.den = l at hlog hsteps hp
  generalize stepsAt q.num.natAbs q.den (l - 52) = steps at hsteps hp
  have hrank : 1076 * fractionCount ≤ (l - 52 + 1074).toNat * fractionCount + steps := by
    have : 1075 * fractionCount ≤ (l - 52 + 1074).toNat * fractionCount :=
      Nat.mul_le_mul_right _ (by omega)
    have hcount : fractionCount = 2 ^ 52 := rfl
    omega
  generalize (l - 52 + 1074).toNat * fractionCount + steps = rank at hrank hp
  have hexponent : 1076 ≤ rank / fractionCount :=
    (Nat.le_div_iff_mul_le (by decide)).mpr hrank
  unfold ofRank at hp
  split at hp
  · rename_i hlt
    have hscale : 1 ≤ scale ⟨rank / fractionCount, hlt⟩ := by
      unfold scale
      simp only
      omega
    have hsignificand : 2 ^ 52 ≤ significand ⟨rank / fractionCount, hlt⟩
        ⟨rank % fractionCount, Nat.mod_lt _ (by decide)⟩ := by
      unfold significand
      rw [if_neg (by simp only; omega)]
      exact Nat.le_add_right _ _
    have hvalue := Option.some.inj hp
    rw [twoPow_eq, if_neg (by decide)] at hvalue
    calc (2 : ℚ) ^ 53 = (2 ^ 52 : ℕ) * 2 ^ (1 : ℤ) := by norm_num
      _ ≤ _ := mul_le_mul (by exact_mod_cast hsignificand)
          (zpow_le_zpow_right₀ one_le_two hscale) (by positivity) (by positivity)
      _ = p := hvalue
  · cases hp

theorem toRat?_one : (ofRat 1).toRat? = some 1 := by decide +kernel

/-- A product with one is rounded, but not changed otherwise. -/
theorem exists_mul_one {x : Binary64} {q : ℚ} (hx : x.toRat? = some q) :
    ∃ negativeZero, x.mul (ofRat 1) = ofRat q negativeZero := by
  refine ⟨x.isNegative != (ofRat 1).isNegative, ?_⟩
  unfold mul
  rw [hx, toRat?_one]
  exact congrArg (ofRat · _) (mul_one q)

theorem toRat?_natCast_mul_one {n : ℕ} (hlt : n < 2 ^ 53) :
    ((ofRat n).mul (ofRat 1)).toRat? = some (n : ℚ) := by
  obtain ⟨negativeZero, hmul⟩ := exists_mul_one (toRat?_ofRat_natCast hlt false)
  rw [hmul, toRat?_ofRat_natCast hlt]

theorem le_of_toRat?_mul_one {q p : ℚ} (h : 2 ^ 53 ≤ q)
    (hp : ((ofRat q).mul (ofRat 1)).toRat? = some p) : 2 ^ 53 ≤ p := by
  cases hq : (ofRat q).toRat? with
  | some near =>
    obtain ⟨negativeZero, hmul⟩ := exists_mul_one hq
    rw [hmul] at hp
    exact le_of_toRat?_ofRat (le_of_toRat?_ofRat h hq) hp
  | none =>
    unfold mul at hp
    rw [hq] at hp
    dsimp only at hp
    split at hp <;> cases hp

end Binary64

end ImageWorkflow
