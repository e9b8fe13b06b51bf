import Mathlib
import ImageWorkflow.Number.Shortest
import ImageWorkflow.Proofs.Rounding

/-!
# Shortest decimals

* `Decimal.le_magnitude` : the first digit of a number is looked for at the right place;
* `Decimal.exists_candidate` : among the decimals with seventeen digits there is one that is rounded
  to a given number, for they are less than one part in `2⁵⁴` of it apart;
* `Decimal.ofRat_shortest` : the shortest decimal of a positive number is rounded to that number;
* `Binary64.ofDecimal_shortest` : so is, with either sign, each decimal of that value.
-/

namespace ImageWorkflow

namespace Decimal
variable {q : ℚ} {x : Binary64} {d : Decimal}

/-! ## Magnitude -/

/-- A ratio `a / c` just above the logarithm of two, so the power of ten that it gives for a power
of two is at most ten times too large. -/
theorem ten_zpow_le {a c : ℕ} (hc : c ≠ 0) (hlow : 2 ^ c ≤ 10 ^ a) (hhigh : 10 ^ a ≤ 2 ^ (c + 1))
    {k e : ℤ} (hk : k ≤ c) (he : c * e ≤ a * k) : (10 : ℚ) ^ (e - 1) ≤ 2 ^ k := by
  have hten : (10 : ℚ) ≠ 0 := by norm_num
  have hlow' : (2 : ℚ) ^ c ≤ 10 ^ a := by exact_mod_cast hlow
  have hhigh' : (10 : ℚ) ^ a ≤ 2 ^ (c + 1) := by exact_mod_cast hhigh
  refine le_of_pow_le_pow_left₀ hc (by positivity) ?_
  calc ((10 : ℚ) ^ (e - 1)) ^ c = 10 ^ ((e - 1) * c) := by rw [← zpow_natCast, ← zpow_mul]
    _ ≤ 10 ^ (a * k + -c : ℤ) := zpow_le_zpow_right₀ (by norm_num) (by linarith)
    _ = ((10 : ℚ) ^ a) ^ k * 10 ^ (-c : ℤ) := by rw [zpow_add₀ hten, zpow_mul, zpow_natCast]
    _ ≤ (2 ^ k) ^ c := ?_
  rcases le_or_gt 0 k with hpos | hneg
  · calc ((10 : ℚ) ^ a) ^ k * 10 ^ (-c : ℤ)
        ≤ ((2 : ℚ) ^ (c + 1)) ^ k * 2 ^ (-c : ℤ) := by
          refine mul_le_mul (zpow_le_zpow_left₀ hpos (by positivity) hhigh') ?_ (by positivity)
            (by positivity)
          rw [zpow_neg, zpow_neg, zpow_natCast, zpow_natCast]
          exact inv_anti₀ (by positivity) (pow_le_pow_left₀ (by norm_num) (by norm_num) c)
      _ = 2 ^ (c * k + (k + -c) : ℤ) := by
          rw [← zpow_natCast, ← zpow_mul, ← zpow_add₀ two_ne_zero]
          congr 1
          push_cast
          ring
      _ ≤ 2 ^ (c * k : ℤ) := zpow_le_zpow_right₀ (by norm_num) (by linarith)
      _ = (2 ^ k) ^ c := by rw [mul_comm, zpow_mul, zpow_natCast]
  · obtain ⟨n, rfl⟩ : ∃ n : ℕ, k = -n := ⟨(-k).toNat, by omega⟩
    have hn : ((10 : ℚ) ^ a) ^ (-n : ℤ) ≤ ((2 : ℚ) ^ c) ^ (-n : ℤ) := by
      rw [zpow_neg, zpow_neg, zpow_natCast, zpow_natCast]
      exact inv_anti₀ (by positivity) (pow_le_pow_left₀ (by positivity) hlow' n)
    calc ((10 : ℚ) ^ a) ^ (-n : ℤ) * 10 ^ (-c : ℤ)
        ≤ ((2 : ℚ) ^ c) ^ (-n : ℤ) * 1 :=
          mul_le_mul hn (zpow_le_one_of_nonpos₀ (by norm_num) (by omega)) (by positivity)
            (by positivity)
      _ = (2 ^ (-n : ℤ)) ^ c := by
          rw [mul_one, ← zpow_natCast, ← zpow_natCast, ← zpow_mul, ← zpow_mul, mul_comm]

theorem le_magnitudeFrom (fuel : ℕ) {p : ℤ} (h : (10 : ℚ) ^ (p - 1) ≤ q) :
    (10 : ℚ) ^ (magnitudeFrom q fuel p - 1) ≤ q := by
  induction fuel generalizing p with
  | zero => exact h
  | succ fuel ih =>
    rw [magnitudeFrom, tenPow_eq]
    split
    · exact h
    · rename_i hp
      refine ih ?_
      rw [add_sub_cancel_right]
      exact not_lt.mp hp

theorem le_magnitude (hpos : 0 < q) (hlt : q < 2 ^ (1024 : ℤ)) :
    (10 : ℚ) ^ (magnitude q - 1) ≤ q := by
  have hnum : q.num.natAbs ≠ 0 := by
    have := Rat.num_pos.mpr hpos
    omega
  have hbelow := (Binary64.zpow_log2_bounds hnum q.den_nz).1
  rw [natAbs_num_div_den hpos.le] at hbelow
  refine le_magnitudeFrom 4 (le_trans ?_ hbelow.le)
  have hexp := (zpow_lt_zpow_iff_right₀ (one_lt_two (α := ℚ))).mp (hbelow.trans hlt)
  generalize (q.num.natAbs.log2 : ℤ) - q.den.log2 - 1 = k at hexp ⊢
  have hfloor : 100000 * (k * 30103).fdiv 100000 ≤ 30103 * k := by
    have := Int.mul_fdiv_add_fmod (k * 30103) 100000
    have := Int.fmod_nonneg_of_pos (k * 30103) (by norm_num : (0 : ℤ) < 100000)
    omega
  exact ten_zpow_le (by norm_num) (by decide +kernel : 2 ^ 100000 ≤ 10 ^ 30103)
    (by decide +kernel : 10 ^ 30103 ≤ 2 ^ (100000 + 1)) (by push_cast; omega)
    (by exact_mod_cast hfloor)

/-! ## Candidates -/

theorem roundEven_toNat (h : 0 ≤ q) : (roundEven q).toNat = divHalfEven q.num.natAbs q.den := by
  have hnum : ¬ q.num < 0 := not_lt.mpr (Rat.num_nonneg.mpr h)
  simp only [roundEven, if_neg hnum, Int.toNat_natCast]

theorem abs_roundEven_sub_le (h : 0 ≤ q) : |((roundEven q).toNat : ℚ) - q| ≤ 1 / 2 := by
  have hnear := abs_divHalfEven_sub_le q.num.natAbs q.den_pos
  rwa [natAbs_num_div_den h, ← roundEven_toNat h] at hnear

theorem ofRat_of_nonneg (h : 0 ≤ q) :
    Binary64.ofRat q = Binary64.ofRatio false q.num.natAbs q.den := by
  have hsign : (if q.num = 0 then false else decide (q.num < 0)) = false := by
    have : ¬ q.num < 0 := not_lt.mpr (Rat.num_nonneg.mpr h)
    simp [this]
  rw [Binary64.ofRat, hsign]

/-- Half a unit of the seventeenth digit is less than one part in `2⁵⁴`. -/
theorem abs_roundEven_mul_sub_lt {power : ℤ} (hpos : 0 < q)
    (hpower : (10 : ℚ) ^ power * 10 ^ 16 ≤ q) :
    |((roundEven (q / tenPow power)).toNat : ℚ) * 10 ^ power - q| < q / 2 ^ 54 := by
  have hunit : (0 : ℚ) < 10 ^ power := by positivity
  have hsteps := abs_roundEven_sub_le (q := q / tenPow power) (by rw [tenPow_eq]; positivity)
  generalize (roundEven (q / tenPow power)).toNat = near at hsteps
  have hscale : (near : ℚ) * 10 ^ power - q = (near - q / tenPow power) * 10 ^ power := by
    rw [tenPow_eq, sub_mul, div_mul_cancel₀ _ hunit.ne']
  rw [hscale, abs_mul, abs_of_pos hunit]
  refine (mul_le_mul_of_nonneg_right hsteps hunit.le).trans_lt ?_
  norm_num
  linarith

/-- The nearest decimal with seventeen digits is a candidate. -/
theorem exists_candidate {exponent : Fin 2047} {fraction : Fin fractionCount}
    (hx : (Binary64.finite false exponent fraction).toRat? = some q) (hpos : 0 < q)
    (hmag : (10 : ℚ) ^ (magnitude q - 1) ≤ q) :
    ∃ d, (candidates q (.finite false exponent fraction) 17).head? = some d := by
  let power := magnitude q - (17 : ℕ)
  let near := (roundEven (q / tenPow power)).toNat
  have hpower : (10 : ℚ) ^ power * 10 ^ 16 ≤ q := by
    refine le_of_eq_of_le ?_ hmag
    rw [← zpow_natCast, ← zpow_add₀ (by norm_num)]
    congr 1
    simp only [power]
    push_cast
    ring
  have hround : Binary64.ofRat (Decimal.toRat ⟨near, power⟩) = .finite false exponent fraction := by
    rw [ofRat_of_nonneg (toRat_nonneg _)]
    refine Binary64.ofRatio_near hx hpos (Rat.den_nz _) ?_
    rw [natAbs_num_div_den (toRat_nonneg _), toRat, tenPow_eq]
    exact abs_roundEven_mul_sub_lt hpos hpower
  refine ⟨⟨near, power⟩, ?_⟩
  have hkept : decide (Binary64.ofRat (Decimal.toRat ⟨near, power⟩) =
      .finite false exponent fraction) = true := decide_eq_true hround
  exact congrArg List.head? (List.filter_cons_of_pos (p := fun d : Decimal => decide
    (Binary64.ofRat d.toRat = .finite false exponent fraction)) hkept)

/-! ## The shortest -/

theorem ofRat_of_mem_candidates {count : ℕ} (h : d ∈ candidates q x count) :
    Binary64.ofRat d.toRat = x :=
  of_decide_eq_true (List.mem_filter.mp h).2

theorem ofRat_shortest {exponent : Fin 2047} {fraction : Fin fractionCount}
    (hx : (Binary64.finite false exponent fraction).toRat? = some q) (hpos : 0 < q) :
    Binary64.ofRat (shortest q (.finite false exponent fraction)).toRat =
      .finite false exponent fraction := by
  have hlt : q < 2 ^ (1024 : ℤ) := by
    have habs := Binary64.abs_toRat_le hx
    have hmax : (Binary64.maxFinite : ℚ) < 2 ^ (53 + Binary64.maxScale) := by
      exact_mod_cast Binary64.maxFinite_lt
    rw [Binary64.maxScale_eq, ← zpow_natCast] at hmax
    exact ((le_abs_self q).trans habs).trans_lt hmax
  obtain ⟨d, hd⟩ := exists_candidate hx hpos (le_magnitude hpos hlt)
  unfold shortest
  split
  · rename_i d' hfound
    obtain ⟨k, -, hk⟩ := List.exists_of_findSome?_eq_some hfound
    exact ofRat_of_mem_candidates (List.mem_of_mem_head? hk)
  · rename_i hnone
    have := List.findSome?_eq_none_iff.mp hnone 16 (by simp)
    rw [hd] at this
    cases this

theorem shortest_digits_ne_zero {exponent : Fin 2047} {fraction : Fin fractionCount}
    (hx : (Binary64.finite false exponent fraction).toRat? = some q) (hpos : 0 < q) :
    (shortest q (.finite false exponent fraction)).digits ≠ 0 := by
  intro hzero
  have hround := ofRat_shortest hx hpos
  have hrat : (shortest q (.finite false exponent fraction)).toRat = 0 := by
    rw [toRat, hzero, Nat.cast_zero, zero_mul]
  have hself : Binary64.ofRat 0 = .signedZero false := rfl
  rw [hrat, hself] at hround
  rw [← hround] at hx
  have : q = 0 := by
    rw [← Option.some.inj hx]
    simp [Binary64.significand]
  exact hpos.ne' this

end Decimal

namespace Binary64

theorem ofRatio_of_unsigned {num den : ℕ} {exponent : Fin 2047} {fraction : Fin fractionCount}
    (h : ofRatio false num den = finite false exponent fraction) (negative : Bool) :
    ofRatio negative num den = finite negative exponent fraction := by
  by_cases hzero : num = 0
  · rw [ofRatio, if_pos hzero] at h ⊢
    cases h
    rfl
  · rw [ofRatio_eq hzero] at h ⊢
    unfold ofRank at h ⊢
    split at h
    · rename_i hrank
      rw [dif_pos hrank]
      cases h
      rfl
    · cases h

/-- A decimal of the value of a number's shortest is rounded to the number. -/
theorem ofDecimal_shortest {exponent : Fin 2047} {fraction : Fin fractionCount} {q : ℚ}
    {d : Decimal} (hx : (finite false exponent fraction).toRat? = some q) (hpos : 0 < q)
    (hd : d.toRat = (Decimal.shortest q (.finite false exponent fraction)).toRat)
    (negative : Bool) : ofDecimal negative d = finite negative exponent fraction := by
  rw [ofDecimal_eq, hd]
  refine ofRatio_of_unsigned ?_ negative
  rw [← Decimal.ofRat_of_nonneg (Decimal.toRat_nonneg _)]
  exact Decimal.ofRat_shortest hx hpos

end Binary64

end ImageWorkflow
