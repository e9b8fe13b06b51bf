import Mathlib
import ImageWorkflow.Number.Decimal
import ImageWorkflow.Proofs.FiniteRange

/-!
# Rounding to the nearest binary number

* `twoPow_eq`, `tenPow_eq` : the powers of the number formats as powers of the field of rationals;
* `abs_divHalfEven_sub_le` : the nearest integer to a quotient is within a half of it;
* `Binary64.twoPow_floorLog2_le`, `Binary64.lt_twoPow_floorLog2` : the binade of a quotient;
* `Binary64.ofRatio_eq_signedZero`, `Binary64.ofRatio_eq_infinity` : quotients that are too small or
  too large for the format;
* `Binary64.ofRatio_near` : a quotient that differs from a number by less than one part in `2⁵⁴` of
  it is rounded to that number;
* `Binary64.ofDecimal_eq` : a decimal is rounded as the quotient that it is; that its size alone may
  settle it changes nothing.
-/

namespace ImageWorkflow

theorem twoPow_eq (k : Int) : twoPow k = (2 : ℚ) ^ k := by
  unfold twoPow
  split
  · rename_i h
    lift k to ℕ using h
    rw [zpow_natCast, Int.toNat_natCast]
    exact Nat.cast_pow 2 k
  · obtain ⟨n, rfl⟩ : ∃ n : ℕ, k = -n := ⟨(-k).toNat, by omega⟩
    rw [neg_neg, Int.toNat_natCast, zpow_neg, zpow_natCast, one_div]
    exact congrArg _ (Nat.cast_pow 2 n)

theorem tenPow_eq (k : Int) : tenPow k = (10 : ℚ) ^ k := by
  unfold tenPow
  split
  · rename_i h
    lift k to ℕ using h
    rw [zpow_natCast, Int.toNat_natCast]
    exact Nat.cast_pow 10 k
  · obtain ⟨n, rfl⟩ : ∃ n : ℕ, k = -n := ⟨(-k).toNat, by omega⟩
    rw [neg_neg, Int.toNat_natCast, zpow_neg, zpow_natCast, one_div]
    exact congrArg _ (Nat.cast_pow 10 n)

theorem natAbs_num_div_den {q : ℚ} (h : 0 ≤ q) : (q.num.natAbs : ℚ) / q.den = q := by
  rw [← Int.cast_natCast, Int.natAbs_of_nonneg (Rat.num_nonneg.mpr h)]
  exact Rat.num_div_den q

/-! ## The nearest integer -/

/-- Twice the error, in units of the denominator. -/
theorem divHalfEven_bounds (num : ℕ) {den : ℕ} (hd : 0 < den) :
    2 * num ≤ (2 * divHalfEven num den + 1) * den ∧
      2 * divHalfEven num den * den ≤ 2 * num + den := by
  have hnum : num = den * (num / den) + num % den := (Nat.div_add_mod num den).symm
  have hmod : num % den < den := Nat.mod_lt num hd
  simp only [divHalfEven]
  generalize num / den = quotient at hnum ⊢
  generalize num % den = rest at hnum hmod ⊢
  subst hnum
  split
  · constructor <;> nlinarith
  · split
    · constructor <;> nlinarith
    · have hrest : 2 * rest = den := by omega
      have hparity : quotient % 2 * den ≤ 1 * den := Nat.mul_le_mul_right _ (by omega)
      have hnonneg : 0 ≤ quotient % 2 * den := Nat.zero_le _
      constructor <;> nlinarith

theorem abs_divHalfEven_sub_le (num : ℕ) {den : ℕ} (hd : 0 < den) :
    |(divHalfEven num den : ℚ) - num / den| ≤ 1 / 2 := by
  obtain ⟨hlow, hhigh⟩ := divHalfEven_bounds num hd
  have hd' : (0 : ℚ) < den := by exact_mod_cast hd
  have hlow' : 2 * (num : ℚ) ≤ (2 * divHalfEven num den + 1) * den := by exact_mod_cast hlow
  have hhigh' : 2 * (divHalfEven num den : ℚ) * den ≤ 2 * num + den := by exact_mod_cast hhigh
  rw [abs_le]
  constructor
  · rw [neg_le_sub_iff_le_add, div_le_iff₀ hd']
    linarith
  · rw [sub_le_iff_le_add, ← sub_le_iff_le_add', le_div_iff₀ hd']
    linarith

/-- An integer that is less than a half away is the nearest. -/
theorem divHalfEven_eq {num den m : ℕ} (hd : 0 < den) (h : |(num : ℚ) / den - m| < 1 / 2) :
    divHalfEven num den = m := by
  have hnear := abs_divHalfEven_sub_le num hd
  have hsum : |(divHalfEven num den : ℚ) - m| < 1 := by
    calc |(divHalfEven num den : ℚ) - m|
        ≤ |(divHalfEven num den : ℚ) - num / den| + |(num : ℚ) / den - m| := abs_sub_le _ _ _
      _ < 1 := by linarith
  have hint : |(divHalfEven num den : ℤ) - m| < 1 := by exact_mod_cast hsum
  have := Int.abs_lt_one_iff.mp hint
  omega

namespace Binary64
variable {num den : ℕ} {negative : Bool}

/-! ## Binades -/

/-- The exponent of a quotient's binade is found by comparing with a power of two. -/
theorem floorLog2_reached (num : ℕ) {den : ℕ} (hd : den ≠ 0) (k : ℤ) :
    (if 0 ≤ k then den * Nat.pow 2 k.toNat ≤ num else den ≤ num * Nat.pow 2 (-k).toNat) ↔
      (2 : ℚ) ^ k ≤ (num : ℚ) / den := by
  have hd' : (0 : ℚ) < den := by exact_mod_cast Nat.pos_of_ne_zero hd
  rw [le_div_iff₀ hd']
  split
  · rename_i h
    lift k to ℕ using h
    rw [Int.toNat_natCast, zpow_natCast, mul_comm den]
    exact_mod_cast Iff.rfl
  · obtain ⟨n, rfl⟩ : ∃ n : ℕ, k = -n := ⟨(-k).toNat, by omega⟩
    rw [neg_neg, Int.toNat_natCast, zpow_neg, zpow_natCast, inv_mul_le_iff₀ (by positivity),
      mul_comm num]
    exact_mod_cast Iff.rfl

/-- The difference of the logarithms is off by less than one. -/
theorem zpow_log2_bounds (hn : num ≠ 0) (hd : den ≠ 0) :
    (2 : ℚ) ^ ((num.log2 : ℤ) - den.log2 - 1) < (num : ℚ) / den ∧
      (num : ℚ) / den < (2 : ℚ) ^ ((num.log2 : ℤ) - den.log2 + 1) := by
  have hd' : (0 : ℚ) < den := by exact_mod_cast Nat.pos_of_ne_zero hd
  have hnum : (2 : ℚ) ^ num.log2 ≤ num := by exact_mod_cast Nat.log2_self_le hn
  have hnum' : (num : ℚ) < 2 ^ (num.log2 + 1) := by exact_mod_cast Nat.lt_log2_self
  have hden : (2 : ℚ) ^ den.log2 ≤ den := by exact_mod_cast Nat.log2_self_le hd
  have hden' : (den : ℚ) < 2 ^ (den.log2 + 1) := by exact_mod_cast Nat.lt_log2_self
  constructor
  · rw [lt_div_iff₀ hd']
    calc (2 : ℚ) ^ ((num.log2 : ℤ) - den.log2 - 1) * den
        < (2 : ℚ) ^ ((num.log2 : ℤ) - den.log2 - 1) * 2 ^ (den.log2 + 1) :=
          mul_lt_mul_of_pos_left hden' (by positivity)
      _ = 2 ^ num.log2 := by
          rw [← zpow_natCast, ← zpow_add₀ two_ne_zero, ← zpow_natCast]
          congr 1
          push_cast
          ring
      _ ≤ num := hnum
  · rw [div_lt_iff₀ hd']
    calc (num : ℚ) < 2 ^ (num.log2 + 1) := hnum'
      _ = (2 : ℚ) ^ ((num.log2 : ℤ) - den.log2 + 1) * 2 ^ den.log2 := by
          rw [← zpow_natCast, ← zpow_natCast, ← zpow_add₀ two_ne_zero]
          congr 1
          push_cast
          ring
      _ ≤ (2 : ℚ) ^ ((num.log2 : ℤ) - den.log2 + 1) * den :=
          mul_le_mul_of_nonneg_left hden (by positivity)

theorem twoPow_floorLog2_le (hn : num ≠ 0) (hd : den ≠ 0) :
    (2 : ℚ) ^ floorLog2 num den ≤ (num : ℚ) / den := by
  have hreached := floorLog2_reached num hd (num.log2 - den.log2)
  simp only [floorLog2]
  by_cases h : (2 : ℚ) ^ ((num.log2 : ℤ) - den.log2) ≤ (num : ℚ) / den
  · rwa [if_pos (hreached.mpr h)]
  · rw [if_neg (mt hreached.mp h)]
    exact (zpow_log2_bounds hn hd).1.le

theorem lt_twoPow_floorLog2 (hn : num ≠ 0) (hd : den ≠ 0) :
    (num : ℚ) / den < (2 : ℚ) ^ (floorLog2 num den + 1) := by
  have hreached := floorLog2_reached num hd (num.log2 - den.log2)
  simp only [floorLog2]
  by_cases h : (2 : ℚ) ^ ((num.log2 : ℤ) - den.log2) ≤ (num : ℚ) / den
  · rw [if_pos (hreached.mpr h)]
    exact (zpow_log2_bounds hn hd).2
  · rw [if_neg (mt hreached.mp h), sub_add_cancel]
    exact not_le.mp h

/-- A quotient's binade is the one between two powers of two. -/
theorem le_floorLog2_iff (hn : num ≠ 0) (hd : den ≠ 0) {k : ℤ} :
    k ≤ floorLog2 num den ↔ (2 : ℚ) ^ k ≤ (num : ℚ) / den := by
  constructor
  · intro h
    exact (zpow_le_zpow_right₀ one_le_two h).trans (twoPow_floorLog2_le hn hd)
  · intro h
    have := (zpow_lt_zpow_iff_right₀ one_lt_two).mp (h.trans_lt (lt_twoPow_floorLog2 hn hd))
    omega

/-! ## Steps -/

/-- The number of steps of size `2 ^ unit` that is nearest to a quotient. -/
def stepsAt (num den : ℕ) (unit : ℤ) : ℕ :=
  if 0 ≤ unit then divHalfEven num (den * Nat.pow 2 unit.toNat)
  else divHalfEven (num * Nat.pow 2 (-unit).toNat) den

/-- The exponent of the step in a quotient's binade. -/
def unitOf (num den : ℕ) : ℤ := max (-1074) (floorLog2 num den - 52)

theorem ofRatio_eq (hn : num ≠ 0) : ofRatio negative num den =
    ofRank negative ((unitOf num den + 1074).toNat * fractionCount +
      stepsAt num den (unitOf num den)) := if_neg hn

/-- Steps are a quotient that is rounded. -/
theorem exists_stepsAt (num : ℕ) (hd : den ≠ 0) (unit : ℤ) : ∃ n d, 0 < d ∧
    stepsAt num den unit = divHalfEven n d ∧ (n : ℚ) / d = (num : ℚ) / den / 2 ^ unit := by
  have hpos : 0 < den := Nat.pos_of_ne_zero hd
  unfold stepsAt
  split
  · rename_i h
    lift unit to ℕ using h
    refine ⟨_, _, Nat.mul_pos hpos (Nat.pow_pos (by decide)), rfl, ?_⟩
    rw [Int.toNat_natCast, zpow_natCast, div_div]
    push_cast
    rfl
  · obtain ⟨n, rfl⟩ : ∃ n : ℕ, unit = -n := ⟨(-unit).toNat, by omega⟩
    refine ⟨_, _, hpos, rfl, ?_⟩
    have hpow : ((Nat.pow 2 n : ℕ) : ℚ) = 2 ^ n := Nat.cast_pow 2 n
    rw [neg_neg, Int.toNat_natCast, zpow_neg, zpow_natCast, div_inv_eq_mul, Nat.cast_mul, hpow,
      div_mul_eq_mul_div]

theorem stepsAt_eq {unit : ℤ} {m : ℕ} (hd : den ≠ 0)
    (h : |(num : ℚ) / den - m * 2 ^ unit| < 2 ^ unit / 2) : stepsAt num den unit = m := by
  obtain ⟨n, d, hpos, hsteps, hq⟩ := exists_stepsAt num hd unit
  rw [hsteps]
  refine divHalfEven_eq hpos ?_
  have hunit : (0 : ℚ) < 2 ^ unit := by positivity
  have hscale : (num : ℚ) / den / 2 ^ unit - m = ((num : ℚ) / den - m * 2 ^ unit) / 2 ^ unit := by
    rw [sub_div, mul_div_cancel_right₀ _ hunit.ne']
  rw [hq, hscale, abs_div, abs_of_pos hunit, div_lt_iff₀ hunit]
  linarith

theorem le_stepsAt {unit : ℤ} {m : ℕ} (hd : den ≠ 0) (h : (m : ℚ) * 2 ^ unit ≤ (num : ℚ) / den) :
    m ≤ stepsAt num den unit := by
  obtain ⟨n, d, hpos, hsteps, hq⟩ := exists_stepsAt num hd unit
  have hunit : (0 : ℚ) < 2 ^ unit := by positivity
  have hnear := (abs_le.mp (abs_divHalfEven_sub_le n hpos)).1
  rw [← hsteps, hq] at hnear
  have hm : (m : ℚ) ≤ (num : ℚ) / den / 2 ^ unit := (le_div_iff₀ hunit).mpr h
  have hlt : (m : ℚ) < stepsAt num den unit + 1 := by linarith
  have : m < stepsAt num den unit + 1 := by exact_mod_cast hlt
  omega

/-- A quotient has at least `2⁵²` steps of the size that goes with its binade. -/
theorem le_stepsAt_floorLog2 (hn : num ≠ 0) (hd : den ≠ 0) :
    2 ^ 52 ≤ stepsAt num den (floorLog2 num den - 52) := by
  refine le_stepsAt hd (le_of_eq_of_le ?_ (twoPow_floorLog2_le hn hd))
  rw [Nat.cast_pow, Nat.cast_ofNat, ← zpow_natCast, ← zpow_add₀ two_ne_zero]
  congr 1
  omega

/-! ## Out of range -/

theorem ofRatio_eq_signedZero (hd : den ≠ 0) (h : (num : ℚ) / den < 2 ^ (-1075 : ℤ)) :
    ofRatio negative num den = signedZero negative := by
  by_cases hn : num = 0
  · exact if_pos hn
  have hlog : floorLog2 num den < -1075 :=
    not_le.mp (mt (le_floorLog2_iff hn hd).mp (not_le.mpr h))
  have hunit : unitOf num den = -1074 := by
    unfold unitOf
    omega
  have hsteps : stepsAt num den (-1074) = 0 := by
    refine stepsAt_eq hd ?_
    rw [Nat.cast_zero, zero_mul, sub_zero, abs_of_nonneg (by positivity)]
    have hhalf : (2 : ℚ) ^ (-1075 : ℤ) = 2 ^ (-1074 : ℤ) / 2 := by
      rw [div_eq_mul_inv, ← zpow_sub_one₀ two_ne_zero]
      rfl
    exact h.trans_eq hhalf
  rw [ofRatio_eq hn, hunit, hsteps]
  rfl

theorem ofRatio_eq_infinity (hd : den ≠ 0) (h : (2 : ℚ) ^ (1024 : ℤ) ≤ (num : ℚ) / den) :
    ofRatio negative num den = infinity negative := by
  have hn : num ≠ 0 := by
    rintro rfl
    rw [Nat.cast_zero, zero_div] at h
    exact absurd h (not_le.mpr (by positivity))
  have hlog : 1024 ≤ floorLog2 num den := (le_floorLog2_iff hn hd).mpr h
  have hunit : unitOf num den = floorLog2 num den - 52 := by
    unfold unitOf
    omega
  have hsteps := le_stepsAt_floorLog2 hn hd
  have hcount : fractionCount = 4503599627370496 := rfl
  rw [ofRatio_eq hn, hunit, ofRank, dif_neg]
  rw [not_lt, Nat.le_div_iff_mul_le (by decide)]
  have : 2046 * fractionCount ≤ (floorLog2 num den - 52 + 1074).toNat * fractionCount :=
    Nat.mul_le_mul_right _ (by omega)
  omega

/-! ## Near a number -/

/-- The place of a number in the order, from its significand and scale. -/
theorem ofRank_significand (exponent : Fin 2047) (fraction : Fin fractionCount) :
    ofRank negative ((scale exponent + 1074).toNat * fractionCount +
      significand exponent fraction) = finite negative exponent fraction := by
  have hrank : (scale exponent + 1074).toNat * fractionCount + significand exponent fraction =
      exponent.val * fractionCount + fraction.val := by
    have hscale : (scale exponent + 1074).toNat = exponent.val - 1 := by
      unfold scale
      omega
    rw [hscale]
    unfold significand
    split
    · rename_i h
      rw [h]
    · rename_i h
      obtain ⟨e, he⟩ : ∃ e, exponent.val = e + 1 := ⟨exponent.val - 1, by omega⟩
      rw [he, Nat.add_sub_cancel, Nat.succ_mul, Nat.add_assoc]
  have hdiv : (exponent.val * fractionCount + fraction.val) / fractionCount = exponent.val := by
    rw [Nat.mul_comm, Nat.mul_add_div (by decide), Nat.div_eq_of_lt fraction.isLt, Nat.add_zero]
  have hmod : (exponent.val * fractionCount + fraction.val) % fractionCount = fraction.val := by
    rw [Nat.mul_comm, Nat.mul_add_mod, Nat.mod_eq_of_lt fraction.isLt]
  rw [hrank, ofRank]
  simp only [hdiv, hmod, exponent.isLt, dif_pos]

/-- A significand is normal, or its scale is the least. -/
theorem significand_normal_or (exponent : Fin 2047) (fraction : Fin fractionCount) :
    2 ^ 52 ≤ significand exponent fraction ∨ scale exponent = -1074 := by
  unfold significand scale
  split
  · right
    omega
  · left
    have hcount : fractionCount = 2 ^ 52 := by decide
    omega

theorem neg_1074_le_scale (exponent : Fin 2047) : -1074 ≤ scale exponent := by
  unfold scale
  omega

theorem significand_add_one_le (exponent : Fin 2047) (fraction : Fin fractionCount) :
    (significand exponent fraction : ℚ) + 1 ≤ 2 ^ 53 := by
  have := significand_le exponent fraction
  exact_mod_cast (by omega : significand exponent fraction + 1 ≤ 2 ^ 53)

section Near
variable {exponent : Fin 2047} {fraction : Fin fractionCount} {q : ℚ}

theorem ne_zero_of_near (hpos : 0 < q) (h : |(num : ℚ) / den - q| < q / 2 ^ 54) : num ≠ 0 := by
  rintro rfl
  have := (abs_lt.mp h).1
  rw [Nat.cast_zero, zero_div] at this
  linarith

/-- A quotient near a number is in the number's binade, or below it if the number is the least one
of its binade. -/
theorem floorLog2_near (hq : (significand exponent fraction : ℚ) * 2 ^ scale exponent = q)
    (hpos : 0 < q) (hd : den ≠ 0) (h : |(num : ℚ) / den - q| < q / 2 ^ 54) :
    floorLog2 num den < scale exponent + 53 ∧
      (2 ^ 52 ≤ significand exponent fraction → scale exponent + 51 ≤ floorLog2 num den) ∧
      (2 ^ 52 < significand exponent fraction → scale exponent + 52 ≤ floorLog2 num den) := by
  obtain ⟨hlow, hhigh⟩ := abs_lt.mp h
  have hn := ne_zero_of_near hpos h
  have hunit : (0 : ℚ) < 2 ^ scale exponent := by positivity
  have hsig := significand_add_one_le exponent fraction
  refine ⟨not_le.mp fun hle => ?_, fun hnormal => ?_, fun hmore => ?_⟩
  · rw [le_floorLog2_iff hn hd, zpow_add₀ two_ne_zero] at hle
    norm_num at hle
    nlinarith
  · have hnormal' : (2 : ℚ) ^ 52 ≤ significand exponent fraction := by exact_mod_cast hnormal
    rw [le_floorLog2_iff hn hd, zpow_add₀ two_ne_zero]
    norm_num
    nlinarith
  · have hmore' : (2 : ℚ) ^ 52 + 1 ≤ significand exponent fraction := by exact_mod_cast hmore
    rw [le_floorLog2_iff hn hd, zpow_add₀ two_ne_zero]
    norm_num
    nlinarith

/-- A quotient near a number has steps of the number's scale; only at the least number of a binade
it may lie in the binade below. -/
theorem unitOf_near (hq : (significand exponent fraction : ℚ) * 2 ^ scale exponent = q)
    (hpos : 0 < q) (hd : den ≠ 0) (h : |(num : ℚ) / den - q| < q / 2 ^ 54) :
    unitOf num den = scale exponent ∨
      unitOf num den = scale exponent - 1 ∧ significand exponent fraction = 2 ^ 52 := by
  obtain ⟨habove, hnormal, hmore⟩ := floorLog2_near hq hpos hd h
  have hscale := neg_1074_le_scale exponent
  have hcases := significand_normal_or exponent fraction
  unfold unitOf
  omega

/-- A quotient that differs from a positive number by less than one part in `2⁵⁴` of it is rounded
to the number. -/
theorem ofRatio_near (hq : (finite false exponent fraction).toRat? = some q) (hpos : 0 < q)
    (hd : den ≠ 0) (h : |(num : ℚ) / den - q| < q / 2 ^ 54) :
    ofRatio negative num den = finite negative exponent fraction := by
  have hq' : (significand exponent fraction : ℚ) * 2 ^ scale exponent = q := by
    rw [← twoPow_eq]
    exact Option.some.inj hq
  have hunit : (0 : ℚ) < 2 ^ scale exponent := by positivity
  have hsig := significand_add_one_le exponent fraction
  rw [ofRatio_eq (ne_zero_of_near hpos h)]
  rcases unitOf_near hq' hpos hd h with hsame | ⟨hbelow, hleast⟩
  · have hsteps : stepsAt num den (scale exponent) = significand exponent fraction := by
      refine stepsAt_eq hd (hq' ▸ h.trans ?_)
      rw [← hq']
      nlinarith
    rw [hsame, hsteps, ofRank_significand]
  · -- In the binade below, the least number is twice as many steps of half the size.
    have hhalf : (2 : ℚ) ^ (scale exponent - 1) = 2 ^ scale exponent / 2 := by
      rw [zpow_sub₀ two_ne_zero, zpow_one]
    have hsteps : stepsAt num den (scale exponent - 1) = 2 ^ 53 := by
      refine stepsAt_eq hd ?_
      have hvalue : ((2 ^ 53 : ℕ) : ℚ) * 2 ^ (scale exponent - 1) = q := by
        rw [hhalf, ← hq', hleast]
        push_cast
        ring
      rw [hvalue, hhalf]
      refine h.trans_eq ?_
      rw [← hq', hleast]
      push_cast
      ring
    have hscale : -1074 ≤ scale exponent - 1 := by
      rw [← hbelow]
      exact le_max_left _ _
    have hto : (scale exponent + 1074).toNat = (scale exponent - 1 + 1074).toNat + 1 := by omega
    have hdouble : 2 ^ 53 = fractionCount + 2 ^ 52 := by decide
    rw [hbelow, hsteps, ← ofRank_significand exponent fraction, hleast, hto, Nat.succ_mul,
      Nat.add_assoc, hdouble]

end Near

end Binary64

/-! ## Decimals -/

theorem lt_pow_digitCount (n : ℕ) : n < 10 ^ digitCount n := by
  unfold digitCount
  split
  · omega
  · exact (Nat.length_toDigits_le_iff (by decide) Nat.length_toDigits_pos).mp le_rfl

theorem pow_digitCount_le {n : ℕ} (h : n ≠ 0) : 10 ^ (digitCount n - 1) ≤ n := by
  rw [digitCount, if_neg h]
  by_contra hlt
  rcases Nat.eq_zero_or_pos ((Nat.toDigits 10 n).length - 1) with hzero | hpos
  · rw [hzero] at hlt
    omega
  · have := (Nat.length_toDigits_le_iff (by decide) hpos).mpr (not_le.mp hlt)
    omega

theorem Decimal.toRat_nonneg (d : Decimal) : 0 ≤ d.toRat := by
  rw [toRat, tenPow_eq]
  positivity

/-- The place of a decimal's first digit says how large the decimal is. -/
theorem Decimal.toRat_bounds (d : Decimal) (h : d.digits ≠ 0) :
    (10 : ℚ) ^ (d.power + digitCount d.digits - 1) ≤ d.toRat ∧
      d.toRat < (10 : ℚ) ^ (d.power + digitCount d.digits) := by
  have hten : (10 : ℚ) ≠ 0 := by norm_num
  have hpow : (0 : ℚ) < 10 ^ d.power := by positivity
  have hcount : digitCount d.digits ≠ 0 := by
    intro hzero
    have := lt_pow_digitCount d.digits
    rw [hzero] at this
    omega
  rw [toRat, tenPow_eq]
  constructor
  · have hle : (10 : ℚ) ^ (digitCount d.digits - 1) ≤ d.digits := by
      exact_mod_cast pow_digitCount_le h
    have hsplit : d.power + digitCount d.digits - 1 =
        ((digitCount d.digits - 1 : ℕ) : ℤ) + d.power := by omega
    rw [hsplit, zpow_add₀ hten, zpow_natCast]
    exact mul_le_mul_of_nonneg_right hle hpow.le
  · have hlt : (d.digits : ℚ) < 10 ^ digitCount d.digits := by
      exact_mod_cast lt_pow_digitCount d.digits
    rw [add_comm, zpow_add₀ hten, zpow_natCast]
    exact mul_lt_mul_of_pos_right hlt hpow

theorem two_zpow_le_ten_zpow (n : ℕ) : (2 : ℚ) ^ (23 * n : ℤ) ≤ 10 ^ (7 * n : ℤ) := by
  rw [zpow_mul, zpow_mul, zpow_natCast, zpow_natCast]
  exact pow_le_pow_left₀ (by positivity) (by norm_num) n

/-- A decimal is rounded as the quotient that it is. -/
theorem Binary64.ofDecimal_eq (negative : Bool) (d : Decimal) :
    ofDecimal negative d = ofRatio negative d.toRat.num.natAbs d.toRat.den := by
  have hquotient := natAbs_num_div_den d.toRat_nonneg
  unfold ofDecimal
  simp only
  split
  · rename_i h
    by_cases hzero : d.digits = 0
    · have : d.toRat = 0 := by rw [Decimal.toRat, hzero, Nat.cast_zero, zero_mul]
      rw [this]
      rfl
    · have hplace := h.resolve_left hzero
      refine (ofRatio_eq_signedZero d.toRat.den_nz ?_).symm
      rw [hquotient]
      calc d.toRat < 10 ^ (d.power + digitCount d.digits) := (d.toRat_bounds hzero).2
        _ ≤ 10 ^ (-(7 * (47 : ℕ) : ℤ)) := zpow_le_zpow_right₀ (by norm_num) (by omega)
        _ ≤ 2 ^ (-(23 * (47 : ℕ) : ℤ)) := by
          rw [zpow_neg, zpow_neg]
          exact inv_anti₀ (by positivity) (two_zpow_le_ten_zpow 47)
        _ ≤ 2 ^ (-1075 : ℤ) := zpow_le_zpow_right₀ (by norm_num) (by omega)
  · rename_i h
    split
    · rename_i hplace
      refine (ofRatio_eq_infinity d.toRat.den_nz ?_).symm
      rw [hquotient]
      calc (2 : ℚ) ^ (1024 : ℤ)
          ≤ 2 ^ (23 * (45 : ℕ) : ℤ) := zpow_le_zpow_right₀ (by norm_num) (by omega)
        _ ≤ 10 ^ (7 * (45 : ℕ) : ℤ) := two_zpow_le_ten_zpow 45
        _ ≤ 10 ^ (d.power + digitCount d.digits - 1) :=
          zpow_le_zpow_right₀ (by norm_num) (by omega)
        _ ≤ d.toRat := (d.toRat_bounds (not_or.mp h).1).1
    · rfl

end ImageWorkflow
