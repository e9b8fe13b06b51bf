import Mathlib
import ImageWorkflow.Number.Quantity

/-!
# Integers in the range of the floating-point numbers

* `Binary64.maxFinite` : the largest finite number, an integer;
* `Binary64.isFinite_ofRat` : an integer up to it is rounded to a finite number;
* `Binary64.natAbs_le_maxFinite` : a floating-point number that is integral is no larger;
* `Json.integer?_int`, `Json.real?_float` : what is read as a number is read as itself again.
-/

namespace ImageWorkflow

/-- Rounding the quotient stays below every integer that is above it. -/
theorem divHalfEven_le {num den m : Nat} (hd : 0 < den) (h : num ≤ m * den) :
    divHalfEven num den ≤ m := by
  have hq : num / den ≤ m := Nat.div_le_of_le_mul (by rwa [Nat.mul_comm])
  have hr : num / den = m → num % den = 0 := by
    intro hm
    have := Nat.div_add_mod num den
    rw [hm, Nat.mul_comm den m] at this
    omega
  simp only [divHalfEven]
  split
  · exact hq
  · rcases Nat.lt_or_eq_of_le hq with hlt | heq
    · split <;> omega
    · have := hr heq
      omega

namespace Binary64

/-- The exponent of the largest scale. -/
@[irreducible] def maxScale : Nat := 971

theorem maxScale_eq : maxScale = 971 := by rw [maxScale]

/-- The largest finite number. -/
def maxFinite : Nat := (2 ^ 53 - 1) * 2 ^ maxScale

theorem maxFinite_lt : maxFinite < 2 ^ (53 + maxScale) := by
  rw [maxFinite, pow_add]
  exact Nat.mul_lt_mul_of_pos_right (by decide) (Nat.two_pow_pos _)

theorem isFinite_ofRank {negative : Bool} {rank : Nat} (h : rank < 2047 * fractionCount) :
    (ofRank negative rank).isFinite = true := by
  rw [ofRank, dif_pos (Nat.div_lt_of_lt_mul (by rwa [Nat.mul_comm]))]
  rfl

theorem floorLog2_one {num : Nat} (h : num ≠ 0) : floorLog2 num 1 = num.log2 := by
  have hlog : Nat.log2 1 = 0 := by decide
  simp only [floorLog2, hlog, Nat.cast_zero, sub_zero, Nat.cast_nonneg, if_true, Int.toNat_natCast,
    Nat.one_mul]
  rw [if_pos]
  simpa using Nat.log2_self_le h

/-- In the highest binade there are fewer steps than in two whole binades. -/
theorem isFinite_ofRatio {negative : Bool} {num : Nat} (h : num ≤ maxFinite) :
    (ofRatio negative num 1).isFinite = true := by
  unfold ofRatio
  split
  · rfl
  rename_i hnum
  have hlt : num < 2 ^ (num.log2 + 1) := Nat.lt_log2_self
  have hlog : num.log2 ≤ 52 + maxScale := by
    have := (Nat.log2_lt hnum).mpr (Nat.lt_of_le_of_lt h maxFinite_lt)
    omega
  have hscale := maxScale_eq
  have hcount : fractionCount = 4503599627370496 := rfl
  have hunit : max (-1074) (floorLog2 num 1 - 52) = (num.log2 : Int) - 52 := by
    rw [floorLog2_one hnum]
    omega
  simp only [hunit]
  refine isFinite_ofRank ?_
  rcases Nat.lt_or_ge num.log2 52 with hsmall | hlarge
  · rw [if_neg (by omega)]
    have hsteps : divHalfEven (num * Nat.pow 2 (-((num.log2 : Int) - 52)).toNat) 1 ≤ 2 ^ 53 := by
      refine divHalfEven_le Nat.one_pos ?_
      have hpow : 2 ^ (num.log2 + 1) * 2 ^ (52 - num.log2) = 2 ^ 53 := by
        rw [← pow_add]
        congr 1
        omega
      have hto : (-((num.log2 : Int) - 52)).toNat = 52 - num.log2 := by omega
      rw [hto, Nat.mul_one, ← hpow]
      exact Nat.mul_le_mul_right _ (Nat.le_of_lt hlt)
    have hto : ((num.log2 : Int) - 52 + 1074).toNat = num.log2 + 1022 := by omega
    rw [hto]
    have : (num.log2 + 1022) * fractionCount ≤ 1073 * fractionCount :=
      Nat.mul_le_mul_right _ (by omega)
    omega
  · rw [if_pos (by omega), Nat.one_mul]
    have hunit' : ((num.log2 : Int) - 52).toNat = num.log2 - 52 := by omega
    have hto : ((num.log2 : Int) - 52 + 1074).toNat = num.log2 + 1022 := by omega
    rw [hunit', hto]
    have hpos : 0 < Nat.pow 2 (num.log2 - 52) := Nat.pow_pos (by decide)
    rcases Nat.lt_or_eq_of_le hlog with hlog | hlog
    · have hsteps : divHalfEven num (Nat.pow 2 (num.log2 - 52)) ≤ 2 ^ 53 := by
        refine divHalfEven_le hpos ?_
        have hpow : 2 ^ 53 * 2 ^ (num.log2 - 52) = 2 ^ (num.log2 + 1) := by
          rw [← pow_add]
          congr 1
          omega
        exact Nat.le_of_lt (Nat.lt_of_lt_of_eq hlt hpow.symm)
      have : (num.log2 + 1022) * fractionCount ≤ 2044 * fractionCount :=
        Nat.mul_le_mul_right _ (by omega)
      omega
    · have hsteps : divHalfEven num (Nat.pow 2 (num.log2 - 52)) ≤ 2 ^ 53 - 1 := by
        refine divHalfEven_le hpos ?_
        rw [hlog, Nat.add_sub_cancel_left]
        exact h
      rw [hlog, hscale] at hsteps ⊢
      omega

theorem isFinite_ofRat {n : Int} (h : n.natAbs ≤ maxFinite) :
    (ofRat (n : Rat)).isFinite = true := by
  rw [ofRat, Rat.num_intCast, Rat.den_intCast]
  exact isFinite_ofRatio h

theorem isFinite_one : (ofRat 1).isFinite = true := by decide +kernel

/-! ## Integral numbers -/

theorem twoPow_scale_le (exponent : Fin 2047) : twoPow (scale exponent) ≤ 2 ^ maxScale := by
  have hs : scale exponent ≤ maxScale := by
    have := exponent.isLt
    simp only [scale, maxScale_eq]
    omega
  unfold twoPow
  split
  · have hpow : Nat.pow 2 (scale exponent).toNat ≤ 2 ^ maxScale :=
      Nat.pow_le_pow_right (by decide) (by omega)
    exact_mod_cast hpow
  · have hpow : 0 < Nat.pow 2 (-scale exponent).toNat := Nat.pow_pos (by decide)
    have hone : (1 : Rat) / (Nat.pow 2 (-scale exponent).toNat : Nat) ≤ 1 :=
      div_le_one_of_le₀ (by exact_mod_cast hpow) (by positivity)
    exact hone.trans (one_le_pow₀ (by norm_num))

theorem significand_le (exponent : Fin 2047) (fraction : Fin fractionCount) :
    significand exponent fraction ≤ 2 ^ 53 - 1 := by
  have := fraction.isLt
  have hcount : fractionCount = 4503599627370496 := rfl
  unfold significand
  split <;> omega

theorem abs_toRat_le {x : Binary64} {q : Rat} (h : x.toRat? = some q) :
    |q| ≤ (maxFinite : Rat) := by
  cases x with
  | nan => cases h
  | infinity negative => cases h
  | finite negative exponent fraction =>
    have hmag : |q| = |(significand exponent fraction : Rat) * twoPow (scale exponent)| := by
      simp only [toRat?, Option.some.injEq] at h
      rw [← h]
      split
      · exact abs_neg _
      · rfl
    have hpow : 0 ≤ twoPow (scale exponent) := by
      unfold twoPow
      split <;> positivity
    rw [hmag, abs_of_nonneg (mul_nonneg (Nat.cast_nonneg _) hpow), maxFinite]
    push_cast
    refine mul_le_mul ?_ (twoPow_scale_le exponent) hpow (by norm_num)
    exact_mod_cast significand_le exponent fraction

theorem natAbs_le_maxFinite {x : Binary64} {n : Int} (h : x.toInt? = some n) :
    n.natAbs ≤ maxFinite := by
  obtain ⟨q, hq, h⟩ := Option.bind_eq_some_iff.mp h
  split at h
  · rename_i hden
    cases h
    have habs := abs_toRat_le hq
    rw [← Rat.coe_int_num_of_den_eq_one hden, ← Int.cast_abs, Int.abs_eq_natAbs] at habs
    exact_mod_cast habs
  · cases h

end Binary64

/-! ## Numbers that are read -/

/-- An integer that is read as a number: some floating-point number is near it. -/
def InRange (n : Int) : Prop := (Binary64.ofInt? n).isSome = true

theorem inRange_zero : InRange 0 := by
  unfold InRange
  decide +kernel

theorem inRange_of_toInt? {x : Binary64} {n : Int} (h : x.toInt? = some n) : InRange n := by
  have hfinite := Binary64.isFinite_ofRat (Binary64.natAbs_le_maxFinite h)
  simp only [InRange, Binary64.ofInt?, hfinite, if_true, Option.isSome_some]

namespace Json

theorem inRange_of_integer? {value : Json} {n : Int} (h : value.integer? = .ok n) : InRange n := by
  cases value with
  | int m =>
    simp only [integer?] at h
    split at h
    · rename_i x hx
      cases h
      rw [InRange, hx, Option.isSome_some]
    · cases h
  | float x =>
    simp only [integer?] at h
    split at h
    · rename_i m hm
      cases h
      exact inRange_of_toInt? hm
    · cases h
  | _ => cases h

theorem integer?_int {n : Int} (h : InRange n) : (Json.int n).integer? = .ok n := by
  obtain ⟨x, hx⟩ := Option.isSome_iff_exists.mp h
  rw [integer?, hx]

theorem isFinite_of_real? {value : Json} {x : Binary64} (h : value.real? = .ok x) :
    x.isFinite = true := by
  cases value with
  | int m =>
    simp only [real?] at h
    split at h
    · rename_i y hy
      cases h
      simp only [Binary64.ofInt?] at hy
      split at hy
      · rename_i hf
        cases hy
        exact hf
      · cases hy
    · cases h
  | float y =>
    simp only [real?] at h
    split at h
    · rename_i hf
      cases h
      exact hf
    · cases h
  | _ => cases h

theorem real?_float {x : Binary64} (h : x.isFinite = true) : (Json.float x).real? = .ok x := by
  rw [real?, if_pos h]

end Json

end ImageWorkflow
