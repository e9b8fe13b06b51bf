import Mathlib
import ImageWorkflow.Json.Parser
import ImageWorkflow.Json.Printer
import ImageWorkflow.Proofs.ShortestDecimal

/-!
# Numbers as JSON text

* `Json.Numeral` : the digits of a number without its sign, in three groups; `Numeral.chars` is
  their text, `Numeral.decimal` their value;
* `Json.Parser.readNumber_real`, `Json.Parser.readNumber_whole` : a well-formed numeral is read up
  to its end, as a real number if it has a fraction or an exponent and as an integer if it has
  neither;
* `Binary64.numeral`, `Binary64.toList_notate` : every notation of a decimal is such a numeral, of
  the decimal's value (`Binary64.toRat_numeral`);
* `Binary64.exists_numeral` : the text of a finite number is a numeral that is read as that number.
-/

namespace ImageWorkflow

namespace Json.Parser
variable {digits rest : List Char}

/-! ## Digits -/

theorem digitsValue_eq (digits : List Char) :
    digitsValue digits = Nat.ofDigitChars 10 digits 0 := by
  have hzero : '0'.toNat = 48 := by decide
  simp only [digitsValue, Nat.ofDigitChars_eq_foldl, hzero, Nat.mul_comm]

theorem digitsValue_append (cs ds : List Char) :
    digitsValue (cs ++ ds) = digitsValue cs * 10 ^ ds.length + digitsValue ds := by
  rw [digitsValue_eq, digitsValue_eq, digitsValue_eq, Nat.ofDigitChars_append,
    Nat.ofDigitChars_eq_ofDigitChars_zero, Nat.mul_comm]

@[simp] theorem digitsValue_toDigits (n : ℕ) : digitsValue (Nat.toDigits 10 n) = n := by
  rw [digitsValue_eq, Nat.ofDigitChars_ten_toDigits]

@[simp] theorem digitsValue_zeros (k : ℕ) : digitsValue (List.replicate k '0') = 0 := by
  rw [digitsValue_eq, Nat.ofDigitChars_replicate_zero, Nat.mul_zero]

theorem digitsValue_zeros_append (k : ℕ) (ds : List Char) :
    digitsValue (List.replicate k '0' ++ ds) = digitsValue ds := by
  rw [digitsValue_append, digitsValue_zeros, Nat.zero_mul, Nat.zero_add]

theorem digitsValue_append_zeros (ds : List Char) (k : ℕ) :
    digitsValue (ds ++ List.replicate k '0') = digitsValue ds * 10 ^ k := by
  rw [digitsValue_append, digitsValue_zeros, List.length_replicate, Nat.add_zero]

theorem isDigit_of_mem_toDigits {n : ℕ} {c : Char} (h : c ∈ Nat.toDigits 10 n) :
    c.isDigit = true := Nat.isDigit_of_mem_toDigits (by decide) (by decide) h

theorem isDigit_of_mem_zeros {k : ℕ} {c : Char} (h : c ∈ List.replicate k '0') :
    c.isDigit = true := by
  rw [List.eq_of_mem_replicate h]
  decide

/-- Only zero is written with a zero in front. -/
theorem head_toDigits_ne_zero {n : ℕ} (h : n ≠ 0) : (Nat.toDigits 10 n).head? ≠ some '0' := by
  induction n using Nat.strong_induction_on with
  | _ n ih =>
    rw [Nat.toDigits_eq_if (by decide)]
    split
    · simpa using h
    · rename_i hn
      have hhead : (Nat.toDigits 10 (n / 10) ++ [(n % 10).digitChar]).head? =
          (Nat.toDigits 10 (n / 10)).head? := by
        rw [List.head?_append_of_ne_nil _ Nat.toDigits_ne_nil]
      rw [hhead]
      exact ih (n / 10) (by omega) (by omega)

theorem spanDigits_append (hd : ∀ c ∈ digits, c.isDigit = true)
    (hr : ∀ c ∈ rest.head?, c.isDigit = false) : spanDigits (digits ++ rest) = (digits, rest) := by
  unfold spanDigits
  rw [List.span_eq_takeWhile_dropWhile, List.takeWhile_append_of_pos hd,
    List.dropWhile_append_of_pos hd]
  cases rest with
  | nil => simp
  | cons c rest =>
    have hc : ¬ c.isDigit = true := by simp [hr c rfl]
    rw [List.takeWhile_cons_of_neg hc, List.dropWhile_cons_of_neg hc, List.append_nil]

/-! ## Parts of a number -/

/-- What may stand behind a number: nothing that could be part of it. -/
def Ends (rest : List Char) : Prop :=
  ∀ c ∈ rest.head?, c.isDigit = false ∧ c ≠ '.' ∧ c ≠ 'e' ∧ c ≠ 'E'

theorem wholePart_append (hd : ∀ c ∈ digits, c.isDigit = true) (hne : digits ≠ [])
    (hzero : digits.head? = some '0' → digits = ['0'])
    (hr : ∀ c ∈ rest.head?, c.isDigit = false) : wholePart (digits ++ rest) = (digits, rest) := by
  cases digits with
  | nil => exact absurd rfl hne
  | cons c ds =>
    by_cases hc : c = '0'
    · subst hc
      obtain rfl : ds = [] := by simpa using hzero rfl
      rfl
    · have hspan := spanDigits_append hd hr
      rw [List.cons_append] at hspan ⊢
      rw [wholePart, hspan]
      simp [hc]

theorem fractionPart_point (hd : ∀ c ∈ digits, c.isDigit = true) (hne : digits ≠ [])
    (hr : ∀ c ∈ rest.head?, c.isDigit = false) :
    fractionPart ('.' :: (digits ++ rest)) = (digits, rest) := by
  rw [fractionPart, spanDigits_append hd hr]
  cases digits with
  | nil => exact absurd rfl hne
  | cons => rfl

theorem fractionPart_none (hr : ∀ c ∈ rest.head?, c ≠ '.') : fractionPart rest = ([], rest) := by
  unfold fractionPart
  split
  · exact absurd rfl (hr '.' rfl)
  · rfl

theorem exponentPart?_letter (down : Bool) (hd : ∀ c ∈ digits, c.isDigit = true)
    (hne : digits ≠ []) (hr : ∀ c ∈ rest.head?, c.isDigit = false) :
    exponentPart? ('e' :: (if down then '-' else '+') :: (digits ++ rest)) =
      some (down, digits, rest, 2 + digits.length) := by
  have hsign : exponentSign ((if down then '-' else '+') :: (digits ++ rest)) =
      (down, digits ++ rest, 1) := by cases down <;> rfl
  simp only [exponentPart?, true_or, if_true, hsign, spanDigits_append hd hr]

theorem exponentPart?_none (hr : ∀ c ∈ rest.head?, c ≠ 'e' ∧ c ≠ 'E') :
    exponentPart? rest = none := by
  cases rest with
  | nil => rfl
  | cons c rest =>
    obtain ⟨he, hE⟩ := hr c rfl
    simp [exponentPart?, he, hE]

end Json.Parser

/-! ## Numerals -/

open Json.Parser

/-- The digits of a number without its sign: whole digits, then perhaps those of a fraction, and
perhaps a signed exponent. -/
structure Json.Numeral where
  whole : List Char
  fraction : List Char
  exponent : Option (Bool × List Char)

namespace Json.Numeral
variable {n : Numeral}

/-- The text of an exponent. -/
def exponentChars : Option (Bool × List Char) → List Char
  | none => []
  | some (down, power) => 'e' :: (if down then '-' else '+') :: power

/-- The text of a fraction. -/
def fractionChars (fraction : List Char) : List Char :=
  if fraction = [] then [] else '.' :: fraction

/-- The text of a numeral. -/
def chars (n : Numeral) : List Char :=
  n.whole ++ (fractionChars n.fraction ++ exponentChars n.exponent)

/-- The value of an exponent. -/
def exponentValue : Option (Bool × List Char) → ℤ
  | none => 0
  | some (down, power) => if down then -(digitsValue power : ℤ) else digitsValue power

/-- The value of a numeral. -/
def decimal (n : Numeral) : Decimal :=
  ⟨digitsValue (n.whole ++ n.fraction), exponentValue n.exponent - n.fraction.length⟩

/-- Whether a numeral has more than whole digits. -/
def IsReal (n : Numeral) : Prop := n.fraction ≠ [] ∨ n.exponent.isSome = true

/-- Digits in each group, and no needless zero in front. -/
structure WellFormed (n : Numeral) : Prop where
  whole : ∀ c ∈ n.whole, c.isDigit = true
  whole_ne_nil : n.whole ≠ []
  leading : n.whole.head? = some '0' → n.whole = ['0']
  fraction : ∀ c ∈ n.fraction, c.isDigit = true
  power : ∀ e ∈ n.exponent, e.2 ≠ [] ∧ ∀ c ∈ e.2, c.isDigit = true

end Json.Numeral

namespace Json.Parser
variable {n : Numeral} {rest : List Char}
open Numeral

/-- Something is read, and the rest is left. -/
def Reads {α : Type} (reading : Except JsonError (Reading α)) (a : α) (rest : List Char) : Prop :=
  ∃ position, reading = .ok (a, rest, position)

theorem Ends.not_digit (h : Ends rest) : ∀ c ∈ rest.head?, c.isDigit = false :=
  fun c hc => (h c hc).1

/-- An exponent or what is behind a number starts with no digit and no point. -/
theorem head_exponentChars (exponent : Option (Bool × List Char)) (hr : Ends rest) :
    ∀ c ∈ (exponentChars exponent ++ rest).head?, c.isDigit = false ∧ c ≠ '.' := by
  intro c hc
  cases exponent with
  | none => exact ⟨(hr c hc).1, (hr c hc).2.1⟩
  | some exponent =>
    obtain rfl : 'e' = c := Option.some.inj hc
    decide

theorem fractionPart_chars (hn : n.WellFormed) (hr : Ends rest) :
    fractionPart (fractionChars n.fraction ++ (exponentChars n.exponent ++ rest)) =
      (n.fraction, exponentChars n.exponent ++ rest) := by
  have hhead := head_exponentChars n.exponent hr
  unfold fractionChars
  split
  · rename_i hnil
    rw [hnil, List.nil_append]
    exact fractionPart_none fun c hc => (hhead c hc).2
  · rename_i hne
    exact fractionPart_point hn.fraction hne fun c hc => (hhead c hc).1

theorem wholePart_chars (hn : n.WellFormed) (hr : Ends rest) :
    wholePart (n.chars ++ rest) =
      (n.whole, fractionChars n.fraction ++ (exponentChars n.exponent ++ rest)) := by
  rw [chars, List.append_assoc, List.append_assoc]
  refine wholePart_append hn.whole hn.whole_ne_nil hn.leading ?_
  unfold fractionChars
  split
  · exact fun c hc => (head_exponentChars n.exponent hr c hc).1
  · intro c hc
    obtain rfl : '.' = c := Option.some.inj hc
    decide

/-- A numeral with a fraction or an exponent is read as the real number nearest to its value. -/
theorem readNumber_real (negative : Bool) (start position : ℕ) (hn : n.WellFormed)
    (hreal : n.IsReal) (hr : Ends rest) :
    Reads (readNumber negative start (n.chars ++ rest) position)
      (.float (.ofDecimal negative n.decimal)) rest := by
  have hwhole : n.whole.isEmpty = false := by simpa using hn.whole_ne_nil
  simp only [readNumber, wholePart_chars hn hr, fractionPart_chars hn hr, hwhole]
  cases hexp : n.exponent with
  | some exponent =>
    obtain ⟨down, power⟩ := exponent
    obtain ⟨hne, hd⟩ := hn.power _ hexp
    have hpart := exponentPart?_letter down hd hne hr.not_digit
    simp only [exponentChars, List.cons_append, hpart, decimal, hexp, exponentValue]
    exact ⟨_, rfl⟩
  | none =>
    have hfraction : n.fraction.isEmpty = false := by
      rw [IsReal, hexp] at hreal
      simpa using hreal
    have hpart : exponentPart? rest = none := exponentPart?_none fun c hc => (hr c hc).2.2
    simp only [exponentChars, List.nil_append, hpart, hfraction, decimal, hexp, exponentValue,
      zero_sub]
    exact ⟨_, rfl⟩

/-- Whole digits alone are read as an integer, if there are not too many. -/
theorem readNumber_whole (negative : Bool) (start position : ℕ) {digits : List Char}
    (hd : ∀ c ∈ digits, c.isDigit = true) (hne : digits ≠ [])
    (hzero : digits.head? = some '0' → digits = ['0'])
    (hlength : digits.length ≤ maxIntegerDigits) (hr : Ends rest) :
    Reads (readNumber negative start (digits ++ rest) position)
      (.int (if negative then -(digitsValue digits : ℤ) else digitsValue digits)) rest := by
  have hwhole : digits.isEmpty = false := by simpa using hne
  have hpart : exponentPart? rest = none := exponentPart?_none fun c hc => (hr c hc).2.2
  have hfraction := fractionPart_none fun c hc => (hr c hc).2.1
  simp only [readNumber, wholePart_append hd hne hzero hr.not_digit, hwhole, hfraction, hpart,
    List.isEmpty_nil, if_neg (Nat.not_lt.mpr hlength)]
  exact ⟨_, rfl⟩

end Json.Parser

/-! ## The text of a decimal -/

namespace Decimal
variable {d : Decimal}

/-- Without its zeros at the end a decimal has the same value. -/
theorem exists_normalForm (d : Decimal) : ∃ k,
    Nat.toDigits 10 d.digits = d.normalForm.1 ++ List.replicate k '0' ∧
      d.normalForm.2 = d.power + (d.normalForm.1.length + k) := by
  let all := Nat.toDigits 10 d.digits
  let zeros := all.reverse.takeWhile (· = '0')
  have hzeros : zeros = List.replicate zeros.length '0' := by
    refine List.eq_replicate_iff.mpr ⟨rfl, fun c hc => ?_⟩
    simpa using List.mem_takeWhile_imp hc
  have hsplit : all = d.normalForm.1 ++ zeros.reverse := by
    have hdigits : d.normalForm.1.reverse = all.reverse.dropWhile (· = '0') :=
      List.reverse_reverse _
    rw [← List.reverse_inj, List.reverse_append, List.reverse_reverse, hdigits]
    exact List.takeWhile_append_dropWhile.symm
  refine ⟨zeros.length, ?_, ?_⟩
  · rw [← List.reverse_replicate, ← hzeros]
    exact hsplit
  · have hlength := congrArg List.length hsplit
    rw [List.length_append, List.length_reverse] at hlength
    show d.power + (all.length : ℤ) = _
    rw [hlength]
    push_cast
    ring

theorem isDigit_of_mem_normalForm {c : Char} (h : c ∈ d.normalForm.1) : c.isDigit = true := by
  obtain ⟨k, hall, -⟩ := exists_normalForm d
  exact isDigit_of_mem_toDigits (hall ▸ List.mem_append_left _ h)

theorem normalForm_ne_nil (h : d.digits ≠ 0) : d.normalForm.1 ≠ [] := by
  intro hnil
  obtain ⟨k, hall, -⟩ := exists_normalForm d
  apply h
  rw [← digitsValue_toDigits d.digits, hall, hnil, List.nil_append, digitsValue_zeros]

theorem head_normalForm (h : d.digits ≠ 0) : d.normalForm.1.head? ≠ some '0' := by
  obtain ⟨k, hall, -⟩ := exists_normalForm d
  have hhead := head_toDigits_ne_zero h
  rwa [hall, List.head?_append_of_ne_nil _ (normalForm_ne_nil h)] at hhead

theorem toRat_normalForm (d : Decimal) : (digitsValue d.normalForm.1 : ℚ) *
    10 ^ (d.normalForm.2 - d.normalForm.1.length) = d.toRat := by
  obtain ⟨k, hall, hpoint⟩ := exists_normalForm d
  have hvalue : d.digits = digitsValue d.normalForm.1 * 10 ^ k := by
    rw [← digitsValue_toDigits d.digits, hall, digitsValue_append_zeros]
  have hpower : d.normalForm.2 - d.normalForm.1.length = k + d.power := by omega
  rw [toRat, tenPow_eq, hpower, zpow_add₀ (by norm_num), zpow_natCast, ← mul_assoc]
  congr 1
  exact_mod_cast hvalue.symm

end Decimal

namespace Binary64
variable {digits : List Char} {point : ℤ}

open Json Json.Numeral

/-- The numeral of a decimal `0.d₁d₂… · 10 ^ point`, in positional or scientific notation. -/
def numeral (digits : List Char) (point : ℤ) : Numeral :=
  if -4 < point ∧ point ≤ 16 then
    if point ≤ 0 then ⟨['0'], List.replicate (-point).toNat '0' ++ digits, none⟩
    else
      let padded := digits ++ List.replicate (point.toNat - digits.length) '0'
      let fraction := padded.drop point.toNat
      ⟨padded.take point.toNat, if fraction.isEmpty then ['0'] else fraction, none⟩
  else
    let size := Nat.toDigits 10 (point - 1).natAbs
    ⟨digits.take 1, digits.drop 1,
      some (decide (point - 1 < 0), List.replicate (2 - size.length) '0' ++ size)⟩

theorem toList_notate (hne : digits ≠ []) :
    (notate digits point).toList = (numeral digits point).chars := by
  unfold notate numeral
  simp only
  split
  · split
    · have hfraction : List.replicate (-point).toNat '0' ++ digits ≠ [] := by simp [hne]
      simp only [chars, fractionChars, if_neg hfraction, exponentChars, String.toList_append,
        String.toList_ofList, List.append_nil]
      rfl
    · generalize digits ++ List.replicate (point.toNat - digits.length) '0' = padded
      generalize hfraction : padded.drop point.toNat = fraction
      cases fraction with
      | nil => simp [chars, fractionChars, exponentChars]
      | cons c fraction => simp [chars, fractionChars, exponentChars]
  · obtain ⟨d, ds, rfl⟩ := List.exists_cons_of_ne_nil hne
    generalize Nat.toDigits 10 (point - 1).natAbs = size
    cases ds with
    | nil =>
      simp only [chars, fractionChars, exponentChars, String.toList_append, String.toList_ofList]
      split <;> simp_all
    | cons c ds =>
      simp only [chars, fractionChars, exponentChars, String.toList_append, String.toList_ofList]
      split <;> simp_all

theorem wellFormed_numeral (hd : ∀ c ∈ digits, c.isDigit = true) (hne : digits ≠ [])
    (hhead : digits.head? ≠ some '0') : (numeral digits point).WellFormed := by
  unfold numeral
  split
  · split
    · refine ⟨by simp, by simp, fun _ => rfl, fun c hc => ?_, by simp⟩
      rcases List.mem_append.mp hc with hc | hc
      · exact isDigit_of_mem_zeros hc
      · exact hd c hc
    · have hpadded : ∀ c ∈ digits ++ List.replicate (point.toNat - digits.length) '0',
          c.isDigit = true := by
        intro c hc
        rcases List.mem_append.mp hc with hc | hc
        · exact hd c hc
        · exact isDigit_of_mem_zeros hc
      obtain ⟨d, ds, rfl⟩ := List.exists_cons_of_ne_nil hne
      obtain ⟨k, hk⟩ : ∃ k, point.toNat = k + 1 := ⟨point.toNat - 1, by omega⟩
      refine ⟨fun c hc => hpadded c (List.mem_of_mem_take hc), ?_, ?_, fun c hc => ?_, by simp⟩
      · simp [hk]
      · intro hzero
        rw [hk] at hzero
        exact absurd hzero hhead
      · simp only at hc
        split at hc
        · rw [List.mem_singleton.mp hc]
          decide
        · exact hpadded c (List.mem_of_mem_drop hc)
  · obtain ⟨d, ds, rfl⟩ := List.exists_cons_of_ne_nil hne
    refine ⟨fun c hc => hd c (List.mem_of_mem_take hc), by simp, fun hzero => ?_,
      fun c hc => hd c (List.mem_of_mem_drop hc), ?_⟩
    · exact absurd hzero hhead
    · rintro e ⟨⟩
      refine ⟨by simp [Nat.toDigits_ne_nil], fun c hc => ?_⟩
      rcases List.mem_append.mp hc with hc | hc
      · exact isDigit_of_mem_zeros hc
      · exact isDigit_of_mem_toDigits hc

theorem isReal_numeral (hne : digits ≠ []) : (numeral digits point).IsReal := by
  unfold numeral
  split
  · left
    split
    · simp [hne]
    · simp only
      split
      · simp
      · rename_i hempty
        exact mt List.isEmpty_iff.mpr hempty
  · right
    rfl

theorem exponentValue_signed (e : ℤ) (k : ℕ) : exponentValue
    (some (decide (e < 0), List.replicate k '0' ++ Nat.toDigits 10 e.natAbs)) = e := by
  simp only [exponentValue, digitsValue_zeros_append, digitsValue_toDigits, decide_eq_true_eq]
  split <;> omega

/-- Zeros at the end make the unit of the last digit smaller. -/
theorem mul_tenPow_sub (n m : ℕ) (e : ℤ) :
    ((n * 10 ^ m : ℕ) : ℚ) * 10 ^ (e - m) = n * 10 ^ e := by
  rw [zpow_sub₀ (by norm_num), zpow_natCast]
  push_cast
  field_simp

theorem toRat_numeral (hne : digits ≠ []) : (numeral digits point).decimal.toRat =
    (digitsValue digits : ℚ) * 10 ^ (point - digits.length) := by
  rw [Decimal.toRat, tenPow_eq]
  unfold numeral
  split
  · split
    · have hvalue : digitsValue (['0'] ++ (List.replicate (-point).toNat '0' ++ digits)) =
          digitsValue digits := by
        rw [← List.append_assoc, ← List.replicate_one, ← List.replicate_add,
          digitsValue_zeros_append]
      simp only [decimal, exponentValue, hvalue, List.length_append, List.length_replicate]
      congr 2
      omega
    · generalize hzeros : point.toNat - digits.length = k
      simp only
      split
      · -- The zero of an empty fraction is one more zero at the end.
        rename_i hempty
        have hlong : digits.length + k ≤ point.toNat := by simpa using hempty
        have htake : (digits ++ List.replicate k '0').take point.toNat ++ ['0'] =
            digits ++ List.replicate (k + 1) '0' := by
          rw [List.take_of_length_le (by simpa using hlong), List.append_assoc,
            List.replicate_succ']
        simp only [decimal, exponentValue, htake, digitsValue_append_zeros]
        rw [← mul_tenPow_sub (digitsValue digits) (k + 1)]
        congr 2
        simp
        omega
      · simp only [decimal, exponentValue, List.take_append_drop, digitsValue_append_zeros]
        rw [← mul_tenPow_sub (digitsValue digits) k]
        congr 2
        simp
        omega
  · simp only [decimal, exponentValue_signed, List.take_append_drop]
    congr 2
    have := List.length_pos_iff.mpr hne
    simp
    omega

/-! ## The text of a finite number -/

/-- The text of a sign. -/
def signChars (negative : Bool) : List Char := if negative then ['-'] else []

theorem toList_withSign (negative : Bool) (body : String) :
    (if negative then "-" ++ body else body).toList = signChars negative ++ body.toList := by
  cases negative with
  | false => rfl
  | true => exact String.toList_append

/-- Only the zeros have the value zero. -/
theorem eq_signedZero {exponent : Fin 2047} {fraction : Fin fractionCount}
    (h : (finite false exponent fraction).toRat? = some 0) (negative : Bool) :
    finite negative exponent fraction = signedZero negative := by
  have hvalue : (significand exponent fraction : ℚ) * 2 ^ scale exponent = 0 := by
    rw [← twoPow_eq]
    exact Option.some.inj h
  have hsignificand : significand exponent fraction = 0 := by
    have hscale : (2 : ℚ) ^ scale exponent ≠ 0 := by positivity
    exact_mod_cast (mul_eq_zero.mp hvalue).resolve_right hscale
  unfold significand at hsignificand
  split at hsignificand
  · rename_i hexponent
    obtain rfl : exponent = 0 := Fin.ext hexponent
    obtain rfl : fraction = 0 := Fin.ext hsignificand
    rfl
  · exact absurd hsignificand (by simp)

/-- The text of a finite number is a sign and a numeral that is rounded to the number. -/
theorem exists_numeral (negative : Bool) (exponent : Fin 2047) (fraction : Fin fractionCount) :
    ∃ n : Numeral, n.WellFormed ∧ n.IsReal ∧
      (finite negative exponent fraction).text.toList = signChars negative ++ n.chars ∧
      ofDecimal negative n.decimal = finite negative exponent fraction := by
  obtain ⟨q, hq, hnonneg⟩ : ∃ q, (finite false exponent fraction).toRat? = some q ∧ 0 ≤ q := by
    refine ⟨_, rfl, ?_⟩
    show (0 : ℚ) ≤ significand exponent fraction * twoPow (scale exponent)
    rw [twoPow_eq]
    positivity
  simp only [text, hq, toList_withSign]
  by_cases hzero : q = 0
  · subst hzero
    have hd : ∀ c ∈ ['0'], c.isDigit = true := fun c hc => isDigit_of_mem_zeros (k := 1) hc
    refine ⟨⟨['0'], ['0'], none⟩, ⟨hd, by simp, fun _ => rfl, hd, by simp⟩, .inl (by simp), ?_, ?_⟩
    · rw [if_pos rfl]
      rfl
    · exact (eq_signedZero hq negative).symm
  · have hpos : 0 < q := lt_of_le_of_ne hnonneg (Ne.symm hzero)
    have hdigits := Decimal.shortest_digits_ne_zero hq hpos
    generalize hd : Decimal.shortest q (finite false exponent fraction) = d at hdigits
    have hne := Decimal.normalForm_ne_nil hdigits
    refine ⟨numeral d.normalForm.1 d.normalForm.2, ?_, isReal_numeral hne, ?_, ?_⟩
    · exact wellFormed_numeral (fun c hc => Decimal.isDigit_of_mem_normalForm hc) hne
        (Decimal.head_normalForm hdigits)
    · rw [if_neg hzero, toList_notate hne]
    · refine ofDecimal_shortest hq hpos ?_ negative
      rw [toRat_numeral hne, hd, Decimal.toRat_normalForm]

end Binary64

end ImageWorkflow
