import RunReports.Decimal.Shortest
import RunReports.Proofs.Digits
import RunReports.Proofs.Rounding

/-! # Shortest decimals read back

A decimal stands for the same binary number however its factors of ten are shared between its
digits and its exponent. The shortest decimal of a finite number reads back as that number. -/
namespace RunReports.Decimal

open RunReports.Text

namespace Binary64

/-! ## Moving factors of ten -/

/-- Factors of ten may stand in the digits or in the exponent. -/
theorem decimalBits_shift (digits k : Nat) (e : Int) :
    decimalBits (digits * 10 ^ k) e = decimalBits digits (e + k) := by
  rcases Nat.eq_zero_or_pos digits with rfl | positive
  · simp [decimalBits]
  have filled : digits ≠ 0 := Nat.pos_iff_ne_zero.mp positive
  have shifted : digits * 10 ^ k ≠ 0 := Nat.mul_ne_zero filled (Nat.pow_pos (by decide)).ne'
  have tenIs (m : Nat) : Nat.pow 10 m ≠ 0 := (Nat.pow_pos (by decide)).ne'
  have size : ((Nat.toDigits 10 (digits * 10 ^ k)).length : Int) + e =
      ((Nat.toDigits 10 digits).length : Int) + (e + k) := by
    have lengthIs := congrArg List.length (decimal_shift digits k positive)
    simp only [decimal, List.length_append, List.length_replicate] at lengthIs
    omega
  have shownValue : (if 0 ≤ e then nearestBits (digits * 10 ^ k * Nat.pow 10 e.toNat) 1
        else nearestBits (digits * 10 ^ k) (Nat.pow 10 (-e).toNat)) =
      (if 0 ≤ e + k then nearestBits (digits * Nat.pow 10 (e + k).toNat) 1
        else nearestBits digits (Nat.pow 10 (-(e + k)).toNat)) := by
    split_ifs with exponentIs sum sum
    · rw [Nat.mul_assoc]
      congr 2
      rw [show (e + k).toNat = k + e.toNat by omega]
      exact (Nat.pow_add 10 k e.toNat).symm
    · omega
    · refine nearestBits_congr (tenIs _) Nat.one_ne_zero ?_
      have k_eq : (e + k).toNat + (-e).toNat = k := by omega
      rw [Nat.mul_one, Nat.mul_assoc]
      congr 1
      calc 10 ^ k = 10 ^ ((e + k).toNat + (-e).toNat) := by rw [k_eq]
        _ = 10 ^ (e + k).toNat * 10 ^ (-e).toNat := Nat.pow_add _ _ _
    · refine nearestBits_congr (tenIs _) (tenIs _) ?_
      rw [Nat.mul_assoc]
      congr 1
      rw [show (-e).toNat = k + (-(e + k)).toNat by omega]
      exact (Nat.pow_add 10 k _).symm
  simp only [decimalBits, filled, shifted, if_false, size, shownValue]

/-! ## The exact decimal -/

variable (x : Binary64)

theorem exponent_le (finite : x.isFinite = true) : x.exponent ≤ 971 := by
  have less : x.magnitude / hiddenBit < 2047 :=
    Nat.div_lt_of_lt_mul (Nat.lt_of_lt_of_eq (x.magnitude_lt_of_isFinite finite) rfl)
  simp only [exponent]
  split
  · decide
  · simp only [Int.ofNat_eq_natCast]
    omega

theorem mantissa_ne_zero (nonzero : x.isZero = false) : x.mantissa ≠ 0 := by
  intro small
  have mag := x.magnitude_eq
  rcases x.exponent_least_or_full with h | h
  · simp [isZero, mag, h, small] at nonzero
  · omega

theorem two_pow_le_ten_pow {k n : Nat} (h : k ≤ 3 * n) : 2 ^ k ≤ 10 ^ n :=
  calc 2 ^ k ≤ 2 ^ (3 * n) := Nat.pow_le_pow_right (by decide) h
    _ = 8 ^ n := Nat.pow_mul 2 3 n
    _ ≤ 10 ^ n := Nat.pow_le_pow_left (by decide) n

theorem ten_pow_le_five_pow {k n : Nat} (most : k ≤ 3 * n) (least : n ≤ k) :
    10 ^ (k - n) ≤ 5 ^ k := by
  refine Nat.le_of_mul_le_mul_right ?_ (Nat.pow_pos (by decide) : 0 < 10 ^ n)
  calc 10 ^ (k - n) * 10 ^ n = 10 ^ (k - n + n) := (Nat.pow_add _ _ _).symm
    _ = 10 ^ k := by rw [Nat.sub_add_cancel least]
    _ = 5 ^ k * 2 ^ k := Nat.mul_pow 5 2 k
    _ ≤ 5 ^ k * 10 ^ n := Nat.mul_le_mul_left _ (two_pow_le_ten_pow most)

theorem mul_five_pow_lt {m j k n : Nat} (small : m < 2 ^ j) (index_lt : j ≤ 3 * n) :
    m * 5 ^ k < 10 ^ (n + k) :=
  calc m * 5 ^ k < 10 ^ n * 10 ^ k :=
        Nat.mul_lt_mul_of_lt_of_le (small.trans_le (two_pow_le_ten_pow index_lt))
          (Nat.pow_le_pow_left (by decide) k) (Nat.pow_pos (by decide))
    _ = 10 ^ (n + k) := (Nat.pow_add _ _ _).symm

/-- The exact decimal of a number is within the range test from above. -/
theorem size_exactDecimal_le (finite : x.isFinite = true) :
    ((Nat.toDigits 10 (exactDecimal x).digits).length : Int) + (exactDecimal x).exponent ≤ 400 := by
  have mantissaIs := x.mantissa_lt
  have upper := x.exponent_le finite
  simp only [exactDecimal]
  split
  case isTrue h =>
    have tiny : x.mantissa * 2 ^ x.exponent.toNat < 10 ^ 400 :=
      calc x.mantissa * 2 ^ x.exponent.toNat < 2 ^ 53 * 2 ^ x.exponent.toNat :=
            Nat.mul_lt_mul_of_pos_right mantissaIs (Nat.two_pow_pos _)
        _ = 2 ^ (53 + x.exponent.toNat) := (Nat.pow_add _ _ _).symm
        _ ≤ 10 ^ 400 := two_pow_le_ten_pow (by omega)
    have lengthIs := (Nat.length_toDigits_le_iff (by decide) (by decide)).mpr tiny
    simp only [Nat.pow_eq]
    omega
  case isFalse h =>
    obtain ⟨k, k_eq⟩ : ∃ k : Nat, x.exponent = -(k : Int) := ⟨(-x.exponent).toNat, by omega⟩
    have tiny : x.mantissa * 5 ^ k < 10 ^ (400 + k) := mul_five_pow_lt mantissaIs (by decide)
    have lengthIs := (Nat.length_toDigits_le_iff (by decide) (by omega)).mpr tiny
    simp only [k_eq, neg_neg, Int.toNat_natCast, Nat.pow_eq]
    omega

/-- The exact decimal of a number is within the range test from below. -/
theorem size_exactDecimal_ge (nonzero : x.isZero = false) :
    -400 ≤
      ((Nat.toDigits 10 (exactDecimal x).digits).length : Int) + (exactDecimal x).exponent := by
  have lower := x.exponent_ge
  simp only [exactDecimal]
  split
  case isTrue h =>
    simp only [add_zero]
    omega
  case isFalse h =>
    obtain ⟨k, k_eq⟩ : ∃ k : Nat, x.exponent = -(k : Int) := ⟨(-x.exponent).toNat, by omega⟩
    simp only [k_eq, neg_neg, Int.toNat_natCast, Nat.pow_eq]
    have above_zero : 0 < (Nat.toDigits 10 (x.mantissa * 5 ^ k)).length := Nat.length_toDigits_pos
    by_contra short
    have less : x.mantissa * 5 ^ k < 10 ^ (k - 401) :=
      (Nat.length_toDigits_le_iff (by decide) (by omega)).mp (by omega)
    have five : 10 ^ (k - 401) ≤ 5 ^ k := ten_pow_le_five_pow (by omega) (by omega)
    have itself : 5 ^ k ≤ x.mantissa * 5 ^ k :=
      Nat.le_mul_of_pos_left _ (Nat.pos_of_ne_zero (x.mantissa_ne_zero nonzero))
    omega

theorem decimalBits_exactDecimal (finite : x.isFinite = true) (nonzero : x.isZero = false) :
    decimalBits (exactDecimal x).digits (exactDecimal x).exponent = x.magnitude := by
  have small := x.mantissa_ne_zero nonzero
  have atMost := x.size_exactDecimal_le finite
  have atLeast := x.size_exactDecimal_ge nonzero
  have numerals : (exactDecimal x).digits ≠ 0 := by
    simp only [exactDecimal]
    split
    · exact Nat.mul_ne_zero small (Nat.pow_pos (by decide)).ne'
    · exact Nat.mul_ne_zero small (Nat.pow_pos (by decide)).ne'
  have shownValue : (if 0 ≤ (exactDecimal x).exponent then
        nearestBits ((exactDecimal x).digits * Nat.pow 10 (exactDecimal x).exponent.toNat) 1
      else nearestBits (exactDecimal x).digits (Nat.pow 10 (-(exactDecimal x).exponent).toNat)) =
      x.magnitude := by
    rw [← x.nearestBits_ratio finite]
    by_cases h : 0 ≤ x.exponent
    · simp [exactDecimal, ratio, h]
    · simp only [exactDecimal, ratio, h, if_false]
      refine nearestBits_congr (Nat.pow_pos (by decide)).ne' (Nat.two_pow_pos _).ne' ?_
      rw [Nat.mul_assoc]
      exact congrArg _ (Nat.mul_pow 5 2 _).symm
  simp only [decimalBits, numerals, if_false, shownValue]
  rw [if_neg (by omega), if_neg (by omega)]

/-! ## The shortest decimal -/

theorem onGrid_reads {bits num den : Nat} {e : Int} {c : Numeral}
    (h : onGrid? bits num den e = some c) : decimalBits c.digits c.exponent = bits := by
  simp only [onGrid?, Option.map_eq_some_iff] at h
  obtain ⟨digits, foundIs, rfl⟩ := h
  have readsBack := List.find?_some foundIs
  exact eq_of_beq readsBack

/-- The shortest decimal of a finite number other than zero reads back as its magnitude. -/
theorem shortest_reads (finite : x.isFinite = true) (nonzero : x.isZero = false) :
    decimalBits (shortest x).digits (shortest x).exponent = x.magnitude := by
  let found := (List.range 17).findSome? fun n =>
    onGrid? x.magnitude x.ratio.1 x.ratio.2 (leadingPlace x.ratio.1 x.ratio.2 - (n + 1 : Nat))
  have shortestIs : shortest x = found.getD (exactDecimal x) := rfl
  rw [shortestIs]
  cases foundIs : found with
  | none => exact x.decimalBits_exactDecimal finite nonzero
  | some c =>
    obtain ⟨n, -, grid⟩ := List.exists_of_findSome?_eq_some foundIs
    exact onGrid_reads grid

theorem shortest_digits_pos (finite : x.isFinite = true) (nonzero : x.isZero = false) :
    0 < (shortest x).digits := by
  have readsBack := x.shortest_reads finite nonzero
  rcases Nat.eq_zero_or_pos (shortest x).digits with h | h
  · rw [h] at readsBack
    have mag : x.magnitude = 0 := readsBack.symm
    simp [isZero, mag] at nonzero
  · exact h

theorem ofMagnitude_self : ofMagnitude x.isNegative x.magnitude = x := by
  have less : x.bits.toNat < 2 ^ 64 := x.bits.toNat_lt
  have bitsIs : (if x.isNegative then signBit + x.magnitude else x.magnitude) = x.bits.toNat := by
    by_cases h : signBit ≤ x.bits.toNat
    · have sign : x.isNegative = true := decide_eq_true h
      rw [if_pos sign, magnitude]
      simp only [signBit] at h ⊢
      omega
    · have sign : x.isNegative = false := decide_eq_false h
      rw [sign, magnitude]
      exact Nat.mod_eq_of_lt (Nat.lt_of_not_le h)
  rw [ofMagnitude, bitsIs, UInt64.ofNat_toNat]

end Binary64

end RunReports.Decimal
