import Mathlib.Algebra.Order.Field.Power
import Mathlib.Data.Int.Log
import Mathlib.Data.Rat.Floor
import Mathlib.Tactic.FieldSimp
import Mathlib.Tactic.Linarith
import Mathlib.Tactic.NormNum
import Mathlib.Tactic.Positivity
import Mathlib.Tactic.Ring
import RunReports.Decimal.Binary64

/-! # Rounding to binary numbers

The number nearest to a ratio depends on the ratio alone, not on the two numbers it is given
by, and a ratio that is a finite number already is rounded to itself. -/
namespace RunReports.Decimal.Binary64

/-! ## Whole quotients -/

theorem roundHalfEven_scale (num den c : Nat) (known : 0 < c) :
    roundHalfEven (num * c) (den * c) = roundHalfEven num den := by
  have quotientIs : num * c / (den * c) = num / den := Nat.mul_div_mul_right _ _ known
  have remainderIs : num * c % (den * c) = num % den * c := Nat.mul_mod_mul_right _ _ _
  have under : 2 * (num % den * c) < den * c ↔ 2 * (num % den) < den := by
    rw [← Nat.mul_assoc, Nat.mul_lt_mul_right known]
  have above : den * c < 2 * (num % den * c) ↔ den < 2 * (num % den) := by
    rw [← Nat.mul_assoc, Nat.mul_lt_mul_right known]
  simp only [roundHalfEven, quotientIs, remainderIs, under, above]

theorem roundHalfEven_exact (n den : Nat) (divisor : 0 < den) :
    roundHalfEven (n * den) den = n := by
  simp [roundHalfEven, Nat.mul_div_cancel n divisor, divisor]

/-! ## The binary exponent of a ratio -/

/-- Whether a ratio is below a power of two of either sign is decided without fractions. -/
theorem below_power (num den : Nat) (divisor : den ≠ 0) (e : Int) :
    (if 0 ≤ e then decide (num < den * Nat.pow 2 e.toNat)
      else decide (num * Nat.pow 2 (-e).toNat < den)) = decide ((num : ℚ) / den < 2 ^ e) := by
  have seen : (0 : ℚ) < den := by exact_mod_cast Nat.pos_of_ne_zero divisor
  split
  case isTrue exponentIs =>
    obtain ⟨k, rfl⟩ := Int.eq_ofNat_of_zero_le exponentIs
    rw [decide_eq_decide, div_lt_iff₀ seen, zpow_natCast, mul_comm, Int.toNat_natCast]
    exact_mod_cast Iff.rfl
  case isFalse exponentIs =>
    obtain ⟨k, place_lt⟩ : ∃ k : Nat, e = -(k : Int) := ⟨(-e).toNat, by omega⟩
    have power_pos : (0 : ℚ) < 2 ^ k := by positivity
    rw [decide_eq_decide, div_lt_iff₀ seen, place_lt, zpow_neg, zpow_natCast, neg_neg,
      Int.toNat_natCast,
      inv_mul_eq_div, lt_div_iff₀ power_pos]
    exact_mod_cast Iff.rfl

theorem zpow_log2_le (n : Nat) (num_pos : n ≠ 0) : (2 : ℚ) ^ (n.log2 : Int) ≤ n := by
  rw [zpow_natCast]
  exact_mod_cast Nat.log2_self_le num_pos

theorem lt_zpow_log2 (n : Nat) : (n : ℚ) < 2 ^ ((n.log2 : Int) + 1) := by
  have h : n < 2 ^ (n.log2 + 1) := Nat.lt_log2_self
  have cast : (n : ℚ) < 2 ^ (n.log2 + 1) := by exact_mod_cast h
  exact_mod_cast cast

/-- The logarithms of two numbers place the logarithm of their ratio up to one. -/
theorem log_ratio_bounds (num den : Nat) (dividend : num ≠ 0) (divisor : den ≠ 0) :
    (num.log2 : Int) - den.log2 - 1 ≤ Int.log 2 ((num : ℚ) / den) ∧
      Int.log 2 ((num : ℚ) / den) < (num.log2 : Int) - den.log2 + 1 := by
  have seen : (0 : ℚ) < den := by exact_mod_cast Nat.pos_of_ne_zero divisor
  have num_pos : (0 : ℚ) < num := by exact_mod_cast Nat.pos_of_ne_zero dividend
  have ratioIs : (0 : ℚ) < (num : ℚ) / den := div_pos num_pos seen
  constructor
  · rw [← Int.zpow_le_iff_le_log (by decide) ratioIs, le_div_iff₀ seen, Nat.cast_ofNat]
    calc (2 : ℚ) ^ ((num.log2 : Int) - den.log2 - 1) * den
        ≤ 2 ^ ((num.log2 : Int) - den.log2 - 1) * 2 ^ ((den.log2 : Int) + 1) :=
          mul_le_mul_of_nonneg_left (lt_zpow_log2 den).le (by positivity)
      _ = 2 ^ (num.log2 : Int) := by
          rw [← zpow_add₀ (by norm_num)]
          congr 1
          ring
      _ ≤ num := zpow_log2_le num dividend
  · rw [← Int.lt_zpow_iff_log_lt (by decide) ratioIs, div_lt_iff₀ seen, Nat.cast_ofNat]
    calc (num : ℚ) < 2 ^ ((num.log2 : Int) + 1) := lt_zpow_log2 num
      _ = 2 ^ ((num.log2 : Int) - den.log2 + 1) * 2 ^ (den.log2 : Int) := by
          rw [← zpow_add₀ (by norm_num)]
          congr 1
          ring
      _ ≤ 2 ^ ((num.log2 : Int) - den.log2 + 1) * den :=
          mul_le_mul_of_nonneg_left (zpow_log2_le den divisor) (by positivity)

theorem floorLog2_eq (num den : Nat) (dividend : num ≠ 0) (divisor : den ≠ 0) :
    floorLog2 num den = Int.log 2 ((num : ℚ) / den) := by
  have seen : (0 : ℚ) < den := by exact_mod_cast Nat.pos_of_ne_zero divisor
  have num_pos : (0 : ℚ) < num := by exact_mod_cast Nat.pos_of_ne_zero dividend
  obtain ⟨low, high⟩ := log_ratio_bounds num den dividend divisor
  have logIs : (num : ℚ) / den < 2 ^ ((num.log2 : Int) - den.log2) ↔
      Int.log 2 ((num : ℚ) / den) < (num.log2 : Int) - den.log2 := by
    simpa using Int.lt_zpow_iff_log_lt (b := 2) (by decide) (div_pos num_pos seen)
  simp only [floorLog2, below_power num den divisor, logIs, decide_eq_true_eq]
  split <;> omega

/-! ## The nearest number depends on the ratio -/

theorem nearestBits_scale (num den c : Nat) (divisor : den ≠ 0) (known : c ≠ 0) :
    nearestBits (num * c) (den * c) = nearestBits num den := by
  rcases Nat.eq_zero_or_pos num with rfl | dividend
  · simp [nearestBits]
  have filled : num ≠ 0 := Nat.pos_iff_ne_zero.mp dividend
  have c_pos : 0 < c := Nat.pos_of_ne_zero known
  have ratioIs : ((num * c : Nat) : ℚ) / ((den * c : Nat) : ℚ) = (num : ℚ) / den := by
    push_cast
    exact mul_div_mul_right _ _ (by exact_mod_cast known)
  have logIs : floorLog2 (num * c) (den * c) = floorLog2 num den := by
    rw [floorLog2_eq _ _ (Nat.mul_ne_zero filled known) (Nat.mul_ne_zero divisor known),
      floorLog2_eq _ _ filled divisor, ratioIs]
  have roundsUp (p : Nat) :
      roundHalfEven (num * c) (den * c * p) = roundHalfEven num (den * p) := by
    rw [Nat.mul_right_comm, roundHalfEven_scale _ _ _ c_pos]
  have down (p : Nat) : roundHalfEven (num * c * p) (den * c) = roundHalfEven (num * p) den := by
    rw [Nat.mul_right_comm, roundHalfEven_scale _ _ _ c_pos]
  simp only [nearestBits, filled, Nat.mul_ne_zero filled known, logIs, roundsUp, down, if_false]

/-- Two equal ratios have the same nearest number. -/
theorem nearestBits_congr {num den num' den' : Nat} (divisor : den ≠ 0) (divisor' : den' ≠ 0)
    (h : num * den' = num' * den) : nearestBits num den = nearestBits num' den' := by
  rw [← nearestBits_scale num den den' divisor divisor', h, Nat.mul_comm den den',
    nearestBits_scale num' den' den divisor' divisor]

/-! ## Finite numbers are exact -/

variable (x : Binary64)

theorem magnitude_lt_of_isFinite (finite : x.isFinite = true) : x.magnitude < infinityBits :=
  of_decide_eq_true finite

theorem mantissa_lt : x.mantissa < 2 ^ 53 := by
  have fractionIs : x.magnitude % hiddenBit < hiddenBit := Nat.mod_lt _ (by decide)
  have bit : 2 ^ 53 = hiddenBit + hiddenBit := rfl
  rw [bit]
  simp only [mantissa]
  split <;> omega

theorem exponent_ge : -1074 ≤ x.exponent := by
  simp only [exponent]
  split
  · exact Int.le_refl _
  case isFalse h =>
    have one_le : 1 ≤ x.magnitude / hiddenBit := Nat.pos_of_ne_zero h
    simp only [Int.ofNat_eq_natCast]
    omega

/-- The mantissa is a full one unless the exponent is the least. -/
theorem exponent_least_or_full : x.exponent = -1074 ∨ 2 ^ 52 ≤ x.mantissa := by
  simp only [exponent, mantissa]
  split
  · exact Or.inl rfl
  · exact Or.inr (Nat.le_add_left _ _)

/-- The bits of a magnitude from its exponent and mantissa. -/
theorem magnitude_eq : x.magnitude = (x.exponent + 1074).toNat * hiddenBit + x.mantissa := by
  have parts := Nat.div_add_mod x.magnitude hiddenBit
  simp only [exponent, mantissa]
  split
  case isTrue h => simp [h] at parts ⊢; omega
  case isFalse h =>
    have exponent_eq : (Int.ofNat (x.magnitude / hiddenBit) - 1075 + 1074).toNat =
        x.magnitude / hiddenBit - 1 := by
      simp only [Int.ofNat_eq_natCast]
      omega
    rw [exponent_eq, Nat.sub_one_mul, Nat.mul_comm]
    have atMost : hiddenBit ≤ hiddenBit * (x.magnitude / hiddenBit) :=
      Nat.le_mul_of_pos_right _ (Nat.pos_of_ne_zero h)
    omega

theorem ratio_den_ne_zero : x.ratio.2 ≠ 0 := by
  simp only [ratio]
  split
  · exact Nat.one_ne_zero
  · exact (Nat.two_pow_pos _).ne'

theorem ratio_eq : (x.ratio.1 : ℚ) / x.ratio.2 = x.mantissa * 2 ^ x.exponent := by
  simp only [ratio]
  split
  case isTrue h =>
    obtain ⟨k, place_lt⟩ := Int.eq_ofNat_of_zero_le h
    simp [place_lt]
  case isFalse h =>
    obtain ⟨k, place_lt⟩ : ∃ k : Nat, x.exponent = -(k : Int) := ⟨(-x.exponent).toNat, by omega⟩
    simp [place_lt, div_eq_mul_inv]

/-- The last place of the nearest number is that of the number itself. -/
theorem lastPlace_ratio (nonzero : x.mantissa ≠ 0) :
    max (Int.log 2 ((x.ratio.1 : ℚ) / x.ratio.2) - 52) (-1074) = x.exponent := by
  have positive : (0 : ℚ) < x.mantissa * 2 ^ x.exponent :=
    mul_pos (by exact_mod_cast Nat.pos_of_ne_zero nonzero) (by positivity)
  have power_pos (e : Int) : (2 : ℚ) ^ (e + x.exponent) = 2 ^ e * 2 ^ x.exponent :=
    zpow_add₀ (by norm_num) _ _
  have above : Int.log 2 ((x.mantissa : ℚ) * 2 ^ x.exponent) < 53 + x.exponent := by
    rw [← Int.lt_zpow_iff_log_lt (by decide) positive, Nat.cast_ofNat, power_pos]
    exact mul_lt_mul_of_pos_right (by exact_mod_cast x.mantissa_lt) (by positivity)
  have atLeast := x.exponent_ge
  rw [ratio_eq]
  rcases x.exponent_least_or_full with leastIs | filledUp
  · rw [leastIs] at above ⊢
    omega
  · have under : 52 + x.exponent ≤ Int.log 2 ((x.mantissa : ℚ) * 2 ^ x.exponent) := by
      rw [← Int.zpow_le_iff_le_log (by decide) positive, Nat.cast_ofNat, power_pos]
      exact mul_le_mul_of_nonneg_right (by exact_mod_cast filledUp) (by positivity)
    omega

/-- A finite number is the nearest one to its own value. -/
theorem nearestBits_ratio (finite : x.isFinite = true) :
    nearestBits x.ratio.1 x.ratio.2 = x.magnitude := by
  have mag := x.magnitude_eq
  have notInfinite := x.magnitude_lt_of_isFinite finite
  have divisor := x.ratio_den_ne_zero
  by_cases nonzero : x.mantissa = 0
  · have zeroIs : x.ratio.1 = 0 := by
      simp only [ratio, nonzero]
      split <;> simp
    have exponent_eq : x.exponent = -1074 := by
      rcases x.exponent_least_or_full with h | h
      · exact h
      · omega
    rw [zeroIs, mag, nonzero, exponent_eq]
    rfl
  have dividend : x.ratio.1 ≠ 0 := by
    simp only [ratio]
    split
    · exact Nat.mul_ne_zero nonzero (Nat.two_pow_pos _).ne'
    · exact nonzero
  have round : (if 0 ≤ x.exponent then
        roundHalfEven x.ratio.1 (x.ratio.2 * Nat.pow 2 x.exponent.toNat)
      else roundHalfEven (x.ratio.1 * Nat.pow 2 (-x.exponent).toNat) x.ratio.2) = x.mantissa := by
    simp only [ratio]
    split
    · rw [Nat.one_mul]
      exact roundHalfEven_exact _ _ (Nat.two_pow_pos _)
    · exact roundHalfEven_exact _ _ (Nat.two_pow_pos _)
  simp only [nearestBits, dividend, if_false, floorLog2_eq _ _ dividend divisor,
    x.lastPlace_ratio nonzero, round, ← mag]
  exact Nat.min_eq_left notInfinite.le

end RunReports.Decimal.Binary64
