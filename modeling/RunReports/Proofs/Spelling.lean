import Mathlib.Data.List.TakeWhile
import RunReports.Decimal.Written
import RunReports.Proofs.Numerals

/-! # How numbers are spelled

A floating point number is spelled by digits, a fraction and an exponent, of which at least one of
the last two is there. Positional and scientific texts are both spelled like this, and what
they spell is rounded to the number that was written. Nothing here depends on who reads the
text, so every reader of such spellings reads written numbers back. -/
namespace RunReports.Decimal

open RunReports.Text

/-- The parts of a number's text: the digits before the point, those behind it, and the sign and
the digits of the exponent. -/
structure Spelling where
  whole : List Char
  fraction : List Char
  exponent : Option (Bool × List Char)

namespace Spelling

def fractionText : List Char → List Char
  | [] => []
  | ds => '.' :: ds

def exponentText : Option (Bool × List Char) → List Char
  | none => []
  | some (negative, ds) => 'e' :: (if negative then '-' else '+') :: ds

def text (s : Spelling) : List Char :=
  s.whole ++ (fractionText s.fraction ++ exponentText s.exponent)

def power (s : Spelling) : Int :=
  match s.exponent with
  | none => 0
  | some (negative, ds) => if negative then -(readDecimal ds : Int) else (readDecimal ds : Int)

def bits (s : Spelling) : Nat :=
  Binary64.decimalBits (readDecimal (s.whole ++ s.fraction)) (s.power - (s.fraction.length : Int))

/-- The form of a floating point number: no needless zero in front, and a fraction or an exponent
to tell it from a whole number. -/
structure IsFloating (s : Spelling) : Prop where
  whole_digits : AllDigits s.whole
  whole_ne_nil : s.whole ≠ []
  whole_head : s.whole = ['0'] ∨ s.whole.head? ≠ some '0'
  fraction_digits : AllDigits s.fraction
  exponent_digits : ∀ e ∈ s.exponent, AllDigits e.2 ∧ e.2 ≠ []
  marked : s.fraction ≠ [] ∨ s.exponent ≠ none

end Spelling

def Spells (text : List Char) (bits : Nat) : Prop :=
  ∃ s : Spelling, s.IsFloating ∧ s.text = text ∧ s.bits = bits

/-! ## The digits of a numeral -/

/-- What dropping the final zeros of a number drops. -/
theorem decimal_eq_withoutFinalZeros (n : Nat) :
    ∃ k, decimal n = withoutFinalZeros (decimal n) ++ List.replicate k '0' := by
  have splitIs := congrArg List.reverse
    (List.takeWhile_append_dropWhile (p := (· == '0')) (l := (decimal n).reverse))
  rw [List.reverse_append, List.reverse_reverse] at splitIs
  have zerosIs : ((decimal n).reverse.takeWhile (· == '0')).reverse =
      List.replicate ((decimal n).reverse.takeWhile (· == '0')).length '0' := by
    rw [List.eq_replicate_iff]
    refine ⟨List.length_reverse, fun c known => ?_⟩
    have zeroIs := List.mem_takeWhile_imp (List.mem_reverse.mp known)
    exact eq_of_beq zeroIs
  refine ⟨((decimal n).reverse.takeWhile (· == '0')).length, ?_⟩
  rw [← zerosIs]
  exact splitIs.symm

/-- The significant digits of a positive number: there are some, the first is no zero, and they
stand for the number with its factors of ten moved to the exponent. -/
theorem significant_digits (n : Nat) (bound : 0 < n) (e : Int) :
    AllDigits (withoutFinalZeros (decimal n)) ∧
      (∃ c tail, withoutFinalZeros (decimal n) = c :: tail ∧ c ≠ '0') ∧
      Binary64.decimalBits n e =
        Binary64.decimalBits (readDecimal (withoutFinalZeros (decimal n)))
          ((decimal n).length + e - (withoutFinalZeros (decimal n)).length) := by
  obtain ⟨k, place_lt⟩ := decimal_eq_withoutFinalZeros n
  have allDigits := allDigits_decimal n
  have headIs := head_decimal n bound
  have readsBack := readDecimal_decimal n
  generalize withoutFinalZeros (decimal n) = ds at place_lt ⊢
  rw [place_lt] at allDigits headIs readsBack ⊢
  rw [readDecimal_append_zeros] at readsBack
  have lengthIs : ((ds ++ List.replicate k '0').length : Int) + e - ds.length = e + k := by
    simp only [List.length_append, List.length_replicate]
    omega
  refine ⟨fun c known => allDigits c (List.mem_append_left _ known), ?_, ?_⟩
  · cases ds with
    | nil =>
      rw [show readDecimal [] = 0 from rfl, Nat.mul_zero] at readsBack
      omega
    | cons c tail => exact ⟨c, tail, rfl, fun h => headIs (by simp [h])⟩
  · rw [lengthIs, ← Binary64.decimalBits_shift, Nat.mul_comm, readsBack]

/-! ## Written numerals -/

theorem fractionText_of_ne_nil {ds : List Char} (h : ds ≠ []) :
    Spelling.fractionText ds = '.' :: ds := by
  cases ds with
  | nil => exact absurd rfl h
  | cons c ds => rfl

section
variable {c : Char} {tail : List Char} (allDigits : AllDigits (c :: tail))
include allDigits

theorem spelled_below_one {place : Int} (placeIs : place ≤ 0) :
    Spells (positional (c :: tail) place)
      (Binary64.decimalBits (readDecimal (c :: tail)) (place - (c :: tail).length)) := by
  have filled : List.replicate (-place).toNat '0' ++ c :: tail ≠ [] := by simp
  refine ⟨⟨['0'], List.replicate (-place).toNat '0' ++ c :: tail, none⟩, ?_, ?_, ?_⟩
  · exact ⟨allDigits_zeros 1, List.cons_ne_nil _ _, Or.inl rfl,
      (allDigits_zeros _).append allDigits, fun _ h => absurd h (by simp), Or.inl filled⟩
  · simp [Spelling.text, fractionText_of_ne_nil filled, Spelling.exponentText, positional, placeIs]
  · have readsBack := readDecimal_zeros_append (1 + (-place).toNat) (c :: tail)
    rw [List.replicate_add, List.append_assoc] at readsBack
    have powerIs : Spelling.power ⟨['0'], List.replicate (-place).toNat '0' ++ c :: tail, none⟩ -
        ((List.replicate (-place).toNat '0' ++ c :: tail).length : Int) =
        place - (c :: tail).length := by
      simp only [Spelling.power, List.length_append, List.length_replicate]
      omega
    rw [Spelling.bits, powerIs]
    exact congrArg (Binary64.decimalBits · _) readsBack

variable (known : c ≠ '0')
include known

theorem spelled_with_zeros {place : Nat} (placeIs : (c :: tail).length ≤ place) :
    Spells (positional (c :: tail) place)
      (Binary64.decimalBits (readDecimal (c :: tail)) (place - (c :: tail).length)) := by
  have above_zero : ¬ (place : Int) ≤ 0 := by
    rw [List.length_cons] at placeIs
    omega
  refine ⟨⟨(c :: tail) ++ List.replicate (place - (c :: tail).length) '0', ['0'], none⟩, ?_, ?_, ?_⟩
  · exact ⟨allDigits.append (allDigits_zeros _), by simp, Or.inr (by simpa using known),
      allDigits_zeros 1, fun _ h => absurd h (by simp), Or.inl (List.cons_ne_nil _ _)⟩
  · simp only [Spelling.text, Spelling.fractionText, Spelling.exponentText, positional, above_zero,
      if_false, Int.toNat_natCast, List.take_of_length_le placeIs, List.drop_of_length_le placeIs]
    rfl
  · have zerosIs : (c :: tail) ++ List.replicate (place - (c :: tail).length) '0' ++ ['0'] =
        (c :: tail) ++ List.replicate (place - (c :: tail).length + 1) '0' := by
      rw [List.replicate_succ', List.append_assoc]
    simp only [Spelling.bits, Spelling.power, zerosIs, readDecimal_append_zeros]
    rw [Nat.mul_comm, Binary64.decimalBits_shift]
    congr 1
    simp only [List.length_cons, List.length_nil] at placeIs ⊢
    omega

theorem spelled_within {place : Nat} (above_zero : 0 < place)
    (placeIs : place < (c :: tail).length) :
    Spells (positional (c :: tail) place)
      (Binary64.decimalBits (readDecimal (c :: tail)) (place - (c :: tail).length)) := by
  have positive' : ¬ (place : Int) ≤ 0 := by omega
  have solid : (c :: tail).drop place ≠ [] := by
    rw [ne_eq, List.drop_eq_nil_iff]
    omega
  have beforeIs : (c :: tail).take place = c :: tail.take (place - 1) := by
    obtain ⟨n, rfl⟩ := Nat.exists_eq_succ_of_ne_zero above_zero.ne'
    rfl
  have each := List.take_append_drop place (c :: tail)
  refine ⟨⟨(c :: tail).take place, (c :: tail).drop place, none⟩, ?_, ?_, ?_⟩
  · refine ⟨fun d seen => allDigits d (List.mem_of_mem_take seen), ?_, Or.inr ?_,
      fun d seen => allDigits d (List.mem_of_mem_drop seen), fun _ h => absurd h (by simp),
      Or.inl solid⟩
    · rw [beforeIs]
      exact List.cons_ne_nil _ _
    · rw [beforeIs]
      simpa using known
  · have absent : place - (c :: tail).length = 0 := by omega
    simp only [Spelling.text, fractionText_of_ne_nil solid, Spelling.exponentText, positional,
      positive', if_false, Int.toNat_natCast, absent, List.isEmpty_iff, solid]
    simp
  · have powerIs : Spelling.power ⟨(c :: tail).take place, (c :: tail).drop place, none⟩ -
        (((c :: tail).drop place).length : Int) = place - (c :: tail).length := by
      simp only [Spelling.power, List.length_drop]
      omega
    rw [Spelling.bits, powerIs, each]

theorem positional_spelled (place : Int) :
    Spells (positional (c :: tail) place)
      (Binary64.decimalBits (readDecimal (c :: tail)) (place - (c :: tail).length)) := by
  rcases lt_or_ge 0 place with above_zero | placeIs
  · obtain ⟨n, rfl⟩ := Int.eq_ofNat_of_zero_le above_zero.le
    rcases Nat.lt_or_ge n (c :: tail).length with less | atLeast
    · exact spelled_within allDigits known (by omega) less
    · exact spelled_with_zeros allDigits known atLeast
  · exact spelled_below_one allDigits placeIs

theorem scientific_spelled (style : NumberStyle) (place : Int) :
    Spells (scientific style (c :: tail) place)
      (Binary64.decimalBits (readDecimal (c :: tail)) (place - (c :: tail).length)) := by
  have powerIs : (if decide (place - 1 < 0) then -((place - 1).natAbs : Int)
      else ((place - 1).natAbs : Int)) = place - 1 := by
    by_cases h : place - 1 < 0
    · rw [if_pos (decide_eq_true h)]
      omega
    · rw [if_neg (by simpa using h)]
      omega
  refine ⟨⟨[c], tail, some (place - 1 < 0, zeroPadded style.exponentWidth (place - 1).natAbs)⟩,
    ?_, ?_, ?_⟩
  · refine ⟨fun d seen => allDigits d (by simp_all), List.cons_ne_nil _ _,
      Or.inr (by simpa using known), fun d seen => allDigits d (List.mem_cons_of_mem _ seen), ?_,
      Or.inr (by simp)⟩
    rintro e ⟨⟩
    exact ⟨allDigits_zeroPadded _ _, zeroPadded_ne_nil _ _⟩
  · cases tail with
    | nil => simp [Spelling.text, Spelling.fractionText, Spelling.exponentText, scientific]
    | cons d tail => simp [Spelling.text, Spelling.fractionText, Spelling.exponentText, scientific]
  · simp only [Spelling.bits, Spelling.power, readDecimal_zeroPadded, powerIs]
    congr 1
    simp only [List.length_cons]
    omega

end

/-- A positive numeral is spelled in a form that reads back. -/
theorem Numeral.written_spelled (style : NumberStyle) (x : Numeral) (positive : 0 < x.digits) :
    Spells (x.written style) (Binary64.decimalBits x.digits x.exponent) := by
  obtain ⟨allDigits, ⟨c, tail, digitsIs, known⟩, bitsIs⟩ :=
    significant_digits x.digits positive x.exponent
  simp only [Numeral.written]
  rw [digitsIs] at allDigits bitsIs ⊢
  rw [bitsIs]
  split
  · exact positional_spelled allDigits known _
  · exact scientific_spelled allDigits known style _

/-- A finite number is written as a sign and a spelling of its magnitude. -/
theorem Binary64.written_spelled (style : NumberStyle) (x : Binary64)
    (finite : x.isFinite = true) :
    ∃ s : Spelling, s.IsFloating ∧
      x.written style = (if x.isNegative then ['-'] else []) ++ s.text ∧
      Binary64.ofMagnitude x.isNegative s.bits = x := by
  have magnitude_eq := x.magnitude_lt_of_isFinite finite
  have notNan : x.isNaN = false := decide_eq_false (by omega)
  have notInf : x.isInfinite = false := beq_eq_false_iff_ne.mpr (by omega)
  simp only [Binary64.written, notNan, notInf, Bool.false_eq_true, if_false]
  cases nonzero : x.isZero with
  | true =>
    refine ⟨⟨['0'], ['0'], none⟩, ?_, rfl, ?_⟩
    · exact ⟨allDigits_zeros 1, List.cons_ne_nil _ _, Or.inl rfl, allDigits_zeros 1,
        fun _ h => absurd h (by simp), Or.inl (List.cons_ne_nil _ _)⟩
    · have bitsIs : Spelling.bits ⟨['0'], ['0'], none⟩ = x.magnitude := (eq_of_beq nonzero).symm
      rw [bitsIs, x.ofMagnitude_self]
  | false =>
    obtain ⟨s, floating, textIs, bitsIs⟩ :=
      (shortest x).written_spelled style (x.shortest_digits_pos finite nonzero)
    refine ⟨s, floating, by rw [textIs]; rfl, ?_⟩
    rw [bitsIs, x.shortest_reads finite nonzero, x.ofMagnitude_self]

end RunReports.Decimal
