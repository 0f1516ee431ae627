import Mathlib.Tactic.IntervalCases
import RunReports.Text.Digits

/-! # Digits read back

Reading is the inverse of writing, in base ten and in base sixteen. `IsNumber` is the form in
which a positive number is written: digits that do not start with a zero. -/
namespace RunReports.Text

def AllDigits (ds : List Char) : Prop := ∀ c ∈ ds, isDigit c = true

theorem isDigit_eq (c : Char) : isDigit c = c.isDigit := by
  simp [isDigit, Char.isDigit, Char.le_def]

theorem AllDigits.append {xs ys : List Char} (given : AllDigits xs) (later : AllDigits ys) :
    AllDigits (xs ++ ys) := by
  intro c known
  rcases List.mem_append.mp known with h | h
  · exact given c h
  · exact later c h

theorem allDigits_zeros (n : Nat) : AllDigits (List.replicate n '0') := by
  intro c known
  rw [List.eq_of_mem_replicate known]
  rfl

theorem allDigits_decimal (n : Nat) : AllDigits (decimal n) := by
  intro c known
  rw [isDigit_eq]
  exact Nat.isDigit_of_mem_toDigits (by decide) (by decide) known

theorem allDigits_zeroPadded (width n : Nat) : AllDigits (zeroPadded width n) :=
  (allDigits_zeros _).append (allDigits_decimal n)

/-! ## Base ten -/

theorem readDecimal_append (xs ys : List Char) :
    readDecimal (xs ++ ys) = 10 ^ ys.length * readDecimal xs + readDecimal ys := by
  have join : readDecimal (xs ++ ys) = Nat.ofDigitChars 10 ys (readDecimal xs) :=
    Nat.ofDigitChars_append 0
  rw [join, Nat.ofDigitChars_eq_ofDigitChars_zero]
  rfl

theorem readDecimal_zeros (n : Nat) : readDecimal (List.replicate n '0') = 0 :=
  Nat.ofDigitChars_replicate_zero

theorem readDecimal_zeros_append (n : Nat) (ds : List Char) :
    readDecimal (List.replicate n '0' ++ ds) = readDecimal ds := by
  rw [readDecimal_append, readDecimal_zeros, Nat.mul_zero, Nat.zero_add]

theorem readDecimal_append_zeros (n : Nat) (ds : List Char) :
    readDecimal (ds ++ List.replicate n '0') = 10 ^ n * readDecimal ds := by
  rw [readDecimal_append, readDecimal_zeros, List.length_replicate, Nat.add_zero]

theorem readDecimal_decimal (n : Nat) : readDecimal (decimal n) = n :=
  Nat.ofDigitChars_ten_toDigits

theorem readDecimal_zeroPadded (width n : Nat) : readDecimal (zeroPadded width n) = n := by
  rw [zeroPadded, readDecimal_zeros_append, readDecimal_decimal]

theorem readDecimal_lt {ds : List Char} (h : AllDigits ds) : readDecimal ds < 10 ^ ds.length := by
  induction ds with
  | nil => decide
  | cons c ds ih =>
    have rest := ih fun d seen => h d (List.mem_cons_of_mem _ seen)
    have first : readDecimal [c] ≤ 9 := by
      have digit := h c List.mem_cons_self
      simp only [isDigit, Bool.and_eq_true, decide_eq_true_eq, Char.le_def,
        UInt32.le_iff_toNat_le] at digit
      have code : c.toNat ≤ 57 := digit.2
      simp only [readDecimal, List.foldl_cons, List.foldl_nil, digitValue]
      omega
    have split := readDecimal_append [c] ds
    rw [List.singleton_append] at split
    calc readDecimal (c :: ds) = 10 ^ ds.length * readDecimal [c] + readDecimal ds := split
      _ < 10 ^ ds.length * readDecimal [c] + 10 ^ ds.length := by omega
      _ = 10 ^ ds.length * (readDecimal [c] + 1) := (Nat.mul_succ _ _).symm
      _ ≤ 10 ^ ds.length * 10 := Nat.mul_le_mul_left _ (by omega)
      _ = 10 ^ (c :: ds).length := (Nat.pow_succ 10 ds.length).symm

/-- A number is not written longer than it was read. -/
theorem length_decimal_readDecimal {ds : List Char} (h : AllDigits ds) (ne : ds ≠ []) :
    (decimal (readDecimal ds)).length ≤ ds.length :=
  (Nat.length_toDigits_le_iff (by decide) (List.length_pos_iff.mpr ne)).mpr (readDecimal_lt h)

theorem decimal_ne_nil (n : Nat) : decimal n ≠ [] := Nat.toDigits_ne_nil

theorem zeroPadded_ne_nil (width n : Nat) : zeroPadded width n ≠ [] := by
  intro h
  exact decimal_ne_nil n (List.append_eq_nil_iff.mp h).2

/-- A positive number does not start with a zero. -/
theorem head_decimal (n : Nat) (nonzero : 0 < n) : (decimal n).head? ≠ some '0' := by
  induction n using Nat.base_induction 10 (by decide) with
  | single m small =>
    rw [decimal, Nat.toDigits_of_lt_base small]
    interval_cases m <;> decide
  | digit m k place_lt small ih =>
    have firstIs := ih small
    rw [decimal] at firstIs ⊢
    rw [← Nat.toDigits_append_toDigits (by decide) small place_lt]
    cases seen : Nat.toDigits 10 m with
    | nil => exact absurd seen Nat.toDigits_ne_nil
    | cons c tail => simpa [seen] using firstIs

theorem decimal_shift (n k : Nat) (nonzero : 0 < n) :
    decimal (n * 10 ^ k) = decimal n ++ List.replicate k '0' := by
  induction k with
  | zero => simp
  | succ k ih =>
    have above_zero : 0 < n * 10 ^ k := Nat.mul_pos nonzero (Nat.pow_pos (by decide))
    have step := Nat.toDigits_append_toDigits (by decide) above_zero (by decide : 0 < 10)
    have nextIs : n * 10 ^ (k + 1) = 10 * (n * 10 ^ k) + 0 := by
      rw [Nat.pow_succ, ← Nat.mul_assoc, Nat.mul_comm, Nat.add_zero]
    rw [decimal] at ih ⊢
    rw [nextIs, ← step, ih, Nat.toDigits_zero, List.append_assoc, List.replicate_succ']

/-! ## Base sixteen -/

theorem hexValue_hexChar (n : Nat) (nonzero : n < 16) : hexValue? (hexChar n) = some n := by
  interval_cases n <;> decide

@[simp]
theorem length_hexDigits (width n : Nat) : (hexDigits width n).length = width := by
  induction width generalizing n with
  | zero => rfl
  | succ width ih => simp [hexDigits, ih]

/-- A written number is read modulo the power of sixteen that its width allows. -/
theorem readHex_written (width n : Nat) :
    readHex? (hexDigits width n) = some (n % 16 ^ width) := by
  induction width generalizing n with
  | zero => simp [hexDigits, readHex?, Nat.mod_one]
  | succ width ih =>
    have lastChar : hexValue? (hexChar (n % 16)) = some (n % 16) :=
      hexValue_hexChar _ (Nat.mod_lt _ (by decide))
    have parts : n % 16 ^ (width + 1) = 16 * (n / 16 % 16 ^ width) + n % 16 := by
      rw [Nat.pow_succ', Nat.mod_mul, Nat.add_comm]
    have init := ih (n / 16)
    unfold readHex? at init ⊢
    rw [hexDigits, List.foldl_append, init, parts]
    simp only [List.foldl_cons, List.foldl_nil, Option.bind_some, lastChar, Option.map_some]

theorem readHex_exact {width n : Nat} (nonzero : n < 16 ^ width) :
    readHex? (hexDigits width n) = some n := by
  rw [readHex_written, Nat.mod_eq_of_lt nonzero]

/-! ## Where digits end -/

def EndsDigits (rest : List Char) : Prop := ∀ c ∈ rest.head?, isDigit c = false

theorem takeWhile_digits {ds rest : List Char} (digitsIs : AllDigits ds)
    (follows : EndsDigits rest) : (ds ++ rest).takeWhile isDigit = ds := by
  rw [List.takeWhile_append_of_pos digitsIs]
  cases rest with
  | nil => simp
  | cons c rest => simp [follows c rfl]

theorem dropWhile_digits {ds rest : List Char} (digitsIs : AllDigits ds)
    (follows : EndsDigits rest) : (ds ++ rest).dropWhile isDigit = rest := by
  rw [List.dropWhile_append_of_pos digitsIs]
  cases rest with
  | nil => simp
  | cons c rest => simp [follows c rfl]

end RunReports.Text
