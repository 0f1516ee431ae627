import Mathlib.Tactic.IntervalCases
import RunReports.Proofs.JsonBytes
import RunReports.Text.Percent

/-! # Escaped texts read back

Escaping writes characters that need no escape, percent signs and hexadecimal digits only. Undoing
it gives the text back, whatever characters it holds, as long as the percent sign is escaped
itself. -/
namespace RunReports.Text

/-! ## Lenient decoding -/

/-- Where strict reading succeeds, lenient reading gives the same. -/
theorem decodeLossyFrom_of_decodeFrom {out : List Char} {pending : Option Pending}
    {position : Nat} {bytes : List UInt8} {s : List Char}
    (read : decodeFrom out pending position bytes = .ok s) :
    decodeLossyFrom out pending bytes = s := by
  induction bytes generalizing out pending position with
  | nil =>
    cases pending with
    | none =>
      rw [decodeFrom] at read
      cases read
      rfl
    | some p => cases read
  | cons b rest ih =>
    cases pending with
    | none =>
      simp only [decodeFrom] at read
      simp only [decodeLossyFrom]
      cases kind : lead b with
      | single c =>
        rw [kind] at read
        exact ih read
      | sequence p =>
        rw [kind] at read
        exact ih read
      | invalid =>
        rw [kind] at read
        cases read
    | some p =>
      simp only [decodeFrom] at read
      simp only [decodeLossyFrom]
      cases next : p.next b with
      | none =>
        rw [next] at read
        cases read
      | some more =>
        rw [next] at read
        cases more with
        | inl c => exact ih read
        | inr q => exact ih read

theorem decodeUtf8Lossy_encodeUtf8 (s : List Char) : decodeUtf8Lossy (encodeUtf8 s) = s :=
  decodeLossyFrom_of_decodeFrom (decodeFrom_encodeUtf8 [] 0 s)

/-! ## What is written -/

theorem hexValue_upperHexChar {n : Nat} (below : n < 16) :
    hexValue? (upperHexChar n) = some n := by
  interval_cases n <;> decide

theorem isUnreserved_upperHexChar {n : Nat} (below : n < 16) :
    isUnreserved (upperHexChar n) = true := by
  interval_cases n <;> decide

/-- A character that needs no escape is an ASCII letter or digit or one of four marks. -/
theorem isUnreserved_ascii {c : Char} (free : isUnreserved c = true) : c.toNat < 0x80 := by
  rw [isUnreserved] at free
  delta Char.isAlphanum Char.isAlpha Char.isUpper Char.isLower Char.isDigit at free
  simp only [Bool.or_eq_true, Bool.and_eq_true, decide_eq_true_eq, beq_iff_eq, ge_iff_le,
    UInt32.le_iff_toNat_le] at free
  change ((((((65 ≤ c.toNat ∧ c.toNat ≤ 90) ∨ 97 ≤ c.toNat ∧ c.toNat ≤ 122) ∨
    48 ≤ c.toNat ∧ c.toNat ≤ 57) ∨ c = '-') ∨ c = '.') ∨ c = '_') ∨ c = '~' at free
  rcases free with ((((letter | digit) | rfl) | rfl) | rfl) | rfl
  · omega
  · omega
  all_goals decide

variable {isSafe : Char → Bool} {s : List Char} {c : Char}

def StaysPlain (isSafe : Char → Bool) : Prop :=
  ∀ c, isSafe c = true → c.toNat < 0x80 ∧ c ≠ '%'

/-- An escaped text holds characters that stay, percent signs and hexadecimal digits. -/
theorem mem_percentEncode (there : c ∈ percentEncode isSafe s) :
    isUnreserved c = true ∨ isSafe c = true ∨ c = '%' := by
  obtain ⟨d, -, written⟩ := List.mem_flatMap.mp there
  by_cases stays : (isUnreserved d || isSafe d) = true
  · rw [if_pos stays, List.mem_singleton] at written
    subst written
    rcases Bool.or_eq_true_iff.mp stays with free | safe
    · exact Or.inl free
    · exact Or.inr (Or.inl safe)
  · rw [if_neg stays] at written
    obtain ⟨b, -, escaped⟩ := List.mem_flatMap.mp written
    have size : b.toNat < 256 := UInt8.toNat_lt b
    simp only [percentByte, List.mem_cons, List.not_mem_nil, or_false] at escaped
    rcases escaped with rfl | rfl | rfl
    · exact Or.inr (Or.inr rfl)
    · exact Or.inl (isUnreserved_upperHexChar (by omega))
    · exact Or.inl (isUnreserved_upperHexChar (by omega))

theorem percentEncode_ascii (plain : StaysPlain isSafe) :
    ∀ c ∈ percentEncode isSafe s, c.toNat < 0x80 := by
  intro c there
  rcases mem_percentEncode there with free | safe | rfl
  · exact isUnreserved_ascii free
  · exact (plain c safe).1
  · decide

/-! ## Undone again -/

theorem unescapeBytes_other (other : c ≠ '%') (rest : List Char) :
    unescapeBytes (c :: rest) = UInt8.ofNat c.toNat :: unescapeBytes rest := by
  rw [unescapeBytes.eq_def]
  split
  · rename_i same
    cases same
  · rename_i same
    exact absurd (List.cons.inj same).1 other
  · rename_i same
    rw [(List.cons.inj same).1, (List.cons.inj same).2]

theorem unescapeBytes_percentByte (b : UInt8) (rest : List Char) :
    unescapeBytes (percentByte b ++ rest) = b :: unescapeBytes rest := by
  have size : b.toNat < 256 := UInt8.toNat_lt b
  have high := hexValue_upperHexChar (by omega : b.toNat / 16 < 16)
  have low := hexValue_upperHexChar (by omega : b.toNat % 16 < 16)
  have whole : 16 * (b.toNat / 16) + b.toNat % 16 = b.toNat := by omega
  simp only [percentByte, List.cons_append, List.nil_append, unescapeBytes, high, low, whole]
  rw [UInt8.ofNat_toNat]

theorem unescapeBytes_percentBytes (bytes : List UInt8) (rest : List Char) :
    unescapeBytes (bytes.flatMap percentByte ++ rest) = bytes ++ unescapeBytes rest := by
  induction bytes with
  | nil => rfl
  | cons b bytes ih =>
    rw [List.flatMap_cons, List.append_assoc, unescapeBytes_percentByte, ih, List.cons_append]

/-- The bytes behind an escaped text are those of the text. -/
theorem unescapeBytes_percentEncode (plain : StaysPlain isSafe) (s : List Char) :
    unescapeBytes (percentEncode isSafe s) = encodeUtf8 s := by
  induction s with
  | nil => rfl
  | cons c s ih =>
    rw [percentEncode, List.flatMap_cons, encodeUtf8_cons, ← ih, ← percentEncode]
    by_cases stays : (isUnreserved c || isSafe c) = true
    · have ascii : c.toNat < 0x80 ∧ c ≠ '%' := by
        rcases Bool.or_eq_true_iff.mp stays with free | safe
        · refine ⟨isUnreserved_ascii free, ?_⟩
          rintro rfl
          cases free
        · exact plain c safe
      rw [if_pos stays, List.singleton_append, unescapeBytes_other ascii.2, encodeChar,
        if_pos ascii.1, List.singleton_append]
    · rw [if_neg stays, unescapeBytes_percentBytes]

/-- In a text of ASCII characters all escapes are decoded together. -/
theorem unquoteFrom_ascii (run s : List Char) (ascii : ∀ c ∈ s, c.toNat < 0x80) :
    unquoteFrom run s = decodeUtf8Lossy (unescapeBytes (run.reverse ++ s)) := by
  induction s generalizing run with
  | nil => rw [unquoteFrom, List.append_nil]
  | cons c s ih =>
    obtain ⟨first, later⟩ := List.forall_mem_cons.mp ascii
    rw [unquoteFrom, if_pos first, ih (c :: run) later, List.reverse_cons, List.append_assoc,
      List.singleton_append]

/-- Undoing the escapes of a text gives the text back. -/
theorem unquote_percentEncode (plain : StaysPlain isSafe) (s : List Char) :
    unquote (percentEncode isSafe s) = s := by
  rw [unquote, unquoteFrom_ascii [] _ (percentEncode_ascii plain), List.reverse_nil,
    List.nil_append, unescapeBytes_percentEncode plain, decodeUtf8Lossy_encodeUtf8]

end RunReports.Text
