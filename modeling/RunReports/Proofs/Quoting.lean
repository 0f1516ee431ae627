import Mathlib.Tactic.IntervalCases
import RunReports.Literal.Quoted
import RunReports.Literal.Reader
import RunReports.Proofs.Digits
import RunReports.Text.Lines

/-! # Quoted texts read back

Every character of a quoted text is read back from its escape, so the literal of a text reads as
that text. No literal holds a character that ends a line. -/
namespace RunReports.Literal

open RunReports.Text

/-! ## Printable characters -/

theorem lineEnd_unprintable (c : Char) (h : isLineEnd c = true) : isPrintable c = false := by
  have many : inRanges unprintableRanges 0x85 = true ∧ inRanges unprintableRanges 0x2028 = true ∧
      inRanges unprintableRanges 0x2029 = true := by decide +kernel
  obtain ⟨nextIs, lineIs, paragraph⟩ := many
  have kinds : c.toNat < 0x20 ∨ c.toNat = 0x85 ∨ c.toNat = 0x2028 ∨ c.toNat = 0x2029 := by
    simp only [isLineEnd, Bool.or_eq_true, Bool.and_eq_true, decide_eq_true_eq, beq_iff_eq] at h
    omega
  rcases kinds with low | code | code | code
  · simp only [isPrintable]
    rw [decide_eq_false (by omega : ¬ 0x20 ≤ c.toNat),
      decide_eq_false (by omega : ¬ 0x7f ≤ c.toNat)]
    rfl
  · simp [isPrintable, code, nextIs]
  · simp [isPrintable, code, lineIs]
  · simp [isPrintable, code, paragraph]

theorem printable_not_lineEnd {c : Char} (h : isPrintable c = true) : isLineEnd c = false := by
  cases stops : isLineEnd c with
  | false => rfl
  | true => rw [lineEnd_unprintable c stops] at h; exact absurd h (by decide)

/-! ## Escapes -/

theorem readCodePoint_hexDigits (width : Nat) {c : Char} (h : c.toNat < 16 ^ width)
    (rest : List Char) :
    readCodePoint? width (hexDigits width c.toNat ++ rest) = some (c, rest) := by
  have lengthIs : ¬ (hexDigits width c.toNat ++ rest).length < width := by simp
  have taken : (hexDigits width c.toNat ++ rest).take width = hexDigits width c.toNat := by simp
  have dropped : (hexDigits width c.toNat ++ rest).drop width = rest := by simp
  have validIs : c.toNat.isValidChar := c.valid
  rw [readCodePoint?, if_neg lengthIs, taken, dropped, readHex_exact h, Option.bind_some,
    if_pos validIs, Char.ofNat_toNat]

theorem toNat_lt_planes (c : Char) : c.toNat < 16 ^ 8 := c.val.toNat_lt.trans_eq (by decide)

theorem not_lineEnd_of_mem_hexDigits {width n : Nat} {c : Char} (h : c ∈ hexDigits width n) :
    isLineEnd c = false := by
  have digitIs (m : Nat) (small : m < 16) : isLineEnd (hexChar m) = false := by
    interval_cases m <;> decide
  induction width generalizing n with
  | zero => exact absurd h List.not_mem_nil
  | succ width ih =>
    rcases List.mem_append.mp h with h | h
    · exact ih h
    · rw [List.mem_singleton.mp h]
      exact digitIs _ (Nat.mod_lt _ (by decide))

theorem readUnit_printable {c : Char} (h : isPrintable c = true) (backslashIs : c ≠ '\\')
    (rest : List Char) : readUnit? (c :: rest) = some (c, rest) := by
  have raw : (c == '\n' || c == '\r' || c == '\x00') = false := by
    simp only [Bool.or_eq_false_iff, beq_eq_false_iff_ne]
    refine ⟨⟨?_, ?_⟩, ?_⟩
    all_goals
      rintro rfl
      exact absurd h (by decide)
  unfold readUnit?
  split
  · exact absurd ‹_› (by simp)
  · exact absurd ‹_› (by simp [backslashIs])
  · exact absurd ‹_› (by simp [backslashIs])
  · simp_all

section
variable {quote : Char} (marks : isQuote quote = true)
include marks

theorem quote_cases : quote = '\x27' ∨ quote = '"' := by
  simpa [isQuote] using marks

/-- The quote and the backslash are read back from behind a backslash. -/
theorem readUnit_self {c : Char} (h : c = quote ∨ c = '\\') (rest : List Char) :
    readUnit? ('\\' :: c :: rest) = some (c, rest) := by
  rcases h with rfl | rfl
  · rcases quote_cases marks with rfl | rfl <;> rfl
  · rfl

/-- One character is read back from its escape. -/
theorem readUnit_escapeChar (c : Char) (rest : List Char) :
    readUnit? (escapeChar quote c ++ rest) = some (c, rest) := by
  simp only [escapeChar]
  split_ifs with itself bound escapeIs second print byte plane
  · simp only [Bool.or_eq_true, decide_eq_true_eq] at itself
    exact readUnit_self marks itself rest
  · rw [bound]
    rfl
  · rw [escapeIs]
    rfl
  · rw [second]
    rfl
  · simp only [Bool.or_eq_true, decide_eq_true_eq, not_or] at itself
    exact readUnit_printable print itself.2 rest
  · exact readCodePoint_hexDigits 2 byte rest
  · exact readCodePoint_hexDigits 4 plane rest
  · exact readCodePoint_hexDigits 8 (toNat_lt_planes c) rest

/-- An escape does not start with the quote. -/
theorem head_escapeChar (c : Char) (rest : List Char) :
    (escapeChar quote c ++ rest).head? ≠ some quote := by
  have backslashIs : '\\' ≠ quote := by
    rcases quote_cases marks with rfl | rfl <;> decide
  simp only [escapeChar]
  split_ifs with itself bound escapeIs second print
  iterate 4
    · simpa using backslashIs
  · simp only [Bool.or_eq_true, decide_eq_true_eq, not_or] at itself
    simpa using itself.1
  all_goals simpa using backslashIs

theorem not_lineEnd_of_mem_escapeChar {c d : Char} (h : d ∈ escapeChar quote c) :
    isLineEnd d = false := by
  simp only [escapeChar] at h
  split_ifs at h with itself bound escapeIs second print byte plane
  · have known : isLineEnd c = false := by
      simp only [Bool.or_eq_true, decide_eq_true_eq] at itself
      rcases itself with rfl | rfl
      · rcases quote_cases marks with rfl | rfl <;> decide
      · decide
    simp only [List.mem_cons, List.not_mem_nil, or_false] at h
    rcases h with rfl | rfl
    · decide
    · exact known
  iterate 3
    · simp only [List.mem_cons, List.not_mem_nil, or_false] at h
      rcases h with rfl | rfl <;> decide
  · rw [List.mem_singleton.mp h]
    exact printable_not_lineEnd print
  all_goals
    simp only [List.mem_cons] at h
    rcases h with rfl | rfl | h
    · decide
    · decide
    · exact not_lineEnd_of_mem_hexDigits h

/-! ## Literals -/

theorem readBody_escaped (s rest : List Char) {fuel : Nat} (enough : s.length < fuel) :
    readBody quote fuel (s.flatMap (escapeChar quote) ++ quote :: rest) = some (s, rest) := by
  induction s generalizing fuel with
  | nil =>
    obtain ⟨fuel, rfl⟩ := Nat.exists_eq_succ_of_ne_zero (Nat.ne_of_gt enough)
    simp [readBody]
  | cons c s ih =>
    obtain ⟨fuel, rfl⟩ := Nat.exists_eq_succ_of_ne_zero (Nat.ne_of_gt (Nat.zero_lt_of_lt enough))
    rw [List.flatMap_cons, List.append_assoc, readBody, if_neg (head_escapeChar marks c _),
      readUnit_escapeChar marks]
    simp only [ih (Nat.lt_of_succ_lt_succ enough), Option.map_some]

theorem length_le_escaped (s : List Char) : s.length ≤ (s.flatMap (escapeChar quote)).length := by
  induction s with
  | nil => exact Nat.zero_le _
  | cons c s ih =>
    have positive : 0 < (escapeChar quote c).length := by
      rw [List.length_pos_iff]
      intro nothing
      have readsBack := readUnit_escapeChar marks c []
      rw [nothing] at readsBack
      exact absurd readsBack (by simp [readUnit?])
    simp only [List.flatMap_cons, List.length_append, List.length_cons]
    omega

end

def NoQuote (rest : List Char) : Prop := ∀ c ∈ rest.head?, isQuote c = false

/-- No literal of one line looks like the start of one of several lines. -/
theorem not_tripled {quote : Char} (marks : isQuote quote = true) (s : List Char)
    {rest : List Char} (follows : NoQuote rest) :
    isTripled quote (s.flatMap (escapeChar quote) ++ quote :: rest) = false := by
  cases s with
  | nil =>
    cases rest with
    | nil => rfl
    | cons c rest =>
      have filled : c ≠ quote := by
        rintro rfl
        rw [follows c rfl] at marks
        exact absurd marks (by decide)
      simp [isTripled, filled]
  | cons c s =>
    have headIs := head_escapeChar marks c (s.flatMap (escapeChar quote) ++ quote :: rest)
    rw [List.flatMap_cons, List.append_assoc]
    generalize escapeChar quote c ++ (s.flatMap (escapeChar quote) ++ quote :: rest) = body
      at headIs
    match body with
    | [] => rfl
    | [_] => rfl
    | a :: b :: tail =>
      have filled : a ≠ quote := fun h => headIs (congrArg some h)
      simp [isTripled, filled]

theorem isQuote_quoteFor (s : List Char) : isQuote (quoteFor s) = true := by
  simp only [quoteFor]
  split <;> rfl

/-- The literal of a text reads as the text. -/
theorem readText_quoted (s : List Char) {rest : List Char} (follows : NoQuote rest) :
    readText? (quoted s ++ rest) = some (s, rest) := by
  have marks := isQuote_quoteFor s
  have single := not_tripled marks s follows
  have lengthIs :
      s.length < (s.flatMap (escapeChar (quoteFor s)) ++ quoteFor s :: rest).length := by
    have atMost := length_le_escaped marks s
    simp only [List.length_append, List.length_cons]
    omega
  simp only [quoted, List.cons_append, List.append_assoc, List.nil_append, readText?, marks,
    single]
  exact readBody_escaped marks s rest lengthIs

theorem not_lineEnd_of_mem_quoted {s : List Char} {c : Char} (h : c ∈ quoted s) :
    isLineEnd c = false := by
  have marks : isLineEnd (quoteFor s) = false := by
    rcases quote_cases (isQuote_quoteFor s) with single | double
    · rw [single]
      decide
    · rw [double]
      decide
  simp only [quoted, List.cons_append, List.mem_cons, List.mem_append, List.mem_flatMap,
    List.not_mem_nil, or_false] at h
  rcases h with rfl | ⟨d, -, seen⟩ | rfl
  · exact marks
  · exact not_lineEnd_of_mem_escapeChar (isQuote_quoteFor s) seen
  · exact marks

end RunReports.Literal
