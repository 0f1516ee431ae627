import RunReports.CommandLine.Commands
import RunReports.Proofs.JsonText

/-!
# Printed lines

A command prints a value on one line of printable ASCII characters, whatever texts the value holds,
and who reads the line gets the value back.
-/
namespace RunReports

namespace Text

def IsGraphic (c : Char) : Prop := 0x20 ≤ c.toNat ∧ c.toNat ≤ 0x7e

instance (c : Char) : Decidable (IsGraphic c) := inferInstanceAs (Decidable (_ ∧ _))

/-- For a given text this is decided character by character. -/
theorem isGraphic_of_all {s : List Char} (all : s.all (fun c => IsGraphic c) = true) :
    ∀ c ∈ s, IsGraphic c := by
  simpa using all

theorem isGraphic_digits {ds : List Char} (digits : AllDigits ds) : ∀ c ∈ ds, IsGraphic c := by
  intro c there
  have bounds : '0'.toNat ≤ c.toNat ∧ c.toNat ≤ '9'.toNat := by
    simpa [isDigit, Char.le_def, UInt32.le_iff_toNat_le] using digits c there
  have zero : '0'.toNat = 0x30 := rfl
  have nine : '9'.toNat = 0x39 := rfl
  simp only [IsGraphic]
  omega

theorem isGraphic_hexDigits (width n : Nat) : ∀ c ∈ hexDigits width n, IsGraphic c := by
  have digit : ∀ n < 16, IsGraphic (hexChar n) := by decide
  induction width generalizing n with
  | zero => simp [hexDigits]
  | succ width ih =>
    rw [hexDigits, List.forall_mem_append, List.forall_mem_singleton]
    exact ⟨ih (n / 16), digit (n % 16) (Nat.mod_lt n (by decide))⟩

end Text

namespace Json

open RunReports.Decimal RunReports.Text

/-! ## Printable characters -/

theorem isGraphic_unitEscape (n : Nat) : ∀ c ∈ unitEscape n, IsGraphic c := by
  rw [unitEscape, List.forall_mem_cons, List.forall_mem_cons]
  exact ⟨by decide, by decide, isGraphic_hexDigits 4 n⟩

/-- What is outside the printable ASCII characters is escaped. -/
theorem isGraphic_escapeChar (c : Char) : ∀ d ∈ escapeChar true c, IsGraphic d := by
  simp only [escapeChar]
  split_ifs with quote back feed return_ tab bell form escaped
  iterate 7
    · exact isGraphic_of_all (by decide)
  · simp only [unicodeEscape]
    split_ifs
    · exact isGraphic_unitEscape _
    · exact List.forall_mem_append.mpr ⟨isGraphic_unitEscape _, isGraphic_unitEscape _⟩
  · simp only [Bool.true_and, Bool.or_eq_true, decide_eq_true_eq] at escaped
    rw [List.forall_mem_singleton, IsGraphic]
    omega

theorem isGraphic_writeString (s : String) : ∀ c ∈ writeString true s, IsGraphic c := by
  have inside : ∀ c ∈ s.toList.flatMap (escapeChar true), IsGraphic c := by
    intro c there
    obtain ⟨d, -, there⟩ := List.mem_flatMap.mp there
    exact isGraphic_escapeChar d c there
  rw [writeString, List.cons_append, List.forall_mem_cons, List.forall_mem_append]
  exact ⟨by decide, inside, isGraphic_of_all (by decide)⟩

theorem isGraphic_signedDecimal (n : Int) : ∀ c ∈ signedDecimal n, IsGraphic c := by
  cases n with
  | ofNat n => exact isGraphic_digits (allDigits_decimal n)
  | negSucc n =>
    rw [signedDecimal, List.forall_mem_cons]
    exact ⟨by decide, isGraphic_digits (allDigits_decimal (n + 1))⟩

theorem isGraphic_spelling {s : Spelling} (floating : s.IsFloating) :
    ∀ c ∈ s.text, IsGraphic c := by
  have fraction : ∀ c ∈ Spelling.fractionText s.fraction, IsGraphic c := by
    have digits := isGraphic_digits floating.fraction_digits
    cases h : s.fraction with
    | nil => simp [Spelling.fractionText]
    | cons d ds =>
      rw [h] at digits
      exact List.forall_mem_cons.mpr ⟨by decide, digits⟩
  have exponent : ∀ c ∈ Spelling.exponentText s.exponent, IsGraphic c := by
    cases h : s.exponent with
    | none => simp [Spelling.exponentText]
    | some e =>
      have digits := isGraphic_digits (floating.exponent_digits e h).1
      obtain ⟨negative, ds⟩ := e
      rw [Spelling.exponentText, List.forall_mem_cons, List.forall_mem_cons]
      exact ⟨by decide, by cases negative <;> decide, digits⟩
  rw [Spelling.text, List.forall_mem_append, List.forall_mem_append]
  exact ⟨isGraphic_digits floating.whole_digits, fraction, exponent⟩

/-- Infinity, and what is no number, are written in letters. -/
theorem isGraphic_written (x : Binary64) : ∀ c ∈ x.written jsonNumbers, IsGraphic c := by
  have sign : ∀ c ∈ (if x.isNegative then ['-'] else []), IsGraphic c := by
    cases x.isNegative <;> exact isGraphic_of_all (by decide)
  by_cases finite : x.isFinite = true
  · obtain ⟨s, floating, text, -⟩ := x.written_spelled jsonNumbers finite
    rw [text, List.forall_mem_append]
    exact ⟨sign, isGraphic_spelling floating⟩
  · have odd : x.isNaN = true ∨ x.isInfinite = true := by
      simp only [Binary64.isFinite, Binary64.isNaN, Binary64.isInfinite, decide_eq_true_eq,
        beq_iff_eq] at finite ⊢
      omega
    simp only [Binary64.written]
    cases nan : x.isNaN with
    | true => exact isGraphic_of_all (s := jsonNumbers.nan.toList) (by decide)
    | false =>
      rw [odd.resolve_left (by simp [nan])]
      exact List.forall_mem_append.mpr ⟨sign, isGraphic_of_all (by decide)⟩

theorem isGraphic_writeScalar (v : Json) : ∀ c ∈ writeScalar true v, IsGraphic c := by
  cases v with
  | null => exact isGraphic_of_all (s := "null".toList) (by decide)
  | bool b => cases b <;> exact isGraphic_of_all (by decide)
  | int n => exact isGraphic_signedDecimal n
  | num x => exact isGraphic_written x
  | str s => exact isGraphic_writeString s
  | arr _ => exact isGraphic_of_all (s := "[]".toList) (by decide)
  | obj _ => exact isGraphic_of_all (s := ['\x7b', '\x7d']) (by decide)

mutual

/-- The induction is on the value; brackets, commas, colons and the blanks behind them are
printable. -/
theorem isGraphic_writeCompact (v : Json) : ∀ c ∈ writeCompact true v, IsGraphic c := by
  match v with
  | .arr (v :: items) =>
    simp only [writeCompact, List.cons_append, List.append_assoc, List.forall_mem_cons,
      List.forall_mem_append]
    exact ⟨by decide, isGraphic_writeCompact v, isGraphic_writeCompactItems items, by decide, nofun⟩
  | .obj ((n, v) :: fields) =>
    simp only [writeCompact, List.cons_append, List.append_assoc, List.forall_mem_cons,
      List.forall_mem_append]
    exact ⟨by decide, isGraphic_writeString n, by decide, by decide, isGraphic_writeCompact v,
      isGraphic_writeCompactFields fields, by decide, nofun⟩
  | .arr [] | .obj [] => exact isGraphic_writeScalar _
  | .null | .bool _ | .int _ | .num _ | .str _ => exact isGraphic_writeScalar _

theorem isGraphic_writeCompactItems (items : List Json) :
    ∀ c ∈ writeCompactItems true items, IsGraphic c := by
  match items with
  | [] => simp [writeCompactItems]
  | v :: items =>
    simp only [writeCompactItems, List.cons_append, List.forall_mem_cons, List.forall_mem_append]
    exact ⟨by decide, by decide, isGraphic_writeCompact v, isGraphic_writeCompactItems items⟩

theorem isGraphic_writeCompactFields (fields : List (String × Json)) :
    ∀ c ∈ writeCompactFields true fields, IsGraphic c := by
  match fields with
  | [] => simp [writeCompactFields]
  | (n, v) :: fields =>
    simp only [writeCompactFields, List.cons_append, List.append_assoc, List.forall_mem_cons,
      List.forall_mem_append]
    exact ⟨by decide, by decide, isGraphic_writeString n, by decide, by decide,
      isGraphic_writeCompact v, isGraphic_writeCompactFields fields⟩

end

end Json

namespace CommandLine

open RunReports.Json RunReports.Text

def IsOneLine (text : String) : Prop :=
  ∃ s, text.toList = s ++ ['\n'] ∧ ∀ c ∈ s, IsGraphic c

theorem toList_line (v : Json) : (line v).toList = writeCompact true v ++ ['\n'] := by
  rw [line, String.toList_append, compactAscii, String.toList_ofList]
  rfl

theorem isOneLine_line (v : Json) : IsOneLine (line v) :=
  ⟨writeCompact true v, toList_line v, isGraphic_writeCompact v⟩

/-- A printed value is read back. -/
theorem read_line {v : Json} (form : WellFormed v) (finite : AllFinite v)
    (shallow : v.depth ≤ levelLimit) : Json.read (line v) = .ok v := by
  have text : line v = String.ofList ((Layout.line true).write 0 v ++ ['\n']) := by
    rw [write_line, ← toList_line, String.ofList_toList]
  rw [text]
  exact read_written (Layout.line true) form finite shallow

end CommandLine

end RunReports
