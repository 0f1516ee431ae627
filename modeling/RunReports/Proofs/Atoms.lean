import RunReports.Literal.Inline
import RunReports.Literal.Reader
import RunReports.Proofs.Spelling

/-! # Numbers and constants read back

The parts of a number are found again where they were written, whole numbers and floating point
numbers keep their kind, and each named constant is itself. What follows a value in a literal
cannot be taken for more of it. -/
namespace RunReports

open RunReports.Decimal RunReports.Text

/-! ## The parts of a number -/

namespace Json

theorem readWhole_digits {ds rest : List Char} (digitsIs : AllDigits ds) (filled : ds ≠ [])
    (headIs : ds = ['0'] ∨ ds.head? ≠ some '0') (remains : EndsDigits rest) :
    readWhole? (ds ++ rest) = some (ds, rest) := by
  rcases headIs with rfl | headIs
  · rfl
  · obtain ⟨c, tail, rfl⟩ := List.exists_cons_of_ne_nil filled
    have known : c ≠ '0' := fun h => headIs (congrArg some h)
    have take := takeWhile_digits digitsIs remains
    have dropped := dropWhile_digits digitsIs remains
    rw [List.cons_append] at take dropped ⊢
    simp only [readWhole?, known, if_false, digitsIs c List.mem_cons_self, if_true, take, dropped]

def NoPoint (rest : List Char) : Prop := rest.head? ≠ some '.'

theorem readFraction_text {ds rest : List Char} (digitsIs : AllDigits ds)
    (remains : EndsDigits rest) (pointIs : NoPoint rest) :
    (readFraction? (Spelling.fractionText ds ++ rest)).getD
      ([], Spelling.fractionText ds ++ rest) = (ds, rest) := by
  cases ds with
  | nil =>
    have absent : readFraction? rest = none := by
      unfold readFraction?
      split
      · exact absurd rfl pointIs
      · rfl
    simp [Spelling.fractionText, absent]
  | cons c ds =>
    have take := takeWhile_digits digitsIs remains
    have dropped := dropWhile_digits digitsIs remains
    simp only [Spelling.fractionText, List.cons_append] at take dropped ⊢
    simp only [readFraction?, take, dropped, Option.getD_some]

/-- A text that does not go on with the letter of an exponent. -/
def NoExponent (rest : List Char) : Prop := ∀ c ∈ rest.head?, c ≠ 'e' ∧ c ≠ 'E'

theorem readExponent_none {rest : List Char} (remains : NoExponent rest) :
    readExponentPart? rest = none := by
  cases rest with
  | nil => rfl
  | cons c rest =>
    obtain ⟨lower, upper⟩ := remains c rfl
    simp [readExponentPart?, lower, upper]

theorem readExponent_text (negative : Bool) {ds rest : List Char} (digitsIs : AllDigits ds)
    (filled : ds ≠ []) (remains : EndsDigits rest) :
    readExponentPart? (Spelling.exponentText (some (negative, ds)) ++ rest) =
      some (if negative then -(readDecimal ds : Int) else (readDecimal ds : Int), rest) := by
  have take := takeWhile_digits digitsIs remains
  have dropped := dropWhile_digits digitsIs remains
  obtain ⟨c, tail, rfl⟩ := List.exists_cons_of_ne_nil filled
  rw [List.cons_append] at take dropped
  cases negative with
  | true => simp [Spelling.exponentText, readExponentPart?, take, dropped]
  | false => simp [Spelling.exponentText, readExponentPart?, take, dropped]

/-- A text that does not go on with more of a number. -/
structure EndsNumber (rest : List Char) : Prop where
  digits : EndsDigits rest
  point : NoPoint rest
  exponent : NoExponent rest

section
variable {rest : List Char} (ends : EndsNumber rest)
include ends

/-- Neither digits nor a point go on where an exponent may start. -/
theorem EndsNumber.exponentText (e : Option (Bool × List Char)) :
    EndsDigits (Spelling.exponentText e ++ rest) ∧
      NoPoint (Spelling.exponentText e ++ rest) := by
  cases e with
  | none => exact ⟨ends.digits, ends.point⟩
  | some e =>
    constructor
    · rintro c ⟨⟩
      rfl
    · intro known
      exact absurd (Option.some.inj known) (by decide : 'e' ≠ '.')

/-- Digits do not go on where a fraction may start. -/
theorem EndsNumber.fractionText (ds : List Char) (e : Option (Bool × List Char)) :
    EndsDigits (Spelling.fractionText ds ++ (Spelling.exponentText e ++ rest)) := by
  cases ds with
  | nil => exact (ends.exponentText e).1
  | cons d ds =>
    rintro c ⟨⟩
    rfl

theorem readWhole_decimal (n : Nat) : readWhole? (decimal n ++ rest) = some (decimal n, rest) := by
  have headIs : decimal n = ['0'] ∨ (decimal n).head? ≠ some '0' := by
    rcases Nat.eq_zero_or_pos n with rfl | bound
    · exact Or.inl (Nat.toDigits_zero 10)
    · exact Or.inr (head_decimal n bound)
  exact readWhole_digits (allDigits_decimal n) (decimal_ne_nil n) headIs ends.digits

end

end Json

/-! ## Atoms of literals -/

namespace Literal

/-- What may follow a value or a name in a literal: a separator, a closing bracket or nothing. -/
def Follows (rest : List Char) : Prop :=
  ∀ c ∈ rest.head?, c = ',' ∨ c = ':' ∨ c = ']' ∨ c = '\x7d'

section
variable {rest : List Char} (ends : Json.EndsNumber rest)
include ends

theorem readMagnitude_spelling {s : Spelling} (floating : s.IsFloating) (negative : Bool) :
    readMagnitude? negative (s.text ++ rest) =
      some (.num (Binary64.ofMagnitude negative s.bits), rest) := by
  obtain ⟨wholeIs, filled, headIs, fractionIs, expRead, marked⟩ := floating
  obtain ⟨numerals, pointIs⟩ := ends.exponentText s.exponent
  have hreadWhole :=
    Json.readWhole_digits wholeIs filled headIs (ends.fractionText s.fraction s.exponent)
  have hreadFraction := Json.readFraction_text fractionIs numerals pointIs
  simp only [Spelling.text, List.append_assoc, readMagnitude?, hreadWhole, hreadFraction]
  cases exponentIs : s.exponent with
  | none =>
    have foundIs : s.fraction ≠ [] := marked.resolve_right (fun h => h exponentIs)
    simp only [Spelling.exponentText, List.nil_append, Json.readExponent_none ends.exponent,
      List.isEmpty_iff, foundIs, if_false, Json.floatingJson, Spelling.bits, Spelling.power,
      exponentIs]
    rfl
  | some e =>
    obtain ⟨numerals, differs⟩ := expRead e exponentIs
    simp only [Json.readExponent_text e.1 numerals differs ends.digits, Json.floatingJson,
      Spelling.bits, Spelling.power, exponentIs]
    rfl

theorem readMagnitude_decimal (n : Nat) (negative : Bool) :
    readMagnitude? negative (decimal n ++ rest) =
      some (.int (if negative then -(n : Int) else (n : Int)), rest) := by
  have absent : AllDigits [] := fun _ h => absurd h List.not_mem_nil
  have fractionIs := Json.readFraction_text absent ends.digits ends.point
  simp only [Spelling.fractionText, List.nil_append] at fractionIs
  simp only [readMagnitude?, fractionIs, Json.readExponent_none ends.exponent,
    Json.readWhole_decimal ends, readDecimal_decimal]
  rfl

end

section
variable {rest : List Char} (remains : Follows rest)
include remains

theorem Follows.endsNumber : Json.EndsNumber rest := by
  refine ⟨?_, ?_, ?_⟩
  · intro c known
    rcases remains c known with rfl | rfl | rfl | rfl <;> rfl
  · intro known
    rcases remains '.' known with h | h | h | h <;> exact absurd h (by decide)
  · intro c known
    rcases remains c known with rfl | rfl | rfl | rfl <;> decide

theorem Follows.endsToken : endsToken rest = true := by
  cases rest with
  | nil => rfl
  | cons c rest => rcases remains c rfl with rfl | rfl | rfl | rfl <;> rfl

/-- A text that starts with a digit is no named constant. -/
theorem readAtom_unsigned {c : Char} {tail : List Char} {v : Json} (known : isDigit c = true)
    (h : readMagnitude? false (c :: tail) = some (v, rest)) (short : v.isShort = true) :
    readAtom? (c :: tail) = some (v, rest) := by
  have filled : c ≠ 'N' ∧ c ≠ 'T' ∧ c ≠ 'F' ∧ c ≠ '-' := by
    refine ⟨?_, ?_, ?_, ?_⟩
    all_goals
      rintro rfl
      exact absurd known (by decide)
  have wordIs : (constants.findSome? fun w =>
      (Json.afterWord? w.1 (c :: tail)).map fun rest => (w.2, rest)) = none := by
    simp [constants, Json.afterWord?, filled.1.symm, filled.2.1.symm, filled.2.2.1.symm]
  have numberIs : readNumber? (c :: tail) = some (v, rest) := by
    unfold readNumber?
    split
    · next same => exact absurd (List.cons.inj same).1 filled.2.2.2
    · rw [h, Option.filter_some, short, if_pos rfl]
  simp only [readAtom?, wordIs, numberIs, Option.filter_some, remains.endsToken, if_true]

theorem readAtom_negative {s : List Char} {v : Json}
    (h : readMagnitude? true s = some (v, rest)) (short : v.isShort = true) :
    readAtom? ('-' :: s) = some (v, rest) := by
  have wordIs : (constants.findSome? fun w =>
      (Json.afterWord? w.1 ('-' :: s)).map fun rest => (w.2, rest)) = none := by
    simp [constants, Json.afterWord?]
  have numberIs : readNumber? ('-' :: s) = some (v, rest) := by
    simp only [readNumber?, h, Option.filter_some, short, if_true]
  simp only [readAtom?, wordIs, numberIs, Option.filter_some, remains.endsToken, if_true]

theorem readAtom_constant {word : List Char} {v : Json} (h : (word, v) ∈ constants) :
    readAtom? (word ++ rest) = some (v, rest) := by
  have wordIs : (constants.findSome? fun w =>
      (Json.afterWord? w.1 (word ++ rest)).map fun rest => (w.2, rest)) = some (v, rest) := by
    simp only [constants, List.mem_cons, Prod.mk.injEq, List.not_mem_nil, or_false] at h
    rcases h with ⟨rfl, rfl⟩ | ⟨rfl, rfl⟩ | ⟨rfl, rfl⟩ <;> simp [constants, Json.afterWord?]
  simp only [readAtom?, wordIs, Option.filter_some, remains.endsToken, if_true]

/-- A whole number reads back, if it has few enough digits. -/
theorem readAtom_signedDecimal (n : Int) (short : (Json.int n).isShort = true) :
    readAtom? (signedDecimal n ++ rest) = some (.int n, rest) := by
  cases n with
  | ofNat n =>
    obtain ⟨c, tail, digitsIs⟩ := List.exists_cons_of_ne_nil (decimal_ne_nil n)
    have readsBack := readMagnitude_decimal remains.endsNumber n false
    have known : isDigit c = true :=
      allDigits_decimal n c (by rw [digitsIs]; exact List.mem_cons_self)
    rw [signedDecimal]
    rw [digitsIs, List.cons_append] at readsBack ⊢
    exact readAtom_unsigned remains known readsBack short
  | negSucc n =>
    exact readAtom_negative remains (readMagnitude_decimal remains.endsNumber (n + 1) true) short

/-- A finite floating point number reads back as one, to the last bit. -/
theorem readAtom_written (x : Binary64) (finite : x.isFinite = true) :
    readAtom? (x.written displayNumbers ++ rest) = some (.num x, rest) := by
  obtain ⟨s, floating, spelled, bitsIs⟩ := x.written_spelled displayNumbers finite
  have readsBack := readMagnitude_spelling remains.endsNumber floating x.isNegative
  rw [bitsIs] at readsBack
  rw [spelled]
  cases sign : x.isNegative with
  | true =>
    rw [sign] at readsBack
    exact readAtom_negative remains readsBack rfl
  | false =>
    rw [sign] at readsBack
    obtain ⟨c, tail, wholeIs⟩ := List.exists_cons_of_ne_nil floating.whole_ne_nil
    have known : isDigit c = true :=
      floating.whole_digits c (by rw [wholeIs]; exact List.mem_cons_self)
    simp only [Spelling.text, wholeIs, List.cons_append] at readsBack ⊢
    exact readAtom_unsigned remains known readsBack rfl

end

end Literal

end RunReports
