import RunReports.Json.Writer
import RunReports.Proofs.Atoms
import RunReports.Proofs.JsonValues

/-! # Written JSON reads back

A well-formed value of finite numbers that does not nest too deep is read back from its text, down
to the bits of its numbers and the order of its members. This holds for any layout: on one line or
over several, with or without escapes for what is not ASCII. -/
namespace RunReports

theorem Text.toNat_valid (c : Char) :
    (c.toNat < 0xd800 ∨ 0xdfff < c.toNat) ∧ c.toNat < 0x110000 := by
  have valid : c.toNat.isValidChar := c.valid
  simp only [Nat.isValidChar] at valid
  omega

namespace Json

open RunReports.Decimal RunReports.Text

/-! ## Texts -/

theorem readStringFrom_simple (start : Nat) (out : List Char) {e d : Char} (other : e ≠ 'u')
    (simple : simpleEscape? e = some d) (rest : List Char) :
    readStringFrom start none out ('\\' :: e :: rest) =
      readStringFrom start none (d :: out) rest := by
  rw [readStringFrom.eq_def]
  simp [other, simple, flushHigh]

/-- A code unit is read back from its escape. Something has to follow the digits. -/
theorem readStringFrom_unitEscape (start : Nat) (high : Option Nat) (out : List Char) {n : Nat}
    (unit : n < 0x10000) {rest : List Char} (more : rest ≠ []) :
    readStringFrom start high out (unitEscape n ++ rest) =
      readStringFrom start (addUnit high out n).1 (addUnit high out n).2 rest := by
  have code : readHex? (hexDigits 4 n) = some n := readHex_exact unit
  have nonempty : rest.isEmpty = false := by simpa using more
  obtain ⟨h₁, h₂, h₃, h₄, digits⟩ : ∃ h₁ h₂ h₃ h₄, hexDigits 4 n = [h₁, h₂, h₃, h₄] :=
    ⟨_, _, _, _, rfl⟩
  rw [digits] at code
  simp only [unitEscape, digits, List.cons_append, List.nil_append]
  rw [readStringFrom.eq_def]
  simp [code, nonempty]

/-- A code unit that is no surrogate is a character. -/
theorem addUnit_char (out : List Char) {n : Nat} (plain : n < 0xd800 ∨ 0xdfff < n) :
    addUnit none out n = (none, Char.ofNat n :: out) := by
  have high : isHighSurrogate n = false := by
    simp only [isHighSurrogate, Bool.and_eq_false_iff, decide_eq_false_iff_not]
    omega
  have tail : isLowSurrogate n = false := by
    simp only [isLowSurrogate, Bool.and_eq_false_iff, decide_eq_false_iff_not]
    omega
  simp [addUnit, high, tail, flushHigh]

/-- The two halves of a number beyond the code units are a surrogate pair. -/
theorem addUnit_pair (out : List Char) {m : Nat} (small : m < 0x100000) :
    addUnit none out (0xd800 + m / 1024) = (some (0xd800 + m / 1024), out) ∧
      addUnit (some (0xd800 + m / 1024)) out (0xdc00 + m % 1024) =
        (none, Char.ofNat (0x10000 + m) :: out) := by
  have leading : isHighSurrogate (0xd800 + m / 1024) = true := by
    simp only [isHighSurrogate, Bool.and_eq_true, decide_eq_true_eq]
    omega
  have notLeading : isHighSurrogate (0xdc00 + m % 1024) = false := by
    simp only [isHighSurrogate, Bool.and_eq_false_iff, decide_eq_false_iff_not]
    omega
  have trailing : isLowSurrogate (0xdc00 + m % 1024) = true := by
    simp only [isLowSurrogate, Bool.and_eq_true, decide_eq_true_eq]
    omega
  have joined : joinSurrogates (0xd800 + m / 1024) (0xdc00 + m % 1024) = 0x10000 + m := by
    unfold joinSurrogates
    omega
  simp [addUnit, leading, notLeading, trailing, joined, flushHigh]

/-- A character is read back from its unicode escapes. -/
theorem readStringFrom_unicodeEscape (start : Nat) (out : List Char) (c : Char)
    {rest : List Char} (more : rest ≠ []) :
    readStringFrom start none out (unicodeEscape c ++ rest) =
      readStringFrom start none (c :: out) rest := by
  obtain ⟨valid, top⟩ := toNat_valid c
  simp only [unicodeEscape]
  split_ifs with unit
  · rw [readStringFrom_unitEscape start none out unit more, addUnit_char out valid,
      Char.ofNat_toNat]
  · obtain ⟨leading, trailing⟩ := addUnit_pair out (m := c.toNat - 0x10000) (by omega)
    have whole : 0x10000 + (c.toNat - 0x10000) = c.toNat := by omega
    have behind : unitEscape (0xdc00 + (c.toNat - 0x10000) % 1024) ++ rest ≠ [] := by
      simp [unitEscape]
    rw [List.append_assoc, readStringFrom_unitEscape start none out (by omega) behind, leading,
      readStringFrom_unitEscape start _ out (by omega) more, trailing, whole, Char.ofNat_toNat]

/-- A character is read back from its escape. -/
theorem readStringFrom_escape (ascii : Bool) (start : Nat) (out : List Char) (c : Char)
    {rest : List Char} (more : rest ≠ []) :
    readStringFrom start none out (escapeChar ascii c ++ rest) =
      readStringFrom start none (c :: out) rest := by
  simp only [escapeChar]
  split_ifs with quote back feed return_ tab bell form escaped
  iterate 7
    · subst c
      exact readStringFrom_simple start out (by decide) rfl rest
  · exact readStringFrom_unicodeEscape start out c more
  · have plain : ¬ c.toNat < 0x20 := by
      intro low
      simp [low] at escaped
    rw [List.singleton_append, readStringFrom.eq_def]
    simp [quote, back, plain, flushHigh]

theorem readStringFrom_written (ascii : Bool) (start : Nat) (s out rest : List Char) :
    readStringFrom start none out (s.flatMap (escapeChar ascii) ++ '"' :: rest) =
      .ok (out.reverse ++ s, rest) := by
  induction s generalizing out with
  | nil =>
    rw [List.flatMap_nil, List.nil_append, List.append_nil, readStringFrom.eq_def]
    rfl
  | cons c s ih =>
    have more : s.flatMap (escapeChar ascii) ++ '"' :: rest ≠ [] := by simp
    rw [List.flatMap_cons, List.append_assoc, readStringFrom_escape ascii start out c more, ih]
    simp

/-! ## Words and numbers -/

theorem blank_cases {c : Char} (h : isJsonBlank c = true) :
    c = ' ' ∨ c = '\t' ∨ c = '\n' ∨ c = '\r' := by
  simpa [isJsonBlank, or_assoc] using h

/-- What may follow a value: a comma, a closing bracket, a blank or nothing. -/
def Follows (rest : List Char) : Prop :=
  ∀ c ∈ rest.head?, c = ',' ∨ c = ']' ∨ c = '\x7d' ∨ isJsonBlank c = true

theorem Follows.endsNumber {rest : List Char} (follows : Follows rest) : EndsNumber rest := by
  have marks (c : Char) (there : c ∈ rest.head?) : c = ',' ∨ c = ']' ∨ c = '\x7d' ∨ c = ' ' ∨
      c = '\t' ∨ c = '\n' ∨ c = '\r' := by
    rcases follows c there with h | h | h | blank
    · exact Or.inl h
    · exact Or.inr (Or.inl h)
    · exact Or.inr (Or.inr (Or.inl h))
    · exact Or.inr (Or.inr (Or.inr (blank_cases blank)))
  refine ⟨?_, ?_, ?_⟩
  · intro c there
    rcases marks c there with rfl | rfl | rfl | rfl | rfl | rfl | rfl <;> rfl
  · intro there
    rcases marks '.' there with h | h | h | h | h | h | h <;> exact absurd h (by decide)
  · intro c there
    rcases marks c there with rfl | rfl | rfl | rfl | rfl | rfl | rfl <;> decide

/-- Numbers read as in literals, if whole ones have few enough digits. -/
theorem readMagnitude_of_literal {negative : Bool} {s rest : List Char} {v : Json}
    (h : Literal.readMagnitude? negative s = some (v, rest))
    (short : ∀ n whole after, v = .int n → readWhole? s = some (whole, after) →
      whole.length ≤ digitLimit) (start : Nat) :
    readMagnitude negative start s = .ok (v, rest) := by
  rw [Literal.readMagnitude?] at h
  rw [readMagnitude]
  cases read : readWhole? s with
  | none =>
    rw [read] at h
    cases h
  | some found =>
    obtain ⟨whole, behind⟩ := found
    rw [read] at h
    simp only at h ⊢
    cases power : readExponentPart? ((readFraction? behind).getD ([], behind)).2 with
    | some found =>
      rw [power] at h
      cases h
      rfl
    | none =>
      rw [power] at h
      simp only at h ⊢
      split at h
      case isTrue plain =>
        cases h
        have few := short _ whole _ rfl read
        rw [if_pos plain, if_neg (Nat.not_lt.mpr few)]
      case isFalse fraction =>
        cases h
        rw [if_neg fraction]

theorem readScalar_word (word : List Char) {v : Json} (h : (word, v) ∈ words)
    (rest : List Char) : readScalar (word ++ rest) = .ok (v, rest) := by
  simp only [words, List.mem_cons, Prod.mk.injEq, List.not_mem_nil, or_false] at h
  rcases h with ⟨rfl, rfl⟩ | ⟨rfl, rfl⟩ | ⟨rfl, rfl⟩ | ⟨rfl, rfl⟩ | ⟨rfl, rfl⟩ | ⟨rfl, rfl⟩ <;>
    simp [readScalar, words, afterWord?]

/-- No word is a digit, with or without a sign. -/
theorem readScalar_signed {negative : Bool} {c : Char} {tail rest : List Char} {v : Json}
    (digit : isDigit c = true)
    (h : ∀ start, readMagnitude negative start (c :: tail) = .ok (v, rest)) :
    readScalar ((if negative then ['-'] else []) ++ c :: tail) = .ok (v, rest) := by
  have other (d : Char) (letter : isDigit d = false) : d ≠ c := by
    rintro rfl
    rw [letter] at digit
    cases digit
  have n := other 'n' rfl
  have t := other 't' rfl
  have f := other 'f' rfl
  have N := other 'N' rfl
  have I := other 'I' rfl
  have minus := other '-' rfl
  cases negative with
  | true => simp [readScalar, words, afterWord?, I, h]
  | false =>
    simp only [readScalar, words, Bool.false_eq_true, if_false, List.nil_append]
    simp [afterWord?, n, t, f, N, I, minus]
    split
    · rename_i cons_eq
      exact absurd (List.cons.inj cons_eq).1.symm minus
    · exact h _

section
variable {rest : List Char} (ends : EndsNumber rest)
include ends

/-- A whole number of few enough digits is read back. -/
theorem readScalar_signedDecimal {n : Int} (short : WellFormed (.int n)) :
    readScalar (signedDecimal n ++ rest) = .ok (.int n, rest) := by
  have read (negative : Bool) (start : Nat) :
      readMagnitude negative start (decimal n.natAbs ++ rest) =
        .ok (.int (if negative then -(n.natAbs : Int) else n.natAbs), rest) := by
    refine readMagnitude_of_literal (Literal.readMagnitude_decimal ends n.natAbs negative) ?_ start
    intro m whole after _ found
    rw [readWhole_decimal ends] at found
    cases found
    exact short
  obtain ⟨c, tail, digits⟩ := List.exists_cons_of_ne_nil (decimal_ne_nil n.natAbs)
  have digit : isDigit c = true :=
    allDigits_decimal n.natAbs c (by rw [digits]; exact List.mem_cons_self)
  rw [digits, List.cons_append] at read
  cases n with
  | ofNat n =>
    rw [show signedDecimal (.ofNat n) = c :: tail from digits]
    exact readScalar_signed digit (read false)
  | negSucc n =>
    rw [show signedDecimal (.negSucc n) = '-' :: (c :: tail) from congrArg _ digits]
    exact readScalar_signed digit (read true)

/-- A finite number is read back to the last bit. -/
theorem readScalar_written {x : Binary64} (finite : x.isFinite = true) :
    readScalar (x.written jsonNumbers ++ rest) = .ok (.num x, rest) := by
  obtain ⟨s, floating, text, bits⟩ := x.written_spelled jsonNumbers finite
  have read (start : Nat) := readMagnitude_of_literal
    (Literal.readMagnitude_spelling ends floating x.isNegative) (fun _ _ _ h => nomatch h) start
  obtain ⟨c, tail, digits⟩ := List.exists_cons_of_ne_nil floating.whole_ne_nil
  have digit : isDigit c = true :=
    floating.whole_digits c (by rw [digits]; exact List.mem_cons_self)
  rw [bits] at read
  rw [text, List.append_assoc]
  simp only [Spelling.text, digits, List.cons_append] at read ⊢
  exact readScalar_signed digit read

end

/-! ## Blanks and brackets -/

def NoBlank (s : List Char) : Prop := ∀ c ∈ s.head?, isJsonBlank c = false

theorem skipBlanks_self {s : List Char} (h : NoBlank s) : skipBlanks s = s := by
  cases s with
  | nil => rfl
  | cons c s => rw [skipBlanks, List.dropWhile_cons_of_neg (by simp [h c rfl])]

abbrev Blanks := {s : List Char // ∀ c ∈ s, isJsonBlank c = true}

theorem skipBlanks_blanks (g : Blanks) {s : List Char} (h : NoBlank s) :
    skipBlanks (g.val ++ s) = s := by
  rw [skipBlanks, List.dropWhile_append_of_pos g.property]
  exact skipBlanks_self h

/-- No word or number starts with a quote, a bracket or a blank. -/
theorem readScalar_start {c : Char} {tail : List Char} {found : Json × List Char}
    (h : readScalar (c :: tail) = .ok found) :
    c ≠ '"' ∧ c ≠ '[' ∧ c ≠ '\x7b' ∧ c ≠ ']' ∧ isJsonBlank c = false := by
  have refused (d : Char) (among : d = '"' ∨ d = '[' ∨ d = '\x7b' ∨ d = ']' ∨ d = ' ' ∨ d = '\t' ∨
      d = '\n' ∨ d = '\r') : c ≠ d := by
    rintro rfl
    have none : readScalar (c :: tail) = .error (.problem .expectingValue (tail.length + 1)) := by
      rcases among with rfl | rfl | rfl | rfl | rfl | rfl | rfl | rfl <;> rfl
    rw [none] at h
    cases h
  refine ⟨refused _ (by simp), refused _ (by simp), refused _ (by simp), refused _ (by simp), ?_⟩
  have space := refused ' ' (by simp)
  have tab := refused '\t' (by simp)
  have feed := refused '\n' (by simp)
  have return_ := refused '\r' (by simp)
  simp [isJsonBlank, space, tab, feed, return_]

theorem readValue_scalar {s : List Char} {found : Json × List Char}
    (h : readScalar s = .ok found) (fuel levels : Nat) :
    readValue (fuel + 1) levels s = .ok found := by
  cases s with
  | nil => cases h
  | cons c tail =>
    obtain ⟨quote, bracket, brace, -⟩ := readScalar_start h
    unfold readValue
    split
    · rename_i cons_eq
      exact absurd (List.cons.inj cons_eq).1 quote
    · rename_i cons_eq
      exact absurd (List.cons.inj cons_eq).1 bracket
    · rename_i cons_eq
      exact absurd (List.cons.inj cons_eq).1 brace
    · exact h

/-- Where a value is read, no bracket closes and no blank is left. -/
theorem readValue_start {fuel levels : Nat} {s : List Char} {found : Json × List Char}
    (h : readValue fuel levels s = .ok found) : NoBlank s ∧ s.head? ≠ some ']' := by
  cases fuel with
  | zero => cases h
  | succ fuel =>
    unfold readValue at h
    split at h
    · exact ⟨by rintro c ⟨⟩; rfl, by simp⟩
    · exact ⟨by rintro c ⟨⟩; rfl, by simp⟩
    · exact ⟨by rintro c ⟨⟩; rfl, by simp⟩
    · cases s with
      | nil => cases h
      | cons c tail =>
        obtain ⟨-, -, -, close, blank⟩ := readScalar_start h
        refine ⟨?_, by simpa using close⟩
        rintro d ⟨⟩
        exact blank

theorem readItems_start {fuel levels : Nat} {out : List Json} {s : List Char}
    {found : Json × List Char} (h : readItems fuel levels out s = .ok found) :
    NoBlank s ∧ s.head? ≠ some ']' := by
  cases fuel with
  | zero => cases h
  | succ fuel =>
    rw [readItems] at h
    cases value : readValue fuel levels s with
    | error stop =>
      rw [value] at h
      cases h
    | ok first => exact readValue_start value

theorem readMembers_start {fuel levels : Nat} {out : List (String × Json)} {s : List Char}
    {found : Json × List Char} (h : readMembers fuel levels out s = .ok found) :
    NoBlank s ∧ s.head? ≠ some '\x7d' := by
  cases fuel with
  | zero => cases h
  | succ fuel =>
    unfold readMembers at h
    split at h
    · exact ⟨by rintro c ⟨⟩; rfl, by simp⟩
    · cases h

theorem readValue_array {fuel levels : Nat} {s : List Char} {found : Json × List Char}
    (h : readItems fuel levels [] s = .ok found) (g : Blanks) :
    readValue (fuel + 1) (levels + 1) ('[' :: (g.val ++ s)) = .ok found := by
  obtain ⟨blank, open_⟩ := readItems_start h
  rw [readValue.eq_def]
  simp only [skipBlanks_blanks g blank]
  split
  · rename_i cons_eq
    cases cons_eq
  · exact absurd rfl open_
  · rename_i cons_eq _
    cases cons_eq
    exact h

theorem readValue_object {fuel levels : Nat} {s : List Char} {found : Json × List Char}
    (h : readMembers fuel levels [] s = .ok found) (g : Blanks) :
    readValue (fuel + 1) (levels + 1) ('\x7b' :: (g.val ++ s)) = .ok found := by
  obtain ⟨blank, open_⟩ := readMembers_start h
  rw [readValue.eq_def]
  simp only [skipBlanks_blanks g blank]
  split
  · rename_i cons_eq
    cases cons_eq
  · exact absurd rfl open_
  · rename_i cons_eq _
    cases cons_eq
    exact h

theorem noBlank_mark (c : Char) (h : isJsonBlank c = false) (s : List Char) :
    NoBlank (c :: s) := by
  rintro d ⟨⟩
  exact h

theorem skipBlanks_mark (c : Char) (h : isJsonBlank c = false) (s : List Char) :
    skipBlanks (c :: s) = c :: s := skipBlanks_self (noBlank_mark c h s)

section
variable {fuel levels : Nat} {s after rest : List Char} {v : Json}
variable {found : Json × List Char}

theorem readItems_last (out : List Json) (g : Blanks)
    (h : readValue fuel levels s = .ok (v, g.val ++ ']' :: rest)) :
    readItems (fuel + 1) levels out s = .ok (.arr (v :: out).reverse, rest) := by
  rw [readItems, h]
  simp only [skipBlanks_blanks g (noBlank_mark ']' rfl rest)]

theorem readItems_next (out : List Json) (g : Blanks)
    (h : readValue fuel levels s = .ok (v, ',' :: (g.val ++ after)))
    (next : readItems fuel levels (v :: out) after = .ok found) :
    readItems (fuel + 1) levels out s = .ok found := by
  rw [readItems, h]
  simp only [skipBlanks_mark ',' rfl, skipBlanks_blanks g (readItems_start next).1, next]

/-- The value behind a colon and a space is read from its first character on. -/
theorem skipBlanks_space (h : readValue fuel levels s = .ok (v, after)) :
    skipBlanks (' ' :: s) = s := by
  rw [skipBlanks, List.dropWhile_cons_of_pos rfl]
  exact skipBlanks_self (readValue_start h).1

theorem readMembers_last (out : List (String × Json)) (ascii : Bool) (n : String) (g : Blanks)
    (h : readValue fuel levels s = .ok (v, g.val ++ '\x7d' :: rest)) :
    readMembers (fuel + 1) levels out (writeString ascii n ++ ':' :: ' ' :: s) =
      .ok (.obj (ofMembers ((n, v) :: out).reverse), rest) := by
  rw [readMembers.eq_def]
  simp only [writeString, List.cons_append, List.append_assoc, List.nil_append,
    readStringFrom_written, List.reverse_nil, String.ofList_toList, skipBlanks_mark ':' rfl,
    skipBlanks_space h, h, skipBlanks_blanks g (noBlank_mark '\x7d' rfl rest)]

theorem readMembers_next (out : List (String × Json)) (ascii : Bool) (n : String) (g : Blanks)
    (h : readValue fuel levels s = .ok (v, ',' :: (g.val ++ after)))
    (next : readMembers fuel levels ((n, v) :: out) after = .ok found) :
    readMembers (fuel + 1) levels out (writeString ascii n ++ ':' :: ' ' :: s) = .ok found := by
  rw [readMembers.eq_def]
  simp only [writeString, List.cons_append, List.append_assoc, List.nil_append,
    readStringFrom_written, List.reverse_nil, String.ofList_toList, skipBlanks_mark ':' rfl,
    skipBlanks_space h, h, skipBlanks_mark ',' rfl,
    skipBlanks_blanks g (readMembers_start next).1, next]

end

/-! ## Layouts -/

/-- A layout: whether all but ASCII characters are escaped, and which blanks stand in front of the
first item at a level, of a later one, and of the bracket that closes. -/
structure Layout where
  ascii : Bool
  first : Nat → Blanks
  next : Nat → Blanks
  last : Nat → Blanks

mutual

def Layout.write (l : Layout) (level : Nat) : Json → List Char
  | .arr (v :: items) =>
    '[' :: (l.first (level + 1)).val ++ l.write (level + 1) v ++
      l.writeItems (level + 1) items ++ (l.last level).val ++ [']']
  | .obj ((n, v) :: fields) =>
    '\x7b' :: (l.first (level + 1)).val ++ writeString l.ascii n ++ ':' :: ' ' ::
      l.write (level + 1) v ++ l.writeFields (level + 1) fields ++ (l.last level).val ++ ['\x7d']
  | v => writeScalar l.ascii v

def Layout.writeItems (l : Layout) (level : Nat) : List Json → List Char
  | [] => []
  | v :: rest => ',' :: (l.next level).val ++ l.write level v ++ l.writeItems level rest

def Layout.writeFields (l : Layout) (level : Nat) : List (String × Json) → List Char
  | [] => []
  | (n, v) :: rest =>
    ',' :: (l.next level).val ++ writeString l.ascii n ++ ':' :: ' ' :: l.write level v ++
      l.writeFields level rest

end

def lineStart (level : Nat) : Blanks :=
  ⟨newLine level, by
    intro c there
    rcases List.mem_cons.mp there with rfl | there
    · rfl
    · rw [List.eq_of_mem_replicate there]
      rfl⟩

def Layout.lines : Layout := ⟨false, lineStart, lineStart, lineStart⟩

def Layout.line (ascii : Bool) : Layout :=
  ⟨ascii, fun _ => ⟨[], by simp⟩, fun _ => ⟨[' '], by simp [isJsonBlank]⟩,
    fun _ => ⟨[], by simp⟩⟩

mutual

theorem write_lines (level : Nat) (v : Json) :
    Layout.lines.write level v = writeIndented level v := by
  match v with
  | .arr (v :: items) =>
    rw [Layout.write, writeIndented, write_lines (level + 1) v, writeItems_lines]
    rfl
  | .obj ((n, v) :: fields) =>
    rw [Layout.write, writeIndented, write_lines (level + 1) v, writeFields_lines]
    rfl
  | .null | .bool _ | .int _ | .num _ | .str _ | .arr [] | .obj [] => rfl

theorem writeItems_lines (level : Nat) (items : List Json) :
    Layout.lines.writeItems level items = writeIndentedItems level items := by
  match items with
  | [] => rfl
  | v :: items =>
    rw [Layout.writeItems, writeIndentedItems, write_lines level v, writeItems_lines level items]
    rfl

theorem writeFields_lines (level : Nat) (fields : List (String × Json)) :
    Layout.lines.writeFields level fields = writeIndentedFields level fields := by
  match fields with
  | [] => rfl
  | (n, v) :: fields =>
    rw [Layout.writeFields, writeIndentedFields, write_lines level v,
      writeFields_lines level fields]
    rfl

end

mutual

theorem write_line (ascii : Bool) (level : Nat) (v : Json) :
    (Layout.line ascii).write level v = writeCompact ascii v := by
  match v with
  | .arr (v :: items) =>
    rw [Layout.write, writeCompact, write_line ascii (level + 1) v, writeItems_line]
    simp [Layout.line]
  | .obj ((n, v) :: fields) =>
    rw [Layout.write, writeCompact, write_line ascii (level + 1) v, writeFields_line]
    simp [Layout.line]
  | .null | .bool _ | .int _ | .num _ | .str _ | .arr [] | .obj [] => rfl

theorem writeItems_line (ascii : Bool) (level : Nat) (items : List Json) :
    (Layout.line ascii).writeItems level items = writeCompactItems ascii items := by
  match items with
  | [] => rfl
  | v :: items =>
    rw [Layout.writeItems, writeCompactItems, write_line ascii level v,
      writeItems_line ascii level items]
    rfl

theorem writeFields_line (ascii : Bool) (level : Nat) (fields : List (String × Json)) :
    (Layout.line ascii).writeFields level fields = writeCompactFields ascii fields := by
  match fields with
  | [] => rfl
  | (n, v) :: fields =>
    rw [Layout.writeFields, writeCompactFields, write_line ascii level v,
      writeFields_line ascii level fields]
    rfl

end

/-! ## Values -/

section
variable (l : Layout)

theorem follows_close (g : Blanks) {c : Char} (close : c = ']' ∨ c = '\x7d') (rest : List Char) :
    Follows (g.val ++ c :: rest) := by
  obtain ⟨s, blank⟩ := g
  cases s with
  | nil =>
    rintro d ⟨⟩
    exact Or.inr (close.imp_right Or.inl)
  | cons d s =>
    rintro _ ⟨⟩
    exact Or.inr (Or.inr (Or.inr (blank d List.mem_cons_self)))

theorem follows_items (level below : Nat) (items : List Json) (rest : List Char) :
    Follows (l.writeItems level items ++ ((l.last below).val ++ ']' :: rest)) := by
  cases items with
  | nil => exact follows_close (l.last below) (Or.inl rfl) rest
  | cons v items =>
    rintro c ⟨⟩
    exact Or.inl rfl

theorem follows_fields (level below : Nat) (fields : List (String × Json)) (rest : List Char) :
    Follows (l.writeFields level fields ++ ((l.last below).val ++ '\x7d' :: rest)) := by
  cases fields with
  | nil => exact follows_close (l.last below) (Or.inr rfl) rest
  | cons f fields =>
    rintro c ⟨⟩
    exact Or.inl rfl

mutual

/-- The induction is on the value, and every call of the reader takes one from the fuel. -/
theorem readValue_written (v : Json) (form : WellFormed v) (finite : AllFinite v)
    (level fuel levels : Nat) {rest : List Char} (follows : Follows rest)
    (shallow : depth v ≤ levels) (enough : 2 * (l.write level v).length < fuel) :
    readValue fuel levels (l.write level v ++ rest) = .ok (v, rest) := by
  obtain ⟨fuel, rfl⟩ := Nat.exists_eq_succ_of_ne_zero (Nat.ne_zero_of_lt enough)
  cases v with
  | null =>
    exact readValue_scalar (readScalar_word "null".toList (by simp [words]) rest) fuel levels
  | bool b =>
    cases b with
    | true =>
      exact readValue_scalar (readScalar_word "true".toList (by simp [words]) rest) fuel levels
    | false =>
      exact readValue_scalar (readScalar_word "false".toList (by simp [words]) rest) fuel levels
  | int n =>
    exact readValue_scalar (readScalar_signedDecimal follows.endsNumber form) fuel levels
  | num x => exact readValue_scalar (readScalar_written follows.endsNumber finite) fuel levels
  | str s =>
    simp only [Layout.write, writeScalar, writeString, List.cons_append, List.append_assoc,
      List.nil_append]
    rw [readValue, readStringFrom_written]
    simp
  | arr items =>
    have deep : levels ≠ 0 := by
      simp only [depth] at shallow
      omega
    obtain ⟨levels, rfl⟩ := Nat.exists_eq_succ_of_ne_zero deep
    cases items with
    | nil => rfl
    | cons v items =>
      simp only [depth, depthItems] at shallow
      simp only [Layout.write, List.length_cons, List.length_append, List.length_nil] at enough
      -- One call reads the bracket and one the items; the first item has what they leave.
      obtain ⟨fuel, rfl⟩ : ∃ n, fuel = n + 1 := ⟨fuel - 1, by omega⟩
      have first := readValue_written v form.1 finite.1 (level + 1) fuel levels
        (follows_items l (level + 1) level items rest) (by omega) (by omega)
      have all := readItems_written items form.2 finite.2 [] first (by omega) (by omega)
      simp only [Layout.write, List.cons_append, List.append_assoc, List.nil_append]
      exact readValue_array all (l.first (level + 1))
  | obj fields =>
    have deep : levels ≠ 0 := by
      simp only [depth] at shallow
      omega
    obtain ⟨levels, rfl⟩ := Nat.exists_eq_succ_of_ne_zero deep
    cases fields with
    | nil => rfl
    | cons f fields =>
      simp only [depth, depthFields] at shallow
      simp only [Layout.write, List.length_cons, List.length_append, List.length_nil] at enough
      obtain ⟨fuel, rfl⟩ : ∃ n, fuel = n + 1 := ⟨fuel - 1, by omega⟩
      have first := readValue_written f.2 form.2.1 finite.1 (level + 1) fuel levels
        (follows_fields l (level + 1) level fields rest) (by omega) (by omega)
      have all := readMembers_written fields form.2.2 finite.2 [] f.1 first (by omega) (by omega)
      -- The names differ, so no member takes the place of an earlier one.
      rw [List.reverse_nil, List.nil_append, ofMembers_distinct form.1] at all
      simp only [Layout.write, List.cons_append, List.append_assoc, List.nil_append]
      exact readValue_object all (l.first (level + 1))

/-- The items after a first one. -/
theorem readItems_written (items : List Json) (form : WellFormedItems items)
    (finite : AllFiniteItems items) {level below fuel levels : Nat} (out : List Json) {v : Json}
    {t rest : List Char}
    (first : readValue fuel levels
      (t ++ (l.writeItems level items ++ ((l.last below).val ++ ']' :: rest))) =
        .ok (v, l.writeItems level items ++ ((l.last below).val ++ ']' :: rest)))
    (shallow : depthItems items ≤ levels)
    (enough : 2 * (l.writeItems level items).length < fuel) :
    readItems (fuel + 1) levels out
        (t ++ (l.writeItems level items ++ ((l.last below).val ++ ']' :: rest))) =
      .ok (.arr (out.reverse ++ v :: items), rest) := by
  cases items with
  | nil =>
    rw [readItems_last out (l.last below) first]
    simp
  | cons w items =>
    simp only [depthItems] at shallow
    simp only [Layout.writeItems, List.length_cons, List.length_append] at enough
    obtain ⟨fuel, rfl⟩ : ∃ n, fuel = n + 1 := ⟨fuel - 1, by omega⟩
    have next := readValue_written w form.1 finite.1 level fuel levels
      (follows_items l level below items rest) (by omega) (by omega)
    have all := readItems_written items form.2 finite.2 (v :: out) next (by omega) (by omega)
    simp only [Layout.writeItems, List.cons_append, List.append_assoc] at first ⊢
    rw [readItems_next out (l.next level) first all]
    simp

/-- The members after a first one. -/
theorem readMembers_written (fields : List (String × Json)) (form : WellFormedFields fields)
    (finite : AllFiniteFields fields) {level below fuel levels : Nat}
    (out : List (String × Json)) (n : String) {v : Json} {t rest : List Char}
    (first : readValue fuel levels
      (t ++ (l.writeFields level fields ++ ((l.last below).val ++ '\x7d' :: rest))) =
        .ok (v, l.writeFields level fields ++ ((l.last below).val ++ '\x7d' :: rest)))
    (shallow : depthFields fields ≤ levels)
    (enough : 2 * (l.writeFields level fields).length < fuel) :
    readMembers (fuel + 1) levels out (writeString l.ascii n ++ ':' :: ' ' ::
        (t ++ (l.writeFields level fields ++ ((l.last below).val ++ '\x7d' :: rest)))) =
      .ok (.obj (ofMembers (out.reverse ++ (n, v) :: fields)), rest) := by
  cases fields with
  | nil =>
    rw [readMembers_last out l.ascii n (l.last below) first]
    simp
  | cons f fields =>
    simp only [depthFields] at shallow
    simp only [Layout.writeFields, List.length_cons, List.length_append] at enough
    obtain ⟨fuel, rfl⟩ : ∃ n, fuel = n + 1 := ⟨fuel - 1, by omega⟩
    have next := readValue_written f.2 form.1 finite.1 level fuel levels
      (follows_fields l level below fields rest) (by omega) (by omega)
    have all := readMembers_written fields form.2 finite.2 ((n, v) :: out) f.1 next (by omega)
      (by omega)
    simp only [Layout.writeFields, List.cons_append, List.append_assoc] at first ⊢
    rw [readMembers_next out l.ascii n (l.next level) first all]
    simp

end

variable {v : Json} (form : WellFormed v) (finite : AllFinite v) (shallow : v.depth ≤ levelLimit)
include form finite shallow

/-- A written value, with a line feed at the end, is read as that value. -/
theorem readChars_written : readChars (l.write 0 v ++ ['\n']) = .ok v := by
  have follows : Follows ['\n'] := by
    rintro c ⟨⟩
    exact Or.inr (Or.inr (Or.inr rfl))
  have enough : 2 * (l.write 0 v).length < 2 * (l.write 0 v ++ ['\n']).length + 2 := by
    simp only [List.length_append, List.length_cons]
    omega
  have read := readValue_written l v form finite 0 _ levelLimit follows shallow enough
  have blank := skipBlanks_self (readValue_start read).1
  have whole : readWholeText (l.write 0 v ++ ['\n']) = .ok v := by
    simp only [readWholeText, blank, read]
    rfl
  rw [readChars, whole]

/-- A written value does not start with a byte order mark, and so its text is read as the value. -/
theorem read_written : Json.read (String.ofList (l.write 0 v ++ ['\n'])) = .ok v := by
  have read := readChars_written l form finite shallow
  rw [Json.read, String.toList_ofList]
  split
  · rename_i mark
    obtain ⟨tail, text⟩ : ∃ tail, l.write 0 v ++ ['\n'] = Char.ofNat 0xfeff :: tail := by
      cases text : l.write 0 v ++ ['\n'] with
      | nil => simp at text
      | cons c tail =>
        rw [text] at mark
        exact ⟨tail, by rw [Option.some.inj mark]⟩
    rw [text] at read
    cases read
  · exact read

end

end Json

end RunReports
