import RunReports.Json.Bytes
import RunReports.Proofs.JsonText

/-! # Written bytes read back

The bytes of a text are decoded as that text, and the bytes of JSON over several lines are known
for UTF-8 by their first four. So the bytes of a written value are read as the value. -/
namespace RunReports

namespace Text

/-! ## Lead bytes -/

theorem toNat_ofNat_byte {n : Nat} (h : n < 256) : (UInt8.ofNat n).toNat = n := by
  rw [UInt8.toNat_ofNat']
  exact Nat.mod_eq_of_lt h

theorem lead_single {n : Nat} (h : n < 0x80) : lead (UInt8.ofNat n) = .single (Char.ofNat n) := by
  simp only [lead, toNat_ofNat_byte (by omega : n < 256), if_pos h]

theorem lead_two {n : Nat} (low : 0x80 ≤ n) (high : n < 0x800) :
    lead (UInt8.ofNat (0xc0 + n / 64)) =
      .sequence ⟨1, 0x80, 0xbf, n / 64, 1, UInt8.ofNat (0xc0 + n / 64)⟩ := by
  have code : (UInt8.ofNat (0xc0 + n / 64)).toNat = 0xc0 + n / 64 := toNat_ofNat_byte (by omega)
  have bits : 0xc0 + n / 64 - 0xc0 = n / 64 := by omega
  simp only [lead, code, bits]
  rw [if_neg (by omega), if_neg (by omega), if_pos (by omega)]

/-- The byte after the lead byte lies in the range that the lead byte announces, as no character is
a surrogate. -/
theorem lead_three {n : Nat} (low : 0x800 ≤ n) (high : n < 0x10000)
    (valid : n < 0xd800 ∨ 0xdfff < n) :
    ∃ first last, lead (UInt8.ofNat (0xe0 + n / 4096)) =
        .sequence ⟨2, first, last, n / 4096, 1, UInt8.ofNat (0xe0 + n / 4096)⟩ ∧
      first ≤ 0x80 + n / 64 % 64 ∧ 0x80 + n / 64 % 64 ≤ last := by
  have code : (UInt8.ofNat (0xe0 + n / 4096)).toNat = 0xe0 + n / 4096 :=
    toNat_ofNat_byte (by omega)
  simp only [lead, code]
  rw [if_neg (by omega), if_neg (by omega), if_neg (by omega)]
  by_cases least : n / 4096 = 0
  · rw [least]
    exact ⟨0xa0, 0xbf, rfl, by omega, by omega⟩
  · rw [if_neg (by omega)]
    by_cases surrogates : n / 4096 = 0xd
    · rw [surrogates]
      exact ⟨0x80, 0x9f, rfl, by omega, by omega⟩
    · rw [if_neg (by omega), if_pos (by omega), Nat.add_sub_cancel_left]
      exact ⟨0x80, 0xbf, rfl, by omega, by omega⟩

theorem lead_four {n : Nat} (low : 0x10000 ≤ n) (high : n < 0x110000) :
    ∃ first last, lead (UInt8.ofNat (0xf0 + n / 262144)) =
        .sequence ⟨3, first, last, n / 262144, 1, UInt8.ofNat (0xf0 + n / 262144)⟩ ∧
      first ≤ 0x80 + n / 4096 % 64 ∧ 0x80 + n / 4096 % 64 ≤ last := by
  have code : (UInt8.ofNat (0xf0 + n / 262144)).toNat = 0xf0 + n / 262144 :=
    toNat_ofNat_byte (by omega)
  simp only [lead, code]
  rw [if_neg (by omega), if_neg (by omega), if_neg (by omega), if_neg (by omega),
    if_neg (by omega), if_neg (by omega)]
  by_cases least : n / 262144 = 0
  · rw [least]
    exact ⟨0x90, 0xbf, rfl, by omega, by omega⟩
  · rw [if_neg (by omega)]
    by_cases greatest : n / 262144 = 4
    · rw [greatest]
      exact ⟨0x80, 0x8f, rfl, by omega, by omega⟩
    · rw [if_pos (by omega), Nat.add_sub_cancel_left]
      exact ⟨0x80, 0xbf, rfl, by omega, by omega⟩

/-! ## Decoding -/

section
variable (out : List Char) (position : Nat) (rest : List UInt8)

theorem decodeFrom_sequence {b : UInt8} {p : Pending} (h : lead b = .sequence p) :
    decodeFrom out none position (b :: rest) = decodeFrom out (some p) (position + 1) rest := by
  rw [decodeFrom]
  simp only [h]

theorem next_tail (missing first last bits taken : Nat) (byte : UInt8) {n : Nat}
    (low : first ≤ 0x80 + n % 64) (high : 0x80 + n % 64 ≤ last) :
    Pending.next ⟨missing, first, last, bits, taken, byte⟩ (UInt8.ofNat (0x80 + n % 64)) =
      if missing ≤ 1 then some (.inl (Char.ofNat (64 * bits + n % 64)))
      else some (.inr ⟨missing - 1, 0x80, 0xbf, 64 * bits + n % 64, taken + 1, byte⟩) := by
  have code : (UInt8.ofNat (0x80 + n % 64)).toNat = 0x80 + n % 64 := toNat_ofNat_byte (by omega)
  have six : (0x80 + n % 64) % 64 = n % 64 := by omega
  simp only [Pending.next, code, six, low, high, decide_true, Bool.and_self, if_true]

theorem decodeFrom_more (missing first last bits taken : Nat) (byte : UInt8) {n : Nat}
    (low : first ≤ 0x80 + n % 64) (high : 0x80 + n % 64 ≤ last) :
    decodeFrom out (some ⟨missing + 2, first, last, bits, taken, byte⟩) position
        (UInt8.ofNat (0x80 + n % 64) :: rest) =
      decodeFrom out (some ⟨missing + 1, 0x80, 0xbf, 64 * bits + n % 64, taken + 1, byte⟩)
        (position + 1) rest := by
  have next := next_tail (missing + 2) first last bits taken byte low high
  rw [if_neg (by omega)] at next
  rw [decodeFrom]
  simp only [next]
  rfl

theorem decodeFrom_last (bits taken first last : Nat) (byte : UInt8) {n : Nat}
    (low : first ≤ 0x80 + n % 64) (high : 0x80 + n % 64 ≤ last) :
    decodeFrom out (some ⟨1, first, last, bits, taken, byte⟩) position
        (UInt8.ofNat (0x80 + n % 64) :: rest) =
      decodeFrom (Char.ofNat (64 * bits + n % 64) :: out) none (position + 1) rest := by
  have next := next_tail 1 first last bits taken byte low high
  rw [if_pos (by omega)] at next
  rw [decodeFrom]
  simp only [next]

end

/-- A character is decoded from its bytes. -/
theorem decodeFrom_encodeChar (out : List Char) (position : Nat) (c : Char) (rest : List UInt8) :
    ∃ after, decodeFrom out none position (encodeChar c ++ rest) =
      decodeFrom (c :: out) none after rest := by
  obtain ⟨valid, top⟩ := toNat_valid c
  have back : Char.ofNat c.toNat = c := Char.ofNat_toNat c
  simp only [encodeChar]
  -- One case for each number of bytes.
  split_ifs with one two three
  · refine ⟨position + 1, ?_⟩
    rw [List.singleton_append, decodeFrom]
    simp only [lead_single one, back]
  · have bits : 64 * (c.toNat / 64) + c.toNat % 64 = c.toNat := by omega
    refine ⟨position + 1 + 1, ?_⟩
    simp only [List.cons_append, List.nil_append]
    rw [decodeFrom_sequence out position _ (lead_two (by omega) two),
      decodeFrom_last out _ rest _ _ _ _ _ (by omega) (by omega), bits, back]
  · obtain ⟨first, last, leads, low, high⟩ := lead_three (by omega) three valid
    have bits : 64 * (64 * (c.toNat / 4096) + c.toNat / 64 % 64) + c.toNat % 64 = c.toNat := by
      omega
    refine ⟨position + 1 + 1 + 1, ?_⟩
    simp only [List.cons_append, List.nil_append]
    rw [decodeFrom_sequence out position _ leads, decodeFrom_more out _ _ _ _ _ _ _ _ low high,
      decodeFrom_last out _ rest _ _ _ _ _ (by omega) (by omega), bits, back]
  · obtain ⟨first, last, leads, low, high⟩ := lead_four (n := c.toNat) (by omega) top
    have bits : 64 * (64 * (64 * (c.toNat / 262144) + c.toNat / 4096 % 64) +
        c.toNat / 64 % 64) + c.toNat % 64 = c.toNat := by omega
    refine ⟨position + 1 + 1 + 1 + 1, ?_⟩
    simp only [List.cons_append, List.nil_append]
    rw [decodeFrom_sequence out position _ leads, decodeFrom_more out _ _ _ _ _ _ _ _ low high,
      decodeFrom_more out _ _ _ _ _ _ _ _ (by omega) (by omega),
      decodeFrom_last out _ rest _ _ _ _ _ (by omega) (by omega), bits, back]

theorem encodeUtf8_cons (c : Char) (s : List Char) :
    encodeUtf8 (c :: s) = encodeChar c ++ encodeUtf8 s := List.flatMap_cons

/-- A text is decoded from its bytes. -/
theorem decodeFrom_encodeUtf8 (out : List Char) (position : Nat) (s : List Char) :
    decodeFrom out none position (encodeUtf8 s) = .ok (out.reverse ++ s) := by
  induction s generalizing out position with
  | nil => simp [encodeUtf8, decodeFrom]
  | cons c s ih =>
    obtain ⟨after, first⟩ := decodeFrom_encodeChar out position c (encodeUtf8 s)
    rw [encodeUtf8_cons, first, ih]
    simp

theorem decodeUtf8_encodeUtf8 (s : List Char) : decodeUtf8 (encodeUtf8 s) = .ok s :=
  decodeFrom_encodeUtf8 [] 0 s

end Text

namespace Json

open RunReports.Text

/-! ## No surrogates -/

theorem replaceSurrogates_other {b : UInt8} (h : b ≠ 0xed) (rest : List UInt8) :
    replaceSurrogates (b :: rest) = b :: replaceSurrogates rest := by
  rw [replaceSurrogates.eq_def]
  split
  · rename_i cons_eq
    exact absurd (List.cons.inj cons_eq).1 h
  · rename_i cons_eq
    rw [(List.cons.inj cons_eq).1, (List.cons.inj cons_eq).2]
  · rename_i cons_eq
    cases cons_eq

theorem ofNat_ne {n : Nat} (h : n < 256) (other : n ≠ 0xed) : UInt8.ofNat n ≠ 0xed := by
  intro same
  have codes := congrArg UInt8.toNat same
  rw [toNat_ofNat_byte h] at codes
  exact other codes

/-- A sequence of three bytes that starts like a surrogate is none. -/
theorem replaceSurrogates_below {b : UInt8} (h : b < 0xa0) (c : UInt8) (rest : List UInt8) :
    replaceSurrogates (0xed :: b :: c :: rest) = 0xed :: replaceSurrogates (b :: c :: rest) := by
  have below : (decide (0xa0 ≤ b) && decide (b ≤ 0xbf) && decide (0x80 ≤ c) &&
      decide (c ≤ 0xbf)) = false := by
    have low : decide (0xa0 ≤ b) = false := decide_eq_false (UInt8.not_le.mpr h)
    rw [low, Bool.false_and, Bool.false_and, Bool.false_and]
  rw [replaceSurrogates, below]
  simp

theorem replaceSurrogates_encodeChar (c : Char) (rest : List UInt8) :
    replaceSurrogates (encodeChar c ++ rest) = encodeChar c ++ replaceSurrogates rest := by
  obtain ⟨valid, top⟩ := toNat_valid c
  have tail (n : Nat) (rest : List UInt8) :
      replaceSurrogates (UInt8.ofNat (0x80 + n % 64) :: rest) =
        UInt8.ofNat (0x80 + n % 64) :: replaceSurrogates rest :=
    replaceSurrogates_other (ofNat_ne (by omega) (by omega)) rest
  simp only [encodeChar]
  split_ifs with one two three
  · exact replaceSurrogates_other (ofNat_ne (by omega) (by omega)) rest
  · simp only [List.cons_append, List.nil_append]
    rw [replaceSurrogates_other (ofNat_ne (by omega) (by omega)), tail]
  · simp only [List.cons_append, List.nil_append]
    by_cases surrogates : c.toNat / 4096 = 0xd
    · have below : UInt8.ofNat (0x80 + c.toNat / 64 % 64) < 0xa0 := by
        rw [UInt8.lt_iff_toNat_lt, toNat_ofNat_byte (by omega)]
        show _ < 0xa0
        omega
      have lead : UInt8.ofNat (0xe0 + 0xd) = 0xed := rfl
      rw [surrogates, lead, replaceSurrogates_below below, tail, tail]
    · rw [replaceSurrogates_other (ofNat_ne (by omega) (by omega)), tail, tail]
  · simp only [List.cons_append, List.nil_append]
    rw [replaceSurrogates_other (ofNat_ne (by omega) (by omega)), tail, tail, tail]

theorem replaceSurrogates_encodeUtf8 (s : List Char) :
    replaceSurrogates (encodeUtf8 s) = encodeUtf8 s := by
  induction s with
  | nil => rfl
  | cons c s ih =>
    rw [encodeUtf8_cons, replaceSurrogates_encodeChar, ih]

/-! ## Bytes of JSON -/

/-- Bytes that start with an ASCII character other than a zero have no byte order mark. -/
theorem markedEncoding_ascii {a : UInt8} (ascii : 0 < a.toNat ∧ a.toNat < 0x80)
    (rest : List UInt8) : markedEncoding? (a :: rest) = none := by
  unfold markedEncoding?
  split
  case h_6 => rfl
  all_goals
    rename_i cons_eq
    cases cons_eq
    exact absurd ascii (by decide)

/-- Bytes that start with two ASCII characters other than zeros are UTF-8. -/
theorem unmarkedEncoding_ascii {a b : UInt8} (first : 0 < a.toNat) (second : 0 < b.toNat)
    (rest : List UInt8) : unmarkedEncoding (a :: b :: rest) = .utf8 := by
  have nonzero (x : UInt8) (h : 0 < x.toNat) : (x == 0) = false := by
    rw [beq_eq_false_iff_ne]
    rintro rfl
    cases h
  unfold unmarkedEncoding
  split
  · rename_i cons_eq
    cases cons_eq
    simp [nonzero _ first, nonzero _ second]
  · rename_i cons_eq
    cases cons_eq
    simp [nonzero _ first, nonzero _ second]
  · rfl

/-- The bytes of a text that starts with two ASCII characters other than zeros are decoded as the
text. -/
theorem decodeBytes_encodeUtf8 {a b : Char} (first : 0 < a.toNat ∧ a.toNat < 0x80)
    (second : 0 < b.toNat ∧ b.toNat < 0x80) (s : List Char) :
    decodeBytes (encodeUtf8 (a :: b :: s)) = .ok (a :: b :: s) := by
  have ascii (c : Char) (h : c.toNat < 0x80) (t : List Char) :
      encodeUtf8 (c :: t) = UInt8.ofNat c.toNat :: encodeUtf8 t := by
    rw [encodeUtf8_cons, encodeChar, if_pos h, List.singleton_append]
  have start : encodeUtf8 (a :: b :: s) =
      UInt8.ofNat a.toNat :: UInt8.ofNat b.toNat :: encodeUtf8 s := by
    rw [ascii a first.2, ascii b second.2]
  have one : (UInt8.ofNat a.toNat).toNat = a.toNat := toNat_ofNat_byte (by omega)
  have two : (UInt8.ofNat b.toNat).toNat = b.toNat := toNat_ofNat_byte (by omega)
  have marked : markedEncoding? (encodeUtf8 (a :: b :: s)) = none := by
    rw [start]
    exact markedEncoding_ascii (by rw [one]; exact first) _
  have unmarked : unmarkedEncoding (encodeUtf8 (a :: b :: s)) = .utf8 := by
    rw [start]
    exact unmarkedEncoding_ascii (by rw [one]; exact first.1) (by rw [two]; exact second.1) _
  simp only [decodeBytes, marked, unmarked, replaceSurrogates_encodeUtf8, decodeUtf8_encodeUtf8]

/-- A value over several lines, with a line feed at the end, is read as that value. -/
theorem readChars_indented {v : Json} (form : WellFormed v) (finite : AllFinite v)
    (shallow : v.depth ≤ levelLimit) : readChars (writeIndented 0 v ++ ['\n']) = .ok v := by
  rw [← write_lines]
  exact readChars_written Layout.lines form finite shallow

/-- The bytes of an object over several lines are read as that object. -/
theorem readBytes_indented {fields : Fields} (form : WellFormed (.obj fields))
    (finite : AllFinite (.obj fields)) (shallow : (Json.obj fields).depth ≤ levelLimit) :
    readBytes (utf8 ((Json.obj fields).indented ++ "\n")) = .ok (.obj fields) := by
  obtain ⟨c, s, second, text⟩ : ∃ c s, (0 < c.toNat ∧ c.toNat < 0x80) ∧
      writeIndented 0 (.obj fields) ++ ['\n'] = '\x7b' :: c :: s := by
    cases fields with
    | nil => exact ⟨'\x7d', ['\n'], by decide, rfl⟩
    | cons f fields => exact ⟨'\n', _, by decide, rfl⟩
  have chars : ((Json.obj fields).indented ++ "\n").toList =
      writeIndented 0 (.obj fields) ++ ['\n'] := by
    rw [String.toList_append, indented, String.toList_ofList]
    rfl
  have decoded : decodeBytes (utf8 ((Json.obj fields).indented ++ "\n")) =
      .ok (writeIndented 0 (.obj fields) ++ ['\n']) := by
    rw [utf8, chars, text]
    exact decodeBytes_encodeUtf8 (by decide) second s
  rw [readBytes, decoded]
  exact readChars_indented form finite shallow

end Json

end RunReports
