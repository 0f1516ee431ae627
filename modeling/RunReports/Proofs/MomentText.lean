import RunReports.Calendar.Moment
import RunReports.Proofs.CivilDays
import RunReports.Proofs.Digits

/-!
# Moments as text

A moment is valid if a clock and a calendar can show it. Its text shows the fields of the clock and
the calendar at fixed widths, the fraction of a second only where there is one and the offset down
to what it needs, and reading takes all of it back: the text of a valid moment is read as that
moment.
-/
namespace RunReports.Calendar

open RunReports.Text

variable {m : Moment} {rest : List Char} {n width : Nat}

/-- A moment that a clock and a calendar show, at an offset shorter than a day. -/
def Moment.IsValid (m : Moment) : Prop :=
  ∃ year month day hour minute second micro,
    Moment.ofFields? year month day hour minute second micro m.offset = some m

/-! ## The fields of a moment -/

def Moment.date (m : Moment) : Nat × Nat × Nat := civil (m.micros / microsPerDay)

def Moment.second (m : Moment) : Nat := m.micros % microsPerDay / 1000000

def Moment.micro (m : Moment) : Nat := m.micros % microsPerDay % 1000000

theorem Moment.isDay_date (m : Moment) : IsDay m.date := isDay_civil _

/-- The day on the wall is reached from the first one in as many steps as days have gone by. -/
theorem Moment.date_eq_iterate (m : Moment) :
    m.date = nextDay^[m.micros / microsPerDay] (1, 1, 1) := civil_eq_iterate _

theorem Moment.second_lt (m : Moment) : m.second < 86400 := by
  rw [Moment.second, microsPerDay]
  omega

theorem Moment.micro_lt (m : Moment) : m.micro < 10 ^ 6 := Nat.mod_lt _ (by decide)

theorem Moment.year_le (early : m.micros < microsLimit) : m.date.1 ≤ 9999 := by
  have count : countOf m.date = m.micros / microsPerDay := countOf_civil _
  rw [← m.isDay_date.count_lt_iff, count]
  exact Nat.div_lt_of_lt_mul (by rwa [Nat.mul_comm])

/-- Every count of microseconds before the limit is shown by a clock and a calendar. -/
theorem Moment.ofFields?_shown (early : m.micros < microsLimit)
    (short : ∀ o ∈ m.offset, o.natAbs < microsPerDay) :
    Moment.ofFields? m.date.1 m.date.2.1 m.date.2.2 (m.second / 3600) (m.second / 60 % 60)
      (m.second % 60) m.micro m.offset = some m := by
  have is := m.isDay_date
  have count : dayNumber m.date.1 m.date.2.1 m.date.2.2 = m.micros / microsPerDay :=
    countOf_civil _
  have second := m.second_lt
  have micro := m.micro_lt
  have micros : m.micros / microsPerDay * microsPerDay +
      (3600 * (m.second / 3600) + 60 * (m.second / 60 % 60) + m.second % 60) * 1000000 + m.micro =
        m.micros := by
    rw [Moment.second, Moment.micro, microsPerDay]
    omega
  rw [Moment.ofFields?, if_pos ⟨is.year_pos, m.year_le early, is.month_pos, is.month_le, is.day_pos,
    is.day_le, by omega, by omega, by omega, by omega, short⟩, count, micros]

/-- The valid moments are those of the years one to 9999, wherever their wall stands. -/
theorem Moment.isValid_iff : m.IsValid ↔
    m.micros < microsLimit ∧ ∀ o ∈ m.offset, o.natAbs < microsPerDay := by
  constructor
  · rintro ⟨year, month, day, hour, minute, second, micro, shown⟩
    rw [Moment.ofFields?, Option.ite_none_right_eq_some] at shown
    obtain ⟨⟨yearPos, yearLe, monthPos, monthLe, dayPos, dayLe, hourLe, minuteLe, secondLe, microLe,
      short⟩, same⟩ := shown
    have is : IsDay (year, month, day) := ⟨yearPos, monthPos, monthLe, dayPos, dayLe⟩
    have early : dayNumber year month day < dayCount := is.count_lt_iff.mpr yearLe
    refine ⟨?_, short⟩
    rw [← Option.some.inj same, microsLimit, dayCount, microsPerDay] at *
    simp only
    omega
  · rintro ⟨early, short⟩
    exact ⟨_, _, _, _, _, _, _, Moment.ofFields?_shown early short⟩

/-! ## Digits at fixed widths -/

theorem length_zeroPadded (pos : 0 < width) (lt : n < 10 ^ width) :
    (zeroPadded width n).length = width := by
  have short : (decimal n).length ≤ width := (Nat.length_toDigits_le_iff (by decide) pos).mpr lt
  simp only [zeroPadded, List.length_append, List.length_replicate]
  omega

theorem readFixed?_digits {ds : List Char} (digits : AllDigits ds) (n : Nat) :
    readFixed? ds.length n (ds ++ rest) = some (10 ^ ds.length * n + readDecimal ds, rest) := by
  induction ds generalizing n with
  | nil => simp [readFixed?, readDecimal]
  | cons c ds ih =>
    have joined := readDecimal_append [c] ds
    have first : readDecimal [c] = digitValue c := by simp [readDecimal]
    rw [List.length_cons, List.cons_append, readFixed?, if_pos (digits c List.mem_cons_self),
      ih fun d there => digits d (List.mem_cons_of_mem c there)]
    rw [List.singleton_append, first] at joined
    rw [joined, Nat.pow_succ, Nat.mul_add, ← Nat.mul_assoc, Nat.add_assoc]

theorem readFixed?_zeroPadded (pos : 0 < width) (lt : n < 10 ^ width) :
    readFixed? width 0 (zeroPadded width n ++ rest) = some (n, rest) := by
  have read : readFixed? _ 0 (zeroPadded width n ++ rest) = _ :=
    readFixed?_digits (allDigits_zeroPadded width n) 0
  rwa [length_zeroPadded pos lt, Nat.mul_zero, Nat.zero_add, readDecimal_zeroPadded] at read

theorem readAfter?_zeroPadded (separator : Char) (pos : 0 < width) (lt : n < 10 ^ width) :
    readAfter? separator width (separator :: (zeroPadded width n ++ rest)) = some (n, rest) := by
  rw [readAfter?, if_pos rfl, readFixed?_zeroPadded pos lt]

/-- A text that does not go on with a fraction, or with more digits of one. -/
def EndsFraction (rest : List Char) : Prop := EndsDigits rest ∧ rest.head? ≠ some '.'

theorem endsFraction_nil : EndsFraction [] := ⟨nofun, nofun⟩

theorem readMicros_microText {micro : Nat} (lt : micro < 10 ^ 6) (ends : EndsFraction rest) :
    readMicros (microText micro ++ rest) = (micro, rest) := by
  rw [microText]
  split
  · rename_i none
    subst none
    rw [List.nil_append, readMicros]
    rintro tail rfl
    exact ends.2 rfl
  · have digits := allDigits_zeroPadded 6 micro
    simp only [List.cons_append, readMicros, takeWhile_digits digits ends.1,
      dropWhile_digits digits ends.1, readDecimal_zeroPadded,
      length_zeroPadded (by decide : 0 < 6) lt, Nat.sub_self]
    exact congrArg (·, rest) (Nat.mul_one micro)

/-! ## Offsets -/

theorem readSeconds?_text (size : Nat) :
    readSeconds? (if size % microsPerMinute = 0 then []
      else ':' :: (zeroPadded 2 (size / 1000000 % 60) ++ microText (size % 1000000))) =
      some (size % microsPerMinute) := by
  split
  · rename_i none
    rw [none, readSeconds?]
  · have second : size / 1000000 % 60 < 10 ^ 2 := by omega
    have micro : size % 1000000 < 10 ^ 6 := Nat.mod_lt _ (by decide)
    have whole : size / 1000000 % 60 * 1000000 + size % 1000000 = size % microsPerMinute := by
      rw [microsPerMinute]
      omega
    have read := readMicros_microText micro endsFraction_nil
    rw [List.append_nil] at read
    rw [readSeconds?, readAfter?_zeroPadded ':' (by decide) second]
    simp only [Option.bind_eq_bind, Option.bind_some, read, whole]
    simp

/-- An offset is read back from its size and its sign. -/
theorem readOffset?_signed {size : Nat} (short : size < microsPerDay) {sign : Char}
    (signs : sign = '+' ∨ sign = '-') :
    readOffset? (sign :: (zeroPadded 2 (size / 1000000 / 3600) ++
        ':' :: (zeroPadded 2 (size / 1000000 / 60 % 60) ++ (if size % microsPerMinute = 0 then []
          else ':' :: (zeroPadded 2 (size / 1000000 % 60) ++ microText (size % 1000000)))))) =
      some (some (if sign = '-' then -(size : Int) else size)) := by
  have hours : size / 1000000 / 3600 < 10 ^ 2 := by
    rw [microsPerDay] at short
    omega
  have minutes : size / 1000000 / 60 % 60 < 10 ^ 2 := by omega
  have whole : (60 * (size / 1000000 / 3600) + size / 1000000 / 60 % 60) * microsPerMinute +
      size % microsPerMinute = size := by
    rw [microsPerMinute]
    omega
  rw [readOffset?, if_pos signs, readFixed?_zeroPadded (by decide) hours]
  · simp only [Option.bind_eq_bind, Option.bind_some,
      readAfter?_zeroPadded ':' (by decide : 0 < 2) minutes, readSeconds?_text, whole]
  · rintro rfl
    simp at signs

theorem readOffset?_offsetText {offset : Int} (short : offset.natAbs < microsPerDay) :
    readOffset? (offsetText offset) = some (some offset) := by
  simp only [offsetText, signedMinutes, List.append_assoc, List.cons_append]
  by_cases negative : offset < 0
  · have back : -(offset.natAbs : Int) = offset := by omega
    rw [if_pos (decide_eq_true negative), readOffset?_signed short (Or.inr rfl), if_pos rfl, back]
  · have back : (offset.natAbs : Int) = offset := by omega
    rw [if_neg (by simpa using negative), readOffset?_signed short (Or.inl rfl),
      if_neg (by decide), back]

theorem endsFraction_offsetText (offset : Int) : EndsFraction (offsetText offset) := by
  rw [offsetText, signedMinutes]
  by_cases negative : offset < 0
  · rw [if_pos (by simpa using negative)]
    exact ⟨by rintro _ ⟨⟩; decide, by simp⟩
  · rw [if_neg (by simpa using negative)]
    exact ⟨by rintro _ ⟨⟩; decide, by simp⟩

/-! ## Moments -/

theorem readOffset?_text (short : ∀ o ∈ m.offset, o.natAbs < microsPerDay) :
    readOffset? ((m.offset.map offsetText).getD []) = some m.offset := by
  cases given : m.offset with
  | none => rfl
  | some o => exact readOffset?_offsetText (short o given)

theorem endsFraction_text (m : Moment) : EndsFraction ((m.offset.map offsetText).getD []) := by
  cases m.offset with
  | none => exact endsFraction_nil
  | some o => exact endsFraction_offsetText o

theorem Moment.wallText_eq (m : Moment) : m.wallText =
    zeroPadded 4 m.date.1 ++ ('-' :: (zeroPadded 2 m.date.2.1 ++ ('-' :: (zeroPadded 2 m.date.2.2 ++
      ('T' :: (zeroPadded 2 (m.second / 3600) ++ (':' :: (zeroPadded 2 (m.second / 60 % 60) ++
        (':' :: (zeroPadded 2 (m.second % 60) ++ microText m.micro)))))))))) := by
  simp only [Moment.wallText, List.append_assoc, List.cons_append]
  rfl

/-- The text of a valid moment is read as that moment. -/
theorem Moment.read?_text (valid : m.IsValid) : Moment.read? m.text = some m := by
  obtain ⟨early, short⟩ := Moment.isValid_iff.mp valid
  have is := m.isDay_date
  have year : m.date.1 < 10 ^ 4 := Nat.lt_succ_of_le (m.year_le early)
  have month : m.date.2.1 < 10 ^ 2 := Nat.lt_of_le_of_lt is.month_le (by decide)
  have day : m.date.2.2 < 10 ^ 2 :=
    Nat.lt_of_le_of_lt (is.day_le.trans (daysInMonth_le _ _)) (by decide)
  have clock := m.second_lt
  have hour : m.second / 3600 < 10 ^ 2 := by omega
  have minute : m.second / 60 % 60 < 10 ^ 2 := by omega
  have second : m.second % 60 < 10 ^ 2 := by omega
  have two : 0 < 2 := by decide
  simp only [Moment.read?, Moment.text, Moment.wallText_eq, String.toList_ofList, List.append_assoc,
    List.cons_append, Option.bind_eq_bind, Option.bind_some,
    readFixed?_zeroPadded (by decide : 0 < 4) year, readAfter?_zeroPadded '-' two month,
    readAfter?_zeroPadded '-' two day, readAfter?_zeroPadded 'T' two hour,
    readAfter?_zeroPadded ':' two minute, readAfter?_zeroPadded ':' two second,
    readMicros_microText m.micro_lt (endsFraction_text m), readOffset?_text short,
    Moment.ofFields?_shown early short]

end RunReports.Calendar
