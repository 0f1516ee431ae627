import Mathlib.Data.Nat.Init
import Mathlib.Logic.Function.Iterate
import RunReports.Calendar.Date

/-!
# Days one by one

The calendar says which day follows a day. Counting from the first of January of year one, each day
has the number of days before it as its count, and a count leads back to its day. So year, month and
day of any count are those that are reached by going on from day to day, through the months of
different lengths and the leap years.
-/
namespace RunReports.Calendar

variable {year month n : Nat} {d : Nat × Nat × Nat}

/-- Year, month and day of a calendar that begins with year one. -/
structure IsDay (d : Nat × Nat × Nat) : Prop where
  year_pos : 1 ≤ d.1
  month_pos : 1 ≤ d.2.1
  month_le : d.2.1 ≤ 12
  day_pos : 1 ≤ d.2.2
  day_le : d.2.2 ≤ daysInMonth d.1 d.2.1

def nextDay : Nat × Nat × Nat → Nat × Nat × Nat
  | (year, month, day) =>
    if day < daysInMonth year month then (year, month, day + 1)
    else if month < 12 then (year, month + 1, 1)
    else (year + 1, 1, 1)

def countOf (d : Nat × Nat × Nat) : Nat := dayNumber d.1 d.2.1 d.2.2

/-! ## Months and years -/

theorem daysInMonth_pos (year month : Nat) : 1 ≤ daysInMonth year month := by
  rw [daysInMonth]
  split
  · split <;> decide
  · split <;> decide

theorem daysInMonth_le (year month : Nat) : daysInMonth year month ≤ 31 := by
  rw [daysInMonth]
  split
  · split <;> decide
  · split <;> decide

theorem daysBeforeMonth_succ (year : Nat) (pos : 1 ≤ month) :
    daysBeforeMonth year (month + 1) = daysBeforeMonth year month + daysInMonth year month := by
  obtain ⟨before, rfl⟩ := Nat.exists_eq_add_of_le' pos
  rfl

theorem daysBeforeMonth_le (year : Nat) {later : Nat} (pos : 1 ≤ month) (le : month ≤ later) :
    daysBeforeMonth year month ≤ daysBeforeMonth year later := by
  induction later, le using Nat.le_induction with
  | base => exact Nat.le_refl _
  | succ later le ih =>
    rw [daysBeforeMonth_succ year (by omega)]
    omega

theorem daysBeforeMonth_thirteen (year : Nat) :
    daysBeforeMonth year 13 = if isLeap year then 366 else 365 := by
  cases leap : isLeap year <;> simp [daysBeforeMonth, daysInMonth, leap]

theorem isLeap_iff : isLeap year = true ↔ 4 ∣ year ∧ (¬ 100 ∣ year ∨ 400 ∣ year) := by
  simp [isLeap, Nat.dvd_iff_mod_eq_zero]

/-- A year ends with its twelfth month. -/
theorem daysBeforeYear_succ (pos : 1 ≤ year) :
    daysBeforeYear (year + 1) = daysBeforeYear year + daysBeforeMonth year 13 := by
  obtain ⟨before, rfl⟩ := Nat.exists_eq_add_of_le' pos
  have fewer : before / 100 ≤ before / 4 := Nat.div_le_div_left (by decide) (by decide)
  simp only [daysBeforeMonth_thirteen, daysBeforeYear, Nat.add_sub_cancel, Nat.succ_div]
  -- a day more every fourth year, but not every hundredth, and again every four hundredth
  by_cases four : 4 ∣ before + 1
  · by_cases hundred : 100 ∣ before + 1
    · by_cases fourHundred : 400 ∣ before + 1
      · rw [if_pos four, if_pos hundred, if_pos fourHundred,
          if_pos (isLeap_iff.mpr ⟨four, Or.inr fourHundred⟩)]
        omega
      · have common : ¬ isLeap (before + 1) = true := fun leap =>
          (isLeap_iff.mp leap).2.elim (absurd hundred) fourHundred
        rw [if_pos four, if_pos hundred, if_neg fourHundred, if_neg common]
        omega
    · have no : ¬ 400 ∣ before + 1 := fun h => hundred (Nat.dvd_trans (by decide) h)
      rw [if_pos four, if_neg hundred, if_neg no, if_pos (isLeap_iff.mpr ⟨four, Or.inl hundred⟩)]
      omega
  · have no : ¬ 100 ∣ before + 1 := fun h => four (Nat.dvd_trans (by decide) h)
    have no' : ¬ 400 ∣ before + 1 := fun h => four (Nat.dvd_trans (by decide) h)
    rw [if_neg four, if_neg no, if_neg no', if_neg fun leap => four (isLeap_iff.mp leap).1]
    omega

theorem daysBeforeYear_le {later : Nat} (pos : 1 ≤ year) (le : year ≤ later) :
    daysBeforeYear year ≤ daysBeforeYear later := by
  induction later, le using Nat.le_induction with
  | base => exact Nat.le_refl _
  | succ later le ih =>
    rw [daysBeforeYear_succ (by omega)]
    omega

/-! ## From day to day -/

theorem isDay_first : IsDay (1, 1, 1) := ⟨by decide, by decide, by decide, by decide, by decide⟩

/-- The day after a day is a day, and its count is greater by one. -/
theorem IsDay.next (is : IsDay d) : IsDay (nextDay d) ∧ countOf (nextDay d) = countOf d + 1 := by
  obtain ⟨year, month, day⟩ := d
  obtain ⟨yearPos, monthPos, monthLe, dayPos, dayLe⟩ := is
  simp only [nextDay, countOf, dayNumber] at *
  by_cases within : day < daysInMonth year month
  · rw [if_pos within]
    refine ⟨⟨yearPos, monthPos, monthLe, by simp, within⟩, ?_⟩
    simp only
    omega
  · rw [if_neg within]
    have ends : daysBeforeMonth year (month + 1) = daysBeforeMonth year month + day := by
      rw [daysBeforeMonth_succ year monthPos]
      omega
    by_cases more : month < 12
    · rw [if_pos more]
      refine ⟨⟨yearPos, by simp, more, by simp, daysInMonth_pos year (month + 1)⟩, ?_⟩
      simp only [ends]
      omega
    · rw [if_neg more]
      obtain rfl : month = 12 := by omega
      refine ⟨⟨by simp, by simp, by simp, by simp, daysInMonth_pos (year + 1) 1⟩, ?_⟩
      have december : daysBeforeMonth year 13 = daysBeforeMonth year 12 + day := ends
      have january : daysBeforeMonth (year + 1) 1 = 0 := rfl
      simp only [daysBeforeYear_succ yearPos, december, january]
      omega

/-- Going on from the first day, the count tells how many days have gone by. -/
theorem isDay_iterate (n : Nat) :
    IsDay (nextDay^[n] (1, 1, 1)) ∧ countOf (nextDay^[n] (1, 1, 1)) = n := by
  induction n with
  | zero => exact ⟨isDay_first, rfl⟩
  | succ n ih =>
    rw [Function.iterate_succ_apply']
    obtain ⟨is, count⟩ := ih
    exact ⟨is.next.1, by rw [is.next.2, count]⟩

/-! ## From a count to its day -/

/-- The year that is guessed first is the right one or the one before. -/
theorem estimate_close (pos : 1 ≤ year) (le : daysBeforeYear year ≤ n)
    (lt : n < daysBeforeYear (year + 1)) :
    n * 400 / 146097 + 1 = year ∨ n * 400 / 146097 + 1 + 1 = year := by
  simp only [daysBeforeYear] at le lt
  omega

theorem yearOf_eq (pos : 1 ≤ year) (le : daysBeforeYear year ≤ n)
    (lt : n < daysBeforeYear (year + 1)) : yearOf n = year := by
  rw [yearOf]
  rcases estimate_close pos le lt with same | before
  · rw [same, if_neg (by omega), if_pos le]
  · rw [before, if_pos le]

theorem monthOf_eq {dayOfYear last : Nat} (pos : 1 ≤ month) (le : month ≤ last)
    (first : daysBeforeMonth year month ≤ dayOfYear)
    (lt : dayOfYear < daysBeforeMonth year (month + 1)) : monthOf year dayOfYear last = month := by
  induction last with
  | zero => omega
  | succ last ih =>
    rw [monthOf]
    by_cases same : month = last + 1
    · rw [← same, if_pos first]
    · have later : daysBeforeMonth year (month + 1) ≤ daysBeforeMonth year (last + 1) :=
        daysBeforeMonth_le year (by omega) (by omega)
      rw [if_neg (by omega), ih (by omega)]

theorem IsDay.le_monthEnd (is : IsDay d) :
    daysBeforeMonth d.1 d.2.1 + d.2.2 ≤ daysBeforeMonth d.1 (d.2.1 + 1) := by
  rw [daysBeforeMonth_succ d.1 is.month_pos]
  exact Nat.add_le_add_left is.day_le _

theorem IsDay.count_bounds (is : IsDay d) :
    daysBeforeYear d.1 ≤ countOf d ∧ countOf d < daysBeforeYear (d.1 + 1) := by
  have monthEnd := is.le_monthEnd
  have yearEnd : daysBeforeMonth d.1 (d.2.1 + 1) ≤ daysBeforeMonth d.1 13 :=
    daysBeforeMonth_le d.1 (by omega) (Nat.succ_le_succ is.month_le)
  have some := is.day_pos
  rw [daysBeforeYear_succ is.year_pos, countOf, dayNumber]
  omega

/-- The count of a day leads back to it. -/
theorem civil_countOf (is : IsDay d) : civil (countOf d) = d := by
  have year := yearOf_eq is.year_pos is.count_bounds.1 is.count_bounds.2
  have inYear : countOf d - daysBeforeYear d.1 = daysBeforeMonth d.1 d.2.1 + (d.2.2 - 1) := by
    rw [countOf, dayNumber]
    omega
  have month : monthOf d.1 (daysBeforeMonth d.1 d.2.1 + (d.2.2 - 1)) 12 = d.2.1 := by
    have monthEnd := is.le_monthEnd
    have some := is.day_pos
    exact monthOf_eq is.month_pos is.month_le (Nat.le_add_right _ _) (by omega)
  have day : d.2.2 - 1 + 1 = d.2.2 := Nat.sub_add_cancel is.day_pos
  simp only [civil, year, inYear, month, Nat.add_sub_cancel_left, day]

/-- Year, month and day of a count are reached from the first day in as many steps. -/
theorem civil_eq_iterate (n : Nat) : civil n = nextDay^[n] (1, 1, 1) := by
  obtain ⟨is, count⟩ := isDay_iterate n
  rw [← civil_countOf is, count]

theorem isDay_civil (n : Nat) : IsDay (civil n) := civil_eq_iterate n ▸ (isDay_iterate n).1

theorem countOf_civil (n : Nat) : countOf (civil n) = n := by
  rw [civil_eq_iterate, (isDay_iterate n).2]

/-- The days before the limit are those of the years up to 9999. -/
theorem IsDay.count_lt_iff (is : IsDay d) : countOf d < dayCount ↔ d.1 ≤ 9999 := by
  have limit : dayCount = daysBeforeYear 10000 := rfl
  obtain ⟨le, lt⟩ := is.count_bounds
  constructor
  · intro early
    by_contra late
    have after := daysBeforeYear_le (by decide : 1 ≤ 10000) (by omega : 10000 ≤ d.1)
    omega
  · intro year
    have before := daysBeforeYear_le (by omega : 1 ≤ d.1 + 1) (by omega : d.1 + 1 ≤ 10000)
    omega

end RunReports.Calendar
