/-! # Calendar days

Days of the proleptic Gregorian calendar, counted from the first day of year one, for the
years one to 9999. `dayNumber` and `civil` convert between the count and year, month and
day. -/
namespace RunReports.Calendar

def isLeap (year : Nat) : Bool := year % 4 == 0 && (year % 100 != 0 || year % 400 == 0)

def daysInMonth (year month : Nat) : Nat :=
  if month = 2 then (if isLeap year then 29 else 28)
  else if month = 4 ∨ month = 6 ∨ month = 9 ∨ month = 11 then 30
  else 31

def daysBeforeYear (year : Nat) : Nat :=
  let y := year - 1
  365 * y + y / 4 - y / 100 + y / 400

/-- The number of days of a year before the first day of a month. -/
def daysBeforeMonth (year : Nat) : Nat → Nat
  | 0 => 0
  | 1 => 0
  | month + 2 => daysBeforeMonth year (month + 1) + daysInMonth year (month + 1)

/-- The count of a day: the first of January of year one is day zero. -/
def dayNumber (year month day : Nat) : Nat :=
  daysBeforeYear year + daysBeforeMonth year month + (day - 1)

/-- The number of days from the first day of year one to the last day of year 9999. -/
def dayCount : Nat := 3652059

/-- The year a day lies in: the last one that starts on or before it. The estimate is never
too late and at most a year early. -/
def yearOf (n : Nat) : Nat :=
  let estimate := n * 400 / 146097 + 1
  if daysBeforeYear (estimate + 1) ≤ n then estimate + 1
  else if daysBeforeYear estimate ≤ n then estimate
  else estimate - 1

/-- The month a day of a year lies in, searched from December down. -/
def monthOf (year dayOfYear : Nat) : Nat → Nat
  | 0 => 1
  | month + 1 =>
    if daysBeforeMonth year (month + 1) ≤ dayOfYear then month + 1
    else monthOf year dayOfYear month

def civil (n : Nat) : Nat × Nat × Nat :=
  let year := yearOf n
  let dayOfYear := n - daysBeforeYear year
  let month := monthOf year dayOfYear 12
  (year, month, dayOfYear - daysBeforeMonth year month + 1)

end RunReports.Calendar
