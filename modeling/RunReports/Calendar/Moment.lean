import RunReports.Calendar.Date
import RunReports.Decimal.Binary64
import RunReports.Text.Digits

/-! # Moments

A moment is what a clock and calendar on the wall show, to the microsecond, with an optional
offset of that wall from universal time. Without an offset the wall is taken to show
universal time. `Moment.toUtc` moves a moment to universal time without moving the instant;
it fails exactly when the instant lies outside the years one to 9999 there. -/
namespace RunReports.Calendar

open RunReports.Decimal RunReports.Text

/-- A wall time: microseconds since the start of year one, and the offset of the wall from
universal time, also in microseconds, if it is known. -/
structure Moment where
  micros : Nat
  offset : Option Int
  deriving Repr, DecidableEq

def microsPerDay : Nat := 86400000000

def microsPerMinute : Nat := 60000000

/-- The microseconds from the start of year one to the end of year 9999. -/
def microsLimit : Nat := dayCount * microsPerDay

/-- The wall time of a moment in universal time, as a signed count. -/
def Moment.instant (m : Moment) : Int := (m.micros : Int) - m.offset.getD 0

/-- The same instant on a wall that shows universal time; `none` outside the calendar. -/
def Moment.toUtc (m : Moment) : Option Moment :=
  if 0 ≤ m.instant ∧ m.instant < (microsLimit : Int) then some ⟨m.instant.toNat, some 0⟩ else none

def Moment.wall (m : Moment) : Moment := ⟨m.micros, none⟩

def Moment.asUtc (m : Moment) : Moment := ⟨m.micros, some 0⟩

def microText (micro : Nat) : List Char := if micro = 0 then [] else '.' :: zeroPadded 6 micro

def Moment.wallText (m : Moment) : List Char :=
  let (year, month, day) := civil (m.micros / microsPerDay)
  let inDay := m.micros % microsPerDay
  let second := inDay / 1000000
  zeroPadded 4 year ++ '-' :: zeroPadded 2 month ++ '-' :: zeroPadded 2 day ++
    'T' :: zeroPadded 2 (second / 3600) ++ ':' :: zeroPadded 2 (second / 60 % 60) ++
    ':' :: zeroPadded 2 (second % 60) ++ microText (inDay % 1000000)

def signedMinutes (isNegative : Bool) (seconds : Nat) : List Char :=
  (if isNegative then '-' else '+') :: zeroPadded 2 (seconds / 3600) ++
    ':' :: zeroPadded 2 (seconds / 60 % 60)

/-- An offset as text: its sign, hours and minutes, and what is left of a minute where there is
anything left. -/
def offsetText (offset : Int) : List Char :=
  let second := offset.natAbs / 1000000
  signedMinutes (offset < 0) second ++
    (if offset.natAbs % microsPerMinute = 0 then []
      else ':' :: zeroPadded 2 (second % 60) ++ microText (offset.natAbs % 1000000))

def Moment.text (m : Moment) : String :=
  String.ofList (m.wallText ++ (m.offset.map offsetText).getD [])

/-- An offset in report data. It is rounded to a second, a half away from zero: a single letter
marks none, and what is left of a minute is cut off. -/
def dataOffsetText (offset : Int) : List Char :=
  let second := (2 * offset.natAbs + 1000000) / 2000000
  if second = 0 then ['Z'] else signedMinutes (offset < 0) second

def Moment.dataText (m : Moment) : String :=
  String.ofList (m.wallText ++ (m.offset.map dataOffsetText).getD [])

def readFixed? : Nat → Nat → List Char → Option (Nat × List Char)
  | 0, n, s => some (n, s)
  | width + 1, n, c :: s => if isDigit c then readFixed? width (10 * n + digitValue c) s else none
  | _ + 1, _, [] => none

def readAfter? (separator : Char) (width : Nat) : List Char → Option (Nat × List Char)
  | c :: s => if c = separator then readFixed? width 0 s else none
  | [] => none

/-- Read the fraction of a second: a point and up to six digits. -/
def readMicros : List Char → Nat × List Char
  | '.' :: rest =>
    let ds := rest.takeWhile isDigit
    (readDecimal ds * Nat.pow 10 (6 - ds.length), rest.dropWhile isDigit)
  | rest => (0, rest)

/-- Read what is left of a minute at the end of an offset, in microseconds. -/
def readSeconds? : List Char → Option Nat
  | [] => some 0
  | rest => do
    let (second, rest) ← readAfter? ':' 2 rest
    match readMicros rest with
    | (micro, []) => some (second * 1000000 + micro)
    | _ => none

/-- Read the offset at the end of a moment: nothing, a letter for universal time, or a sign with
hours and minutes and what is left of a minute. -/
def readOffset? : List Char → Option (Option Int)
  | [] => some none
  | ['Z'] => some (some 0)
  | sign :: rest =>
    if sign = '+' ∨ sign = '-' then do
      let (hours, rest) ← readFixed? 2 0 rest
      let (minutes, rest) ← readAfter? ':' 2 rest
      let left ← readSeconds? rest
      let size : Int := (((60 * hours + minutes) * microsPerMinute + left : Nat) : Int)
      some (some (if sign = '-' then -size else size))
    else none

/-- The moment with the given fields, if they are those of a clock and calendar and the offset is
shorter than a day. -/
def Moment.ofFields? (year month day hour minute second micro : Nat) (offset : Option Int) :
    Option Moment :=
  if 1 ≤ year ∧ year ≤ 9999 ∧ 1 ≤ month ∧ month ≤ 12 ∧ 1 ≤ day ∧ day ≤ daysInMonth year month ∧
      hour ≤ 23 ∧ minute ≤ 59 ∧ second ≤ 59 ∧ micro ≤ 999999 ∧
      ∀ o ∈ offset, o.natAbs < microsPerDay then
    some ⟨dayNumber year month day * microsPerDay +
      (3600 * hour + 60 * minute + second) * 1000000 + micro, offset⟩
  else none

def Moment.read? (text : String) : Option Moment := do
  let (year, rest) ← readFixed? 4 0 text.toList
  let (month, rest) ← readAfter? '-' 2 rest
  let (day, rest) ← readAfter? '-' 2 rest
  let (hour, rest) ← readAfter? 'T' 2 rest
  let (minute, rest) ← readAfter? ':' 2 rest
  let (second, rest) ← readAfter? ':' 2 rest
  let (micro, rest) := readMicros rest
  let offset ← readOffset? rest
  Moment.ofFields? year month day hour minute second micro offset

/-- The start of the era in which machines count seconds: 1970-01-01, on the wall. -/
def machineEpoch : Nat := dayNumber 1970 1 1 * microsPerDay

/-- Counts beyond this one are of milliseconds, not of seconds. -/
def secondsLimit : Nat := 20000000000

/-- The microseconds of the year before the first one of the calendar. -/
def microsOfYearZero : Nat := 366 * microsPerDay

/-- Why a count of microseconds names no moment: it lies before the year zero, in that year, or
after the calendar's last year. -/
inductive MachineTimeFault
  | beforeYearZero
  | inYearZero
  | afterLastYear
  deriving Repr, DecidableEq

/-- The universal time of a count of microseconds since the start of the machine era. -/
def Moment.ofMachineMicros (count : Int) : Except MachineTimeFault Moment :=
  let total := count + (machineEpoch : Int)
  if total < -(microsOfYearZero : Int) then .error .beforeYearZero
  else if total < 0 then .error .inYearZero
  else if (microsLimit : Int) ≤ total then .error .afterLastYear
  else .ok ⟨total.toNat, some 0⟩

/-- The universal time of a whole count of seconds, or of milliseconds where it is too large for
seconds. -/
def Moment.ofMachineCount (count : Int) : Except MachineTimeFault Moment :=
  Moment.ofMachineMicros
    (if count.natAbs ≤ secondsLimit then count * 1000000 else count * 1000)

/-- The microseconds that a positive fraction of a second comes to: the product is rounded to a
binary number first, and that to the nearest whole number, a half up. -/
def roundedMicros (fraction : Binary64) : Nat :=
  let (num, den) := fraction.ratio
  let (num, den) := (Binary64.nearest false (num * 1000000) den).ratio
  (2 * num + den) / (2 * den)

/-- The universal time of a finite count of seconds that need not be whole, or of milliseconds
where it is too large for seconds. The fraction is counted up from the second below. -/
def Moment.ofMachineNumber (x : Binary64) : Except MachineTimeFault Moment :=
  let (num, den) := x.ratio
  let seconds := if num ≤ secondsLimit * den then x else .nearest x.isNegative num (den * 1000)
  let (num, den) := seconds.ratio
  let signed : Int := if seconds.isNegative then -(num : Int) else (num : Int)
  let whole := signed.fdiv den
  let fraction := Binary64.nearest false (signed - whole * den).toNat den
  Moment.ofMachineMicros (whole * 1000000 + roundedMicros fraction)

end RunReports.Calendar
