import RunReports.Json.Value
import RunReports.Text.Blank
import RunReports.Text.Digits
import RunReports.Decimal.Written

/-! # Whole numbers in notebooks

The whole-number fields of a notebook are read leniently: truth values count as zero and one,
floating point numbers and texts are accepted where they denote a whole number. A text is first
read as a plain number, and then, if it is none, without what a person may have put around or
between its digits. What is kept is the number alone, so a field that was read leniently is
written back as a whole number. -/
namespace RunReports.Notebook

open RunReports RunReports.Decimal RunReports.Text

inductive IntegerFault
  | notInteger
  | fractional
  | notFinite
  | unreadable
  | tooLarge
  deriving Repr, DecidableEq

def IntegerFault.message : IntegerFault → String
  | .notInteger => "Input should be a valid integer"
  | .fractional => "Input should be a valid integer, got a number with a fractional part"
  | .notFinite => "Input should be a finite number"
  | .unreadable => "Input should be a valid integer, unable to parse string as an integer"
  | .tooLarge => "Unable to parse input string as an integer, exceeded maximum size"

/-- The most characters a plain number may have, its minus sign included. -/
def plainLimit : Nat := 4300

/-- Read a plain number: an optional minus sign, and digits of which the first is no zero unless
it is the only one. A run of digits that is too long is refused whatever stands behind it. -/
def readPlainInteger (s : List Char) : Except IntegerFault Int :=
  let (negative, body) :=
    match s with
    | '-' :: rest => (true, rest)
    | _ => (false, s)
  let (ds, rest) := takeDigits body
  if ds.head? = some '0' then
    if ds.length = 1 && rest.isEmpty then .ok 0 else .error .unreadable
  else if plainLimit < ds.length + (if negative then 1 else 0) then .error .tooLarge
  else if ds.isEmpty || !rest.isEmpty then .error .unreadable
  else
    let n : Int := (readDecimal ds : Int)
    .ok (if negative then -n else n)

/-- What is left of a text behind the zeros it starts with and the underscores among them: a text
that starts with another digit or a minus sign. `last` is the character before; it is kept in
front of a point, and where nothing else is left. -/
def dropZeros? (last : Char) : List Char → Option (List Char)
  | [] => some [last]
  | c :: rest =>
    if c = '0' || c = '_' then dropZeros? c rest
    else if c = '.' then some (last :: c :: rest)
    else if c = '-' || isDigit c then some (c :: rest)
    else none

/-- A number without the zeros it starts with; a text that starts as no number does is none. -/
def withoutFirstZeros? : List Char → Option (List Char)
  | '0' :: rest => dropZeros? '0' rest
  | c :: rest => if c = '-' || isDigit c then some (c :: rest) else none
  | [] => none

def withoutZeroFraction (s : List Char) : List Char :=
  match cutAt '.' s with
  | (whole, some zeros) => if !zeros.isEmpty && zeros.all (· == '0') then whole else s
  | _ => s

/-- The plain number that a text comes down to: white space around it is dropped, and so are a
plus sign, zeros at the front, a fraction of zeros, and underscores that group digits. -/
def plainForm? (s : List Char) : Option (List Char) := do
  let body ←
    match trimWhile isWhiteSpace s with
    | '-' :: rest => (withoutFirstZeros? rest).map ('-' :: ·)
    | '+' :: rest => if rest.head? = some '-' then none else withoutFirstZeros? rest
    | rest => withoutFirstZeros? rest
  let whole := withoutZeroFraction body
  some ((ungrouped? whole).getD whole)

/-- Read a text as a whole number: as it stands, or else the plain number it comes down to. Only a
text that is too large as it stands is called too large. -/
def readIntegerText (s : List Char) : Except IntegerFault Int :=
  match readPlainInteger s with
  | .error .unreadable =>
    match (plainForm? s).map readPlainInteger with
    | some (.ok n) => .ok n
    | _ => .error .unreadable
  | outcome => outcome

/-- Whether a whole number lies strictly between the bounds of 64 bits with a sign. -/
def fitsWord (n : Int) : Bool := -9223372036854775808 < n && n < 9223372036854775808

def readIntegerNumber (x : Binary64) : Except IntegerFault Int :=
  if x.isFinite then
    match x.toInt? with
    | some n => if fitsWord n then .ok n else .error .tooLarge
    | none => .error .fractional
  else .error .notFinite

def readInteger : Json → Except IntegerFault Int
  | .bool b => .ok (if b then 1 else 0)
  | .int n => .ok n
  | .num x => readIntegerNumber x
  | .str s => readIntegerText s.toList
  | _ => .error .notInteger

end RunReports.Notebook
