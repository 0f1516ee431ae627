import RunReports.Decimal.Shortest
import RunReports.Text.Blank

/-! # Floating point numbers as text

A finite number is written with its shortest digits: positionally while the decimal point
stands near the digits, else with an exponent. A number without a fraction keeps `.0`, so that
it is never mistaken for a whole number. `NumberStyle` holds the decisions; `readNumber`
reads the same forms. -/
namespace RunReports.Decimal

open RunReports.Text

/-- How numbers are written: the range of places of the decimal point (counted from the
leading digit) that is written positionally, the least number of exponent digits, and the
texts for infinity and for no number. -/
structure NumberStyle where
  firstPlace : Int
  lastPlace : Int
  exponentWidth : Nat
  infinity : String
  nan : String

/-- Numbers below 10 ^ 16 and down to 10 ^ -4 are positional; an exponent has two digits at
least; infinity and no number are spelled as JSON readers commonly accept them. -/
def jsonNumbers : NumberStyle := ⟨-3, 16, 2, "Infinity", "NaN"⟩

/-- As `jsonNumbers`, with the short spellings of infinity and no number. -/
def displayNumbers : NumberStyle := ⟨-3, 16, 2, "inf", "nan"⟩

/-- Digits with the decimal point at a place that lies in the positional range. -/
def positional (ds : List Char) (place : Int) : List Char :=
  if place ≤ 0 then '0' :: '.' :: List.replicate (-place).toNat '0' ++ ds
  else
    let before := ds.take place.toNat
    let after := ds.drop place.toNat
    before ++ List.replicate (place.toNat - ds.length) '0' ++
      '.' :: (if after.isEmpty then ['0'] else after)

def scientific (style : NumberStyle) (ds : List Char) (place : Int) : List Char :=
  let e := place - 1
  let sign := if e < 0 then '-' else '+'
  let mantissa :=
    match ds with
    | [] => []
    | [d] => [d]
    | d :: rest => d :: '.' :: rest
  mantissa ++ 'e' :: sign :: zeroPadded style.exponentWidth e.natAbs

def withoutFinalZeros (ds : List Char) : List Char := (ds.reverse.dropWhile (· == '0')).reverse

def Numeral.written (style : NumberStyle) (x : Numeral) : List Char :=
  let all := decimal x.digits
  let place : Int := (all.length : Int) + x.exponent
  let ds := withoutFinalZeros all
  if style.firstPlace ≤ place && place ≤ style.lastPlace then positional ds place
  else scientific style ds place

def Binary64.written (style : NumberStyle) (x : Binary64) : List Char :=
  let sign := if x.isNegative then ['-'] else []
  if x.isNaN then style.nan.toList
  else if x.isInfinite then sign ++ style.infinity.toList
  else if x.isZero then sign ++ ['0', '.', '0']
  else sign ++ (shortest x).written style

/-- The digits at the front of a text, and what follows them. -/
def takeDigits (s : List Char) : List Char × List Char := (s.takeWhile isDigit, s.dropWhile isDigit)

/-- The sign at the front of a text, as whether it is a minus, and what follows it. -/
def takeSign : List Char → Bool × List Char
  | '-' :: rest => (true, rest)
  | '+' :: rest => (false, rest)
  | s => (false, s)

/-- An exponent after its letter: an optional sign and at least one digit. -/
def readExponent? (s : List Char) : Option (Int × List Char) :=
  let (negative, body) := takeSign s
  match takeDigits body with
  | ([], _) => none
  | (ds, rest) => some (if negative then -(readDecimal ds : Int) else (readDecimal ds : Int), rest)

/-- Read a number: an optional sign, digits with an optional point (on at least one side of which
there is a digit) and an optional exponent, or one of the words for infinity and no number in
any case. -/
def readNumber? (s : List Char) : Option Binary64 :=
  let (negative, body) := takeSign s
  let word := String.ofList (body.map Char.toLower)
  if word = "inf" || word = "infinity" then some (.infinity negative)
  else if word = "nan" then some .nan
  else
    let (whole, rest) := takeDigits body
    let (fraction, rest) :=
      match rest with
      | '.' :: rest => takeDigits rest
      | _ => ([], rest)
    if whole.isEmpty && fraction.isEmpty then none
    else
      let value (e : Int) : Binary64 :=
        .ofDecimal negative (readDecimal (whole ++ fraction)) (e - (fraction.length : Int))
      match rest with
      | [] => some (value 0)
      | c :: rest =>
        if c = 'e' || c = 'E' then
          match readExponent? rest with
          | some (e, []) => some (value e)
          | _ => none
        else none

/-- Read a number as a person writes it in a setting: white space may stand around it, or single
underscores inside of it, but not both. -/
def readSetting? (s : List Char) : Option Binary64 :=
  match readNumber? (trimWhile isWhiteSpace s) with
  | some x => some x
  | none => (ungrouped? s).bind readNumber?

end RunReports.Decimal
