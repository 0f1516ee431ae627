import RunReports.Decimal.Binary64
import RunReports.Text.Digits

/-! # Shortest decimals

The decimal with the fewest digits that reads back as a given number, and among those the
one nearest to it. For every number of digits the only two candidates are the neighbours of
the number on the grid of decimals with that many digits. A candidate is accepted only if it
reads back, and the exact value stands behind the last grid, so what is returned always
reads back. -/
namespace RunReports.Decimal

/-- A positive number in decimal: `digits * 10 ^ exponent`. -/
structure Numeral where
  digits : Nat
  exponent : Int
  deriving Repr, DecidableEq

/-- Numerator and denominator of `num / den` in units of `10 ^ e`. -/
def scaled (num den : Nat) (e : Int) : Nat × Nat :=
  if 0 ≤ e then (num, den * Nat.pow 10 e.toNat) else (num * Nat.pow 10 (-e).toNat, den)

def atLeastPow10 (num den : Nat) (e : Int) : Bool :=
  let (n, d) := scaled num den e
  d ≤ n

/-- The place of the leading digit: a positive ratio lies between `10 ^ (p - 1)` and `10 ^ p`. -/
def leadingPlace (num den : Nat) : Int :=
  let guess : Int := (Binary64.floorLog2 num den * 30103).fdiv 100000 + 1
  if atLeastPow10 num den guess then guess + 1
  else if atLeastPow10 num den (guess - 1) then guess
  else guess - 1

/-- The neighbour on one grid that reads back as the magnitude `bits`; of two such the nearer
one, and of two equally near ones the even one. -/
def onGrid? (bits num den : Nat) (e : Int) : Option Numeral :=
  let (n, d) := scaled num den e
  let low := n / d
  let r := n % d
  let nearLow : Bool := 2 * r < d || (2 * r == d && low % 2 == 0)
  let candidates := if nearLow then [low, low + 1] else [low + 1, low]
  (candidates.find? fun c => Binary64.decimalBits c e == bits).map fun c => ⟨c, e⟩

def exactDecimal (x : Binary64) : Numeral :=
  if 0 ≤ x.exponent then ⟨x.mantissa * Nat.pow 2 x.exponent.toNat, 0⟩
  else ⟨x.mantissa * Nat.pow 5 (-x.exponent).toNat, x.exponent⟩

/-- The shortest decimal that reads back as a finite number that is not zero. -/
def shortest (x : Binary64) : Numeral :=
  let (num, den) := x.ratio
  let place := leadingPlace num den
  ((List.range 17).findSome? fun n => onGrid? x.magnitude num den (place - (n + 1 : Nat))).getD
    (exactDecimal x)

end RunReports.Decimal
