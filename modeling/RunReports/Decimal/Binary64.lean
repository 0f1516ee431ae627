/-! # Binary floating point numbers

A number in the 64-bit binary interchange format, kept as its bits. A finite number stands
for `mantissa * 2 ^ exponent`, with a sign of its own, so that the two zeros differ. All
rounding is done in exact whole-number arithmetic: `nearest` gives the number closest to a
ratio, a tie going to the even mantissa. Equality is equality of bits. -/
namespace RunReports.Decimal

structure Binary64 where
  bits : UInt64
  deriving Repr, DecidableEq, Inhabited

namespace Binary64

/-- The number of magnitudes below infinity: infinity has this magnitude. -/
def infinityBits : Nat := 0x7ff0000000000000

def signBit : Nat := 0x8000000000000000

/-- Build a number from its sign and the bits of its magnitude. -/
def ofMagnitude (negative : Bool) (bits : Nat) : Binary64 :=
  ⟨UInt64.ofNat (if negative then signBit + bits else bits)⟩

def isNegative (x : Binary64) : Bool := signBit ≤ x.bits.toNat

def magnitude (x : Binary64) : Nat := x.bits.toNat % signBit

def isNaN (x : Binary64) : Bool := infinityBits < x.magnitude

def isInfinite (x : Binary64) : Bool := x.magnitude == infinityBits

def isFinite (x : Binary64) : Bool := x.magnitude < infinityBits

def isZero (x : Binary64) : Bool := x.magnitude == 0

/-- The weight of the first bit of a mantissa, which is not stored. -/
def hiddenBit : Nat := 0x10000000000000

def mantissa (x : Binary64) : Nat :=
  let fraction := x.magnitude % hiddenBit
  if x.magnitude / hiddenBit = 0 then fraction else fraction + hiddenBit

/-- The exponent of a finite number: its weight is `2 ^ exponent`. -/
def exponent (x : Binary64) : Int :=
  let e : Nat := x.magnitude / hiddenBit
  if e = 0 then -1074 else Int.ofNat e - 1075

def infinity (negative : Bool) : Binary64 := ofMagnitude negative infinityBits

def nan : Binary64 := ⟨0x7ff8000000000000⟩

/-- The quotient of two whole numbers, rounded to the nearest whole number, a tie to even. -/
def roundHalfEven (num den : Nat) : Nat :=
  let q := num / den
  let r := num % den
  if 2 * r < den then q
  else if den < 2 * r then q + 1
  else if q % 2 = 0 then q else q + 1

/-- The exponent of the power of two at or below a ratio of positive numbers. -/
def floorLog2 (num den : Nat) : Int :=
  let guess : Int := (num.log2 : Int) - (den.log2 : Int)
  let below : Bool :=
    if 0 ≤ guess then num < den * Nat.pow 2 guess.toNat else num * Nat.pow 2 (-guess).toNat < den
  if below then guess - 1 else guess

/-- The magnitude bits of the number nearest to a ratio; too large a ratio gives infinity. -/
def nearestBits (num den : Nat) : Nat :=
  if num = 0 then 0
  else
    let q := max (floorLog2 num den - 52) (-1074)
    let m :=
      if 0 ≤ q then roundHalfEven num (den * Nat.pow 2 q.toNat)
      else roundHalfEven (num * Nat.pow 2 (-q).toNat) den
    min ((q + 1074).toNat * hiddenBit + m) infinityBits

def nearest (negative : Bool) (num den : Nat) : Binary64 :=
  ofMagnitude negative (nearestBits num den)

/-- The magnitude bits nearest to `digits * 10 ^ e`. The range test spares the powers of ten
that decide nothing: beyond them every number is infinite or zero. -/
def decimalBits (digits : Nat) (e : Int) : Nat :=
  let size : Int := ((Nat.toDigits 10 digits).length : Int) + e
  if digits = 0 then 0
  else if 400 < size then infinityBits
  else if size < -400 then 0
  else if 0 ≤ e then nearestBits (digits * Nat.pow 10 e.toNat) 1
  else nearestBits digits (Nat.pow 10 (-e).toNat)

/-- The number nearest to `digits * 10 ^ e`, with a sign. -/
def ofDecimal (negative : Bool) (digits : Nat) (e : Int) : Binary64 :=
  ofMagnitude negative (decimalBits digits e)

/-- A finite number as a ratio: numerator and denominator of its magnitude. -/
def ratio (x : Binary64) : Nat × Nat :=
  if 0 ≤ x.exponent then (x.mantissa * Nat.pow 2 x.exponent.toNat, 1)
  else (x.mantissa, Nat.pow 2 (-x.exponent).toNat)

/-- The whole number a finite number stands for, if it has no fraction. -/
def toInt? (x : Binary64) : Option Int :=
  let (num, den) := x.ratio
  if num % den = 0 then
    let n : Int := ((num / den : Nat) : Int)
    some (if x.isNegative then -n else n)
  else none

def ofInt (n : Int) : Binary64 := nearest (n < 0) n.natAbs 1

end Binary64

end RunReports.Decimal
