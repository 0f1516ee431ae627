import RunReports.Text.Digits

/-! # Punycode

A label in ASCII: its ASCII characters, a hyphen, and digits that tell where the others go. The
others are inserted one by one, in ascending order and from left to right. Each insertion is a
number, the count of places passed over since the last one, in digits of varying weight whose
thresholds follow the sizes of the numbers before. -/
namespace RunReports.Host

open RunReports.Text

def digitCount : Nat := 36

def firstInserted : Nat := 0x80

def lastCodePoint : Nat := 0x10ffff

def firstBias : Nat := 72

/-- The threshold of a place in a number: a digit below it is the last one. -/
def threshold (place bias : Nat) : Nat :=
  min 26 (max 1 (digitCount * (place + 1) - bias))

/-- Divide until a number is small; every division adds to the bias. -/
def scaleDown : Nat → Nat → Nat → Nat
  | 0, bias, n => bias + digitCount * n / (n + 38)
  | steps + 1, bias, n =>
    if 455 < n then scaleDown steps (bias + digitCount) (n / 35)
    else bias + digitCount * n / (n + 38)

/-- The bias after a number, where `count` code points are there so far. -/
def nextBias (n count : Nat) (isFirst : Bool) : Nat :=
  let m := if isFirst then n / 700 else n / 2
  scaleDown n 0 (m + m / count)

def digitOf (n : Nat) : Nat := if n < 26 then 0x61 + n else 0x30 + (n - 26)

/-- The value of a digit; upper and lower case are the same. -/
def valueOf? (n : Nat) : Option Nat :=
  if 0x61 ≤ n ∧ n ≤ 0x7a then some (n - 0x61)
  else if 0x41 ≤ n ∧ n ≤ 0x5a then some (n - 0x41)
  else if 0x30 ≤ n ∧ n ≤ 0x39 then some (n - 0x30 + 26)
  else none

/-- A number in digits from a place on; `steps` bounds how many there are. -/
def digitsFrom (bias : Nat) : Nat → Nat → Nat → List Nat
  | 0, _, n => [digitOf n]
  | steps + 1, place, n =>
    let t := threshold place bias
    if n < t then [digitOf n]
    else
      let weight := digitCount - t
      digitOf (t + (n - t) % weight) :: digitsFrom bias steps (place + 1) ((n - t) / weight)

/-! ### Writing -/

/-- What was written so far, the places passed over since, and the code points written. -/
structure Writing where
  out : List Nat
  passed : Nat
  bias : Nat
  count : Nat
  deriving Repr, DecidableEq

/-- Pass over a code point while another one is inserted, or write an insertion. -/
def Writing.visit (inserted : Nat) (w : Writing) (n : Nat) : Writing :=
  if n < inserted then { w with passed := w.passed + 1 }
  else if n = inserted then
    { out := w.out ++ digitsFrom w.bias (w.passed + 1) 0 w.passed
      passed := 0
      bias := nextBias w.passed (w.count + 1) w.out.isEmpty
      count := w.count + 1 }
  else w

/-- Write the insertions of code points, in ascending order; `next` is the least one that may
come. -/
def writeFrom (label : List Nat) (next : Nat) (w : Writing) : List Nat → Writing
  | [] => w
  | n :: rest =>
    let w := { w with passed := w.passed + (n - next) * (w.count + 1) }
    let w := label.foldl (Writing.visit n) w
    writeFrom label (n + 1) { w with passed := w.passed + 1 } rest

/-- A list in ascending order without repetitions, and one more number. -/
def insertOnce (n : Nat) : List Nat → List Nat
  | [] => [n]
  | m :: rest =>
    if n < m then n :: m :: rest
    else if n = m then m :: rest
    else m :: insertOnce n rest

def toPunycode (label : List Nat) : List Nat :=
  let plain := label.filter fun n => n < firstInserted
  let others := (label.filter fun n => firstInserted ≤ n).foldr insertOnce []
  let written := writeFrom label firstInserted ⟨[], 0, firstBias, plain.length⟩ others
  (if plain.isEmpty then [] else plain ++ [0x2d]) ++ written.out

/-! ### Reading -/

/-- The label so far, the code point inserted last, the place behind it, and the number that is
being read: its value, the weight and the place of its next digit. -/
structure Reading where
  label : List Nat
  inserted : Nat
  position : Nat
  bias : Nat
  isFirst : Bool
  value : Nat
  weight : Nat
  place : Nat
  deriving Repr, DecidableEq

def Reading.insert (r : Reading) (n : Nat) : Option Reading :=
  let count := r.label.length + 1
  let inserted := r.inserted + (r.position + n) / count
  let position := (r.position + n) % count
  if lastCodePoint < inserted then none
  else
    some
      { label := r.label.take position ++ inserted :: r.label.drop position
        inserted := inserted
        position := position + 1
        bias := nextBias n count r.isFirst
        isFirst := false
        value := 0
        weight := 1
        place := 0 }

def Reading.next (r : Reading) (digit : Nat) : Option Reading :=
  let t := threshold r.place r.bias
  let value := r.value + digit * r.weight
  if digit < t then r.insert value
  else some { r with value := value, weight := r.weight * (digitCount - t), place := r.place + 1 }

def readFrom (r : Reading) : List Nat → Option (List Nat)
  | [] => if r.place = 0 then some r.label else none
  | n :: rest =>
    match (valueOf? n).bind r.next with
    | some next => readFrom next rest
    | none => none

/-- The label that a text in ASCII stands for. The last hyphen ends the ASCII characters of the
label. -/
def ofPunycode? (text : List Nat) : Option (List Nat) :=
  let digits := (text.reverse.takeWhile (· != 0x2d)).reverse
  let plain := text.take (text.length - digits.length - 1)
  readFrom ⟨plain, firstInserted, 0, firstBias, true, 0, 1, 0⟩ digits

end RunReports.Host
