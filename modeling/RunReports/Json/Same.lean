import RunReports.Json.Value

/-! # Equality of values

Two values are the same if they hold the same data: numbers are compared by value, whether
they are whole, floating or truth values (true is one, false is zero), and the order of the
members of an object does not count. The value that is no number is the same as itself alone.
The comparison decides whether storing a value would change anything. -/
namespace RunReports.Json

open RunReports.Decimal

def whole? : Json → Option Int
  | .bool b => some (if b then 1 else 0)
  | .int n => some n
  | _ => none

def sameFloat (x y : Binary64) : Bool :=
  x == y || (x.isZero && y.isZero)

/-- A floating point number and a whole number of the same value. -/
def sameMixed (x : Binary64) (n : Int) : Bool := x.isFinite && x.toInt? == some n

def sameScalar (a b : Json) : Bool :=
  match a, b with
  | .null, .null => true
  | .str s, .str t => s == t
  | .num x, .num y => sameFloat x y
  | .num x, b =>
    match b.whole? with
    | some n => sameMixed x n
    | none => false
  | a, .num y =>
    match a.whole? with
    | some n => sameMixed y n
    | none => false
  | a, b =>
    match a.whole?, b.whole? with
    | some m, some n => m == n
    | _, _ => false

mutual

def same : Json → Json → Bool
  | .arr xs, .arr ys => sameItems xs ys
  | .obj xs, .obj ys => xs.length == ys.length && sameFields xs ys
  | a, b => sameScalar a b

def sameItems : List Json → List Json → Bool
  | [], [] => true
  | x :: xs, y :: ys => same x y && sameItems xs ys
  | _, _ => false

/-- Every member of the first object is in the second one with the same data. -/
def sameFields : List (String × Json) → List (String × Json) → Bool
  | [], _ => true
  | (n, v) :: rest, ys =>
    (match Fields.get? n ys with
      | some w => same v w
      | none => false) && sameFields rest ys

end

end RunReports.Json
