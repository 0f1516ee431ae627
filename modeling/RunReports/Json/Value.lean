import RunReports.Decimal.Binary64
import RunReports.Text.Digits

/-! # JSON values

Values as they are read from a JSON text: whole numbers and floating point numbers are kept
apart, whole numbers are unbounded, and the members of an object keep the order in which
their names first appeared. An object is a list of members; `Fields.set` and `ofMembers` keep
its names distinct, and `DistinctNames` says that they are at every depth. -/
namespace RunReports

open RunReports.Decimal

/-- A JSON value. -/
inductive Json
  | null
  | bool (b : Bool)
  | int (n : Int)
  | num (x : Binary64)
  | str (s : String)
  | arr (items : List Json)
  | obj (fields : List (String × Json))
  deriving Repr, Inhabited

namespace Json

abbrev Fields := List (String × Json)

def Fields.get? (name : String) : Fields → Option Json
  | [] => none
  | (n, v) :: rest => if n = name then some v else Fields.get? name rest

/-- Give a member a value: in its place if the name is there, else at the end. -/
def Fields.set (name : String) (value : Json) : Fields → Fields
  | [] => [(name, value)]
  | (n, v) :: rest =>
    if n = name then (n, value) :: rest else (n, v) :: Fields.set name value rest

def Fields.without (names : List String) (fields : Fields) : Fields :=
  fields.filter fun f => !names.contains f.1

/-- Members in the order in which their names first appear, each with its last value. -/
def ofMembers (members : List (String × Json)) : Fields :=
  members.foldl (fun fields m => Fields.set m.1 m.2 fields) []

def ofText? : Option String → Json
  | none => .null
  | some s => .str s

def isNull : Json → Bool
  | .null => true
  | _ => false

/-- Whether a value counts as given: null, false, zeros and empty texts and containers do not. -/
def isTruthy : Json → Bool
  | .null => false
  | .bool b => b
  | .int n => n != 0
  | .num x => !x.isZero
  | .str s => !s.isEmpty
  | .arr items => !items.isEmpty
  | .obj fields => !fields.isEmpty

mutual

/-- How many containers are nested in each other, the value included. -/
def depth : Json → Nat
  | .arr items => depthItems items + 1
  | .obj fields => depthFields fields + 1
  | _ => 0

def depthItems : List Json → Nat
  | [] => 0
  | v :: rest => max (depth v) (depthItems rest)

def depthFields : List (String × Json) → Nat
  | [] => 0
  | (_, v) :: rest => max (depth v) (depthFields rest)

end

/-- The most digits a whole number may have where it is read or written. -/
def digitLimit : Nat := 4300

mutual

/-- The number of digits of the longest whole number in a value. -/
def digits : Json → Nat
  | .int n => (Text.decimal n.natAbs).length
  | .arr items => digitsItems items
  | .obj fields => digitsFields fields
  | _ => 0

def digitsItems : List Json → Nat
  | [] => 0
  | v :: rest => max (digits v) (digitsItems rest)

def digitsFields : List (String × Json) → Nat
  | [] => 0
  | (_, v) :: rest => max (digits v) (digitsFields rest)

end

def isShort (v : Json) : Bool := v.digits ≤ digitLimit

/-- What is said about a whole number with too many digits when it is written. -/
def digitsMessage : String :=
  "Exceeds the limit (4300 digits) for integer string conversion; " ++
    "use sys.set_int_max_str_digits() to increase the limit"

mutual

/-- Names are distinct in every object of a value. -/
def DistinctNames : Json → Prop
  | .arr items => DistinctNamesItems items
  | .obj fields => (fields.map Prod.fst).Nodup ∧ DistinctNamesFields fields
  | _ => True

def DistinctNamesItems : List Json → Prop
  | [] => True
  | v :: rest => DistinctNames v ∧ DistinctNamesItems rest

def DistinctNamesFields : List (String × Json) → Prop
  | [] => True
  | (_, v) :: rest => DistinctNames v ∧ DistinctNamesFields rest

end

end Json

end RunReports
