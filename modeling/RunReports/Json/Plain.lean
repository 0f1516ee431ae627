import RunReports.Json.Value

/-! # Plain values

The form in which free-form values leave the typed layer: floating point numbers that are
not finite become null, everything else stays. A value that nests deeper than the limit has
no plain form. -/
namespace RunReports.Json

mutual

/-- Replace the numbers that are not finite by null. -/
def plain : Json → Json
  | .num x => if x.isFinite then .num x else .null
  | .arr items => .arr (plainItems items)
  | .obj fields => .obj (plainFields fields)
  | v => v

def plainItems : List Json → List Json
  | [] => []
  | v :: rest => plain v :: plainItems rest

def plainFields : List (String × Json) → List (String × Json)
  | [] => []
  | (n, v) :: rest => (n, plain v) :: plainFields rest

end

def depthLimit : Nat := 255

/-- Whether a value nests no deeper than the limit. -/
def isShallow (v : Json) : Bool := v.depth ≤ depthLimit

end RunReports.Json
