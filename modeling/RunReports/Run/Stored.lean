import RunReports.Json.Same
import RunReports.Literal.Inline
import RunReports.Run.Snapshot
import RunReports.Store.Session

/-! # Stored runs

A run as it is read from the database. The inputs of a run are stored as a value of any form;
an object is taken as it is, nothing given counts as no inputs, and a list is taken as a list
of pairs. Every other form is refused, in the words of the language that reports are written
in. -/
namespace RunReports.Run

open RunReports RunReports.Store

def formName : Json → String
  | .null => "NoneType"
  | .bool _ => "bool"
  | .int _ => "int"
  | .num _ => "float"
  | .str _ => "str"
  | .arr _ => "list"
  | .obj _ => "dict"

def badPair (position length : Nat) : Failure :=
  .badValue ("dictionary update sequence element #" ++ toString position ++ " has length " ++
    toString length ++ "; 2 is required")

/-- A pair, if its first part can be a name. -/
def namedPair : Json → Json → Except Failure (Json × Json)
  | .arr _, _ => .error (.wrongForm "unhashable type: 'list'")
  | .obj _, _ => .error (.wrongForm "unhashable type: 'dict'")
  | k, v => .ok (k, v)

/-- The pair that an element of a list stands for: a list of two, a text of two characters, or an
object of two members, whose names make the pair. -/
def readPair (position : Nat) : Json → Except Failure (Json × Json)
  | .arr [k, v] => namedPair k v
  | .arr items => .error (badPair position items.length)
  | .str s =>
    match s.toList with
    | [a, b] => .ok (.str (String.singleton a), .str (String.singleton b))
    | cs => .error (badPair position cs.length)
  | .obj [(a, _), (b, _)] => .ok (.str a, .str b)
  | .obj fields => .error (badPair position fields.length)
  | _ =>
    .error (.wrongForm ("cannot convert dictionary update sequence element #" ++
      toString position ++ " to a sequence"))

/-- Give a name a value: in its place if the name is there, else at the end. -/
def setPair (k v : Json) : List (Json × Json) → List (Json × Json)
  | [] => [(k, v)]
  | (l, w) :: rest => if l.same k then (l, v) :: rest else (l, w) :: setPair k v rest

def readPairs (position : Nat) (out : List (Json × Json)) :
    List Json → Except Failure (List (Json × Json))
  | [] => .ok out
  | v :: rest => do
    let (k, v) ← readPair position v
    readPairs (position + 1) (setPair k v out) rest

def storedPairs (v : Json) : Except Failure (List (Json × Json)) :=
  if !v.isTruthy then .ok []
  else
    match v with
    | .obj fields => .ok (fields.map fun f => (Json.str f.1, f.2))
    | .arr items => readPairs 0 [] items
    | .str s => readPairs 0 [] (s.toList.map fun c => .str (String.singleton c))
    | v => .error (.wrongForm ("'" ++ formName v ++ "' object is not iterable"))

/-- How a name that is no text is shown; truth values are shown as numbers. -/
def nameText : Json → String
  | .bool b => if b then "1" else "0"
  | v => Literal.display v

def pairMembers (place : String) : List (Json × Json) → Checked Json.Fields
  | [] => .ok []
  | (.str name, v) :: rest =>
    match pairMembers place rest with
    | .ok fields => .ok ((name, v) :: fields)
    | .error vs => .error vs
  | (k, _) :: rest =>
    let violation : Violation := ⟨[place, nameText k, "[key]"], .text⟩
    match pairMembers place rest with
    | .ok _ => .error [violation]
    | .error vs => .error (violation :: vs)

/-- The results of a run as members, in ascending order of their keys. Of several results with one
key the last one would stay. -/
def resultMembers (runId : String) (rows : List ResultRow) : Json.Fields :=
  Json.ofMembers
    (((rows.filter fun r => r.runId == runId).mergeSort fun a b => decide (a.key ≤ b.key)).map
      fun r => (r.key, r.value))

def snapshotOf (row : RunRow) (results : Json.Fields) : Except Failure Snapshot := do
  let testPairs ← storedPairs row.testInput
  let evalPairs ← storedPairs row.evalInput
  let build (testInput evalInput : Json.Fields) : Snapshot :=
    { runId := row.id
      testId := row.testId
      name := row.name
      status := row.status.text
      testInput := testInput
      evalInput := evalInput
      results := results
      testJobId := row.testJobId
      evalJobId := row.evalJobId
      createdBy := row.createdBy
      createdAt := row.createdAt.asUtc
      finishedAt := row.finishedAt.map fun m => m.asUtc }
  let start : Checked (Json.Fields → Json.Fields → Snapshot) := .ok build
  match (start.apply (pairMembers "test_input" testPairs)).apply
      (pairMembers "eval_input" evalPairs) with
  | .ok snapshot => .ok snapshot
  | .error vs => .error (.violations vs)

def present {σ α : Type} (subject : Subject) : Option α → Action σ α
  | some a => pure a
  | none => throw (.report (.notFound (.subject subject)))

/-- Load the snapshot of a run. -/
def load (runId : String) : Action Session Snapshot := do
  let found ← accessing (.run runId)
    (Session.read .runs fun t => t.runs.find? fun r => r.id == runId)
  let row ← present (.run runId) found
  let results ← accessing (.results runId)
    (Session.read .results fun t => resultMembers runId t.results)
  match snapshotOf row results with
  | .ok snapshot => pure snapshot
  | .error failure => throw failure

end RunReports.Run
