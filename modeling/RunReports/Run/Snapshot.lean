import RunReports.Calendar.Moment
import RunReports.Json.Plain
import RunReports.Validation

/-! # Run snapshots

A finished run as its reports show it: what ran, with which inputs, by whom and when, and what
came out. `Snapshot.reportData` is the value that is embedded into a report, `Snapshot.read`
reads one back from an object and reports every violation at once. -/
namespace RunReports.Run

open RunReports RunReports.Calendar RunReports.Decimal

/-- A finished run as its reports show it. -/
structure Snapshot where
  runId : String
  testId : String
  name : String
  status : String
  testInput : Json.Fields
  evalInput : Json.Fields
  results : Json.Fields
  testJobId : Option String
  evalJobId : Option String
  createdBy : Option String
  createdAt : Moment
  finishedAt : Option Moment
  deriving Repr

def ofMoment? : Option Moment → Json
  | none => .null
  | some m => .str m.dataText

/-- The members of report data before numbers that are not finite are replaced. -/
def Snapshot.members (s : Snapshot) : Json.Fields :=
  [("run_id", .str s.runId),
    ("test_id", .str s.testId),
    ("name", .str s.name),
    ("status", .str s.status),
    ("test_input", .obj s.testInput),
    ("eval_input", .obj s.evalInput),
    ("results", .obj s.results),
    ("test_job_id", Json.ofText? s.testJobId),
    ("eval_job_id", Json.ofText? s.evalJobId),
    ("created_by", Json.ofText? s.createdBy),
    ("created_at", .str s.createdAt.dataText),
    ("finished_at", ofMoment? s.finishedAt)]

def Snapshot.toJson (s : Snapshot) : Json := Json.plain (.obj s.members)

def Snapshot.reportData? (s : Snapshot) : Option Json :=
  if s.toJson.isShallow then some s.toJson else none

/-- A value that is checked: what was read, and the violations found. -/
abbrev Checked (α : Type) := Except (List Violation) α

def requiredText (name : String) : Option Json → Checked String
  | none => .error [⟨[name], .given⟩]
  | some (.str s) => .ok s
  | some _ => .error [⟨[name], .text⟩]

def optionalText (name : String) : Option Json → Checked (Option String)
  | none => .ok none
  | some .null => .ok none
  | some (.str s) => .ok (some s)
  | some _ => .error [⟨[name], .text⟩]

def optionalObject (name : String) : Option Json → Checked Json.Fields
  | none => .ok []
  | some (.obj fields) => .ok fields
  | some _ => .error [⟨[name], .object⟩]

def machineTimeRule : MachineTimeFault → Rule
  | .beforeYearZero => .momentTooEarly
  | .inYearZero => .momentYearZero
  | .afterLastYear => .momentTooLate

def machineMoment (name : String) (outcome : Except MachineTimeFault Moment) : Checked Moment :=
  outcome.mapError fun fault => [⟨[name], machineTimeRule fault⟩]

/-- A moment given as a number, which may be infinite or no number at all. -/
def numberMoment (name : String) (x : Binary64) : Checked Moment :=
  if x.isNaN then .error [⟨[name], .momentNotNumber⟩]
  else if x.isInfinite then
    .error [⟨[name], if x.isNegative then .momentTooEarly else .momentTooLate⟩]
  else machineMoment name (Moment.ofMachineNumber x)

/-- A moment: its text, or a count of seconds in the machine era. A whole number that is beyond
64 bits is taken as the nearest floating point number, where there is a finite one. -/
def readMoment (name : String) : Json → Checked Moment
  | .str s =>
    match Moment.read? s with
    | some m => .ok m
    | none => .error [⟨[name], .moment⟩]
  | .int n =>
    if -9223372036854775808 ≤ n && n ≤ 9223372036854775807 then
      machineMoment name (Moment.ofMachineCount n)
    else if (Binary64.ofInt n).isInfinite then .error [⟨[name], .moment⟩]
    else numberMoment name (.ofInt n)
  | .num x => numberMoment name x
  | _ => .error [⟨[name], .moment⟩]

def requiredMoment (name : String) : Option Json → Checked Moment
  | none => .error [⟨[name], .given⟩]
  | some v => readMoment name v

def optionalMoment (name : String) : Option Json → Checked (Option Moment)
  | none => .ok none
  | some .null => .ok none
  | some v => (readMoment name v).map some

/-- Apply a checked function to a checked value; the violations of both are kept. -/
def Checked.apply {α β : Type} (f : Checked (α → β)) (x : Checked α) : Checked β :=
  match f, x with
  | .ok g, .ok a => .ok (g a)
  | .error vs, .ok _ => .error vs
  | .ok _, .error ws => .error ws
  | .error vs, .error ws => .error (vs ++ ws)

/-- Read a snapshot from the members of an object. Members that are not declared are ignored. -/
def Snapshot.read (fields : Json.Fields) : Checked Snapshot :=
  let get (name : String) : Option Json := Json.Fields.get? name fields
  let start : Checked (String → _) := .ok Snapshot.mk
  start |>.apply (requiredText "run_id" (get "run_id"))
    |>.apply (requiredText "test_id" (get "test_id"))
    |>.apply (requiredText "name" (get "name"))
    |>.apply (requiredText "status" (get "status"))
    |>.apply (optionalObject "test_input" (get "test_input"))
    |>.apply (optionalObject "eval_input" (get "eval_input"))
    |>.apply (optionalObject "results" (get "results"))
    |>.apply (optionalText "test_job_id" (get "test_job_id"))
    |>.apply (optionalText "eval_job_id" (get "eval_job_id"))
    |>.apply (optionalText "created_by" (get "created_by"))
    |>.apply (requiredMoment "created_at" (get "created_at"))
    |>.apply (optionalMoment "finished_at" (get "finished_at"))

end RunReports.Run
