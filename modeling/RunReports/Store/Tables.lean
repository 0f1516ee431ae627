import RunReports.Calendar.Moment
import RunReports.Json.Value
import RunReports.Store.Fault
import RunReports.Store.Status

/-! # Tables

The rows of the database and the rules it keeps. Templates have tests, tests have runs, runs
have results; reports are mapped to templates; and a run report records that a report is made
of a run. Names are unique in their table, references lead to rows that are there, and of the
run reports of one run and report at most one has not failed. Times are stored without their
offset. A `Change` is one statement; `Tables.refusal?` says which rule forbids it. -/
namespace RunReports.Store

open RunReports RunReports.Calendar

structure TemplateRow where
  id : String
  name : String
  deriving Repr

structure TestRow where
  id : String
  templateId : String
  name : String
  deriving Repr

structure RunRow where
  id : String
  testId : String
  name : String
  status : RunStatus
  testInput : Json
  evalInput : Json
  testJobId : Option String
  evalJobId : Option String
  createdBy : Option String
  createdAt : Moment
  finishedAt : Option Moment
  deriving Repr

structure ResultRow where
  runId : String
  key : String
  value : Json
  deriving Repr

structure ReportRow where
  id : String
  name : String
  description : Option String
  notebook : Json
  config : Json
  deriving Repr

structure MappingRow where
  templateId : String
  reportId : String
  createdAt : Moment
  deriving Repr

structure RunReport where
  id : Nat
  runId : String
  reportId : String
  status : ReportStatus
  jobId : Option String
  results : Json
  createdBy : Option String
  createdAt : Moment
  finishedAt : Option Moment
  deriving Repr

inductive TableName
  | templates
  | tests
  | runs
  | results
  | reports
  | mappings
  | runReports
  deriving Repr, DecidableEq

def TableName.text : TableName → String
  | .templates => "templates"
  | .tests => "tests"
  | .runs => "runs"
  | .results => "run_results"
  | .reports => "reports"
  | .mappings => "template_reports"
  | .runReports => "run_reports"

/-- The table with a name; upper and lower case are the same in it. -/
def TableName.ofText? (text : String) : Option TableName :=
  let name := String.ofList (text.toList.map Char.toLower)
  [TableName.templates, .tests, .runs, .results, .reports, .mappings, .runReports].find?
    fun t => t.text = name

/-- The tables that the rows of a table refer to, in the order in which they are looked at. -/
def TableName.parents : TableName → List TableName
  | .tests => [.templates]
  | .runs => [.tests]
  | .results => [.runs]
  | .mappings => [.reports, .templates]
  | .runReports => [.reports, .runs]
  | _ => []

/-- The rows of all tables, oldest first, the names of tables that are gone, and whether
references go unchecked. -/
structure Tables where
  templates : List TemplateRow
  tests : List TestRow
  runs : List RunRow
  results : List ResultRow
  reports : List ReportRow
  mappings : List MappingRow
  runReports : List RunReport
  lost : List TableName
  unchecked : Bool
  deriving Repr

def Tables.empty : Tables := ⟨[], [], [], [], [], [], [], [], false⟩

/-- What becomes of a run report: a status, and results and an end where they are given. -/
structure Progress where
  status : ReportStatus
  results : Option Json
  finishedAt : Option Moment
  deriving Repr

/-- New values for the fields of a report definition, where they are given. -/
structure ReportPatch where
  name : Option String
  description : Option String
  notebook : Option Json
  config : Option Json
  deriving Repr

inductive Change
  | addTemplate (row : TemplateRow)
  | addTest (row : TestRow)
  | addRun (row : RunRow)
  | addResult (row : ResultRow)
  | addReport (row : ReportRow)
  | addMapping (row : MappingRow)
  | addRunReport (row : RunReport)
  | dropRunReports (ids : List Nat)
  | advance (id : Nat) (progress : Progress)
  | patchReport (id : String) (patch : ReportPatch)
  deriving Repr

def Change.table : Change → TableName
  | .addTemplate _ => .templates
  | .addTest _ => .tests
  | .addRun _ => .runs
  | .addResult _ => .results
  | .addReport _ => .reports
  | .addMapping _ => .mappings
  | .addRunReport _ => .runReports
  | .dropRunReports _ => .runReports
  | .advance .. => .runReports
  | .patchReport .. => .reports

def RunReport.advance (r : RunReport) (p : Progress) : RunReport :=
  { r with
    status := p.status
    results := p.results.getD r.results
    finishedAt := if p.finishedAt.isSome then p.finishedAt else r.finishedAt }

/-- A run report as it is stored: the offsets of times are dropped. -/
def RunReport.stored (r : RunReport) : RunReport :=
  { r with createdAt := r.createdAt.wall, finishedAt := r.finishedAt.map Moment.wall }

def RunRow.stored (r : RunRow) : RunRow :=
  { r with createdAt := r.createdAt.wall, finishedAt := r.finishedAt.map Moment.wall }

def MappingRow.stored (r : MappingRow) : MappingRow := { r with createdAt := r.createdAt.wall }

def ReportRow.patch (r : ReportRow) (p : ReportPatch) : ReportRow :=
  { r with
    name := p.name.getD r.name
    description := if p.description.isSome then p.description else r.description
    notebook := p.notebook.getD r.notebook
    config := p.config.getD r.config }

def Change.apply (t : Tables) : Change → Tables
  | .addTemplate row => { t with templates := t.templates ++ [row] }
  | .addTest row => { t with tests := t.tests ++ [row] }
  | .addRun row => { t with runs := t.runs ++ [row.stored] }
  | .addResult row => { t with results := t.results ++ [row] }
  | .addReport row => { t with reports := t.reports ++ [row] }
  | .addMapping row => { t with mappings := t.mappings ++ [row.stored] }
  | .addRunReport row => { t with runReports := t.runReports ++ [row.stored] }
  | .dropRunReports ids =>
    { t with runReports := t.runReports.filter fun r => !ids.contains r.id }
  | .advance id progress =>
    { t with
      runReports := t.runReports.map fun r =>
        if r.id = id then (r.advance progress).stored else r }
  | .patchReport id patch =>
    { t with reports := t.reports.map fun r => if r.id = id then r.patch patch else r }

def RunReport.isOf (r : RunReport) (runId reportId : String) : Bool :=
  r.runId == runId && r.reportId == reportId

def RunReport.isLive (r : RunReport) : Bool := !r.status.isFailure

/-- The fault of a value that is there already, if it is. -/
def duplicate? (isThere : Bool) (table : TableName) (columns : List String) : Option Fault :=
  if isThere then some (.unique table.text columns) else none

def Tables.dangling? (t : Tables) (isThere : Bool) : Option Fault :=
  if isThere || t.unchecked then none else some .foreignKey

/-- Whether another run report of the same run and report has not failed. -/
def Tables.hasOtherLive (t : Tables) (r : RunReport) : Bool :=
  t.runReports.any fun q => q.id != r.id && q.isOf r.runId r.reportId && q.isLive

/-- The fault of a second run report that has not failed, if it is one. -/
def Tables.secondLive? (t : Tables) (r : RunReport) : Option Fault :=
  duplicate? (r.isLive && t.hasOtherLive r) .runReports ["run_id", "report_id"]

def Tables.hasTemplate (t : Tables) (id : String) : Bool := t.templates.any fun r => r.id == id

def Tables.hasTest (t : Tables) (id : String) : Bool := t.tests.any fun r => r.id == id

def Tables.hasRun (t : Tables) (id : String) : Bool := t.runs.any fun r => r.id == id

def Tables.hasReport (t : Tables) (id : String) : Bool := t.reports.any fun r => r.id == id

/-- The rule that forbids a statement, if one does. Names are looked at before keys, and keys
before references. -/
def Tables.refusal? (t : Tables) : Change → Option Fault
  | .addTemplate row =>
    duplicate? (t.templates.any fun r => r.name == row.name) .templates ["name"] <|>
      duplicate? (t.hasTemplate row.id) .templates ["template_id"]
  | .addTest row =>
    duplicate? (t.tests.any fun r => r.name == row.name) .tests ["name"] <|>
      duplicate? (t.hasTest row.id) .tests ["test_id"] <|>
      t.dangling? (t.hasTemplate row.templateId)
  | .addRun row =>
    duplicate? (t.runs.any fun r => r.name == row.name) .runs ["name"] <|>
      duplicate? (t.hasRun row.id) .runs ["run_id"] <|>
      t.dangling? (t.hasTest row.testId)
  | .addResult row =>
    duplicate? (t.results.any fun r => r.runId == row.runId && r.key == row.key) .results
        ["run_id", "result_key"] <|>
      t.dangling? (t.hasRun row.runId)
  | .addReport row =>
    duplicate? (t.reports.any fun r => r.name == row.name) .reports ["name"] <|>
      duplicate? (t.hasReport row.id) .reports ["report_id"]
  | .addMapping row =>
    duplicate?
        (t.mappings.any fun r => r.templateId == row.templateId && r.reportId == row.reportId)
        .mappings ["template_id", "report_id"] <|>
      t.dangling? (t.hasTemplate row.templateId && t.hasReport row.reportId)
  | .addRunReport row =>
    t.secondLive? row <|> t.dangling? (t.hasRun row.runId && t.hasReport row.reportId)
  | .dropRunReports _ => none
  | .advance id progress =>
    match t.runReports.find? fun r => r.id == id with
    | none => some (.rowGone TableName.runReports.text)
    | some r => t.secondLive? (r.advance progress)
  | .patchReport id patch =>
    match t.reports.find? fun r => r.id == id with
    | none => some (.rowGone TableName.reports.text)
    | some row =>
      duplicate? (t.reports.any fun r => r.id != id && r.name == (row.patch patch).name) .reports
        ["name"]

def Change.looksAtReferences : Change → Bool
  | .advance .. => false
  | .patchReport .. => false
  | _ => true

/-- The fault of a statement that needs a table that is gone: the one it changes, or one that is
looked at for references. -/
def Tables.lostFault? (t : Tables) (change : Change) : Option Fault :=
  if t.lost.contains change.table then some (.noTable change.table.text)
  else if t.unchecked || !change.looksAtReferences then none
  else (change.table.parents.find? t.lost.contains).map fun p => .noTable ("main." ++ p.text)

/-- Whether a table is there and has rows that outlive the rows they refer to. The results of a
run go with it. -/
def Tables.holdsRows (t : Tables) (table : TableName) : Bool :=
  !t.lost.contains table &&
    (match table with
      | .tests => !t.tests.isEmpty
      | .runs => !t.runs.isEmpty
      | .mappings => !t.mappings.isEmpty
      | .runReports => !t.runReports.isEmpty
      | _ => false)

def TableName.children (table : TableName) : List TableName :=
  [TableName.tests, .runs, .results, .mappings, .runReports].filter fun child =>
    child.parents.contains table

/-- The rows without a table. Where references are checked, a table that rows refer to stays. -/
def Tables.drop (t : Tables) (table : TableName) : Except Fault Tables :=
  if t.lost.contains table then .error (.noTable table.text)
  else if t.unchecked then .ok { t with lost := table :: t.lost }
  else if table.children.any t.holdsRows then .error .foreignKey
  else
    .ok { t with
      lost := table :: t.lost
      results := if table = .runs then [] else t.results }

def idLimit : Nat := 9223372036854775807

def Tables.greatestId (t : Tables) : Nat := (t.runReports.map RunReport.id).foldl max 0

def Tables.spareId (t : Tables) : Nat :=
  ((List.range' 1 (t.runReports.length + 1)).find? fun id =>
    t.runReports.all fun r => r.id != id).getD 0

/-- The id that the next run report gets: the one after the greatest, where there is such an id.
Where there is none the database takes one at random that is free, and here it is the least. -/
def Tables.nextId (t : Tables) : Nat :=
  if t.greatestId < idLimit then t.greatestId + 1 else t.spareId

end RunReports.Store
