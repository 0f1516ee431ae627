import RunReports.Report.Creation

/-! # Refreshing

The status that the job engine reports for a job is written into the record of its report. A
record that is terminal, or has no job, is left alone, and the engine is not asked about it. -/
namespace RunReports.Report

open RunReports RunReports.Calendar RunReports.Store

def jobStatuses : List (String × ReportStatus) :=
  [("Submitted", .submitted), ("On Hold", .waiting), ("Running", .running),
    ("Aborting", .aborting), ("Succeeded", .succeeded), ("Failed", .failed),
    ("Aborted", .aborted)]

/-- The job to ask the engine about, if there is a need to. -/
def openJob? (record : RunReport) : Option String :=
  if record.status.isTerminal then none else record.jobId.filter fun jobId => !jobId.isEmpty

def progressOf (now : Moment) (status : ReportStatus) (outputs : Option Json.Fields) : Progress :=
  { status := status
    results := if status = .succeeded then outputs.map .obj else none
    finishedAt := if status.isTerminal then some now else none }

/-- Write progress into a record and commit. The record is given as it was read before the engine
was asked. -/
def keepProgress (record : RunReport) (p : Progress) : Action Session RunReport := do
  accessing .runReport (orRollback do
    let _ ← advance record p
    Session.commit)
  reload record

def settle (now : Moment) (record : RunReport) (state : Engine.JobState) :
    Action Session RunReport :=
  match jobStatuses.lookup state.status with
  | none => throw (.report (.engine (.unknownStatus state.status state.jobId)))
  | some status =>
    if status = record.status then pure record
    else keepProgress record (progressOf now status state.outputs)

/-- Refresh the current record of a run and report. -/
def refresh {σ : Type} (s : Services σ) (g : Generator) (runId reportId : String) :
    Action (World σ) RunReport := do
  match ← onSession (find runId reportId) with
  | none => throw (.report (.notFound (.runReport runId reportId)))
  | some record =>
    match openJob? record with
    | none => pure record
    | some jobId =>
      let state ← g.engine.jobState s.exchange jobId
      onSession (settle (s.now (← get)) record state)

/-- Refresh given reports on a run, one after another, up to the first failure. -/
def refreshEach {σ : Type} (s : Services σ) (g : Generator) (runId : String) :
    List String → Action (World σ) (List RunReport)
  | [] => pure []
  | reportId :: rest => do
    let record ← refresh s g runId reportId
    let records ← refreshEach s g runId rest
    pure (record :: records)

/-- A list without the repetitions of items that stand next to each other. -/
def dropRepeats : List String → List String
  | [] => []
  | [a] => [a]
  | a :: b :: rest => if a = b then dropRepeats (b :: rest) else a :: dropRepeats (b :: rest)

def reportsOfRun (runId : String) (t : Tables) : List String :=
  dropRepeats (((t.runReports.filter fun r => r.runId == runId).map RunReport.reportId).mergeSort
    fun a b => decide (a ≤ b))

/-- Refresh every report on a run. -/
def refreshAll {σ : Type} (s : Services σ) (g : Generator) (runId : String) :
    Action (World σ) (List RunReport) := do
  let reportIds ← onSession (accessing (.runReportsOfRun runId)
    (Session.read .runReports (reportsOfRun runId)))
  refreshEach s g runId reportIds

end RunReports.Report
