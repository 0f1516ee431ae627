import RunReports.Json.Same
import RunReports.Store.Session

/-! # Run report records

Finding, deleting, inserting and advancing the records of reports on runs. The current record
of a run and report is the one that has not failed, else the newest one that has. -/
namespace RunReports.Report

open RunReports RunReports.Calendar RunReports.Store

def newest? : List RunReport → Option RunReport
  | [] => none
  | r :: rest =>
    match newest? rest with
    | none => some r
    | some q => if q.id < r.id then some r else some q

def current? (records : List RunReport) : Option RunReport :=
  newest? (records.filter RunReport.isLive) <|> newest? (records.filter fun r => !r.isLive)

def recordsOf (runId reportId : String) (t : Tables) : List RunReport :=
  t.runReports.filter fun r => r.isOf runId reportId

def find (runId reportId : String) : Action Session (Option RunReport) :=
  accessing (.runReportOf runId reportId)
    (Session.read .runReports fun t => current? (recordsOf runId reportId t))

/-- The statuses of records that a retry may replace. -/
def failureStatuses : List String :=
  (ReportStatus.all.filter ReportStatus.isFailure).map ReportStatus.text

/-- Delete the records of a run and report that have one of the given statuses; the number of
deleted records is returned. -/
def delete (runId reportId : String) (statuses : List String) : Action Session Nat :=
  accessing (.runReportOf runId reportId) do
    let ids ← Session.read .runReports fun t =>
      ((recordsOf runId reportId t).filter fun r => statuses.contains r.status.text).map
        RunReport.id
    Session.execute (.dropRunReports ids)
    pure ids.length

/-- The status with a text, which has to be one that records have. -/
def supportedStatus {σ : Type} (text : String) : Action σ ReportStatus :=
  match ReportStatus.ofText? text with
  | some status => pure status
  | none => throw (.badValue ("Unsupported run_report status: " ++ text))

/-- What a refused insertion means: a broken rule is taken for a record that is there already. -/
def insertFailure (runId reportId : String) (fault : Fault) : Failure :=
  if fault.isConstraint then .report (.prohibited (.exists runId reportId))
  else .report (.database .runReport fault)

def newRecord (id : Nat) (now : Moment) (runId reportId : String) (status : ReportStatus)
    (jobId createdBy : Option String) (results : Json) : RunReport :=
  { id := id
    runId := runId
    reportId := reportId
    status := status
    jobId := jobId
    results := results
    createdBy := createdBy
    createdAt := now
    finishedAt := none }

/-- Insert a record, whose id is given out by `allocate`. If it is refused the session is rolled
back. -/
def insertAs (allocate : Tables → Nat) (now : Moment) (runId reportId : String)
    (status : ReportStatus) (jobId createdBy : Option String) (results : Json) :
    Action Session RunReport :=
  tryCatch
    (orRollback do
      let id ← Session.read .runReports allocate
      let row := newRecord id now runId reportId status jobId createdBy results
      Session.execute (.addRunReport row)
      pure row)
    fun failure =>
      match failure with
      | .store fault => throw (insertFailure runId reportId fault)
      | failure => throw failure

/-- Insert a record with the next id. -/
def insert (now : Moment) (runId reportId : String) (status : ReportStatus)
    (jobId createdBy : Option String) (results : Json) : Action Session RunReport :=
  insertAs Tables.nextId now runId reportId status jobId createdBy results

def newProgress (record : RunReport) (p : Progress) : Progress :=
  { p with results := p.results.filter fun v => !record.results.same v }

def changes (record : RunReport) (p : Progress) : Bool :=
  p.status != record.status || p.results.isSome || p.finishedAt.isSome

/-- Advance a record. The record is given as it was read, and a field that would not change is
not written. If the change is refused the session is rolled back. -/
def advance (record : RunReport) (p : Progress) : Action Session RunReport :=
  accessing .runReport
    (orRollback do
      let written := newProgress record p
      if changes record written then Session.execute (.advance record.id written)
      pure (record.advance p))

/-- Whether a report has a record that has not failed, of any run. -/
def hasLive (reportId : String) : Action Session Bool :=
  accessing (.runReportsOfReport reportId)
    (Session.read .runReports fun t =>
      t.runReports.any fun r => r.reportId == reportId && r.isLive)

/-- A record as it is stored now; the given one if it is not there any more. This is how a record
is seen after its commit, and it is taken to be readable then. -/
def reload (record : RunReport) : Action Session RunReport := do
  let t := (← get).view
  pure ((t.runReports.find? fun r => r.id == record.id).getD record)

def momentJson? : Option Moment → Option Json
  | none => some .null
  | some m => m.toUtc.map fun u => .str u.text

/-- A record as a value, if its times lie in the calendar. -/
def toJson? (r : RunReport) : Option Json := do
  let createdAt ← momentJson? (some r.createdAt)
  let finishedAt ← momentJson? r.finishedAt
  some (.obj
    [("id", .int r.id),
      ("run_id", .str r.runId),
      ("report_id", .str r.reportId),
      ("status", .str r.status.text),
      ("job_id", Json.ofText? r.jobId),
      ("results", r.results),
      ("created_by", Json.ofText? r.createdBy),
      ("created_at", createdAt),
      ("finished_at", finishedAt)])

end RunReports.Report
