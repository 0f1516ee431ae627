import RunReports.Report.Record

/-! # The creation guard

At most one record of a run and report may not have failed. The guard lets a creation begin if
there is no record at all, or if there are only failed ones and the caller wants them replaced;
those are then deleted. The database keeps the rule also against creations that run at the same
time. -/
namespace RunReports.Report

open RunReports RunReports.Store

inductive Presence
  | absent
  | live
  | failed
  deriving Repr, DecidableEq

def Presence.text : Presence → String
  | .absent => "absent"
  | .live => "exists_non_failed"
  | .failed => "exists_failed"

def presenceOf : Option RunReport → Presence
  | none => .absent
  | some r => if r.isLive then .live else .failed

def presence (runId reportId : String) : Action Session Presence := do
  pure (presenceOf (← find runId reportId))

/-- Fail unless a report on a run may be created; delete failed records if they are to be
replaced. -/
def ensureMayCreate (runId reportId : String) (deleteFailed : Bool) : Action Session Unit := do
  match ← presence runId reportId with
  | .absent => pure ()
  | .failed =>
    if deleteFailed then
      let _ ← delete runId reportId failureStatuses
    else throw (.report (.prohibited (.exists runId reportId)))
  | .live => throw (.report (.prohibited (.exists runId reportId)))

end RunReports.Report
