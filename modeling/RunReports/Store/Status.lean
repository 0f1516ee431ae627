/-! # Statuses

The stages in the life of a report on a run, and those of a run itself. A report's status is a
failure, or not; it is terminal if the report failed or succeeded. -/
namespace RunReports.Store

inductive ReportStatus
  | created
  | submitted
  | queued
  | starting
  | running
  | waiting
  | aborting
  | succeeded
  | failed
  | aborted
  | expired
  deriving Repr, DecidableEq

namespace ReportStatus

def all : List ReportStatus :=
  [.created, .submitted, .queued, .starting, .running, .waiting, .aborting, .succeeded, .failed,
    .aborted, .expired]

def text : ReportStatus → String
  | .created => "created"
  | .submitted => "submitted"
  | .queued => "queued"
  | .starting => "starting"
  | .running => "running"
  | .waiting => "waiting"
  | .aborting => "aborting"
  | .succeeded => "succeeded"
  | .failed => "failed"
  | .aborted => "aborted"
  | .expired => "expired"

def ofText? (text : String) : Option ReportStatus := all.find? fun s => s.text = text

def isFailure : ReportStatus → Bool
  | .failed => true
  | .aborted => true
  | .expired => true
  | _ => false

def isTerminal (s : ReportStatus) : Bool := s == .succeeded || s.isFailure

end ReportStatus

inductive RunStatus
  | created
  | building
  | testSubmitted
  | testRunning
  | evalSubmitted
  | evalRunning
  | succeeded
  | buildFailed
  | testFailed
  | evalFailed
  | aborted
  deriving Repr, DecidableEq

namespace RunStatus

def all : List RunStatus :=
  [.created, .building, .testSubmitted, .testRunning, .evalSubmitted, .evalRunning, .succeeded,
    .buildFailed, .testFailed, .evalFailed, .aborted]

def text : RunStatus → String
  | .created => "created"
  | .building => "building"
  | .testSubmitted => "test_submitted"
  | .testRunning => "test_running"
  | .evalSubmitted => "eval_submitted"
  | .evalRunning => "eval_running"
  | .succeeded => "succeeded"
  | .buildFailed => "build_failed"
  | .testFailed => "test_failed"
  | .evalFailed => "eval_failed"
  | .aborted => "aborted"

def ofText? (text : String) : Option RunStatus := all.find? fun s => s.text = text

end RunStatus

end RunReports.Store
