import RunReports.Literal.Quoted

/-! # Job engine faults

What can go wrong between a request to the job engine and the use of its answer. -/
namespace RunReports.Engine

inductive Fault
  | refused (status : Int) (body : String)
  | unreachable (description : String)
  | notJson (path : String)
  | notObject (path : String)
  | noJobId
  | noStatus (jobId : String)
  | unknownStatus (status jobId : String)
  deriving Repr, DecidableEq

def shownBody : Nat := 250

def Fault.message : Fault → String
  | .refused status body =>
    "Job engine returned HTTP " ++ toString status ++ ": " ++
      String.ofList (body.toList.take shownBody)
  | .unreachable description => "Job engine request failed: " ++ description
  | .notJson path => "Job engine returned a non-JSON body for " ++ path
  | .notObject path => "Job engine returned an unexpected body for " ++ path
  | .noJobId => "Job engine accepted the submission but returned no job id"
  | .noStatus jobId => "Job engine returned no status for job " ++ jobId
  | .unknownStatus status jobId =>
    "Job engine reported unknown status " ++ Literal.quotedText status ++ " for job " ++ jobId

/-- The status code of the answer that is at fault, where there is one. -/
def Fault.statusCode? : Fault → Option Int
  | .refused status _ => some status
  | _ => none

end RunReports.Engine
