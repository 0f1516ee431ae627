import RunReports.Engine.Fault
import RunReports.Http.Status
import RunReports.Http.Url
import RunReports.Json.Reader
import RunReports.Notebook.Document
import RunReports.Storage.Fault
import RunReports.Storage.Path
import RunReports.Store.Fault
import RunReports.Validation
import RunReports.Workflow.Inputs

/-! # Failures

Every failure that report generation accounts for is a `ReportError`: it belongs to a kind that
names the stage that failed and tells whether trying again can help. A `Failure` is a report
error or one of the failures that no stage accounts for. -/
namespace RunReports

inductive ErrorKind
  | general
  | database
  | notFound
  | parse
  | serialization
  | storage
  | localFile
  | inputs
  | workflow
  | engine
  | prohibited
  | request
  deriving Repr, DecidableEq

namespace ErrorKind

/-- The name of a kind in reports of errors. -/
def tag : ErrorKind → String
  | .general => "run_report"
  | .database => "db"
  | .notFound => "db_not_found"
  | .parse => "parse"
  | .serialization => "json"
  | .storage => "storage"
  | .localFile => "io"
  | .inputs => "inputs"
  | .workflow => "workflow_validation"
  | .engine => "job_engine"
  | .prohibited => "prohibited"
  | .request => "request"

def isTransient : ErrorKind → Bool
  | .database => true
  | .storage => true
  | .engine => true
  | .request => true
  | _ => false

/-- The kind that a kind is a special case of. -/
def broader : ErrorKind → ErrorKind
  | .notFound => .database
  | _ => .general

def reported : List ErrorKind :=
  [.database, .notFound, .parse, .serialization, .storage, .localFile, .inputs, .workflow, .engine,
    .prohibited, .request]

end ErrorKind

inductive Subject
  | record
  | run (id : String)
  | results (runId : String)
  | report (id : String)
  | test (id : String)
  | mappings (templateId : String)
  | runReport
  | runReportOf (runId reportId : String)
  | runReportsOfReport (reportId : String)
  | runReportsOfRun (runId : String)
  | stated (text : String)
  deriving Repr, DecidableEq

def Subject.text : Subject → String
  | .record => "record"
  | .run id => "run with run_id " ++ id
  | .results runId => "results for run " ++ runId
  | .report id => "report with report_id " ++ id
  | .test id => "test with test_id " ++ id
  | .mappings templateId => "report mappings for template " ++ templateId
  | .runReport => "run_report"
  | .runReportOf runId reportId =>
    "run_report for run_id " ++ runId ++ " and report_id " ++ reportId
  | .runReportsOfReport reportId => "run_reports for report_id " ++ reportId
  | .runReportsOfRun runId => "run_reports for run_id " ++ runId
  | .stated text => text

inductive Missing
  | subject (s : Subject)
  | runReport (runId reportId : String)
  deriving Repr, DecidableEq

def Missing.message : Missing → String
  | .subject s => "No " ++ s.text ++ " found"
  | .runReport runId reportId =>
    "No run_report found for run_id " ++ runId ++ " and report_id " ++ reportId

inductive Prohibition
  | exists (runId reportId : String)
  | frozen (reportId : String)
  deriving Repr, DecidableEq

def Prohibition.message : Prohibition → String
  | .exists runId reportId =>
    "A run_report record already exists for run_id " ++ runId ++ " and report_id " ++ reportId
  | .frozen reportId =>
    "Cannot update notebook or config of report " ++ reportId ++
      " because a non-failed run_report exists for it"

inductive FetchFault
  | refused (status : Int) (sent : String)
  | unreachable (description : String)
  deriving Repr, DecidableEq

def FetchFault.message : FetchFault → String
  | .refused status sent => Http.statusMessage status sent
  | .unreachable description => description

/-- The failures that report generation accounts for. -/
inductive ReportError
  | database (subject : Subject) (fault : Store.Fault)
  | notFound (missing : Missing)
  | notebook (fault : Notebook.Fault)
  | notSerializable (what reason : String)
  | notJson (what : String) (fault : Json.ReadFault)
  | noPath (what : String)
  | storage (fault : Storage.Fault)
  | localFile (description : String)
  | inputs (fault : Workflow.InputsFault)
  | workflow (fault : Workflow.SourceFault)
  | engine (fault : Engine.Fault)
  | prohibited (prohibition : Prohibition)
  | fetch (url : String) (fault : FetchFault)
  | stated (kind : ErrorKind) (text : String)
  deriving Repr, DecidableEq

namespace ReportError

def kind : ReportError → ErrorKind
  | .database .. => .database
  | .notFound _ => .notFound
  | .notebook _ => .parse
  | .notSerializable .. => .serialization
  | .notJson .. => .serialization
  | .noPath _ => .serialization
  | .storage _ => .storage
  | .localFile _ => .localFile
  | .inputs .configForm => .parse
  | .inputs _ => .inputs
  | .workflow _ => .workflow
  | .engine _ => .engine
  | .prohibited _ => .prohibited
  | .fetch .. => .request
  | .stated kind _ => kind

def message : ReportError → String
  | .database subject fault =>
    "Database error while accessing " ++ subject.text ++ ": " ++ fault.message
  | .notFound missing => missing.message
  | .notebook fault => fault.message
  | .notSerializable what reason => "Failed to serialize " ++ what ++ ": " ++ reason
  | .notJson what fault => what ++ " is not valid JSON: " ++ fault.message
  | .noPath what => what ++ " is not valid JSON: " ++ Storage.nullMessage
  | .storage fault => fault.message
  | .localFile description => "Local file operation failed: " ++ description
  | .inputs fault => fault.message
  | .workflow fault => fault.message
  | .engine fault => fault.message
  | .prohibited prohibition => prohibition.message
  | .fetch url fault => "Fetching " ++ url ++ " failed: " ++ fault.message
  | .stated _ text => text

def isTransient (e : ReportError) : Bool := e.kind.isTransient

/-- The status code of the answer that is at fault, where there is one. -/
def statusCode? : ReportError → Option Int
  | .engine fault => fault.statusCode?
  | _ => none

end ReportError

/-- All that can go wrong: a report error, or a failure that no stage accounts for. These are a
value that does not fit, a value of the wrong form, a text with values within values on too many
levels, a text that is no URL, a URL whose host stands for no name, a user without a home directory,
too many directories to make at once, bytes that are no text, a text in a character set of the host
that the host cannot read, a moment outside the calendar, values that break rules, and a refusal of
the database that was not looked into. -/
inductive Failure
  | report (error : ReportError)
  | badValue (description : String)
  | wrongForm (description : String)
  | tooNested (container : Json.Container)
  | badUrl (fault : Http.UrlFault)
  | badHost (fault : Host.Fault)
  | homeUnknown
  | tooManyDirectories
  | undecodable (fault : Text.DecodeFault)
  | foreignText (description : String)
  | outsideCalendar
  | violations (vs : List Violation)
  | store (fault : Store.Fault)
  deriving Repr, DecidableEq

def Failure.message : Failure → String
  | .report error => error.message
  | .badValue description => description
  | .wrongForm description => description
  | .tooNested container => Json.nestingMessage container
  | .badUrl fault => fault.message
  | .badHost fault => fault.message
  | .homeUnknown => "Could not determine home directory."
  | .tooManyDirectories => "maximum recursion depth exceeded while calling a Python object"
  | .undecodable fault => fault.message
  | .foreignText description => description
  | .outsideCalendar => "date value out of range"
  | .violations vs => violationsMessage vs
  | .store fault => fault.message

/-- The failure to read a JSON text. Too many levels are not held against the text: no stage
accounts for them. Of all other faults `told` makes a failure. -/
def Failure.ofReading (told : Json.ReadFault → Failure) : Json.ReadFault → Failure
  | .tooNested container => .tooNested container
  | fault => told fault

/-- Actions on a state that may fail; what was done before a failure stays done. -/
abbrev Action (σ : Type) := ExceptT Failure (StateM σ)

def within {σ τ α : Type} (part : σ → τ) (put : τ → σ → σ) (a : Action τ α) : Action σ α :=
  fun s =>
    let (result, t) := a.run (part s)
    (result, put t s)

end RunReports
