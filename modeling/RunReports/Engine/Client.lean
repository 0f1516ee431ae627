import RunReports.Failure
import RunReports.Http.Message
import RunReports.Json.Bytes
import RunReports.Json.Writer
import RunReports.Literal.Inline

/-! # The job engine

Jobs are submitted to the engine as a form that holds a workflow source and its inputs; the
engine answers with a job id. Later it is asked for the status of the job, and for the outputs
of a job that has succeeded. Every answer is a JSON object. The functions here take the way in
which requests are exchanged as an argument. -/
namespace RunReports.Engine

open RunReports RunReports.Http RunReports.Text

/-- Where an engine is reached. -/
structure Endpoint where
  address : String
  apiVersion : String
  deriving Repr, DecidableEq

/-- A way to exchange a request for its outcome. -/
abbrev Exchange (σ : Type) := Request → Action σ Outcome

structure Submission where
  jobId : String
  status : String
  deriving Repr, DecidableEq

structure JobState where
  jobId : String
  status : String
  outputs : Option Json.Fields
  deriving Repr

/-- The endpoint at an address; slashes at its end do not count. -/
def Endpoint.at (address apiVersion : String) : Except Failure Endpoint :=
  if address.isEmpty then .error (.badValue "address is required")
  else .ok ⟨stripEndChar '/' address, apiVersion⟩

def Endpoint.workflowsPath (e : Endpoint) (suffix : String) : String :=
  "/api/workflows/" ++ e.apiVersion ++ suffix

def Endpoint.url (e : Endpoint) (path : String) : Except UrlFault Url := do
  let base ← Url.readBase e.address
  base.resolve path

def readAnswer (path : String) : Outcome → Except Failure Json.Fields
  | .failed description => .error (.report (.engine (.unreachable description)))
  | .answered r =>
    if isSuccess r.status then
      match Json.readBytes r.body with
      | .error fault => .error (.ofReading (fun _ => .report (.engine (.notJson path))) fault)
      | .ok (.obj fields) => .ok fields
      | .ok _ => .error (.report (.engine (.notObject path)))
    else
      match r.text with
      | .error description => .error (.foreignText description)
      | .ok text => .error (.report (.engine (.refused r.status text)))

/-- Exchange a request. An answer is taken only where the URL it came from has a type. -/
def send {σ : Type} (exchange : Exchange σ) (request : Request) : Action σ Outcome := do
  match ← exchange request with
  | .failed description => pure (.failed description)
  | .answered r =>
    if hasType request.url.text.toList then pure (.answered r)
    else throw (.badValue ("unknown url type: " ++ Literal.quotedText request.url.text))

/-- The URL of a request, if one can be made for it. -/
def target {σ : Type} (url : Except UrlFault Url) : Action σ Url :=
  match url with
  | .error fault => throw (.badUrl fault)
  | .ok url =>
    match url.hostFault? with
    | some fault => throw (.badHost fault)
    | none => pure url

/-- Make a request for a path and read the object in its answer. -/
def Endpoint.call {σ : Type} (exchange : Exchange σ) (e : Endpoint) (path : String)
    (request : Url → Request) : Action σ Json.Fields := do
  let url ← target (e.url path)
  match readAnswer path (← send exchange (request url)) with
  | .error failure => throw failure
  | .ok fields => pure fields

/-- The text of a member, where it is given; blanks around it are not trimmed. -/
def memberText (name : String) (fields : Json.Fields) : Option String :=
  match Json.Fields.get? name fields with
  | some v => if v.isTruthy then some (Literal.display v) else none
  | none => none

def submissionForm (source : String) (inputs : Json.Fields) : List FormPart :=
  [⟨"workflowSource", "jupyter_report_generator.wdl", "application/octet-stream", source.toList⟩,
    ⟨"workflowInputs", "inputs.json", "application/json", (Json.obj inputs).compactAscii.toList⟩]

def readSubmission (fields : Json.Fields) : Except Fault Submission :=
  let jobId := trimText ((memberText "id" fields).getD "")
  if jobId.isEmpty then .error .noJobId
  else .ok ⟨jobId, (memberText "status" fields).getD "Submitted"⟩

def Endpoint.submit {σ : Type} (exchange : Exchange σ) (e : Endpoint) (source : String)
    (inputs : Json.Fields) : Action σ Submission := do
  let fields ← e.call exchange (e.workflowsPath "")
    fun url => .post url (submissionForm source inputs)
  match readSubmission fields with
  | .error fault => throw (.report (.engine fault))
  | .ok submission => pure submission

def readStatus (jobId : String) (fields : Json.Fields) : Except Fault String :=
  let status := trimText ((memberText "status" fields).getD "")
  if status.isEmpty then .error (.noStatus jobId) else .ok status

def succeeded : String := "Succeeded"

/-- Read the outputs of a job; whatever is no object counts as no outputs. -/
def readOutputs (fields : Json.Fields) : Json.Fields :=
  match Json.Fields.get? "outputs" fields with
  | some (.obj outputs) => outputs
  | _ => []

/-- Ask for the status of a job, and for its outputs if it has succeeded. -/
def Endpoint.jobState {σ : Type} (exchange : Exchange σ) (e : Endpoint) (jobId : String) :
    Action σ JobState := do
  let fields ← e.call exchange (e.workflowsPath ("/" ++ jobId ++ "/status")) .get
  match readStatus jobId fields with
  | .error fault => throw (.report (.engine fault))
  | .ok status =>
    if status = succeeded then
      let fields ← e.call exchange (e.workflowsPath ("/" ++ jobId ++ "/outputs")) .get
      pure ⟨jobId, status, some (readOutputs fields)⟩
    else pure ⟨jobId, status, none⟩

end RunReports.Engine
