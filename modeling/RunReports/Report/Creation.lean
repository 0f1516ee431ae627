import RunReports.Engine.Client
import RunReports.Notebook.Assembly
import RunReports.Report.Definition
import RunReports.Report.Guard
import RunReports.Storage.Location
import RunReports.Workflow.Source

/-! # Creation

A report on a run is created in steps that run strictly in order: the guard, the reading of run
and template, the assembly of the notebook, its upload, the inputs, the workflow source, the
submission, and the record with its commit. The first failure ends it and rolls the session
back; what was uploaded or submitted before stays so. -/
namespace RunReports.Report

open RunReports RunReports.Calendar RunReports.Store

structure World (σ : Type) where
  session : Session
  outside : σ

/-- What the creation of reports calls: storage for notebooks, the exchange of requests with the
web and with the job engine, and the clock. Each may change the world in any way. -/
structure Services (σ : Type) where
  upload : List UInt8 → String → Action (World σ) String
  fetch : Engine.Exchange (World σ)
  exchange : Engine.Exchange (World σ)
  now : World σ → Moment

/-- How reports are generated: the image that jobs run in, the URL of the workflow source if it
is not the packaged one, the naming of runtime attributes, and the engine. -/
structure Generator where
  image : String
  workflowUrl : Option String
  namespaced : Bool
  engine : Engine.Endpoint
  deriving Repr

def onSession {σ α : Type} (a : Action Session α) : Action (World σ) α :=
  within World.session (fun session w => { w with session := session }) a

def onOutside {σ α : Type} (a : Action σ α) : Action (World σ) α :=
  within World.outside (fun outside w => { w with outside := outside }) a

/-- What an action does, with the session rolled back if it fails. -/
def orRollbackWorld {σ α : Type} (a : Action (World σ) α) : Action (World σ) α :=
  tryCatch a fun failure => do
    modify fun w => { w with session := w.session.rollback }
    throw failure

/-- A notebook ready for upload, where it goes, and the configuration of its report. -/
structure Draft where
  content : List UInt8
  path : String
  config : Json
  deriving Repr

/-- The notebook of a template and a run, ready for upload. -/
def draft (run : Run.Snapshot) (template : Template) : Except Failure Draft :=
  match Notebook.assemble template.notebook run with
  | .error (.template fault) => .error (.report (.notebook fault))
  | .error (.runData fault) => .error (.badValue fault.message)
  | .ok document =>
    match document.serialize? with
    | none => .error (.report (.notSerializable "notebook" Notebook.depthMessage))
    | some content =>
      .ok ⟨content, Storage.notebookPath run.name template.name, template.config⟩

/-- The notebook of a stored report and a stored run, ready for upload. -/
def loadDraft (runId reportId : String) : Action Session Draft := do
  let run ← Run.load runId
  let template ← loadTemplate reportId
  match draft run template with
  | .ok d => pure d
  | .error failure => throw failure

def prepare (runId reportId : String) (deleteFailed : Bool) : Action Session Draft := do
  ensureMayCreate runId reportId deleteFailed
  loadDraft runId reportId

def jobInputs {σ : Type} (g : Generator) (location : String) (config : Json) :
    Action σ Json.Fields :=
  match Workflow.buildInputs g.namespaced location g.image config with
  | .error fault => throw (.report (.inputs fault))
  | .ok inputs => pure inputs

def sendUp {σ : Type} (s : Services σ) (g : Generator) (d : Draft) :
    Action (World σ) Json.Fields := do
  let location ← s.upload d.content d.path
  jobInputs g location d.config

/-- The steps after the submission: the record of the job, whose id is given out by `allocate`,
and its commit. -/
def keepAs (allocate : Tables → Nat) (now : Moment) (runId reportId jobId : String)
    (createdBy : Option String) : Action Session RunReport := do
  let record ← insertAs allocate now runId reportId .submitted (some jobId) createdBy .null
  Session.commit
  reload record

def keep (now : Moment) (runId reportId jobId : String) (createdBy : Option String) :
    Action Session RunReport :=
  keepAs Tables.nextId now runId reportId jobId createdBy

/-- Create a report on a run and submit its job. -/
def create {σ : Type} (s : Services σ) (g : Generator) (runId reportId : String)
    (createdBy : Option String) (deleteFailed : Bool) : Action (World σ) RunReport :=
  orRollbackWorld (accessing .runReport do
    let d ← onSession (prepare runId reportId deleteFailed)
    let inputs ← sendUp s g d
    let source ← Workflow.resolve s.fetch g.workflowUrl
    let submission ← g.engine.submit s.exchange source inputs
    onSession (keep (s.now (← get)) runId reportId submission.jobId createdBy))

/-- The reports that are made of every run of a test, the oldest mapping first. -/
def mappedReports (templateId : String) (t : Tables) : List String :=
  ((t.mappings.filter fun m => m.templateId == templateId).mergeSort fun a b =>
    a.createdAt.micros < b.createdAt.micros ||
      (a.createdAt.micros == b.createdAt.micros && decide (a.reportId ≤ b.reportId))).map
    MappingRow.reportId

def listMapped (testId : String) : Action Session (List String) := do
  let found ← accessing (.test testId)
    (Session.read .tests fun t => t.tests.find? fun r => r.id == testId)
  let test ← Run.present (.test testId) found
  accessing (.mappings test.templateId)
    (Session.read .mappings (mappedReports test.templateId))

/-- Create the given reports on a run, one after another, up to the first failure. -/
def createEach {σ : Type} (s : Services σ) (g : Generator) (run : Run.Snapshot) :
    List String → Action (World σ) (List RunReport)
  | [] => pure []
  | reportId :: rest => do
    let record ← create s g run.runId reportId run.createdBy false
    let records ← createEach s g run rest
    pure (record :: records)

/-- Create every report that is mapped to the template of a finished run. -/
def createAll {σ : Type} (s : Services σ) (g : Generator) (run : Run.Snapshot) :
    Action (World σ) (List RunReport) := do
  let reportIds ← onSession (listMapped run.testId)
  createEach s g run reportIds

end RunReports.Report
