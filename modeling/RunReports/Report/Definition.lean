import RunReports.Json.Same
import RunReports.Notebook.File
import RunReports.Report.Record
import RunReports.Run.Stored

/-! # Report definitions

A report has a name, a description, a notebook and a configuration. The notebook and the
configuration are what a report on a run executes, so they cannot change while there is a
record for the report that has not failed. -/
namespace RunReports.Report

open RunReports RunReports.Store

structure Template where
  reportId : String
  name : String
  notebook : Json
  config : Json
  deriving Repr

def findDefinition (reportId : String) : Action Session ReportRow := do
  let found ← accessing (.report reportId)
    (Session.read .reports fun t => t.reports.find? fun r => r.id == reportId)
  Run.present (.report reportId) found

def loadTemplate (reportId : String) : Action Session Template := do
  let row ← findDefinition reportId
  pure ⟨row.id, row.name, row.notebook, row.config⟩

def Template.toJson (t : Template) : Json :=
  Json.plain (.obj
    [("report_id", .str t.reportId),
      ("name", .str t.name),
      ("notebook", t.notebook),
      ("config", t.config)])

/-- New values for a report definition. A value that is none, or null, leaves its field as it
is. -/
structure Revision where
  name : Option String
  description : Option String
  notebook : Json
  config : Json
  deriving Repr

def Revision.newConfig {σ : Type} (r : Revision) : Action σ (Option Json) :=
  match r.config with
  | .null => pure none
  | .obj fields => pure (some (.obj fields))
  | _ => throw (.report (.inputs .configForm))

/-- The notebook that a revision gives, in the form in which notebooks are stored. -/
def Revision.newNotebook {σ : Type} (r : Revision) : Action σ (Option Json) :=
  match r.notebook with
  | .null => pure none
  | v =>
    match Notebook.Document.read v with
    | .error fault => throw (.report (.notebook fault))
    | .ok d =>
      match d.dump? with
      | none => throw (.badValue Notebook.depthMessage)
      | some dumped => pure (some dumped)

def newPatch (row : ReportRow) (p : ReportPatch) : ReportPatch :=
  { name := p.name.filter (· != row.name)
    description := p.description.filter fun s => some s != row.description
    notebook := p.notebook.filter fun v => !row.notebook.same v
    config := p.config.filter fun v => !row.config.same v }

def givesAny (p : ReportPatch) : Bool :=
  p.name.isSome || p.description.isSome || p.notebook.isSome || p.config.isSome

/-- Whether the values of a patch can be written: a whole number with too many digits cannot. -/
def isWritable (p : ReportPatch) : Bool := p.notebook.all Json.isShort && p.config.all Json.isShort

def writePatch (reportId : String) (p : ReportPatch) : Action Session Unit :=
  if isWritable p then Session.execute (.patchReport reportId p)
  else throw (.store .longNumber)

/-- Write a patch and commit. A commit that is to be refused is refused before the patch is
looked at. -/
def commitPatch (reportId : String) (p : ReportPatch) : Action Session Unit := do
  if givesAny p && (← get).commitRefusal.isNone then writePatch reportId p
  Session.commit

/-- The notebook and configuration that a revision gives, unless they are frozen. -/
def executedParts (reportId : String) (r : Revision) :
    Action Session (Option Json × Option Json) := do
  if r.notebook.isNull && r.config.isNull then pure (none, none)
  else if ← hasLive reportId then throw (.report (.prohibited (.frozen reportId)))
  else
    let config ← r.newConfig
    let notebook ← r.newNotebook
    pure (notebook, config)

/-- Revise a report definition. -/
def revise (reportId : String) (r : Revision) : Action Session ReportRow := do
  let row ← findDefinition reportId
  let (notebook, config) ← executedParts reportId r
  let patch := newPatch row ⟨r.name, r.description, notebook, config⟩
  accessing (.report reportId) (orRollback (commitPatch reportId patch))
  let t := (← get).view
  pure ((t.reports.find? fun q => q.id == reportId).getD row)

end RunReports.Report
