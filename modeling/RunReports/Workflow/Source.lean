import RunReports.Engine.Client
import RunReports.Workflow.Packaged

/-! # Workflow sources

The source that is submitted: what stands at a configured URL, else the packaged one. Either
has to declare the workflow. -/
namespace RunReports.Workflow

open RunReports RunReports.Http

def checked {σ : Type} (source : String) : Action σ String :=
  match validate source with
  | .error fault => throw (.report (.workflow fault))
  | .ok s => pure s

/-- The URL that is asked for a source. A text that names no host is looked up at the root. -/
def sourceUrl (text : String) : Except UrlFault Url := do
  let base ← Url.read ""
  base.resolve text

def readSource (text : String) (sent : Url) : Outcome → Except Failure String
  | .failed description => .error (.report (.fetch text (.unreachable description)))
  | .answered r =>
    if isSuccess r.status then r.text.mapError .foreignText
    else .error (.report (.fetch text (.refused r.status sent.text)))

/-- Fetch a source. -/
def fetch {σ : Type} (exchange : Engine.Exchange σ) (text : String) : Action σ String := do
  let url ← Engine.target (sourceUrl text)
  match readSource text url (← Engine.send exchange (.get url)) with
  | .error failure => throw failure
  | .ok source => checked source

/-- The source to submit: from the configured URL, or the packaged one. -/
def resolve {σ : Type} (exchange : Engine.Exchange σ) (url : Option String) : Action σ String :=
  match url with
  | none => checked packagedSource
  | some text => if text.isEmpty then checked packagedSource else fetch exchange text

end RunReports.Workflow
