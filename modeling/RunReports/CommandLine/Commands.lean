import RunReports.CommandLine.Help
import RunReports.Json.Writer
import RunReports.Report.Refresh
import RunReports.Text.Lines

/-! # Commands

The four commands: create one report on a run, create all reports of a finished run, refresh
the reports on a run, and update a report definition. A command prints one line of JSON in
ASCII, or its help if that is what it was asked for. It exits with zero if it did what it was
asked for, with one after a report error, and with two, printing nothing, if its command line
makes no sense. What a command leaves pending in the session is dropped at its end. -/
namespace RunReports.CommandLine

open RunReports RunReports.Report RunReports.Store RunReports.Text

inductive Command
  | create
  | createAll
  | refresh
  | update
  deriving Repr, DecidableEq

def Command.name : Command → String
  | .create => "create_run_report"
  | .createAll => "generate_completed_run_reports"
  | .refresh => "refresh_run_reports"
  | .update => "update_report"

def Command.ofName? (name : String) : Option Command :=
  [Command.create, .createAll, .refresh, .update].find? fun c => c.name = name

def Command.description : Command → String
  | .create => "Create and submit a run report."
  | .createAll => "Create run reports for a finished run."
  | .refresh => "Refresh run report statuses from the job engine."
  | .update => "Update a report definition."

def Command.usages : Command → List Usage
  | .create =>
    [⟨"--run-id", false, true, "Run to report on."⟩,
      ⟨"--report-id", false, true, "Report definition to generate."⟩,
      ⟨"--created-by", false, false, "User credited with the run report."⟩,
      ⟨"--delete-failed", true, false,
        "Replace an existing failed run report for the same run and report."⟩]
  | .createAll => [⟨"--run-id", false, true, "Finished run to report on."⟩]
  | .refresh =>
    [⟨"--run-id", false, true, "Run whose reports to refresh."⟩,
      ⟨"--report-id", false, false, "Only refresh this report."⟩]
  | .update =>
    [⟨"--report-id", false, true, "Report to update."⟩,
      ⟨"--name", false, false, "New report name."⟩,
      ⟨"--description", false, false, "New report description."⟩,
      ⟨"--notebook-file", false, false, "Path to the new template notebook (.ipynb)."⟩,
      ⟨"--config-file", false, false, "Path to the new runtime config JSON object."⟩]

def Command.help (c : Command) : String := helpText c.name c.description c.usages

/-- How a command ends: its exit code and what it prints. -/
structure Ending where
  code : Nat
  output : String
  deriving Repr, DecidableEq

def line (v : Json) : String := v.compactAscii ++ "\n"

/-- The ending of a command that did what it was asked for. -/
def succeededWith (fields : Json.Fields) : Ending := ⟨0, line (.obj fields)⟩

def errorJson (e : ReportError) : Json :=
  .obj [("kind", .str e.kind.tag), ("transient", .bool e.isTransient), ("detail", .str e.message)]

def failedWith (subject : Json.Fields) (e : ReportError) : Ending :=
  ⟨1, line (.obj (("status", .str "failed") :: subject ++ [("error", errorJson e)]))⟩

/-- A way to read files: the bytes at a path, or the description of the fault. -/
abbrev FileReader (σ : Type) := String → StateM (World σ) (Except String (List UInt8))

/-- A value of an option without blanks around it; empty where the option is not given. -/
def trimmed (values : List (String × String)) (name : String) : String :=
  trimText ((values.lookup name).getD "")

/-- A value of an option without blanks around it, unless nothing is left. -/
def trimmed? (values : List (String × String)) (name : String) : Option String :=
  let s := trimmed values name
  if s.isEmpty then none else some s

def recordJson {σ : Type} (r : RunReport) : Action σ Json :=
  match Report.toJson? r with
  | some v => pure v
  | none => throw .outsideCalendar

def recordsJson {σ : Type} (rs : List RunReport) : Action σ Json := do
  pure (.arr (← rs.mapM recordJson))

/-- End with what an action makes, or after its report error with a description of it. -/
def ending {σ : Type} (subject : Json.Fields) (a : Action (World σ) Json.Fields) :
    Action (World σ) Ending :=
  tryCatch (do pure (succeededWith (← a))) fun failure =>
    match failure with
    | .report e => pure (failedWith subject e)
    | failure => throw failure

def runCreate {σ : Type} (s : Services σ) (g : Generator) (values : List (String × String)) :
    Action (World σ) Ending :=
  let runId := trimmed values "--run-id"
  let reportId := trimmed values "--report-id"
  ending [("run_id", .str runId), ("report_id", .str reportId)] do
    let record ← create s g runId reportId (trimmed? values "--created-by")
      (values.lookup "--delete-failed").isSome
    pure [("status", .str "created"), ("run_report", ← recordJson record)]

def runCreateAll {σ : Type} (s : Services σ) (g : Generator) (values : List (String × String)) :
    Action (World σ) Ending :=
  let runId := trimmed values "--run-id"
  ending [("run_id", .str runId)] do
    let run ← onSession (Run.load runId)
    let records ← createAll s g run
    pure [("status", .str "created"), ("run_id", .str runId),
      ("run_reports", ← recordsJson records)]

def runRefresh {σ : Type} (s : Services σ) (g : Generator) (values : List (String × String)) :
    Action (World σ) Ending :=
  let runId := trimmed values "--run-id"
  ending [("run_id", .str runId)] do
    let records ←
      match trimmed? values "--report-id" with
      | some reportId => do pure [← refresh s g runId reportId]
      | none => refreshAll s g runId
    pure [("status", .str "refreshed"), ("run_id", .str runId),
      ("run_reports", ← recordsJson records)]

/-- The text of a file: its bytes decoded, and its line ends as line feeds. -/
def fileText (bytes : List UInt8) : Except Json.ReadFault String :=
  match decodeUtf8 bytes with
  | .ok s => .ok (String.ofList (normalizeNewlines s))
  | .error f => .error (.undecodable f)

/-- Read the JSON file that an option names; no file name stands for null. -/
def readJsonFile {σ : Type} (fileReader : FileReader σ) (what path : String) :
    Action (World σ) Json := do
  let place := what ++ " at " ++ path
  if path.isEmpty then pure .null
  else if Storage.hasNull path then throw (.report (.noPath place))
  else
    match ← fileReader path with
    | .error description => throw (.report (.localFile description))
    | .ok bytes =>
      match fileText bytes >>= Json.read with
      | .ok v => pure v
      | .error fault => throw (.ofReading (fun fault => .report (.notJson place fault)) fault)

def runUpdate {σ : Type} (fileReader : FileReader σ) (values : List (String × String)) :
    Action (World σ) Ending :=
  let reportId := trimmed values "--report-id"
  ending [("report_id", .str reportId)] do
    let notebook ← readJsonFile fileReader "notebook file"
      ((values.lookup "--notebook-file").getD "")
    let config ← readJsonFile fileReader "config file" ((values.lookup "--config-file").getD "")
    let row ← onSession (revise reportId
      ⟨trimmed? values "--name", values.lookup "--description", notebook, config⟩)
    pure [("status", .str "updated"), ("report_id", .str row.id), ("name", .str row.name)]

def Command.files (c : Command) (words : List String) : List String :=
  match parse c.usages words with
  | .values values => ["--notebook-file", "--config-file"].filterMap fun name => values.lookup name
  | _ => []

def Command.run {σ : Type} (s : Services σ) (fileReader : FileReader σ) (g : Generator)
    (values : List (String × String)) : Command → Action (World σ) Ending
  | .create => runCreate s g values
  | .createAll => runCreateAll s g values
  | .refresh => runRefresh s g values
  | .update => runUpdate fileReader values

/-- Drop what is pending in the session, whether an action fails or not. -/
def closing {σ α : Type} (a : Action (World σ) α) : Action (World σ) α := fun w =>
  let (result, w) := a.run w
  (result, { w with session := w.session.rollback })

def Command.start {σ : Type} (s : Services σ) (fileReader : FileReader σ) (g : Generator)
    (c : Command) (words : List String) : Action (World σ) Ending :=
  match parse c.usages words with
  | .invalid => pure ⟨2, ""⟩
  | .help => pure ⟨0, c.help⟩
  | .values values => closing (c.run s fileReader g values)

end RunReports.CommandLine
