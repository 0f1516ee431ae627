import RunReports.Json.Value
import RunReports.Workflow.Declaration

/-! # Workflow inputs

The inputs of the report workflow: the location of the notebook and of the image always, and
those runtime attributes of a report's configuration that are on the list. All other members
of the configuration are left out. -/
namespace RunReports.Workflow

open RunReports

inductive InputsFault
  | templateMissing
  | imageMissing
  | configForm
  deriving Repr, DecidableEq

def InputsFault.message : InputsFault → String
  | .templateMissing => "Report template location is required"
  | .imageMissing => "Report job image location is required"
  | .configForm => "Failed to parse report config as object"

def runtimeAttributes : List String :=
  ["cpu", "memory", "disks", "maxRetries", "continueOnReturnCode", "failOnStdErr", "preemptible",
    "bootDiskSizeGb", "docker"]

def qualified (name : String) : String := workflowName ++ "." ++ name

def notebookInput : String := qualified "notebook_template"

def imageInput : String := qualified "docker"

def attributeInput (namespaced : Bool) (name : String) : String :=
  if namespaced then qualified name else name

def copyAttribute (namespaced : Bool) (config inputs : Json.Fields) (name : String) :
    Json.Fields :=
  match Json.Fields.get? name config with
  | none => inputs
  | some v => Json.Fields.set (attributeInput namespaced name) v inputs

def requiredInputs (template image : String) : Json.Fields :=
  [(notebookInput, .str template), (imageInput, .str image)]

/-- The inputs of the workflow; a configuration that is null counts as none. -/
def buildInputs (namespaced : Bool) (template image : String) (config : Json) :
    Except InputsFault Json.Fields :=
  if template.isEmpty then .error .templateMissing
  else if image.isEmpty then .error .imageMissing
  else
    match config with
    | .null => .ok (requiredInputs template image)
    | .obj fields =>
      .ok (runtimeAttributes.foldl (copyAttribute namespaced fields)
        (requiredInputs template image))
    | _ => .error .configForm

end RunReports.Workflow
