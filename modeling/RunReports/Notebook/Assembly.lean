import RunReports.Literal.Layout
import RunReports.Notebook.Builtin
import RunReports.Notebook.Control
import RunReports.Notebook.File
import RunReports.Run.Snapshot

/-! # Assembled notebooks

The notebook that is executed to make a report: a cell that binds the run data, a control
block, the built-in cells at the front, the cells of the template in their order, and the
built-in tables at the end. If the first cell of the template is a control block it takes the
place of the default one. -/
namespace RunReports.Notebook

open RunReports RunReports.Text

def runDataVariable : String := "report_run_data"

/-- The source lines of an assignment of a value to the run data variable. -/
def runDataLines (data : Json) : List String :=
  sourceLines (runDataVariable ++ " = " ++ String.ofList (Literal.layout 0 0 data))

def runDataCell (data : Json) : Cell := Cell.ofLines (runDataLines data)

/-- Why a run cannot be bound in a notebook: its report data nest too deep, or they hold a whole
number with more digits than can be written. -/
inductive RunDataFault
  | depth
  | digits
  deriving Repr, DecidableEq

def RunDataFault.message : RunDataFault → String
  | .depth => depthMessage
  | .digits => Json.digitsMessage

/-- The report data of a run, where they can be written as a literal. -/
def writableData (run : Run.Snapshot) : Except RunDataFault Json :=
  match run.reportData? with
  | none => .error .depth
  | some data => if data.isShort then .ok data else .error .digits

/-- The cells of a report: those of the template between the built-in ones. -/
def assembleCells (data : Json) (control : Cell) (template : List Cell) : List Cell :=
  [runDataCell data, control, runMetadataCell, fileDownloadCell] ++ template ++ [runTablesCell]

/-- Why no report can be assembled: the template is at fault, or the run. -/
inductive AssemblyFault
  | template (fault : Fault)
  | runData (fault : RunDataFault)
  deriving Repr, DecidableEq

def Document.hasControlBlock (d : Document) : Except Fault Bool :=
  match d.cells with
  | [] => .ok false
  | first :: _ => first.isControlBlock

/-- Put the run data and the built-in cells around the cells of a template. -/
def Document.assembleWith (d : Document) (hasControl : Bool) (data : Json) : Document :=
  match hasControl, d.cells with
  | true, first :: rest => { d with cells := assembleCells data first rest }
  | _, cells => { d with cells := assembleCells data defaultControlCell cells }

/-- Assemble the report of a run from a template. -/
def assemble (template : Json) (run : Run.Snapshot) : Except AssemblyFault Document := do
  let d ← (Document.read template).mapError .template
  let hasControl ← d.hasControlBlock.mapError .template
  let data ← (writableData run).mapError .runData
  .ok (d.assembleWith hasControl data)

end RunReports.Notebook
