import RunReports.Notebook.Cell

/-! # Notebook documents

A notebook is a list of cells that is not empty, metadata, a format number and a minor format
number. All but the cells may be missing, and what is missing stays missing when the notebook
is written. A fault of a cell is reported before any fault of the notebook around it, and of
several faulty cells the first one counts. -/
namespace RunReports.Notebook

open RunReports

/-- A notebook. -/
structure Document where
  cells : List Cell
  metadata : Option Json.Fields
  format : Option Int
  formatMinor : Option Int
  extras : Json.Fields
  deriving Repr

/-- Why a value is no notebook that a report can be made of. -/
inductive Fault
  | notObject
  | cellsMissing
  | cellsForm
  | cellsEmpty
  | cell (fault : CellFault)
  | metadataForm
  | format (fault : IntegerFault)
  | formatMinor (fault : IntegerFault)
  | joinedSource
  deriving Repr, DecidableEq

def malformedNotebook (text : String) : String := "Malformed notebook (" ++ text ++ ")"

def Fault.message : Fault → String
  | .notObject => "Failed to parse notebook as JSON object"
  | .cellsMissing => "Failed to get cells array from notebook"
  | .cellsForm => "Cells value in notebook not formatted as array"
  | .cellsEmpty => "Notebook \"cells\" array is empty"
  | .cell fault => fault.message
  | .metadataForm => malformedNotebook "metadata: Input should be a valid dictionary"
  | .format fault => malformedNotebook ("nbformat: " ++ fault.message)
  | .formatMinor fault => malformedNotebook ("nbformat_minor: " ++ fault.message)
  | .joinedSource => "Failed to parse source value in cell as an array"

def readCells : List Json → Except Fault (List Cell)
  | [] => .ok []
  | v :: rest => do
    let cell ← (Cell.read v).mapError Fault.cell
    let cells ← readCells rest
    .ok (cell :: cells)

def readFormat (fault : IntegerFault → Fault) : Option Json → Except Fault (Option Int)
  | none => .ok none
  | some v =>
    match readInteger v with
    | .ok n => .ok (some n)
    | .error f => .error (fault f)

def Document.declared : List String := ["cells", "metadata", "nbformat", "nbformat_minor"]

def readCellsMember (fields : Json.Fields) : Except Fault (List Cell) :=
  match Json.Fields.get? "cells" fields with
  | none => .error .cellsMissing
  | some (.arr []) => .error .cellsEmpty
  | some (.arr items) => readCells items
  | some _ => .error .cellsForm

def Document.read : Json → Except Fault Document
  | .obj fields => do
    let cells ← readCellsMember fields
    match readObject? (Json.Fields.get? "metadata" fields) with
    | none => .error .metadataForm
    | some metadata =>
      let format ← readFormat .format (Json.Fields.get? "nbformat" fields)
      let formatMinor ← readFormat .formatMinor (Json.Fields.get? "nbformat_minor" fields)
      .ok ⟨cells, metadata, format, formatMinor, Json.Fields.without Document.declared fields⟩
  | _ => .error .notObject

def Document.members (d : Document) : Json.Fields :=
  [("cells", Json.arr (d.cells.map Cell.toJson))] ++
    member "metadata" (d.metadata.map fun fields => .obj (Json.plainFields fields)) ++
    member "nbformat" (d.format.map .int) ++ member "nbformat_minor" (d.formatMinor.map .int) ++
    Json.plainFields d.extras

def Document.toJson (d : Document) : Json := .obj d.members

end RunReports.Notebook
