import RunReports.Json.Plain
import RunReports.Literal.Inline
import RunReports.Notebook.Integer

/-! # Notebook cells

A cell is code, markdown or raw text. All three have metadata and a source; a code cell also
has an execution count and outputs. Every declared field may be missing, and a missing field
stays missing when the cell is written. Members that are not declared are kept in the order
they were given. `Cell.read` checks a value in a fixed order and reports the first fault;
`Cell.toJson` writes the declared members first. -/
namespace RunReports.Notebook

open RunReports

/-- The source of a cell: one text, or a list of lines. Both forms are kept as given. -/
inductive Source
  | text (s : String)
  | lines (ls : List String)
  deriving Repr, DecidableEq

structure Content where
  metadata : Option Json.Fields
  source : Option Source
  extras : Json.Fields
  deriving Repr

/-- What only code cells have: the execution count, which may be given as null, and the
outputs. -/
structure Execution where
  count : Option (Option Int)
  outputs : Option (List Json)
  deriving Repr

/-- A notebook cell. -/
inductive Cell
  | code (content : Content) (execution : Execution)
  | markdown (content : Content)
  | raw (content : Content)
  deriving Repr

inductive CellKind
  | code
  | markdown
  | raw
  deriving Repr, DecidableEq

def CellKind.name : CellKind → String
  | .code => "code"
  | .markdown => "markdown"
  | .raw => "raw"

def CellKind.ofName? (name : String) : Option CellKind :=
  [CellKind.code, .markdown, .raw].find? fun k => k.name = name

def Cell.kind : Cell → CellKind
  | .code .. => .code
  | .markdown _ => .markdown
  | .raw _ => .raw

def Cell.content : Cell → Content
  | .code content _ => content
  | .markdown content => content
  | .raw content => content

inductive CellFault
  | notObject
  | sourceForm
  | sourceLine
  | kindMissing
  | kindUnknown (shown : String)
  | metadataForm (kind : CellKind)
  | executionCount (fault : IntegerFault)
  | outputsForm
  deriving Repr, DecidableEq

def malformedCell (text : String) : String := "Malformed notebook cell (" ++ text ++ ")"

def CellFault.message : CellFault → String
  | .notObject => "Failed to parse element in cells array of notebook as object"
  | .sourceForm => "Failed to parse source value in cell as an array or string"
  | .sourceLine => "Failed to parse contents of cell's source array as strings"
  | .kindMissing => malformedCell "Unable to extract tag using discriminator 'cell_type'"
  | .kindUnknown shown =>
    malformedCell ("Input tag '" ++ shown ++ "' found using 'cell_type' does not match any of " ++
      "the expected tags: 'code', 'markdown', 'raw'")
  | .metadataForm kind =>
    malformedCell (kind.name ++ ".metadata: Input should be a valid dictionary")
  | .executionCount fault => malformedCell ("code.execution_count: " ++ fault.message)
  | .outputsForm => malformedCell "code.outputs: Input should be a valid list"

def readTexts? : List Json → Option (List String)
  | [] => some []
  | .str s :: rest => (readTexts? rest).map (s :: ·)
  | _ :: _ => none

def readSource : Option Json → Except CellFault (Option Source)
  | none => .ok none
  | some (.str s) => .ok (some (.text s))
  | some (.arr items) =>
    match readTexts? items with
    | some ls => .ok (some (.lines ls))
    | none => .error .sourceLine
  | some _ => .error .sourceForm

def readKind : Option Json → Except CellFault CellKind
  | none => .error .kindMissing
  | some (.str s) =>
    match CellKind.ofName? s with
    | some kind => .ok kind
    | none => .error (.kindUnknown s)
  | some v => .error (.kindUnknown (Literal.display v))

/-- Read a member that has to be an object where it is given. -/
def readObject? : Option Json → Option (Option Json.Fields)
  | none => some none
  | some (.obj fields) => some (some fields)
  | some _ => none

def readCount : Option Json → Except CellFault (Option (Option Int))
  | none => .ok none
  | some .null => .ok (some none)
  | some v =>
    match readInteger v with
    | .ok n => .ok (some (some n))
    | .error fault => .error (.executionCount fault)

def readOutputs : Option Json → Except CellFault (Option (List Json))
  | none => .ok none
  | some (.arr items) => .ok (some items)
  | some _ => .error .outputsForm

def CellKind.declared : CellKind → List String
  | .code => ["metadata", "source", "cell_type", "execution_count", "outputs"]
  | _ => ["metadata", "source", "cell_type"]

def Cell.read : Json → Except CellFault Cell
  | .obj fields => do
    let source ← readSource (Json.Fields.get? "source" fields)
    let kind ← readKind (Json.Fields.get? "cell_type" fields)
    match readObject? (Json.Fields.get? "metadata" fields) with
    | none => .error (.metadataForm kind)
    | some metadata =>
      let content : Content := ⟨metadata, source, Json.Fields.without kind.declared fields⟩
      match kind with
      | .code =>
        let count ← readCount (Json.Fields.get? "execution_count" fields)
        let outputs ← readOutputs (Json.Fields.get? "outputs" fields)
        .ok (.code content ⟨count, outputs⟩)
      | .markdown => .ok (.markdown content)
      | .raw => .ok (.raw content)
  | _ => .error .notObject

def member (name : String) : Option Json → Json.Fields
  | none => []
  | some v => [(name, v)]

def ofInt? : Option Int → Json
  | none => .null
  | some n => .int n

def Source.toJson : Source → Json
  | .text s => .str s
  | .lines ls => .arr (ls.map .str)

def Content.members (content : Content) (kind : CellKind) : Json.Fields :=
  member "metadata" (content.metadata.map fun fields => .obj (Json.plainFields fields)) ++
    member "source" (content.source.map Source.toJson) ++ [("cell_type", .str kind.name)]

def Execution.members (execution : Execution) : Json.Fields :=
  member "execution_count" (execution.count.map ofInt?) ++
    member "outputs" (execution.outputs.map fun items => .arr (Json.plainItems items))

def Cell.members (cell : Cell) : Json.Fields :=
  cell.content.members cell.kind ++
    (match cell with
      | .code _ execution => execution.members
      | _ => []) ++
    Json.plainFields cell.content.extras

def Cell.toJson (cell : Cell) : Json := .obj cell.members

/-- A code cell that has not run yet, with the given lines. -/
def Cell.ofLines (ls : List String) : Cell :=
  .code ⟨some [], some (.lines ls), []⟩ ⟨some none, some []⟩

end RunReports.Notebook
