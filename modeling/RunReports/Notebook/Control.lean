import RunReports.Notebook.Document

/-! # Control blocks

A control block is a code cell that sets one of the control variables before any other code.
The first line that is neither blank nor a comment decides; a comment starts in column zero.
A code cell whose source is one joined text cannot be judged, which is a fault. -/
namespace RunReports.Notebook

open RunReports.Text

def controlVariables : List String := ["report_download_results", "report_download_inputs"]

def startsWith (start : List Char) (s : List Char) : Bool := start.isPrefixOf s

def setsControl (line : String) : Bool :=
  controlVariables.any fun name => startsWith name.toList line.toList

/-- Whether a line holds no code: it is blank, or a comment from column zero on. -/
def isSkipped (line : String) : Bool := isBlankText line || startsWith ['#'] line.toList

/-- Whether lines set a control variable before any other code. -/
def setsControlFirst : List String → Bool
  | [] => false
  | line :: rest => setsControl line || (isSkipped line && setsControlFirst rest)

def Cell.isControlBlock : Cell → Except Fault Bool
  | .code content _ =>
    match content.source with
    | none => .ok false
    | some (.text _) => .error .joinedSource
    | some (.lines ls) => .ok (setsControlFirst ls)
  | _ => .ok false

def isControlBlock (v : Json) : Except Fault Bool := do
  let cell ← (Cell.read v).mapError Fault.cell
  cell.isControlBlock

end RunReports.Notebook
