import RunReports.Json.Bytes
import RunReports.Json.Writer
import RunReports.Notebook.Document
import RunReports.Text.Utf8

/-! # Notebook files

A notebook as the text of a file: JSON over several lines, with a line feed at the end. A
notebook that nests too deep has no such text. -/
namespace RunReports.Notebook

open RunReports RunReports.Text

def depthMessage : String := "Maximum serialization depth exceeded"

/-- A notebook as a value, where it does not nest too deep. -/
def Document.dump? (d : Document) : Option Json :=
  if d.toJson.isShallow then some d.toJson else none

/-- A cell as a value, where it does not nest too deep. -/
def Cell.dump? (cell : Cell) : Option Json :=
  if cell.toJson.isShallow then some cell.toJson else none

def Document.fileText? (d : Document) : Option String :=
  d.dump?.map fun v => v.indented ++ "\n"

def Document.serialize? (d : Document) : Option (List UInt8) := d.fileText?.map utf8

inductive FileFault
  | notJson (fault : Json.ReadFault)
  | notNotebook (fault : Fault)
  deriving Repr, DecidableEq

inductive FileContent
  | text (s : String)
  | bytes (bs : List UInt8)
  deriving Repr

def FileContent.readJson : FileContent → Except Json.ReadFault Json
  | .text s => Json.read s
  | .bytes bs => Json.readBytes bs

def Document.deserialize (content : FileContent) : Except FileFault Document := do
  let v ← content.readJson.mapError .notJson
  (Document.read v).mapError .notNotebook

end RunReports.Notebook
