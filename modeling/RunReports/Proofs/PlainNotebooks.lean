import RunReports.Proofs.Documents
import RunReports.Proofs.JsonBytes

/-! # Plain notebooks

What is written of a notebook is what is written of its plain form, in which the free-form values
hold finite numbers only. A written notebook is read as this plain form, whatever numbers it
held. So the plain form is all that a file keeps of a notebook. -/
namespace RunReports

namespace Json

theorem plainFields_plainFields (fields : Fields) :
    plainFields (plainFields fields) = plainFields fields :=
  plainFields_of_allFinite (allFinite_plainFields fields)

theorem plainItems_plainItems (items : List Json) :
    plainItems (plainItems items) = plainItems items :=
  plainItems_of_allFinite (allFinite_plainItems items)

end Json

namespace Notebook

variable {cell : Cell} {d : Document} {fields : Json.Fields}

/-! ## Plain forms -/

def Content.plain (content : Content) : Content where
  metadata := content.metadata.map Json.plainFields
  source := content.source
  extras := Json.plainFields content.extras

def Execution.plain (execution : Execution) : Execution where
  count := execution.count
  outputs := execution.outputs.map Json.plainItems

def Cell.plain : Cell → Cell
  | .code content execution => .code content.plain execution.plain
  | .markdown content => .markdown content.plain
  | .raw content => .raw content.plain

def Document.plain (d : Document) : Document where
  cells := d.cells.map Cell.plain
  metadata := d.metadata.map Json.plainFields
  format := d.format
  formatMinor := d.formatMinor
  extras := Json.plainFields d.extras

@[simp] theorem Cell.kind_plain (cell : Cell) : cell.plain.kind = cell.kind := by
  cases cell <;> rfl

@[simp] theorem Cell.content_plain (cell : Cell) : cell.plain.content = cell.content.plain := by
  cases cell <;> rfl

theorem Content.members_plain (content : Content) (kind : CellKind) :
    content.plain.members kind = content.members kind := by
  obtain ⟨metadata, source, extras⟩ := content
  cases metadata <;> simp [Content.members, Content.plain, Json.plainFields_plainFields]

theorem Execution.members_plain (execution : Execution) :
    execution.plain.members = execution.members := by
  obtain ⟨count, outputs⟩ := execution
  cases outputs <;> simp [Execution.members, Execution.plain, Json.plainItems_plainItems]

/-- A cell is written as its plain form is. -/
theorem Cell.toJson_plain (cell : Cell) : cell.plain.toJson = cell.toJson := by
  have extras : Json.plainFields cell.content.plain.extras = Json.plainFields cell.content.extras :=
    Json.plainFields_plainFields _
  rw [Cell.toJson, Cell.toJson, Cell.members.eq_def, Cell.members.eq_def, Cell.kind_plain,
    Cell.content_plain, Content.members_plain, extras]
  cases cell with
  | code content execution => simp only [Cell.plain, Execution.members_plain]
  | markdown content => rfl
  | raw content => rfl

/-- A notebook is written as its plain form is. -/
theorem Document.toJson_plain (d : Document) : d.plain.toJson = d.toJson := by
  obtain ⟨cells, metadata, format, formatMinor, extras⟩ := d
  have written : (cells.map Cell.plain).map Cell.toJson = cells.map Cell.toJson := by
    rw [List.map_map]
    exact List.map_congr_left fun cell _ => cell.toJson_plain
  cases metadata <;>
    simp only [Document.toJson, Document.members, Document.plain, written, Option.map_some,
      Option.map_none, Json.plainFields_plainFields]

theorem Document.dump?_plain (d : Document) : d.plain.dump? = d.dump? := by
  rw [Document.dump?, Document.dump?, Document.toJson_plain]

theorem Document.serialize?_plain (d : Document) : d.plain.serialize? = d.serialize? := by
  rw [Document.serialize?, Document.serialize?, Document.fileText?, Document.fileText?,
    Document.dump?_plain]

/-! ## What is written for a name -/

def Cell.execution? : Cell → Option Execution
  | .code _ execution => some execution
  | _ => none

def Cell.written? (cell : Cell) : String → Option Json
  | "metadata" => cell.content.metadata.map fun fields => .obj (Json.plainFields fields)
  | "source" => cell.content.source.map Source.toJson
  | "cell_type" => some (.str cell.kind.name)
  | "execution_count" => cell.execution?.bind fun execution => execution.count.map ofInt?
  | "outputs" => cell.execution?.bind fun execution =>
    execution.outputs.map fun items => .arr (Json.plainItems items)
  | _ => none

def Document.written? (d : Document) : String → Option Json
  | "cells" => some (.arr (d.cells.map Cell.toJson))
  | "metadata" => d.metadata.map fun fields => .obj (Json.plainFields fields)
  | "nbformat" => d.format.map .int
  | "nbformat_minor" => d.formatMinor.map .int
  | _ => none

theorem Cell.members_eq (cell : Cell) : cell.members =
    declaredFirst cell.kind.declared cell.written? (Json.plainFields cell.content.extras) := by
  cases cell with
  | code content execution =>
    simp [Cell.members, Content.members, Execution.members, declaredFirst, CellKind.declared,
      Cell.kind, Cell.written?, Cell.content, Cell.execution?, member]
  | markdown content | raw content =>
    simp [Cell.members, Content.members, declaredFirst, CellKind.declared, Cell.kind,
      Cell.written?, Cell.content, member]

theorem Document.members_eq (d : Document) : d.members =
    declaredFirst Document.declared d.written? (Json.plainFields d.extras) := by
  simp [Document.members, declaredFirst, Document.declared, Document.written?, member]

/-- Other cells in a notebook change one of its members. -/
theorem Document.exists_members_cells (d : Document) : ∃ others, ∀ cells,
    Document.members { d with cells := cells } =
      ("cells", .arr (cells.map Cell.toJson)) :: others := by
  refine ⟨member "metadata" (d.metadata.map fun fields => .obj (Json.plainFields fields)) ++
    member "nbformat" (d.format.map .int) ++ member "nbformat_minor" (d.formatMinor.map .int) ++
    Json.plainFields d.extras, fun cells => ?_⟩
  simp [Document.members]

section
variable {P : Json → Prop}

/-- What holds of each value that a cell holds, as it is written, holds of all its members. -/
theorem Cell.forall_members
    (metadata : ∀ m ∈ cell.content.metadata, P (.obj (Json.plainFields m)))
    (source : ∀ s ∈ cell.content.source, P s.toJson) (kind : P (.str cell.kind.name))
    (count : ∀ e ∈ cell.execution?, ∀ n ∈ e.count, P (ofInt? n))
    (outputs : ∀ e ∈ cell.execution?, ∀ items ∈ e.outputs, P (.arr (Json.plainItems items)))
    (extras : ∀ f ∈ Json.plainFields cell.content.extras, P f.2) : ∀ f ∈ cell.members, P f.2 := by
  intro f there
  rw [Cell.members_eq, mem_declaredFirst] at there
  rcases there with ⟨-, written⟩ | other
  · unfold Cell.written? at written
    split at written
    · obtain ⟨m, given, same⟩ := Option.map_eq_some_iff.mp written
      exact same ▸ metadata m given
    · obtain ⟨s, given, same⟩ := Option.map_eq_some_iff.mp written
      exact same ▸ source s given
    · exact Option.some.inj written ▸ kind
    · obtain ⟨e, code, counted⟩ := Option.bind_eq_some_iff.mp written
      obtain ⟨n, given, same⟩ := Option.map_eq_some_iff.mp counted
      exact same ▸ count e code n given
    · obtain ⟨e, code, put⟩ := Option.bind_eq_some_iff.mp written
      obtain ⟨items, given, same⟩ := Option.map_eq_some_iff.mp put
      exact same ▸ outputs e code items given
    · cases written
  · exact extras f other

/-- What holds of each value that a notebook holds, as it is written, holds of all its members. -/
theorem Document.forall_members (cells : P (.arr (d.cells.map Cell.toJson)))
    (metadata : ∀ m ∈ d.metadata, P (.obj (Json.plainFields m)))
    (format : ∀ n ∈ d.format, P (.int n)) (formatMinor : ∀ n ∈ d.formatMinor, P (.int n))
    (extras : ∀ f ∈ Json.plainFields d.extras, P f.2) : ∀ f ∈ d.members, P f.2 := by
  intro f there
  rw [Document.members_eq, mem_declaredFirst] at there
  rcases there with ⟨-, written⟩ | other
  · unfold Document.written? at written
    split at written
    · exact Option.some.inj written ▸ cells
    · obtain ⟨m, given, same⟩ := Option.map_eq_some_iff.mp written
      exact same ▸ metadata m given
    · obtain ⟨n, given, same⟩ := Option.map_eq_some_iff.mp written
      exact same ▸ format n given
    · obtain ⟨n, given, same⟩ := Option.map_eq_some_iff.mp written
      exact same ▸ formatMinor n given
    · cases written
  · exact extras f other

end

/-- What is written of a cell holds finite numbers only. -/
theorem Cell.allFinite_toJson (cell : Cell) : Json.AllFinite cell.toJson := by
  refine Json.allFiniteFields_iff.mpr (Cell.forall_members ?_ ?_ trivial ?_ ?_ ?_)
  · exact fun m _ => Json.allFinite_plainFields m
  · rintro (s | ls) -
    · trivial
    · exact Json.allFiniteItems_iff.mpr (by simp [Json.AllFinite])
  · rintro e - (_ | n) - <;> trivial
  · exact fun e _ items _ => Json.allFinite_plainItems items
  · exact Json.allFiniteFields_iff.mp (Json.allFinite_plainFields _)

/-- What is written of a notebook holds finite numbers only. -/
theorem Document.allFinite_toJson (d : Document) : Json.AllFinite d.toJson := by
  refine Json.allFiniteFields_iff.mpr (Document.forall_members ?_ ?_ ?_ ?_ ?_)
  · refine Json.allFiniteItems_iff.mpr fun v written => ?_
    obtain ⟨cell, -, rfl⟩ := List.mem_map.mp written
    exact cell.allFinite_toJson
  · exact fun m _ => Json.allFinite_plainFields m
  · exact fun n _ => trivial
  · exact fun n _ => trivial
  · exact Json.allFiniteFields_iff.mp (Json.allFinite_plainFields _)

/-! ## Written notebooks read back -/

def Cell.IsApart (cell : Cell) : Prop := ∀ f ∈ cell.content.extras, f.1 ∉ cell.kind.declared

/-- A notebook has cells, and no undeclared member of it or of a cell has a declared name. -/
structure Document.IsApart (d : Document) : Prop where
  ne : d.cells ≠ []
  cells : ∀ cell ∈ d.cells, cell.IsApart
  extras : ∀ f ∈ d.extras, f.1 ∉ Document.declared

theorem apart_plainFields {names : List String} (apart : ∀ f ∈ fields, f.1 ∉ names) :
    ∀ f ∈ Json.plainFields fields, f.1 ∉ names := by
  intro f there
  have named : f.1 ∈ fields.map Prod.fst := by
    rw [← Json.names_plainFields]
    exact List.mem_map_of_mem there
  obtain ⟨g, given, same⟩ := List.mem_map.mp named
  exact same ▸ apart g given

theorem Cell.apart_of_read (read : Cell.read (.obj fields) = .ok cell) : cell.IsApart := by
  rw [Cell.IsApart, (Cell.read_iff.mp read).extras]
  exact apart_without cell.kind.declared fields

theorem Cell.apart_ofLines (ls : List String) : (Cell.ofLines ls).IsApart := by
  intro f no
  cases no

theorem Document.apart_of_read (read : Document.read (.obj fields) = .ok d) : d.IsApart := by
  obtain ⟨cells, -, -, -, extras⟩ := Document.read_iff.mp read
  obtain ⟨stored, -, ne, reads⟩ := readCellsMember_given cells
  refine ⟨?_, ?_, ?_⟩
  · intro none
    rw [none] at reads
    cases reads
    exact ne rfl
  · exact forall_cells reads fun _ _ _ read => Cell.apart_of_read read
  · rw [extras]
    exact apart_without Document.declared fields

theorem source_written (source : Option Source) :
    readSource (source.map Source.toJson) = .ok source := by
  rcases source with _ | s | ls
  · rfl
  · rfl
  · rw [Option.map_some, Source.toJson, readSource, texts_written]

theorem kind_written (kind : CellKind) : readKind (some (.str kind.name)) = .ok kind := by
  cases kind <;> rfl

theorem object_written (m : Option Json.Fields) :
    readObject? (m.map fun fields => .obj (Json.plainFields fields)) =
      some (m.map Json.plainFields) := by
  cases m <;> rfl

theorem count_written (count : Option (Option Int)) : readCount (count.map ofInt?) = .ok count := by
  rcases count with _ | _ | n <;> rfl

theorem outputs_written (outputs : Option (List Json)) :
    readOutputs (outputs.map fun items => .arr (Json.plainItems items)) =
      .ok (outputs.map Json.plainItems) := by
  cases outputs <;> rfl

theorem format_written (fault : IntegerFault → Fault) (format : Option Int) :
    readFormat fault (format.map .int) = .ok format := by
  cases format <;> rfl

/-- A written cell is read in its plain form. -/
theorem Cell.read_written (apart : cell.IsApart) : Cell.read cell.toJson = .ok cell.plain := by
  have others := apart_plainFields apart
  have get (name : String) (declared : name ∈ cell.kind.declared) :
      Json.Fields.get? name cell.members = cell.written? name := by
    rw [Cell.members_eq]
    exact get?_declaredFirst others declared
  have common : "metadata" ∈ cell.kind.declared ∧ "source" ∈ cell.kind.declared ∧
      "cell_type" ∈ cell.kind.declared := by
    cases cell.kind <;> decide
  refine Cell.read_iff.mpr ⟨?_, ?_, ?_, ?_, ?_⟩
  · rw [get _ common.2.1, Cell.content_plain]
    exact source_written cell.content.source
  · rw [get _ common.2.2, Cell.kind_plain]
    exact kind_written cell.kind
  · rw [get _ common.1, Cell.content_plain]
    exact object_written cell.content.metadata
  · rw [Cell.members_eq, Cell.kind_plain, without_declaredFirst others, Cell.content_plain]
    rfl
  · intro content execution same
    cases cell with
    | code content' execution' =>
      cases same
      constructor
      · rw [get "execution_count" (by simp [Cell.kind, CellKind.declared])]
        exact count_written execution'.count
      · rw [get "outputs" (by simp [Cell.kind, CellKind.declared])]
        exact outputs_written execution'.outputs
    | markdown content' => cases same
    | raw content' => cases same

/-- A written notebook is read in its plain form. -/
theorem Document.read_written (apart : d.IsApart) : Document.read d.toJson = .ok d.plain := by
  have others := apart_plainFields apart.extras
  have get (name : String) (declared : name ∈ Document.declared) :
      Json.Fields.get? name d.members = d.written? name := by
    rw [Document.members_eq]
    exact get?_declaredFirst others declared
  refine Document.read_iff.mpr ⟨?_, ?_, ?_, ?_, ?_⟩
  · have cells : readCells (d.cells.map Cell.toJson) = .ok (d.cells.map Cell.plain) := by
      rw [readCells_iff, List.forall₂_map_left_iff, List.forall₂_map_right_iff, List.forall₂_same]
      exact fun cell there => Cell.read_written (apart.cells cell there)
    have ne := apart.ne
    rw [readCellsMember, get _ (by decide)]
    cases given : d.cells with
    | nil => exact absurd given ne
    | cons cell rest =>
      rw [given] at cells
      rw [Document.written?, given, Document.plain, given]
      exact cells
  · rw [get _ (by decide)]
    exact object_written d.metadata
  · rw [get _ (by decide)]
    exact format_written _ d.format
  · rw [get _ (by decide)]
    exact format_written _ d.formatMinor
  · rw [Document.members_eq, without_declaredFirst others]
    rfl

section
variable (form : Json.WellFormed d.toJson) {content : List UInt8}
variable (written : d.serialize? = some content)
include form written

/-- The bytes of a notebook file are read as the value that the notebook is written as. -/
theorem Document.readBytes_serialize : Json.readBytes content = .ok d.toJson := by
  simp only [Document.serialize?, Document.fileText?, Document.dump?] at written
  split at written
  case isFalse => cases written
  case isTrue shallow =>
    rw [Option.map_some, Option.map_some, Option.some_inj] at written
    subst written
    have depth : d.toJson.depth ≤ Json.levelLimit :=
      Nat.le_trans (of_decide_eq_true shallow) (by decide)
    exact Json.readBytes_indented form d.allFinite_toJson depth

/-- A notebook file is read as the plain form of the notebook that it was written of. -/
theorem Document.deserialize_written (apart : d.IsApart) :
    Document.deserialize (.bytes content) = .ok d.plain := by
  have bytes := Document.readBytes_serialize form written
  simp only [Document.deserialize, FileContent.readJson, bytes, Except.mapError, bind, Except.bind,
    Document.read_written apart]

end

/-! ## Notebooks of finite numbers -/

/-- A cell that was read is plain if all its numbers are finite. -/
theorem Cell.plain_of_read (read : Cell.read (.obj fields) = .ok cell)
    (finite : Json.AllFinite (.obj fields)) : cell.plain = cell := by
  obtain ⟨-, -, metadata, extras, execution⟩ := Cell.read_iff.mp read
  have same : cell.content.plain = cell.content := by
    rw [Content.plain, metadata_plain finite metadata, extras_plain finite extras]
  cases cell with
  | code content execution' =>
    have outputs := outputs_plain finite (execution content execution' rfl).2
    have executed : execution'.plain = execution' := by rw [Execution.plain, outputs]
    exact congrArg₂ Cell.code same executed
  | markdown content => exact congrArg Cell.markdown same
  | raw content => exact congrArg Cell.raw same

/-- A notebook that was read is plain if all its numbers are finite, also with other plain cells. -/
theorem Document.plain_of_read (read : Document.read (.obj fields) = .ok d)
    (finite : Json.AllFinite (.obj fields)) {cells : List Cell}
    (own : ∀ cell ∈ cells, cell.plain = cell) :
    Document.plain { d with cells := cells } = { d with cells := cells } := by
  obtain ⟨-, metadata, -, -, extras⟩ := Document.read_iff.mp read
  have same : cells.map Cell.plain = cells :=
    (List.map_congr_left own).trans (List.map_id cells)
  rw [Document.plain, same, metadata_plain finite metadata, extras_plain finite extras]

end Notebook

end RunReports
