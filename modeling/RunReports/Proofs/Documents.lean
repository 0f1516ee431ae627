import RunReports.Notebook.File
import RunReports.Proofs.Cells

/-! # Notebooks keep what they were read from

A notebook that is written has the members of the value it was read from, also with other cells put
in, if its numbers are finite and its format was given as whole numbers. -/
namespace RunReports.Notebook

open RunReports RunReports.Text

variable {fields : Json.Fields} {d : Document}

structure Document.IsReadFrom (fields : Json.Fields) (d : Document) : Prop where
  cells : readCellsMember fields = .ok d.cells
  metadata : readObject? (Json.Fields.get? "metadata" fields) = some d.metadata
  format : readFormat .format (Json.Fields.get? "nbformat" fields) = .ok d.format
  formatMinor : readFormat .formatMinor (Json.Fields.get? "nbformat_minor" fields) =
    .ok d.formatMinor
  extras : d.extras = Json.Fields.without Document.declared fields

theorem Document.read_iff : Document.read (.obj fields) = .ok d ↔ d.IsReadFrom fields := by
  constructor
  · intro read
    simp only [Document.read, bind, Except.bind] at read
    split at read
    · cases read
    rename_i cells cellsIs
    split at read
    · cases read
    rename_i metadata metadataIs
    split at read
    · cases read
    rename_i format formatIs
    split at read
    · cases read
    rename_i formatMinor formatMinorIs
    cases read
    exact ⟨cellsIs, metadataIs, formatIs, formatMinorIs, rfl⟩
  · rintro ⟨cells, metadata, format, formatMinor, extras⟩
    simp only [Document.read, cells, metadata, format, formatMinor, bind, Except.bind, ← extras]

theorem Document.object_of_read {v : Json} (read : Document.read v = .ok d) :
    ∃ fields, v = .obj fields := by
  cases v with
  | obj fields => exact ⟨fields, rfl⟩
  | _ => cases read

/-! ## Cells in a notebook -/

/-- Reading cells reads each of them. -/
theorem readCells_iff {items : List Json} {cells : List Cell} : readCells items = .ok cells ↔
    List.Forall₂ (fun v cell => Cell.read v = .ok cell) items cells := by
  induction items generalizing cells with
  | nil =>
    rw [readCells, List.forall₂_nil_left_iff, Except.ok.injEq]
    exact eq_comm
  | cons v rest ih =>
    rw [List.forall₂_cons_left_iff]
    constructor
    · intro read
      simp only [readCells, bind, Except.bind, Except.mapError] at read
      cases first : Cell.read v with
      | error f =>
        rw [first] at read
        cases read
      | ok cell =>
        rw [first] at read
        cases later : readCells rest with
        | error f =>
          rw [later] at read
          cases read
        | ok more =>
          rw [later] at read
          cases read
          exact ⟨cell, more, rfl, ih.mp later, rfl⟩
    · rintro ⟨cell, more, first, later, rfl⟩
      simp only [readCells, first, ih.mpr later, bind, Except.bind, Except.mapError]

/-- A notebook that was read has the cells of a list that is not empty. -/
theorem readCellsMember_given {cells : List Cell} (h : readCellsMember fields = .ok cells) :
    ∃ items, Json.Fields.get? "cells" fields = some (.arr items) ∧ items ≠ [] ∧
      List.Forall₂ (fun v cell => Cell.read v = .ok cell) items cells := by
  rw [readCellsMember] at h
  split at h
  · cases h
  · cases h
  · rename_i items ne there
    exact ⟨items, there, fun empty => ne (by rw [empty]), readCells_iff.mp h⟩
  · cases h

/-- What holds of each cell that is read from one of some values holds of all that are. -/
theorem forall_cells {stored : List Json} {cells : List Cell} {P : Cell → Prop}
    (reads : List.Forall₂ (fun v cell => Cell.read v = .ok cell) stored cells)
    (each : ∀ fields cell, Json.obj fields ∈ stored → Cell.read (.obj fields) = .ok cell → P cell) :
    ∀ cell ∈ cells, P cell := by
  induction reads with
  | nil => simp
  | @cons v cell stored cells read _ ih =>
    obtain ⟨fields, rfl⟩ := Cell.object_of_read read
    refine List.forall_mem_cons.mpr ⟨each fields cell List.mem_cons_self read, ih ?_⟩
    exact fun fields cell there => each fields cell (List.mem_cons_of_mem _ there)

/-! ## Written notebooks -/

/-- A format number that is stored as a whole number stays as it is. -/
theorem format_given {fault : IntegerFault → Fault} {o : Option Json} {format : Option Int}
    (h : readFormat fault o = .ok format) (whole : ∀ v, o = some v → ∃ n, v = .int n) :
    format.map Json.int = o := by
  cases o with
  | none =>
    cases h
    rfl
  | some v =>
    obtain ⟨n, rfl⟩ := whole v rfl
    cases h
    rfl

/-- A notebook whose whole-number fields are whole numbers where they are given. The execution count
of a cell may be null. -/
structure FormatIsWhole (v : Json) : Prop where
  format : ∀ n, valueOf "nbformat" v = some n → ∃ k, n = .int k
  formatMinor : ∀ n, valueOf "nbformat_minor" v = some n → ∃ k, n = .int k
  counts : ∀ cells, valueOf "cells" v = some (.arr cells) → ∀ cell ∈ cells, CountIsWhole cell

section
variable (read : Document.read (.obj fields) = .ok d)
variable (finite : Json.AllFinite (.obj fields)) (whole : FormatIsWhole (.obj fields))
include read finite whole

/-- A written notebook names its declared members first, all but the cells as they were given. -/
theorem Document.members_of_read (cells : List Cell) : Document.members { d with cells := cells } =
    declaredFirst Document.declared
      (fun n => if n = "cells" then some (.arr (cells.map Cell.toJson))
        else Json.Fields.get? n fields)
      (Json.Fields.without Document.declared fields) := by
  obtain ⟨-, metadata, format, formatMinor, extras⟩ := Document.read_iff.mp read
  have others := (extras_plain finite extras).trans extras
  have data := metadata_given finite metadata
  simp only [Document.members, others, data, format_given format whole.format,
    format_given formatMinor whole.formatMinor]
  simp [declaredFirst, Document.declared, member]

/-- Other cells in a notebook change no other member of it. -/
theorem Document.get?_members (cells : List Cell) (name : String) :
    Json.Fields.get? name (Document.members { d with cells := cells }) =
      if name = "cells" then some (.arr (cells.map Cell.toJson))
      else Json.Fields.get? name fields := by
  rw [Document.members_of_read read finite whole]
  by_cases declared : name ∈ Document.declared
  · exact get?_declaredFirst (apart_without _ fields) declared
  · have other : name ≠ "cells" := by
      rintro rfl
      exact declared (by decide)
    rw [get?_declaredFirst_other declared, get?_without declared, if_neg other]

end

end RunReports.Notebook
