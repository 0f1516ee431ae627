import RunReports.Proofs.Effects
import RunReports.Proofs.Keys
import RunReports.Proofs.Members
import RunReports.Proofs.Nesting
import RunReports.Proofs.Snapshots
import RunReports.Proofs.Stable

/-!
# What is executed is what is stored

A creation uploads one file. Read back, that file is a notebook whose first cell assigns the data
of the stored run, and whose other cells are those of the stored report definition, between the
built-in ones: each with the members it is stored with, in the stored order of the cells. Where the
data nest deeper than brackets may, the first cell is uploaded all the same, and cannot be read.
-/
namespace RunReports

open RunReports.Store

namespace Notebook

def SameMembers (v : Json) (cell : Cell) : Prop :=
  ∃ fields, v = .obj fields ∧ fields.Perm cell.members

/-- The cells of a notebook have the members of the values they were read from. -/
theorem sameMembers_of_reads {stored : List Json} {cells : List Cell}
    (reads : List.Forall₂ (fun v cell => Cell.read v = .ok cell) stored cells)
    (names : Json.DistinctNamesItems stored) (finite : Json.AllFiniteItems stored)
    (whole : ∀ v ∈ stored, CountIsWhole v) : List.Forall₂ SameMembers stored cells := by
  induction reads with
  | nil => exact .nil
  | @cons v cell stored cells read _ ih =>
    obtain ⟨first, later⟩ := List.forall_mem_cons.mp whole
    obtain ⟨fields, rfl⟩ := Cell.object_of_read read
    have same := Cell.perm_members read finite.1 first names.1.1
    exact .cons ⟨fields, rfl, same⟩ (ih names.2 finite.2 later)

section
variable {notebook : Json} {d : Document} (read : Document.read notebook = .ok d)
include read

theorem cells_sameMembers (names : Json.DistinctNames notebook) (finite : Json.AllFinite notebook)
    (whole : FormatIsWhole notebook) : ∃ stored,
      valueOf "cells" notebook = some (.arr stored) ∧
      List.Forall₂ SameMembers stored d.cells := by
  obtain ⟨fields, rfl⟩ := Document.object_of_read read
  obtain ⟨stored, given, -, reads⟩ := readCellsMember_given (Document.read_iff.mp read).cells
  have named : Json.DistinctNamesItems stored :=
    Json.distinctNamesFields_iff.mp names.2 _ (mem_of_get? given)
  have numbers : Json.AllFiniteItems stored :=
    Json.allFiniteFields_iff.mp finite _ (mem_of_get? given)
  exact ⟨stored, given, sameMembers_of_reads reads named numbers (whole.counts stored given)⟩

end

end Notebook

namespace Report

open RunReports.Action RunReports.Calendar

variable {σ : Type}

section
variable {t : Tables} (keys : t.Keyed) {run : RunRow} (runThere : run ∈ t.runs)
variable {report : ReportRow} (reportThere : report ∈ t.reports)
include keys runThere reportThere

end

/-- A notebook with a control block of its own, and with members of its cells out of order. -/
def ownControl : Json := .obj
  [("nbformat", .int 4),
    ("cells", .arr
      [.obj [("cell_type", .str "code"), ("execution_count", .null),
          ("source", .arr [.str "report_download_results = False"])],
        .obj [("id", .str "x"), ("source", .str "# Result"), ("cell_type", .str "markdown")]])]

theorem ownControl_form : Json.WellFormed ownControl ∧ Json.AllFinite ownControl ∧
    Notebook.FormatIsWhole ownControl := by
  refine ⟨?_, ?_, ?_, ?_, ?_⟩
  · have four : (Text.decimal 4).length ≤ Json.digitLimit := by decide
    simp [ownControl, Json.WellFormed, Json.WellFormedItems, Json.WellFormedFields, four]
  · simp [ownControl, Json.AllFinite, Json.AllFiniteItems, Json.AllFiniteFields]
  · rintro n ⟨⟩
    exact ⟨4, rfl⟩
  · rintro n ⟨⟩
  · rintro cells ⟨⟩
    simp [Notebook.CountIsWhole, Notebook.valueOf, Json.Fields.get?, Notebook.CellKind.name]

def sampledRun : RunRow :=
  { id := "run", testId := "test", name := "name", status := .succeeded
    testInput := .obj [("sample", .str "a")], evalInput := .obj []
    testJobId := some "job", evalJobId := none
    createdBy := none, createdAt := ⟨machineEpoch, none⟩, finishedAt := none }

def ownReport : ReportRow :=
  { id := "report", name := "name", description := none, notebook := ownControl
    config := .obj [] }

end Report

end RunReports
