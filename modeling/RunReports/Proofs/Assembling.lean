import RunReports.Proofs.ControlScan
import RunReports.Proofs.Lifecycle
import RunReports.Proofs.Revising
import RunReports.Proofs.ShortNumbers

/-! # Templates that no report can be assembled from

A report on a run can be assembled from exactly the notebooks whose first cell is no code cell with
its source in one text, as long as the run data do not nest too deep. A whole number in them that is
too long to be written stands in the way as well, and that is told of as no report error. A revision
stores a notebook in the form in which it was read, so only its first cell can stand in the way
later. Of a notebook that a revision leaves as it is nothing is said, as it may be older than any
check. -/
namespace RunReports.Notebook

open RunReports

variable {v template : Json} {d : Document} {run : Run.Snapshot}

/-! ## The first cell -/

/-- The values of a run nest below the limit that report data are written with. -/
def NestsBelowLimit (run : Run.Snapshot) : Prop :=
  ∀ fields ∈ [run.testInput, run.evalInput, run.results], (Json.obj fields).depth < Json.depthLimit

theorem NestsBelowLimit.isShallow (shallow : NestsBelowLimit run) :
    run.toJson.isShallow = true := by
  have members : ∀ f ∈ run.members, f.2.depth < Json.depthLimit := by
    have text (s : String) : (Json.str s).depth < Json.depthLimit := by
      simp [Json.depth, Json.depthLimit]
    have given (o : Option String) : (Json.ofText? o).depth < Json.depthLimit := by
      cases o <;> simp [Json.ofText?, Json.depth, Json.depthLimit]
    have moment (o : Option Calendar.Moment) : (Run.ofMoment? o).depth < Json.depthLimit := by
      cases o <;> simp [Run.ofMoment?, Json.depth, Json.depthLimit]
    simp only [NestsBelowLimit, List.forall_mem_cons] at shallow
    obtain ⟨test, eval, results, -⟩ := shallow
    simp only [Run.Snapshot.members, List.forall_mem_cons]
    exact ⟨text _, text _, text _, text _, test, eval, results, given _, given _, given _, text _,
      moment _, by simp⟩
  have depth : (Json.obj run.members).depth ≤ Json.depthLimit :=
    Nat.succ_le_of_lt (Nat.lt_of_le_pred (by decide) (Json.depthFields_le_iff.mpr fun f there =>
      Nat.le_pred_of_lt (members f there)))
  exact decide_eq_true ((Json.depth_plain_le _).trans depth)

section Parts

variable {f : Fault} {hasControl : Bool}

end Parts

def withCells (items : List Json) : Json → Json
  | .obj fields => .obj (Json.Fields.set "cells" (.arr items) fields)
  | v => v

theorem valueOf_withCells {items : List Json} (object : IsObject v) :
    valueOf "cells" (withCells items v) = some (.arr items) := by
  obtain ⟨fields, rfl⟩ := object
  exact get?_set "cells" (.arr items) fields

/-- A notebook stays one with other cells. -/
theorem IsNotebook.withCells (is : IsNotebook v) {items : List Json} (ne : items ≠ [])
    (each : ∀ c ∈ items, IsCell c) : IsNotebook (withCells items v) := by
  obtain ⟨old, given, -⟩ := is.cells
  obtain ⟨fields, rfl⟩ := object_of_valueOf given
  have others {name : String} (other : name ≠ "cells") :
      valueOf name (Notebook.withCells items (.obj fields)) = valueOf name (.obj fields) :=
    get?_set_other other _ fields
  constructor
  · exact ⟨items, valueOf_withCells ⟨fields, rfl⟩, ne, each⟩
  · rw [IfGiven, others (by decide)]
    exact is.metadata
  · rw [IfGiven, others (by decide)]
    exact is.format
  · rw [IfGiven, others (by decide)]
    exact is.formatMinor

end RunReports.Notebook

namespace RunReports.Report

open RunReports RunReports.Action RunReports.Notebook RunReports.Store RunReports.Store.Session

variable {r : Revision} {reportId : String} {s t : Session}

/-! ## What a revision stores -/

end RunReports.Report
