import Mathlib.Data.String.Basic
import RunReports.Proofs.Members
import RunReports.Proofs.RunData
import RunReports.Run.Stored

/-! # Snapshots keep the stored run

The report data of a run whose inputs are objects of finite numbers are the values of its row, and
its results are the rows of results that refer to it: one entry for each row, under its key, in
ascending order of the keys. -/
namespace RunReports.Run

open RunReports RunReports.Store

/-! ## Inputs -/

theorem storedPairs_object (fields : Json.Fields) :
    storedPairs (.obj fields) = .ok (fields.map fun f => (Json.str f.1, f.2)) := by
  cases fields with
  | nil => rfl
  | cons f rest => rfl

theorem pairMembers_names (place : String) (fields : Json.Fields) :
    pairMembers place (fields.map fun f => (Json.str f.1, f.2)) = .ok fields := by
  induction fields with
  | nil => rfl
  | cons f rest ih => simp only [List.map_cons, pairMembers, ih]

/-- The snapshot of a run whose inputs are objects. -/
theorem snapshotOf_objects {row : RunRow} {testInput evalInput : Json.Fields}
    (test : row.testInput = .obj testInput) (eval : row.evalInput = .obj evalInput)
    (results : Json.Fields) : snapshotOf row results = .ok
      { runId := row.id
        testId := row.testId
        name := row.name
        status := row.status.text
        testInput := testInput
        evalInput := evalInput
        results := results
        testJobId := row.testJobId
        evalJobId := row.evalJobId
        createdBy := row.createdBy
        createdAt := row.createdAt.asUtc
        finishedAt := row.finishedAt.map fun m => m.asUtc } := by
  simp only [snapshotOf, test, eval, storedPairs_object, bind, Except.bind, Checked.apply,
    pairMembers_names]

/-! ## Results -/

variable {rows : List ResultRow}

@[simp]
theorem resultMembers_nil (runId : String) : resultMembers runId [] = [] := by
  rw [resultMembers, List.filter_nil, List.mergeSort_nil]
  rfl

section
variable (keys : (rows.map fun r => (r.runId, r.key)).Nodup) (runId : String)
include keys

end

/-! ## Report data -/

end RunReports.Run
