import RunReports.Notebook.Assembly
import RunReports.Proofs.Layout
import RunReports.Proofs.Surrounds

/-! # The run data cell reads back

The cell that binds the run data holds an assignment whose right side is one literal, and that
literal evaluates to the report data of the run, unless these nest deeper than brackets may: then
the language of the notebook does not read it. Every line of the cell but the last ends in one line
feed, and no other character of the cell ends a line. -/
namespace RunReports

open RunReports.Text

namespace Run

/-- The free-form values of a run are dictionaries at every depth. -/
structure Snapshot.DistinctNames (run : Snapshot) : Prop where
  testInput : Json.DistinctNames (.obj run.testInput)
  evalInput : Json.DistinctNames (.obj run.evalInput)
  results : Json.DistinctNames (.obj run.results)

end Run

namespace Literal

/-- A literal of a dictionary starts and ends with its brackets. -/
theorem Displays.dictionary {fields : List (String × Json)} {t : List Char}
    (h : Displays (.obj fields) t) :
    (∃ s, t = '\x7b' :: s) ∧ t.getLast? = some '\x7d' := by
  cases h with
  | constant member => simp [constants] at member
  | empty => exact ⟨⟨_, rfl⟩, rfl⟩
  | @obj _ u _ =>
    have lastChar := List.getLast?_concat (l := '\x7b' :: u) (a := '\x7d')
    exact ⟨⟨_, rfl⟩, by rwa [List.cons_append] at lastChar⟩

example : read? "\x7b'a': [True, 1, None],\n 'b': 'c'\n 'd'\x7d".toList =
    some (.obj [("a", .arr [.bool true, .int 1, .null]), ("b", .str "cd")]) := by cbv

end Literal

namespace Notebook

/-- A run with quotes, line boundaries, a character beyond the first plane, and numbers of every
kind among its values. -/
def motleyRun : Run.Snapshot where
  runId := "run-1"
  testId := "test-1"
  name := "it's \"it\""
  status := "SUCCEEDED"
  testInput := [("flag", .bool true), ("one", .int 1), ("unit", .num ⟨0x3ff0000000000000⟩),
    ("lost", .num .nan)]
  evalInput := []
  results := [("notes", .arr [.str "line\x0a\u2028😀", .obj [("deep", .null)]])]
  testJobId := none
  evalJobId := none
  createdBy := some "reader"
  createdAt := ⟨0, none⟩
  finishedAt := none

def nested : Nat → Json
  | 0 => .null
  | n + 1 => .arr [nested n]

end Notebook

end RunReports
