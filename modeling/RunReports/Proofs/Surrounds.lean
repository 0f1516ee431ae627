import Mathlib.Data.List.Basic
import RunReports.Notebook.Assembly

/-! # The cells of a report

A report has the cells of its template, between built-in ones. Where the first cell of the template
is a control block, it takes the place of the default one. -/
namespace RunReports.Notebook

open RunReports

/-- The cells of a report around the cells of its template: the default control block stands behind
the run data, or the first cell of the template does if that is a control block. -/
inductive Surrounds (runData : Cell) : List Cell → List Cell → Prop
  | default (own : List Cell) : (∀ cell ∈ own.head?, cell.isControlBlock = .ok false) →
      Surrounds runData own
        ([runData, defaultControlCell, runMetadataCell, fileDownloadCell] ++ own ++
          [runTablesCell])
  | control (first : Cell) (rest : List Cell) : first.isControlBlock = .ok true →
      Surrounds runData (first :: rest)
        ([runData, first, runMetadataCell, fileDownloadCell] ++ rest ++ [runTablesCell])

/-! ## Report data that can be written -/

theorem writableData_ok_iff {run : Run.Snapshot} {data : Json} : writableData run = .ok data ↔
    data = run.toJson ∧ run.toJson.isShallow = true ∧ run.toJson.isShort = true := by
  rw [writableData, Run.Snapshot.reportData?]
  cases run.toJson.isShallow with
  | false => simp
  | true =>
    simp only [if_true, true_and]
    cases run.toJson.isShort with
    | false => simp
    | true => simpa using eq_comm

section
variable {template : Json} {run : Run.Snapshot} {doc : Document}
  (assembled : assemble template run = .ok doc)
include assembled

theorem assembled_parts : ∃ d hasControl, Document.read template = .ok d ∧
    d.hasControlBlock = .ok hasControl ∧ writableData run = .ok run.toJson ∧
    doc = d.assembleWith hasControl run.toJson := by
  simp only [assemble, bind, Except.bind, Except.mapError] at assembled
  cases read : Document.read template with
  | error fault =>
    rw [read] at assembled
    cases assembled
  | ok d =>
    rw [read] at assembled
    cases control : d.hasControlBlock with
    | error fault =>
      simp only [control] at assembled
      cases assembled
    | ok hasControl =>
      cases written : writableData run with
      | error fault =>
        simp only [control, written] at assembled
        cases assembled
      | ok data =>
        simp only [control, written] at assembled
        cases assembled
        obtain ⟨rfl, -⟩ := writableData_ok_iff.mp written
        exact ⟨d, hasControl, rfl, control, rfl, rfl⟩

theorem assemble_ok : ∃ d hasControl, Document.read template = .ok d ∧
    d.hasControlBlock = .ok hasControl ∧ doc = d.assembleWith hasControl run.toJson := by
  obtain ⟨d, hasControl, read, control, -, is⟩ := assembled_parts assembled
  exact ⟨d, hasControl, read, control, is⟩

end

theorem unwritable_of_assemble {template : Json} {run : Run.Snapshot} {fault : RunDataFault}
    (failed : assemble template run = .error (.runData fault)) :
    writableData run = .error fault := by
  simp only [assemble, bind, Except.bind, Except.mapError] at failed
  cases read : Document.read template with
  | error f =>
    rw [read] at failed
    cases failed
  | ok d =>
    cases control : d.hasControlBlock with
    | error f =>
      simp only [read, control] at failed
      cases failed
    | ok hasControl =>
      cases written : writableData run with
      | ok data =>
        simp only [read, control, written] at failed
        cases failed
      | error f =>
        simp only [read, control, written] at failed
        cases failed
        rfl

theorem assemble_eq {template : Json} {run : Run.Snapshot} {d : Document} {hasControl : Bool}
    (read : Document.read template = .ok d) (control : d.hasControlBlock = .ok hasControl)
    (written : writableData run = .ok run.toJson) :
    assemble template run = .ok (d.assembleWith hasControl run.toJson) := by
  simp only [assemble, read, control, written, bind, Except.bind, Except.mapError]

theorem assembleWith_surrounds {d : Document} {hasControl : Bool} (data : Json)
    (control : d.hasControlBlock = .ok hasControl) :
    ∃ cells, d.assembleWith hasControl data = { d with cells := cells } ∧
      Surrounds (runDataCell data) d.cells cells := by
  obtain ⟨own, metadata, format, formatMinor, extras⟩ := d
  cases own with
  | nil =>
    refine ⟨_, ?_, .default [] (by simp)⟩
    cases hasControl <;> rfl
  | cons first rest =>
    have judged : first.isControlBlock = .ok hasControl := control
    cases hasControl with
    | true => exact ⟨_, rfl, .control first rest judged⟩
    | false =>
      refine ⟨_, rfl, .default (first :: rest) ?_⟩
      rintro cell ⟨⟩
      exact judged

theorem Surrounds.first {runData : Cell} {own cells : List Cell}
    (h : Surrounds runData own cells) : ∃ rest, cells = runData :: rest := by
  cases h <;> exact ⟨_, rfl⟩

theorem Surrounds.ne_nil {runData : Cell} {own cells : List Cell}
    (h : Surrounds runData own cells) : cells ≠ [] := by
  obtain ⟨rest, rfl⟩ := h.first
  exact List.cons_ne_nil _ _

/-- A property of the built-in cells and of those of a template holds of all cells of a report. -/
theorem Surrounds.all {runData : Cell} {own cells : List Cell} (h : Surrounds runData own cells)
    {P : Cell → Prop} (built : ∀ lines, P (Cell.ofLines lines)) (first : P runData)
    (kept : ∀ cell ∈ own, P cell) : ∀ cell ∈ cells, P cell := by
  cases h with
  | default _ _ =>
    simp only [List.forall_mem_append, List.forall_mem_cons]
    exact ⟨⟨⟨first, built _, built _, built _, by simp⟩, kept⟩, built _, by simp⟩
  | control control rest _ =>
    obtain ⟨head, tail⟩ := List.forall_mem_cons.mp kept
    simp only [List.forall_mem_append, List.forall_mem_cons]
    exact ⟨⟨⟨first, head, built _, built _, by simp⟩, tail⟩, built _, by simp⟩

end RunReports.Notebook
