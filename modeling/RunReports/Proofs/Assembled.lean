import RunReports.Proofs.Executed
import RunReports.Proofs.PlainNotebooks
import RunReports.Proofs.RunData

/-! # Assembly keeps the template

A report goes through all cells of its template, each once and in their order, whether the first of
them takes the place of the control block or stands behind the default one. Around its cells the
report is what the template is alone, and the run shows in the first cell only. This says nothing of
what the built-in cells do when they are executed. -/
namespace RunReports.Notebook

open RunReports

/-! ## Control blocks -/

/-- A code cell of lines, one of which sets a control variable behind lines that hold no code. -/
def Cell.SetsControl (cell : Cell) : Prop :=
  ∃ content execution before line after, cell = .code content execution ∧
    content.source = some (.lines (before ++ line :: after)) ∧ setsControl line = true ∧
    ∀ skipped ∈ before, isSkipped skipped = true

theorem setsControlFirst_iff {ls : List String} : setsControlFirst ls = true ↔
    ∃ before line after, ls = before ++ line :: after ∧ setsControl line = true ∧
      ∀ skipped ∈ before, isSkipped skipped = true := by
  induction ls with
  | nil => simp [setsControlFirst]
  | cons first rest ih =>
    rw [setsControlFirst, Bool.or_eq_true, Bool.and_eq_true, ih]
    constructor
    · rintro (sets | ⟨skipped, before, line, after, rfl, sets, silent⟩)
      · exact ⟨[], first, rest, rfl, sets, by simp⟩
      · exact ⟨first :: before, line, after, rfl, sets, List.forall_mem_cons.mpr ⟨skipped, silent⟩⟩
    · rintro ⟨before, line, after, same, sets, silent⟩
      cases before with
      | nil =>
        cases same
        exact Or.inl sets
      | cons skipped before =>
        cases same
        obtain ⟨skipped, silent⟩ := List.forall_mem_cons.mp silent
        exact Or.inr ⟨skipped, before, line, after, rfl, sets, silent⟩

/-- A cell that can be judged is a control block if it sets a control variable first. -/
theorem Cell.isControlBlock_iff {cell : Cell} {hasControl : Bool}
    (judged : cell.isControlBlock = .ok hasControl) : hasControl = true ↔ cell.SetsControl := by
  cases cell with
  | code content execution =>
    rw [Cell.isControlBlock] at judged
    split at judged
    · rename_i missing
      cases judged
      constructor
      · rintro ⟨⟩
      · rintro ⟨_, _, _, _, _, ⟨⟩, given, -⟩
        rw [missing] at given
        cases given
    · cases judged
    · rename_i ls lines
      cases judged
      rw [setsControlFirst_iff]
      constructor
      · rintro ⟨before, line, after, rfl, sets, silent⟩
        exact ⟨content, execution, before, line, after, rfl, lines, sets, silent⟩
      · rintro ⟨_, _, before, line, after, ⟨⟩, given, sets, silent⟩
        rw [lines] at given
        cases given
        exact ⟨before, line, after, rfl, sets, silent⟩
  | markdown content | raw content =>
    cases judged
    constructor
    · rintro ⟨⟩
    · rintro ⟨_, _, _, _, _, ⟨⟩, -⟩

/-! ## Cells of a report -/

/-- The cells of a report of a run, around those of its template. -/
inductive LaidOut (run : Run.Snapshot) : List Cell → List Cell → Prop
  | own (first : Cell) (rest : List Cell) (sets : first.SetsControl) :
    LaidOut run (first :: rest)
      ([runDataCell run.toJson, first, runMetadataCell, fileDownloadCell] ++ rest ++
        [runTablesCell])
  | default (first : Cell) (rest : List Cell) (none : ¬ first.SetsControl) :
    LaidOut run (first :: rest)
      ([runDataCell run.toJson, defaultControlCell, runMetadataCell, fileDownloadCell] ++
        (first :: rest) ++ [runTablesCell])

theorem Surrounds.laidOut {run : Run.Snapshot} {own cells : List Cell} (ne : own ≠ [])
    (h : Surrounds (runDataCell run.toJson) own cells) : LaidOut run own cells := by
  cases h with
  | default _ judged =>
    cases own with
    | nil => exact absurd rfl ne
    | cons first rest =>
      refine .default first rest fun sets => ?_
      have control := (Cell.isControlBlock_iff (judged first rfl)).mpr sets
      cases control
  | control first rest judged =>
    exact .own first rest ((Cell.isControlBlock_iff judged).mp rfl)

theorem laidOut_of_assembled {template : Json} {run : Run.Snapshot} {doc : Document}
    (assembled : assemble template run = .ok doc) :
    ∃ d, Document.read template = .ok d ∧ LaidOut run d.cells doc.cells := by
  obtain ⟨d, hasControl, read, control, rfl⟩ := assemble_ok assembled
  obtain ⟨cells, is, surrounds⟩ := assembleWith_surrounds run.toJson control
  obtain ⟨fields, rfl⟩ := Document.object_of_read read
  rw [is]
  exact ⟨d, read, surrounds.laidOut (Document.apart_of_read read).ne⟩

/-- No cell of a template is lost and none is repeated. -/
theorem LaidOut.length {run : Run.Snapshot} {own cells : List Cell} (h : LaidOut run own cells) :
    (∀ first ∈ own.head?, first.SetsControl → cells.length = own.length + 4) ∧
    (∀ first ∈ own.head?, ¬ first.SetsControl → cells.length = own.length + 5) := by
  cases h with
  | own first rest sets =>
    constructor
    · rintro _ ⟨⟩ -
      simp
    · rintro _ ⟨⟩ none
      exact absurd sets none
  | default first rest none =>
    constructor
    · rintro _ ⟨⟩ sets
      exact absurd sets none
    · rintro _ ⟨⟩ -
      simp

/-! ## What stands around the cells -/

section
variable {fields : Json.Fields} {d : Document}

theorem get?_plainFields (name : String) (fields : Json.Fields) :
    Json.Fields.get? name (Json.plainFields fields) =
      (Json.Fields.get? name fields).map Json.plain := by
  induction fields with
  | nil => rfl
  | cons f rest ih =>
    obtain ⟨n, v⟩ := f
    rw [Json.plainFields, Json.Fields.get?, Json.Fields.get?]
    split
    · rfl
    · exact ih

theorem format_present {fault : IntegerFault → Fault} {o : Option Json} {format : Option Int}
    (h : readFormat fault o = .ok format) : format.isSome = o.isSome := by
  cases o with
  | none =>
    cases h
    rfl
  | some v =>
    rw [readFormat] at h
    split at h
    · cases h
      rfl
    · cases h

/-- A notebook is written with the members it was read from. -/
theorem Document.isSome_get?_members (read : Document.read (.obj fields) = .ok d)
    {name : String} (other : name ≠ "cells") :
    (Json.Fields.get? name d.members).isSome = (Json.Fields.get? name fields).isSome := by
  have apart := apart_plainFields (Document.apart_of_read read).extras
  obtain ⟨-, metadata, format, formatMinor, extras⟩ := Document.read_iff.mp read
  rw [Document.members_eq]
  by_cases declared : name ∈ Document.declared
  · rw [get?_declaredFirst apart declared]
    simp only [Document.declared, List.mem_cons, List.not_mem_nil, or_false] at declared
    rcases declared with rfl | rfl | rfl | rfl
    · exact absurd rfl other
    · rw [← object_given metadata, Document.written?, Option.isSome_map, Option.isSome_map]
    · rw [← format_present format, Document.written?, Option.isSome_map]
    · rw [← format_present formatMinor, Document.written?, Option.isSome_map]
  · rw [get?_declaredFirst_other declared, get?_plainFields, Option.isSome_map, extras,
      get?_without declared]

theorem Document.get?_members_cells (d : Document) (cells : List Cell) {name : String}
    (other : name ≠ "cells") : Json.Fields.get? name (Document.members { d with cells := cells }) =
      Json.Fields.get? name d.members := by
  obtain ⟨others, members⟩ := d.exists_members_cells
  have skipped (cells : List Cell) :
      Json.Fields.get? name (Document.members { d with cells := cells }) =
        Json.Fields.get? name others := by
    rw [members, Json.Fields.get?, if_neg (Ne.symm other)]
  exact (skipped cells).trans (skipped d.cells).symm

end

/-! ## Reports of several runs -/

/-- The run data stand in the first cell of a report and nowhere else. -/
theorem Document.assembleWith_tail (d : Document) (hasControl : Bool) (data data' : Json) :
    d.assembleWith hasControl data' =
      { d.assembleWith hasControl data with
        cells := runDataCell data' :: (d.assembleWith hasControl data).cells.tail } := by
  obtain ⟨own, metadata, format, formatMinor, extras⟩ := d
  cases hasControl with
  | true => cases own <;> rfl
  | false => rfl

/-- What a report of a run keeps of the notebook that its template is read as, and of the value
`template` itself: what is given there leniently is settled, and all else is unchanged. -/
structure Document.IsReportOn (run : Run.Snapshot) (template : Json) (d doc : Document) :
    Prop where
  cells : LaidOut run d.cells doc.cells
  rest : doc = { d with cells := doc.cells }
  written : valueOf "cells" doc.toJson = some (.arr (doc.cells.map Cell.toJson))
  others : ∀ name, name ≠ "cells" → valueOf name doc.toJson = valueOf name d.toJson
  present : ∀ name, name ≠ "cells" →
    (valueOf name doc.toJson).isSome = (valueOf name template).isSome
  unchanged : Json.AllFinite template → FormatIsWhole template → ∀ name, name ≠ "cells" →
    valueOf name doc.toJson = valueOf name template

/-- Assembly neither loses nor repeats nor reorders the cells of a template, and changes nothing
around them. The reports of two runs on one template differ in their first cell at most. -/
theorem assembled_keeps_template {template : Json} {run : Run.Snapshot} {doc : Document}
    (assembled : assemble template run = .ok doc) : ∃ d stored,
      Document.read template = .ok d ∧ valueOf "cells" template = some (.arr stored) ∧
      List.Forall₂ (fun v cell => Cell.read v = .ok cell) stored d.cells ∧
      d.IsReportOn run template doc ∧
      (∀ first ∈ d.cells.head?, first.SetsControl → doc.cells.length = stored.length + 4) ∧
      (∀ first ∈ d.cells.head?, ¬ first.SetsControl → doc.cells.length = stored.length + 5) ∧
      ∀ run' doc', assemble template run' = .ok doc' →
        doc' = { doc with cells := runDataCell run'.toJson :: doc.cells.tail } := by
  obtain ⟨d, hasControl, read, control, rfl⟩ := assemble_ok assembled
  obtain ⟨cells, is, surrounds⟩ := assembleWith_surrounds run.toJson control
  obtain ⟨fields, rfl⟩ := Document.object_of_read read
  obtain ⟨stored, given, -, reads⟩ := readCellsMember_given (Document.read_iff.mp read).cells
  have laidOut := surrounds.laidOut (Document.apart_of_read read).ne
  have others (name : String) (other : name ≠ "cells") := d.get?_members_cells cells other
  refine ⟨d, stored, read, given, reads, ?_, ?_, ?_, ?_⟩
  · rw [is]
    exact
      { cells := laidOut
        rest := rfl
        written := rfl
        others := others
        present := fun name other =>
          (congrArg Option.isSome (others name other)).trans
            (Document.isSome_get?_members read other)
        unchanged := fun finite whole name other =>
          (Document.get?_members read finite whole cells name).trans (if_neg other) }
  · rw [is, reads.length_eq]
    exact laidOut.length.1
  · rw [is, reads.length_eq]
    exact laidOut.length.2
  · intro run' doc' again
    obtain ⟨d', hasControl', read', control', rfl⟩ := assemble_ok again
    obtain rfl : d = d' := Except.ok.inj (read.symm.trans read')
    obtain rfl : hasControl = hasControl' := Except.ok.inj (control.symm.trans control')
    exact d.assembleWith_tail hasControl run.toJson run'.toJson

theorem assembled_keeps_template_ownControl : ∃ doc d stored,
    assemble Report.ownControl motleyRun = .ok doc ∧
      Document.read Report.ownControl = .ok d ∧
      valueOf "cells" Report.ownControl = some (.arr stored) ∧
      List.Forall₂ (fun v cell => Cell.read v = .ok cell) stored d.cells ∧
      d.IsReportOn motleyRun Report.ownControl doc := by
  have assembled : ∃ doc, assemble Report.ownControl motleyRun = .ok doc := ⟨_, rfl⟩
  obtain ⟨doc, assembled⟩ := assembled
  obtain ⟨d, stored, read, given, reads, kept, -⟩ := assembled_keeps_template assembled
  exact ⟨doc, d, stored, assembled, read, given, reads, kept⟩

end RunReports.Notebook
