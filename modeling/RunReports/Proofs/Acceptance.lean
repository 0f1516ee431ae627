import Mathlib.Tactic.Common
import RunReports.Failure
import RunReports.Proofs.PlainNotebooks

/-! # What is accepted as a notebook

A value is accepted as a notebook exactly if it has the form that is stated here, member by member,
and as a cell likewise; a cell then is of the kind that it names. Whatever is refused is refused for
its first fault: the checks stand in one order, all cells before the members of the notebook around
them, and each reason says that what is looked at earlier is in order. Which values count as whole
numbers is not stated here. -/
namespace RunReports.Notebook

open RunReports

variable {v w : Json} {fields : Json.Fields} {cell : Cell} {kind : CellKind}

/-! ## Forms of members -/

def IsText (v : Json) : Prop := ∃ s, v = .str s

def IsTextList (v : Json) : Prop := ∃ ls : List String, v = .arr (ls.map Json.str)

def IsSource (v : Json) : Prop := IsText v ∨ IsTextList v

def IsList (v : Json) : Prop := ∃ items, v = .arr items

def IsObject (v : Json) : Prop := ∃ fields, v = .obj fields

def IsInteger (v : Json) : Prop := ∃ n, readInteger v = .ok n

def IsCount (v : Json) : Prop := v = .null ∨ IsInteger v

def IfGiven (name : String) (v : Json) (form : Json → Prop) : Prop :=
  ∀ w, valueOf name v = some w → form w

structure IsCellOf (kind : CellKind) (v : Json) : Prop where
  object : IsObject v
  source : IfGiven "source" v IsSource
  named : valueOf "cell_type" v = some (.str kind.name)
  metadata : IfGiven "metadata" v IsObject
  count : kind = .code → IfGiven "execution_count" v IsCount
  outputs : kind = .code → IfGiven "outputs" v IsList

def IsCell (v : Json) : Prop := ∃ kind, IsCellOf kind v

def HasCells (v : Json) : Prop :=
  ∃ items, valueOf "cells" v = some (.arr items) ∧ items ≠ [] ∧ ∀ c ∈ items, IsCell c

structure IsNotebook (v : Json) : Prop where
  cells : HasCells v
  metadata : IfGiven "metadata" v IsObject
  format : IfGiven "nbformat" v IsInteger
  formatMinor : IfGiven "nbformat_minor" v IsInteger

/-! ## Reasons of refusal -/

/-- The fault for which a value is refused as a cell, where nothing that is looked at earlier is at
fault. -/
inductive Cell.Refused (v : Json) : CellFault → Prop
  | notObject (odd : ¬ IsObject v) : Refused v .notObject
  | sourceForm {w : Json} (given : valueOf "source" v = some w) (noText : ¬ IsText w)
      (noList : ¬ IsList w) : Refused v .sourceForm
  | sourceLine {items : List Json} {item : Json} (given : valueOf "source" v = some (.arr items))
      (member : item ∈ items) (odd : ¬ IsText item) : Refused v .sourceLine
  | kindMissing (object : IsObject v) (source : IfGiven "source" v IsSource)
      (missing : valueOf "cell_type" v = none) : Refused v .kindMissing
  | kindUnknown {w : Json} (source : IfGiven "source" v IsSource)
      (given : valueOf "cell_type" v = some w) (odd : ∀ kind : CellKind, w ≠ .str kind.name) :
      Refused v (.kindUnknown (Literal.display w))
  | metadata {kind : CellKind} {w : Json} (source : IfGiven "source" v IsSource)
      (named : valueOf "cell_type" v = some (.str kind.name))
      (given : valueOf "metadata" v = some w) (odd : ¬ IsObject w) :
      Refused v (.metadataForm kind)
  | count {w : Json} {fault : IntegerFault} (source : IfGiven "source" v IsSource)
      (named : valueOf "cell_type" v = some (.str CellKind.code.name))
      (metadata : IfGiven "metadata" v IsObject)
      (given : valueOf "execution_count" v = some w) (notNull : w ≠ .null)
      (odd : readInteger w = .error fault) : Refused v (.executionCount fault)
  | outputs {w : Json} (source : IfGiven "source" v IsSource)
      (named : valueOf "cell_type" v = some (.str CellKind.code.name))
      (metadata : IfGiven "metadata" v IsObject) (count : IfGiven "execution_count" v IsCount)
      (given : valueOf "outputs" v = some w) (odd : ¬ IsList w) : Refused v .outputsForm

/-- The fault for which a value is refused as a notebook, where nothing that is looked at earlier is
at fault. Of the cells the first one that is refused counts. -/
inductive Document.Refused (v : Json) : Fault → Prop
  | notObject (odd : ¬ IsObject v) : Refused v .notObject
  | cellsMissing (object : IsObject v) (missing : valueOf "cells" v = none) :
      Refused v .cellsMissing
  | cellsForm {w : Json} (given : valueOf "cells" v = some w) (odd : ¬ IsList w) :
      Refused v .cellsForm
  | cellsEmpty (given : valueOf "cells" v = some (.arr [])) : Refused v .cellsEmpty
  | cell {before after : List Json} {bad : Json} {fault : CellFault}
      (given : valueOf "cells" v = some (.arr (before ++ bad :: after)))
      (sound : ∀ c ∈ before, IsCell c) (refused : Cell.Refused bad fault) :
      Refused v (.cell fault)
  | metadata {w : Json} (cells : HasCells v) (given : valueOf "metadata" v = some w)
      (odd : ¬ IsObject w) : Refused v .metadataForm
  | format {w : Json} {fault : IntegerFault} (cells : HasCells v)
      (metadata : IfGiven "metadata" v IsObject) (given : valueOf "nbformat" v = some w)
      (odd : readInteger w = .error fault) : Refused v (.format fault)
  | formatMinor {w : Json} {fault : IntegerFault} (cells : HasCells v)
      (metadata : IfGiven "metadata" v IsObject) (format : IfGiven "nbformat" v IsInteger)
      (given : valueOf "nbformat_minor" v = some w) (odd : readInteger w = .error fault) :
      Refused v (.formatMinor fault)

/-! ## Reading a member

What a reader of one member lets through, and what it refuses. -/

section Member

variable {o : Option Json} {fault : CellFault}

theorem readTexts?_eq_none {items : List Json} :
    readTexts? items = none ↔ ∃ item ∈ items, ¬ IsText item := by
  induction items with
  | nil => simp [readTexts?]
  | cons v rest ih =>
    rw [List.exists_mem_cons_iff, ← ih]
    cases v with
    | str s => simp [readTexts?, IsText]
    | _ => simp [readTexts?, IsText]

theorem isSource_of_ok {source : Option Source} (read : readSource o = .ok source) :
    ∀ w, o = some w → IsSource w := by
  rintro w rfl
  have given := source_given read
  match source, given with
  | some (.text s), given => exact Or.inl ⟨s, (Option.some.inj given).symm⟩
  | some (.lines ls), given => exact Or.inr ⟨ls, (Option.some.inj given).symm⟩

theorem readSource_error (failed : readSource o = .error fault) :
    (∃ w, o = some w ∧ ¬ IsText w ∧ ¬ IsList w ∧ fault = .sourceForm) ∨
      ∃ items, o = some (.arr items) ∧ (∃ item ∈ items, ¬ IsText item) ∧ fault = .sourceLine := by
  match o, failed with
  | some (.arr items), failed =>
    rw [readSource] at failed
    split at failed
    · cases failed
    · rename_i odd
      cases failed
      exact Or.inr ⟨items, rfl, readTexts?_eq_none.mp odd, rfl⟩
  | some .null, failed | some (.bool _), failed | some (.int _), failed | some (.num _), failed
  | some (.obj _), failed =>
    cases failed
    exact Or.inl ⟨_, rfl, by rintro ⟨s, ⟨⟩⟩, by rintro ⟨items, ⟨⟩⟩, rfl⟩

theorem readSource_odd {w : Json} (noText : ¬ IsText w) (noList : ¬ IsList w) :
    readSource (some w) = .error .sourceForm := by
  cases w with
  | str s => exact absurd ⟨s, rfl⟩ noText
  | arr items => exact absurd ⟨items, rfl⟩ noList
  | _ => rfl

theorem readKind_error (failed : readKind o = .error fault) :
    (o = none ∧ fault = .kindMissing) ∨
      ∃ w, o = some w ∧ (∀ kind : CellKind, w ≠ .str kind.name) ∧
        fault = .kindUnknown (Literal.display w) := by
  match o, failed with
  | none, failed =>
    cases failed
    exact Or.inl ⟨rfl, rfl⟩
  | some (.str s), failed =>
    rw [readKind] at failed
    split at failed
    · cases failed
    · rename_i unknown
      cases failed
      refine Or.inr ⟨_, rfl, ?_, rfl⟩
      rintro kind ⟨⟩
      cases kind <;> cases unknown
  | some .null, failed | some (.bool _), failed | some (.int _), failed | some (.num _), failed
  | some (.arr _), failed | some (.obj _), failed =>
    cases failed
    exact Or.inr ⟨_, rfl, by rintro kind ⟨⟩, rfl⟩

theorem readKind_odd {w : Json} (odd : ∀ kind : CellKind, w ≠ .str kind.name) :
    readKind (some w) = .error (.kindUnknown (Literal.display w)) := by
  cases read : readKind (some w) with
  | ok kind => exact absurd (Option.some.inj (kind_given read)) (odd kind)
  | error fault =>
    rcases readKind_error read with ⟨missing, -⟩ | ⟨w', given, -, rfl⟩
    · cases missing
    · rw [Option.some.inj given]

theorem exists_source (form : ∀ w, o = some w → IsSource w) :
    ∃ source, readSource o = .ok source := by
  cases read : readSource o with
  | ok source => exact ⟨source, rfl⟩
  | error fault =>
    rcases readSource_error read with ⟨w, given, noText, noList, -⟩ | ⟨items, given, odd, -⟩
    · rcases form w given with text | ⟨ls, list⟩
      · exact absurd text noText
      · exact absurd ⟨_, list⟩ noList
    · obtain ⟨item, member, odd⟩ := odd
      rcases form _ given with ⟨s, ⟨⟩⟩ | ⟨ls, list⟩
      cases list
      obtain ⟨s, -, rfl⟩ := List.mem_map.mp member
      exact absurd ⟨s, rfl⟩ odd

theorem isObject_of_some {m : Option Json.Fields} (read : readObject? o = some m) :
    ∀ w, o = some w → IsObject w := by
  rintro w rfl
  obtain ⟨fields, -, is⟩ := Option.map_eq_some_iff.mp (object_given read)
  exact ⟨fields, is.symm⟩

theorem readObject?_eq_none : readObject? o = none ↔ ∃ w, o = some w ∧ ¬ IsObject w := by
  match o with
  | none => simp [readObject?]
  | some (.obj fields) => simp [readObject?, IsObject]
  | some .null | some (.bool _) | some (.int _) | some (.num _) | some (.str _) | some (.arr _) =>
    simp [readObject?, IsObject]

theorem exists_object (form : ∀ w, o = some w → IsObject w) :
    ∃ m, readObject? o = some m := by
  refine Option.ne_none_iff_exists'.mp fun none => ?_
  obtain ⟨w, given, odd⟩ := readObject?_eq_none.mp none
  exact odd (form w given)

/-- An execution count is refused as the whole number that it is not. -/
theorem readCount_some {w : Json} (notNull : w ≠ .null) :
    readCount (some w) =
      ((readInteger w).map fun n => some (some n)).mapError .executionCount := by
  cases w with
  | null => exact absurd rfl notNull
  | _ =>
    simp only [readCount]
    split <;> rename_i is <;> rw [is] <;> rfl

theorem isCount_of_ok {count : Option (Option Int)} (read : readCount o = .ok count) :
    ∀ w, o = some w → IsCount w := by
  rintro w rfl
  by_cases null : w = .null
  · exact Or.inl null
  · rw [readCount_some null] at read
    cases is : readInteger w with
    | ok n => exact Or.inr ⟨n, is⟩
    | error fault =>
      rw [is] at read
      cases read

theorem readCount_error (failed : readCount o = .error fault) :
    ∃ w f, o = some w ∧ w ≠ .null ∧ readInteger w = .error f ∧ fault = .executionCount f := by
  cases o with
  | none => cases failed
  | some w =>
    have notNull : w ≠ .null := by
      rintro rfl
      cases failed
    rw [readCount_some notNull] at failed
    cases is : readInteger w with
    | ok n =>
      rw [is] at failed
      cases failed
    | error f =>
      rw [is] at failed
      cases failed
      exact ⟨w, f, rfl, notNull, is, rfl⟩

theorem readCount_odd {w : Json} {f : IntegerFault} (notNull : w ≠ .null)
    (odd : readInteger w = .error f) : readCount (some w) = .error (.executionCount f) := by
  rw [readCount_some notNull, odd]
  rfl

theorem exists_count (form : ∀ w, o = some w → IsCount w) : ∃ count, readCount o = .ok count := by
  cases read : readCount o with
  | ok count => exact ⟨count, rfl⟩
  | error fault =>
    obtain ⟨w, f, given, notNull, odd, -⟩ := readCount_error read
    rcases form w given with null | ⟨n, is⟩
    · exact absurd null notNull
    · rw [is] at odd
      cases odd

theorem isList_of_ok {outputs : Option (List Json)} (read : readOutputs o = .ok outputs) :
    ∀ w, o = some w → IsList w := by
  rintro w rfl
  obtain ⟨items, -, is⟩ := Option.map_eq_some_iff.mp (outputs_given read)
  exact ⟨items, is.symm⟩

theorem readOutputs_odd {w : Json} (odd : ¬ IsList w) :
    readOutputs (some w) = .error .outputsForm := by
  cases w with
  | arr items => exact absurd ⟨items, rfl⟩ odd
  | _ => rfl

theorem readOutputs_error (failed : readOutputs o = .error fault) :
    ∃ w, o = some w ∧ ¬ IsList w ∧ fault = .outputsForm := by
  cases o with
  | none => cases failed
  | some w =>
    by_cases list : IsList w
    · obtain ⟨items, rfl⟩ := list
      cases failed
    · rw [readOutputs_odd list] at failed
      cases failed
      exact ⟨w, rfl, list, rfl⟩

end Member

section Format

variable {told : IntegerFault → Fault} {o : Option Json}

theorem readFormat_odd (told : IntegerFault → Fault) {f : IntegerFault}
    (odd : readInteger w = .error f) :
    readFormat told (some w) = .error (told f) := by
  rw [readFormat, odd]

theorem isInteger_of_ok {format : Option Int} (read : readFormat told o = .ok format) :
    ∀ w, o = some w → IsInteger w := by
  rintro w rfl
  cases is : readInteger w with
  | ok n => exact ⟨n, is⟩
  | error f =>
    rw [readFormat_odd told is] at read
    cases read

theorem readFormat_error {fault : Fault} (failed : readFormat told o = .error fault) :
    ∃ w f, o = some w ∧ readInteger w = .error f ∧ fault = told f := by
  cases o with
  | none => cases failed
  | some w =>
    cases is : readInteger w with
    | ok n =>
      rw [readFormat, is] at failed
      cases failed
    | error f =>
      rw [readFormat_odd told is] at failed
      cases failed
      exact ⟨w, f, rfl, is, rfl⟩

theorem exists_format (told : IntegerFault → Fault) (form : ∀ w, o = some w → IsInteger w) :
    ∃ format, readFormat told o = .ok format := by
  cases read : readFormat told o with
  | ok format => exact ⟨format, rfl⟩
  | error fault =>
    obtain ⟨w, f, given, odd, -⟩ := readFormat_error read
    obtain ⟨n, is⟩ := form w given
    rw [is] at odd
    cases odd

end Format

theorem object_of_valueOf {name : String} (given : valueOf name v = some w) : IsObject v := by
  cases v with
  | obj fields => exact ⟨fields, rfl⟩
  | _ => cases given

/-- A value names one kind of cell. -/
theorem kind_unique {other : CellKind} (named : valueOf "cell_type" v = some (.str kind.name))
    (again : valueOf "cell_type" v = some (.str other.name)) : kind = other := by
  have read := kind_written kind
  rw [← named, again, kind_written other] at read
  exact (Except.ok.inj read).symm

/-! ## Reading a cell -/

section Cells

variable {fault : CellFault}

/-- A value that is not read as a cell is refused for the fault that is told. -/
theorem Cell.refused_of_read (failed : Cell.read v = .error fault) : Cell.Refused v fault := by
  cases v with
  | obj fields =>
    simp only [Cell.read, bind, Except.bind] at failed
    split at failed
    · rename_i unread
      cases failed
      rcases readSource_error unread with ⟨w, given, noText, noList, rfl⟩ | unread
      · exact .sourceForm given noText noList
      · obtain ⟨items, given, ⟨item, member, odd⟩, rfl⟩ := unread
        exact .sourceLine given member odd
    rename_i source read
    have source : IfGiven "source" (.obj fields) IsSource := isSource_of_ok read
    split at failed
    · rename_i unread
      cases failed
      rcases readKind_error unread with ⟨missing, rfl⟩ | ⟨w, given, odd, rfl⟩
      · exact .kindMissing ⟨fields, rfl⟩ source missing
      · exact .kindUnknown source given odd
    rename_i kind read
    have named : valueOf "cell_type" (.obj fields) = some (.str kind.name) := kind_given read
    split at failed
    · rename_i unread
      cases failed
      obtain ⟨w, given, odd⟩ := readObject?_eq_none.mp unread
      exact .metadata source named given odd
    rename_i metadata read
    have metadata : IfGiven "metadata" (.obj fields) IsObject := isObject_of_some read
    cases kind with
    | code =>
      dsimp only at failed
      split at failed
      · rename_i unread
        cases failed
        obtain ⟨w, f, given, notNull, odd, rfl⟩ := readCount_error unread
        exact .count source named metadata given notNull odd
      rename_i count read
      have count : IfGiven "execution_count" (.obj fields) IsCount := isCount_of_ok read
      split at failed
      · rename_i unread
        cases failed
        obtain ⟨w, given, odd, rfl⟩ := readOutputs_error unread
        exact .outputs source named metadata count given odd
      · cases failed
    | markdown | raw => cases failed
  | _ =>
    cases failed
    exact .notObject (by rintro ⟨fields, ⟨⟩⟩)

/-- The fault that a value is refused for is the one that is told. -/
theorem Cell.read_of_refused (refused : Cell.Refused v fault) : Cell.read v = .error fault := by
  cases refused with
  | notObject odd =>
    cases v with
    | obj fields => exact absurd ⟨fields, rfl⟩ odd
    | _ => rfl
  | sourceForm given noText noList =>
    obtain ⟨fields, rfl⟩ := object_of_valueOf given
    have source := readSource_odd noText noList
    rw [← given, valueOf] at source
    simp only [Cell.read, source, bind, Except.bind]
  | @sourceLine items item given member odd =>
    obtain ⟨fields, rfl⟩ := object_of_valueOf given
    have source : readSource (some (.arr items)) = .error .sourceLine := by
      rw [readSource, readTexts?_eq_none.mpr ⟨item, member, odd⟩]
    rw [← given, valueOf] at source
    simp only [Cell.read, source, bind, Except.bind]
  | kindMissing object form missing =>
    obtain ⟨fields, rfl⟩ := object
    obtain ⟨source, source'⟩ := exists_source form
    rw [valueOf] at missing source'
    simp only [Cell.read, source', missing, readKind, bind, Except.bind]
  | kindUnknown form given odd =>
    obtain ⟨fields, rfl⟩ := object_of_valueOf given
    obtain ⟨source, source'⟩ := exists_source form
    have kind := readKind_odd odd
    rw [← given, valueOf] at kind
    rw [valueOf] at source'
    simp only [Cell.read, source', kind, bind, Except.bind]
  | @metadata kind w form named given odd =>
    obtain ⟨fields, rfl⟩ := object_of_valueOf given
    obtain ⟨source, source'⟩ := exists_source form
    have kind' := kind_written kind
    have none := readObject?_eq_none.mpr ⟨w, given, odd⟩
    rw [← named, valueOf] at kind'
    rw [valueOf] at source' none
    simp only [Cell.read, source', kind', none, bind, Except.bind]
  | count form named metadataForm given notNull odd =>
    obtain ⟨fields, rfl⟩ := object_of_valueOf given
    obtain ⟨source, source'⟩ := exists_source form
    obtain ⟨metadata, metadata'⟩ := exists_object metadataForm
    have kind := kind_written .code
    have count := readCount_odd notNull odd
    rw [← named, valueOf] at kind
    rw [← given, valueOf] at count
    rw [valueOf] at source' metadata'
    simp only [Cell.read, source', kind, metadata', count, bind, Except.bind]
  | outputs form named metadataForm countForm given odd =>
    obtain ⟨fields, rfl⟩ := object_of_valueOf given
    obtain ⟨source, source'⟩ := exists_source form
    obtain ⟨metadata, metadata'⟩ := exists_object metadataForm
    obtain ⟨count, count'⟩ := exists_count countForm
    have kind := kind_written .code
    have outputs := readOutputs_odd odd
    rw [← named, valueOf] at kind
    rw [← given, valueOf] at outputs
    rw [valueOf] at source' metadata' count'
    simp only [Cell.read, source', kind, metadata', count', outputs, bind, Except.bind]

/-- A value is refused as a cell for one fault: the first. -/
theorem Cell.read_error_iff : Cell.read v = .error fault ↔ Cell.Refused v fault :=
  ⟨Cell.refused_of_read, Cell.read_of_refused⟩

/-- A cell of a kind is refused for no fault. -/
theorem IsCellOf.not_refused (is : IsCellOf kind v) : ¬ Cell.Refused v fault := by
  intro refused
  cases refused with
  | notObject odd => exact odd is.object
  | sourceForm given noText noList =>
    rcases is.source _ given with text | ⟨ls, list⟩
    · exact noText text
    · exact noList ⟨_, list⟩
  | sourceLine given member odd =>
    rcases is.source _ given with ⟨s, ⟨⟩⟩ | ⟨ls, list⟩
    cases list
    obtain ⟨s, -, rfl⟩ := List.mem_map.mp member
    exact odd ⟨s, rfl⟩
  | kindMissing object source missing => cases is.named.symm.trans missing
  | kindUnknown source given odd => exact odd kind (Option.some.inj (given.symm.trans is.named))
  | metadata source named given odd => exact odd (is.metadata _ given)
  | count source named metadata given notNull odd =>
    have same := kind_unique is.named named
    rcases is.count same _ given with null | ⟨n, read⟩
    · exact notNull null
    · cases read.symm.trans odd
  | outputs source named metadata count given odd =>
    have same := kind_unique is.named named
    exact odd (is.outputs same _ given)

/-- What is read as a cell is a cell of the kind that it is read as. -/
theorem isCellOf_of_read (read : Cell.read v = .ok cell) : IsCellOf cell.kind v := by
  obtain ⟨fields, rfl⟩ := Cell.object_of_read read
  obtain ⟨source, kind, metadata, -, execution⟩ := Cell.read_iff.mp read
  have code (is : cell.kind = .code) : ∃ content execution, cell = .code content execution := by
    cases cell with
    | code content own => exact ⟨content, own, rfl⟩
    | markdown content | raw content => cases is
  constructor
  · exact ⟨fields, rfl⟩
  · exact isSource_of_ok source
  · exact kind_given kind
  · exact isObject_of_some metadata
  · intro is
    obtain ⟨content, execution', rfl⟩ := code is
    exact isCount_of_ok (execution content execution' rfl).1
  · intro is
    obtain ⟨content, execution', rfl⟩ := code is
    exact isList_of_ok (execution content execution' rfl).2

/-- The cells of a kind are the values that are read as a cell of that kind. -/
theorem isCellOf_iff : IsCellOf kind v ↔ ∃ cell, Cell.read v = .ok cell ∧ cell.kind = kind := by
  constructor
  · intro is
    cases read : Cell.read v with
    | ok cell =>
      exact ⟨cell, rfl, kind_unique (isCellOf_of_read read).named is.named⟩
    | error fault => exact absurd (Cell.refused_of_read read) is.not_refused
  · rintro ⟨cell, read, rfl⟩
    exact isCellOf_of_read read

theorem isCell_iff : IsCell v ↔ ∃ cell, Cell.read v = .ok cell := by
  simp only [IsCell, isCellOf_iff]
  exact ⟨fun ⟨_, cell, read, _⟩ => ⟨cell, read⟩, fun ⟨cell, read⟩ => ⟨_, cell, read, rfl⟩⟩

end Cells

/-! ## Reading a notebook -/

section Documents

variable {fault : Fault} {items : List Json} {d : Document}

/-- Reading cells fails for the first one that is refused. -/
theorem readCells_error_iff : readCells items = .error fault ↔ ∃ before bad after f,
    items = before ++ bad :: after ∧ (∀ c ∈ before, IsCell c) ∧ Cell.Refused bad f ∧
      fault = .cell f := by
  induction items with
  | nil => simp [readCells]
  | cons v rest ih =>
    cases first : Cell.read v with
    | error f =>
      have read : readCells (v :: rest) = .error (.cell f) := by
        simp only [readCells, first, Except.mapError, bind, Except.bind]
      rw [read]
      constructor
      · rintro ⟨⟩
        exact ⟨[], v, rest, f, rfl, by simp, Cell.refused_of_read first, rfl⟩
      · rintro ⟨before, bad, after, g, split, sound, refused, rfl⟩
        cases before with
        | nil =>
          cases split
          cases first.symm.trans (Cell.read_of_refused refused)
          rfl
        | cons c before =>
          cases split
          obtain ⟨cell, read⟩ := isCell_iff.mp (sound v List.mem_cons_self)
          cases first.symm.trans read
    | ok cell =>
      have later : readCells (v :: rest) = .error fault ↔ readCells rest = .error fault := by
        simp only [readCells, first, Except.mapError, bind, Except.bind]
        cases readCells rest <;> simp
      have sound : IsCell v := isCell_iff.mpr ⟨cell, first⟩
      rw [later, ih]
      constructor
      · rintro ⟨before, bad, after, f, rfl, earlier, refused, rfl⟩
        exact ⟨v :: before, bad, after, f, rfl, List.forall_mem_cons.mpr ⟨sound, earlier⟩, refused,
          rfl⟩
      · rintro ⟨before, bad, after, f, split, earlier, refused, rfl⟩
        cases before with
        | nil =>
          cases split
          cases first.symm.trans (Cell.read_of_refused refused)
        | cons c before =>
          cases split
          exact ⟨before, bad, after, f, rfl, (List.forall_mem_cons.mp earlier).2, refused, rfl⟩

theorem exists_cells (each : ∀ c ∈ items, IsCell c) : ∃ cells, readCells items = .ok cells := by
  cases read : readCells items with
  | ok cells => exact ⟨cells, rfl⟩
  | error fault =>
    obtain ⟨before, bad, after, f, rfl, -, refused, -⟩ := readCells_error_iff.mp read
    obtain ⟨kind, is⟩ := each bad (by simp)
    exact absurd refused is.not_refused

theorem readCellsMember_some (ne : items ≠ [])
    (given : Json.Fields.get? "cells" fields = some (.arr items)) :
    readCellsMember fields = readCells items := by
  rw [readCellsMember, given]
  cases items with
  | nil => exact absurd rfl ne
  | cons v rest => rfl

theorem exists_cellsMember (form : HasCells (.obj fields)) :
    ∃ cells, readCellsMember fields = .ok cells := by
  obtain ⟨items, given, ne, each⟩ := form
  rw [readCellsMember_some ne given]
  exact exists_cells each

theorem hasCells_of_ok {cells : List Cell} (read : readCellsMember fields = .ok cells) :
    HasCells (.obj fields) := by
  obtain ⟨items, given, ne, reads⟩ := readCellsMember_given read
  refine ⟨items, given, ne, fun c there => ?_⟩
  obtain ⟨n, inside, rfl⟩ := List.getElem_of_mem there
  exact isCell_iff.mpr ⟨_, reads.get inside (reads.length_eq ▸ inside)⟩

theorem readCellsMember_error (failed : readCellsMember fields = .error fault) :
    Document.Refused (.obj fields) fault := by
  cases given : Json.Fields.get? "cells" fields with
  | none =>
    rw [readCellsMember, given] at failed
    cases failed
    exact .cellsMissing ⟨fields, rfl⟩ given
  | some w =>
    by_cases list : IsList w
    · obtain ⟨items, rfl⟩ := list
      by_cases empty : items = []
      · subst empty
        rw [readCellsMember, given] at failed
        cases failed
        exact .cellsEmpty given
      · rw [readCellsMember_some empty given] at failed
        obtain ⟨before, bad, after, f, rfl, sound, refused, rfl⟩ := readCells_error_iff.mp failed
        exact .cell given sound refused
    · rw [readCellsMember, given] at failed
      cases w with
      | arr items => exact absurd ⟨items, rfl⟩ list
      | _ =>
        cases failed
        exact .cellsForm given list

/-- A value that is not read as a notebook is refused for the fault that is told. -/
theorem Document.refused_of_read (failed : Document.read v = .error fault) :
    Document.Refused v fault := by
  cases v with
  | obj fields =>
    simp only [Document.read, bind, Except.bind] at failed
    split at failed
    · rename_i unread
      cases failed
      exact readCellsMember_error unread
    rename_i cells read
    have cells := hasCells_of_ok read
    split at failed
    · rename_i unread
      cases failed
      obtain ⟨w, given, odd⟩ := readObject?_eq_none.mp unread
      exact .metadata cells given odd
    rename_i metadata read
    have metadata : IfGiven "metadata" (.obj fields) IsObject := isObject_of_some read
    split at failed
    · rename_i unread
      cases failed
      obtain ⟨w, f, given, odd, rfl⟩ := readFormat_error unread
      exact .format cells metadata given odd
    rename_i format read
    have format : IfGiven "nbformat" (.obj fields) IsInteger := isInteger_of_ok read
    split at failed
    · rename_i unread
      cases failed
      obtain ⟨w, f, given, odd, rfl⟩ := readFormat_error unread
      exact .formatMinor cells metadata format given odd
    · cases failed
  | _ =>
    cases failed
    exact .notObject (by rintro ⟨fields, ⟨⟩⟩)

/-- The fault that a value is refused for is the one that is told. -/
theorem Document.read_of_refused (refused : Document.Refused v fault) :
    Document.read v = .error fault := by
  -- a fault of the cells is told whatever the other members are
  have early {fields : Json.Fields} (failed : readCellsMember fields = .error fault) :
      Document.read (.obj fields) = .error fault := by
    simp only [Document.read, failed, bind, Except.bind]
  cases refused with
  | notObject odd =>
    cases v with
    | obj fields => exact absurd ⟨fields, rfl⟩ odd
    | _ => rfl
  | cellsMissing object missing =>
    obtain ⟨fields, rfl⟩ := object
    rw [valueOf] at missing
    exact early (by rw [readCellsMember, missing])
  | @cellsForm w given odd =>
    obtain ⟨fields, rfl⟩ := object_of_valueOf given
    rw [valueOf] at given
    refine early ?_
    rw [readCellsMember, given]
    cases w with
    | arr items => exact absurd ⟨items, rfl⟩ odd
    | _ => rfl
  | cellsEmpty given =>
    obtain ⟨fields, rfl⟩ := object_of_valueOf given
    rw [valueOf] at given
    exact early (by rw [readCellsMember, given])
  | @cell before after bad f given sound refused =>
    obtain ⟨fields, rfl⟩ := object_of_valueOf given
    refine early ?_
    rw [readCellsMember_some (by simp) given]
    exact readCells_error_iff.mpr ⟨before, bad, after, f, rfl, sound, refused, rfl⟩
  | @metadata w form given odd =>
    obtain ⟨fields, rfl⟩ := object_of_valueOf given
    obtain ⟨cells, cells'⟩ := exists_cellsMember form
    have none := readObject?_eq_none.mpr ⟨w, given, odd⟩
    rw [valueOf] at none
    simp only [Document.read, cells', none, bind, Except.bind]
  | format form metadataForm given odd =>
    obtain ⟨fields, rfl⟩ := object_of_valueOf given
    obtain ⟨cells, cells'⟩ := exists_cellsMember form
    obtain ⟨metadata, metadata'⟩ := exists_object metadataForm
    have format := readFormat_odd .format odd
    rw [← given, valueOf] at format
    rw [valueOf] at metadata'
    simp only [Document.read, cells', metadata', format, bind, Except.bind]
  | formatMinor form metadataForm formatForm given odd =>
    obtain ⟨fields, rfl⟩ := object_of_valueOf given
    obtain ⟨cells, cells'⟩ := exists_cellsMember form
    obtain ⟨metadata, metadata'⟩ := exists_object metadataForm
    obtain ⟨format, format'⟩ := exists_format .format formatForm
    have minor := readFormat_odd .formatMinor odd
    rw [← given, valueOf] at minor
    rw [valueOf] at metadata' format'
    simp only [Document.read, cells', metadata', format', minor, bind, Except.bind]

/-- A value is refused as a notebook for one fault: the first. -/
theorem Document.read_error_iff : Document.read v = .error fault ↔ Document.Refused v fault :=
  ⟨Document.refused_of_read, Document.read_of_refused⟩

/-- A notebook is refused for no fault. -/
theorem IsNotebook.not_refused (is : IsNotebook v) : ¬ Document.Refused v fault := by
  obtain ⟨items, cells, ne, each⟩ := is.cells
  intro refused
  cases refused with
  | notObject odd => exact odd (object_of_valueOf cells)
  | cellsMissing object missing => cases cells.symm.trans missing
  | cellsForm given odd => exact odd ⟨items, Option.some.inj (given.symm.trans cells)⟩
  | cellsEmpty given =>
    cases cells.symm.trans given
    exact ne rfl
  | @cell before after bad f given sound refused =>
    cases cells.symm.trans given
    obtain ⟨kind, cell⟩ := each bad (by simp)
    exact cell.not_refused refused
  | metadata cells given odd => exact odd (is.metadata _ given)
  | format cells metadata given odd =>
    obtain ⟨n, read⟩ := is.format _ given
    cases read.symm.trans odd
  | formatMinor cells metadata format given odd =>
    obtain ⟨n, read⟩ := is.formatMinor _ given
    cases read.symm.trans odd

/-- The notebooks are the values that are read as one. -/
theorem isNotebook_iff : IsNotebook v ↔ ∃ d, Document.read v = .ok d := by
  constructor
  · intro is
    cases read : Document.read v with
    | ok d => exact ⟨d, rfl⟩
    | error fault => exact absurd (Document.refused_of_read read) is.not_refused
  · rintro ⟨d, read⟩
    obtain ⟨fields, rfl⟩ := Document.object_of_read read
    obtain ⟨cells, metadata, format, formatMinor, -⟩ := Document.read_iff.mp read
    constructor
    · exact hasCells_of_ok cells
    · exact isObject_of_some metadata
    · exact isInteger_of_ok format
    · exact isInteger_of_ok formatMinor

/-- A notebook has the cells of its value, each of the kind that it names. -/
theorem Document.cells_of_read (read : Document.read v = .ok d) : ∃ items,
    valueOf "cells" v = some (.arr items) ∧
      List.Forall₂ (fun c cell => Cell.read c = .ok cell ∧ IsCellOf cell.kind c) items d.cells := by
  obtain ⟨fields, rfl⟩ := Document.object_of_read read
  obtain ⟨items, given, -, reads⟩ := readCellsMember_given (Document.read_iff.mp read).cells
  exact ⟨items, given, reads.imp fun c cell read => ⟨read, isCellOf_of_read read⟩⟩

end Documents

/-! ## What is accepted -/

/-- Exactly the cells are read as a cell, each as the kind that it names, and exactly the notebooks
as a notebook, with their cells in order. What is refused is refused for its first fault, as what
cannot be parsed, and null is neither a source nor a whole number. -/
theorem read_exact (v : Json) :
    (∀ kind, (∃ cell, Cell.read v = .ok cell ∧ cell.kind = kind) ↔ IsCellOf kind v) ∧
      ((∃ d, Document.read v = .ok d) ↔ IsNotebook v) ∧
      (∀ d, Document.read v = .ok d → ∃ items, valueOf "cells" v = some (.arr items) ∧
        List.Forall₂ (fun c cell => Cell.read c = .ok cell ∧ IsCellOf cell.kind c) items d.cells) ∧
      (∀ fault, Cell.read v = .error fault ↔ Cell.Refused v fault) ∧
      (∀ fault, Document.read v = .error fault ↔ Document.Refused v fault) ∧
      (∀ fault, (ReportError.notebook fault).kind = .parse) ∧
      ¬ IsSource .null ∧ ¬ IsInteger .null := by
  refine ⟨fun kind => isCellOf_iff.symm, isNotebook_iff.symm, fun d => Document.cells_of_read,
    fun fault => Cell.read_error_iff, fun fault => Document.read_error_iff, fun fault => rfl, ?_,
    ?_⟩
  · rintro (⟨s, ⟨⟩⟩ | ⟨ls, ⟨⟩⟩)
  · rintro ⟨n, ⟨⟩⟩

end RunReports.Notebook
