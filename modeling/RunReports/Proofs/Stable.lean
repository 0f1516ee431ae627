import RunReports.Proofs.Surrounds
import RunReports.Proofs.WrittenForms

/-! # Notebook files are stable

A notebook that comes of any value, read from it or assembled around what was read from it, has a
file that is read back: as a notebook with the same kinds of cells, which is written as the same
value and to the same bytes. What was given leniently, as a text that stands for a whole number or
as a number that is not finite, is settled when it is written for the first time. -/
namespace RunReports.Notebook

open RunReports RunReports.Text

variable {d : Document}

/-- A notebook comes of a value: it is read from it, or it is the report of a run that is assembled
around what is read from it. -/
inductive Document.ComesOf (raw : Json) : Document → Prop
  | read (d : Document) (read : Document.read raw = .ok d) : ComesOf raw d
  | assembled (run : Run.Snapshot) (d : Document) (assembled : assemble raw run = .ok d) :
      ComesOf raw d

/-- A notebook that comes of a value is what was read, perhaps with other cells: those of a property
that all cells of lines have and all cells that were read. -/
theorem Document.ComesOf.cells {raw : Json} (comes : d.ComesOf raw) {P : Cell → Prop}
    (built : ∀ lines, P (Cell.ofLines lines)) :
    ∃ fields d', raw = .obj fields ∧ Document.read (.obj fields) = .ok d' ∧
      d = { d' with cells := d.cells } ∧ d.cells ≠ [] ∧
      ((∀ cell ∈ d'.cells, P cell) → ∀ cell ∈ d.cells, P cell) := by
  cases comes with
  | read _ read =>
    obtain ⟨fields, rfl⟩ := Document.object_of_read read
    exact ⟨fields, d, rfl, read, rfl, (Document.apart_of_read read).ne, id⟩
  | assembled run _ assembled =>
    obtain ⟨d', hasControl, read, control, rfl⟩ := assemble_ok assembled
    obtain ⟨cells, is, surrounds⟩ := assembleWith_surrounds run.toJson control
    obtain ⟨fields, rfl⟩ := Document.object_of_read read
    rw [is]
    exact ⟨fields, d', rfl, read, rfl, surrounds.ne_nil, surrounds.all built (built _)⟩

section
variable {raw : Json} (comes : d.ComesOf raw)
include comes

theorem Document.ComesOf.apart : d.IsApart := by
  obtain ⟨fields, d', rfl, read, is, ne, own⟩ := comes.cells Cell.apart_ofLines
  have apart := Document.apart_of_read read
  refine ⟨ne, own apart.cells, ?_⟩
  rw [is]
  exact apart.extras

theorem Document.ComesOf.wellFormed (form : Json.WellFormed raw) : Json.WellFormed d.toJson := by
  obtain ⟨fields, d', rfl, read, is, -, own⟩ :=
    comes.cells (P := fun cell => Json.WellFormed cell.toJson) Cell.wellFormed_ofLines
  obtain ⟨stored, given, -, reads⟩ := readCellsMember_given (Document.read_iff.mp read).cells
  have items := Json.wellFormedItems_iff.mp (wellFormed_get? form given)
  rw [is]
  refine Document.wellFormed_of_read form read (own (forall_cells reads ?_))
  exact fun fields cell there => Cell.wellFormed_of_read (items _ there)

/-- A notebook is plain if it comes of finite numbers. -/
theorem Document.ComesOf.plain_eq (finite : Json.AllFinite raw) : d.plain = d := by
  obtain ⟨fields, d', rfl, read, is, -, own⟩ :=
    comes.cells (P := fun cell => cell.plain = cell) fun _ => rfl
  obtain ⟨stored, given, -, reads⟩ := readCellsMember_given (Document.read_iff.mp read).cells
  have items :=
    Json.allFiniteItems_iff.mp (Json.allFiniteFields_iff.mp finite _ (mem_of_get? given))
  rw [is]
  refine Document.plain_of_read read finite (own (forall_cells reads ?_))
  exact fun fields cell there read => Cell.plain_of_read read (items _ there)

end

/-- What a notebook that comes of any value is written as is read and written again as it is. And
if the value is one that texts stand for, the bytes of its file are read back as a notebook with the
same kinds of cells, which is written as the same value and to the same bytes. -/
theorem file_is_stable {raw : Json} {d : Document} (comes : d.ComesOf raw) :
    (∀ dumped, d.dump? = some dumped →
      ∃ d', Document.read dumped = .ok d' ∧ d'.dump? = some dumped) ∧
    (Json.WellFormed raw → ∀ content, d.serialize? = some content → ∃ d' dumped,
      Document.deserialize (.bytes content) = .ok d' ∧
      d'.cells.map Cell.kind = d.cells.map Cell.kind ∧
      d.dump? = some dumped ∧ d'.dump? = some dumped ∧ d'.serialize? = some content) := by
  constructor
  · intro dumped is
    have same : d.toJson = dumped := by
      rw [Document.dump?] at is
      split at is
      · exact Option.some.inj is
      · cases is
    refine ⟨d.plain, ?_, by rw [Document.dump?_plain, is]⟩
    rw [← same]
    exact Document.read_written comes.apart
  · intro form content written
    obtain ⟨text, textIs, -⟩ := Option.map_eq_some_iff.mp written
    obtain ⟨dumped, is, -⟩ := Option.map_eq_some_iff.mp textIs
    refine ⟨d.plain, dumped,
      Document.deserialize_written (comes.wellFormed form) written comes.apart, ?_, is, ?_, ?_⟩
    · simp [Document.plain]
    · rw [Document.dump?_plain, is]
    · rw [Document.serialize?_plain, written]

/-- A notebook whose whole numbers are given as texts and as a floating point number, with a value
that is no number and members that are not declared. -/
def lenient : Json := .obj
  [("nbformat", .num ⟨0x4010000000000000⟩),
    ("cells", .arr
      [.obj [("id", .int 7), ("cell_type", .str "code"), ("execution_count", .str " 0_12.0"),
          ("outputs", .arr [.num .nan, .obj []])],
        .obj [("cell_type", .str "raw"), ("outputs", .null), ("source", .str "\u2028\"")]]),
    ("author", .obj [("big", .int 36893488147419103232)])]

theorem lenient_form : Json.WellFormed lenient := by
  have few : (decimal 7).length ≤ Json.digitLimit ∧
      (decimal 36893488147419103232).length ≤ Json.digitLimit := by decide
  simp [lenient, Json.WellFormed, Json.WellFormedItems, Json.WellFormedFields, few]

theorem file_is_stable_lenient : Json.WellFormed lenient ∧
    ∃ d content, Document.ComesOf lenient d ∧ d.serialize? = some content ∧ ∃ d' dumped,
      Document.deserialize (.bytes content) = .ok d' ∧
      d'.cells.map Cell.kind = d.cells.map Cell.kind ∧
      d.dump? = some dumped ∧ d'.dump? = some dumped ∧ d'.serialize? = some content := by
  refine ⟨lenient_form, ?_⟩
  have shallow : ((Document.read lenient).toOption.any fun d => d.toJson.isShallow) = true := by
    decide +kernel
  cases read : Document.read lenient with
  | error fault =>
    rw [read] at shallow
    cases shallow
  | ok d =>
    rw [read] at shallow
    have comes : d.ComesOf lenient := .read d read
    have written : d.serialize? = some (utf8 (d.toJson.indented ++ "\n")) := by
      have shallow : d.toJson.isShallow = true := shallow
      rw [Document.serialize?, Document.fileText?, Document.dump?, if_pos shallow]
      rfl
    exact ⟨d, _, comes, written, (file_is_stable comes).2 lenient_form _ written⟩

end RunReports.Notebook
