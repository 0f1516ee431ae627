import RunReports.Proofs.ControlScan

/-! # What the download cell finds assigned

The cell that downloads files asks for both control variables. The default control block assigns
both. A control block of a template stays as it is: it is known to begin with one of the names, and
a variable that none of its lines assigns stays unassigned. This does not say that an assignment is
reached when the cell is executed. -/
namespace RunReports.Notebook

open RunReports

variable {run : Run.Snapshot} {own cells : List Cell} {name line : String}

/-- The line begins with the name of the variable, blanks and a single equals sign. -/
def Assigns (name line : String) : Prop :=
  ∃ blanks rest : List Char, line.toList = name.toList ++ blanks ++ '=' :: rest ∧
    (∀ c ∈ blanks, c = ' ' ∨ c = '\t') ∧ rest.head? ≠ some '='

def Cell.HasLine (cell : Cell) (line : String) : Prop :=
  ∃ ls, cell.content.source = some (.lines ls) ∧ line ∈ ls

def Cell.AssignsTo (cell : Cell) (name : String) : Prop :=
  ∃ line, cell.HasLine line ∧ Assigns name line

theorem Assigns.begins (h : Assigns name line) : name.toList <+: line.toList := by
  obtain ⟨blanks, rest, same, -, -⟩ := h
  exact ⟨blanks ++ '=' :: rest, by rw [same, List.append_assoc]⟩

/-- The default control block assigns both control variables. -/
theorem defaultControlCell_assigns (control : name ∈ controlVariables) :
    defaultControlCell.AssignsTo name := by
  have known : name = "report_download_results" ∨ name = "report_download_inputs" := by
    simpa [controlVariables] using control
  rcases known with rfl | rfl
  · exact ⟨"report_download_results = True\n", ⟨_, rfl, by decide⟩, [' '], " True\n".toList, rfl,
      by simp, by decide⟩
  · exact ⟨"report_download_inputs = False", ⟨_, rfl, by decide⟩, [' '], " False".toList, rfl,
      by simp, by decide⟩

/-- The cell that downloads files asks for both control variables, whatever came before. -/
theorem fileDownloadCell_asks (control : name ∈ controlVariables) :
    fileDownloadCell.HasLine ("if " ++ name ++ ":\n") := by
  have known : name = "report_download_results" ∨ name = "report_download_inputs" := by
    simpa [controlVariables] using control
  rcases known with rfl | rfl
  · exact ⟨_, rfl, by decide⟩
  · exact ⟨_, rfl, by decide⟩

/-- The control block of a report: the one of its template, or the default one. -/
theorem LaidOut.control (h : LaidOut run own cells) : ∃ first control,
    own.head? = some first ∧ cells[1]? = some control ∧ cells[3]? = some fileDownloadCell ∧
      (first.SetsControl → control = first) ∧
      (¬ first.SetsControl → control = defaultControlCell) := by
  cases h with
  | own first rest sets =>
    exact ⟨first, first, rfl, rfl, rfl, fun _ => rfl, fun none => absurd sets none⟩
  | default first rest none =>
    exact ⟨first, defaultControlCell, rfl, rfl, rfl, fun sets => absurd sets none, fun _ => rfl⟩

/-- The control block of a report assigns a control variable, unless the template brings a control
block of its own that does not. -/
theorem assigned_before_download {template : Json} {doc : Document}
    (assembled : assemble template run = .ok doc) : ∃ d first control,
      Document.read template = .ok d ∧ d.cells.head? = some first ∧
      doc.cells[1]? = some control ∧ doc.cells[3]? = some fileDownloadCell ∧
      (first.SetsControl → control = first) ∧
      (¬ first.SetsControl → control = defaultControlCell) ∧
      ∀ name ∈ controlVariables, fileDownloadCell.HasLine ("if " ++ name ++ ":\n") ∧
        (control.AssignsTo name ↔ (first.SetsControl → first.AssignsTo name)) := by
  obtain ⟨d, read, laidOut⟩ := laidOut_of_assembled assembled
  obtain ⟨first, control, head, second, fourth, kept, built⟩ := laidOut.control
  refine ⟨d, first, control, read, head, second, fourth, kept, built, ?_⟩
  intro name known
  refine ⟨fileDownloadCell_asks known, ?_⟩
  by_cases sets : first.SetsControl
  · rw [kept sets]
    exact ⟨fun assigns _ => assigns, fun assigns => assigns sets⟩
  · rw [built sets]
    constructor
    · intro _ again
      exact absurd again sets
    · intro _
      exact defaultControlCell_assigns known

def inputsOnly : Json := .obj
  [("cells", .arr
      [.obj [("cell_type", .str "code"), ("execution_count", .null), ("metadata", .obj []),
          ("outputs", .arr []),
          ("source", .arr [.str "# Control block\n", .str "report_download_inputs = True\n"]),
          ("id", .str "ctl")],
        .obj [("cell_type", .str "markdown"), ("metadata", .obj []),
          ("source", .arr [.str "## Body\n"])]]),
    ("metadata", .obj []), ("nbformat", .int 4), ("nbformat_minor", .int 5)]

theorem assigned_before_download_inputsOnly : ∃ doc d first control,
    assemble inputsOnly motleyRun = .ok doc ∧
      Document.read inputsOnly = .ok d ∧ d.cells.head? = some first ∧
      doc.cells[1]? = some control ∧ doc.cells[3]? = some fileDownloadCell ∧
      (first.SetsControl → control = first) ∧
      (¬ first.SetsControl → control = defaultControlCell) ∧
      ∀ name ∈ controlVariables, fileDownloadCell.HasLine ("if " ++ name ++ ":\n") ∧
        (control.AssignsTo name ↔ (first.SetsControl → first.AssignsTo name)) := by
  have assembled : ∃ doc, assemble inputsOnly motleyRun = .ok doc := ⟨_, rfl⟩
  obtain ⟨doc, assembled⟩ := assembled
  obtain ⟨d, first, control, found⟩ := assigned_before_download assembled
  exact ⟨doc, d, first, control, assembled, found⟩

/-- The control block of the notebook stays, and the variable for results is asked for without being
assigned. -/
theorem results_left_unassigned : ∃ doc control, assemble inputsOnly motleyRun = .ok doc ∧
    doc.cells[1]? = some control ∧ "report_download_results" ∈ controlVariables ∧
    ¬ control.AssignsTo "report_download_results" := by
  refine ⟨_, _, rfl, rfl, by decide, ?_⟩
  rintro ⟨line, ⟨ls, source, there⟩, assigns⟩
  have begins := assigns.begins
  cases source
  simp only [List.mem_cons, List.not_mem_nil, or_false] at there
  rcases there with rfl | rfl
  · revert begins
    decide
  · revert begins
    decide

end RunReports.Notebook
