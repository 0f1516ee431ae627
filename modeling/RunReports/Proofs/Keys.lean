import RunReports.Proofs.JsonValues
import RunReports.Proofs.Rows

/-! # What the database keeps

Runs and report definitions are known by their ids, results by their run and name, and run reports
by their ids. No statement that the database lets through gives two rows one key, and JSON columns
hold what was written to them as text. So both stay true of a database from its beginning. -/
namespace RunReports.Store.Tables

variable {t : Tables} {α κ : Type}

structure Keyed (t : Tables) : Prop where
  runs : (t.runs.map RunRow.id).Nodup
  reports : (t.reports.map ReportRow.id).Nodup
  results : (t.results.map fun r => (r.runId, r.key)).Nodup
  runReports : t.KeysDistinct

theorem keyed_empty : Tables.empty.Keyed :=
  ⟨List.nodup_nil, List.nodup_nil, List.nodup_nil, List.nodup_nil⟩

theorem find?_of_key {rows : List α} {row : α} (key : α → String) (keys : (rows.map key).Nodup)
    (there : row ∈ rows) : rows.find? (fun r => key r == key row) = some row := by
  cases found : rows.find? fun r => key r == key row with
  | none =>
    have absent := List.find?_eq_none.mp found row there
    simp at absent
  | some other =>
    have same : key other = key row := by simpa using List.find?_some found
    rw [List.inj_on_of_nodup_map keys (List.mem_of_find?_eq_some found) there same]

theorem duplicate?_eq_none {isThere : Bool} {table : TableName} {columns : List String} :
    duplicate? isThere table columns = none ↔ isThere = false := by
  cases isThere <;> simp [duplicate?]

/-- A row that is let in has a new key. -/
theorem new_of_none {rows : List α} {key : α → κ} [BEq κ] [LawfulBEq κ] {row : α}
    (none : (rows.any fun r => key r == key row) = false) : ∀ r ∈ rows, key r ≠ key row := by
  intro r there same
  have found := List.any_eq_false.mp none r there
  simp [same] at found

/-- What the database lets through keeps the keys distinct. The ids of run reports are given out by
the database itself. -/
theorem Keyed.apply (keys : t.Keyed) {c : Change} (allowed : t.refusal? c = none)
    (fresh : ∀ row, c = .addRunReport row → t.IdFree row.id) : (c.apply t).Keyed := by
  obtain ⟨runs, reports, results, runReports⟩ := keys
  cases c with
  | addTemplate row => exact ⟨runs, reports, results, runReports⟩
  | addTest row => exact ⟨runs, reports, results, runReports⟩
  | addMapping row => exact ⟨runs, reports, results, runReports⟩
  | addRun row =>
    simp only [refusal?, Option.orElse_eq_orElse, Option.orElse_eq_or, Option.or_eq_none_iff,
      duplicate?_eq_none] at allowed
    refine ⟨nodup_keys_snoc runs ?_, reports, results, runReports⟩
    exact new_of_none allowed.2.1
  | addResult row =>
    simp only [refusal?, Option.orElse_eq_orElse, Option.orElse_eq_or, Option.or_eq_none_iff,
      duplicate?_eq_none] at allowed
    refine ⟨runs, reports, nodup_keys_snoc results ?_, runReports⟩
    intro r there same
    have found := List.any_eq_false.mp allowed.1 r there
    simp_all
  | addReport row =>
    simp only [refusal?, Option.orElse_eq_orElse, Option.orElse_eq_or, Option.or_eq_none_iff,
      duplicate?_eq_none] at allowed
    refine ⟨runs, nodup_keys_snoc reports ?_, results, runReports⟩
    exact new_of_none allowed.2
  | addRunReport row =>
    exact ⟨runs, reports, results, runReports.withRecord (fresh row rfl)⟩
  | dropRunReports ids =>
    exact ⟨runs, reports, results, runReports.sublist (List.filter_sublist.map RunReport.id)⟩
  | advance id progress => exact ⟨runs, reports, results, runReports.advance id progress⟩
  | patchReport id patch =>
    refine ⟨runs, ?_, results, runReports⟩
    have same : ((Change.patchReport id patch).apply t).reports.map ReportRow.id =
        t.reports.map ReportRow.id := by
      simp only [Change.apply, List.map_map]
      refine List.map_congr_left fun r _ => ?_
      simp only [Function.comp_apply]
      split <;> rfl
    rw [same]
    exact reports

/-- The JSON columns hold texts: each of their values is one that a text stands for. -/
structure HoldsJson (t : Tables) : Prop where
  inputs : ∀ row ∈ t.runs, Json.IsRead row.testInput ∧ Json.IsRead row.evalInput
  results : ∀ row ∈ t.results, Json.IsRead row.value
  notebooks : ∀ row ∈ t.reports, Json.IsRead row.notebook

def WritesJson : Change → Prop
  | .addRun row => Json.IsRead row.testInput ∧ Json.IsRead row.evalInput
  | .addResult row => Json.IsRead row.value
  | .addReport row => Json.IsRead row.notebook
  | .patchReport _ patch => ∀ v ∈ patch.notebook, Json.IsRead v
  | _ => True

theorem HoldsJson.apply (json : t.HoldsJson) {c : Change} (writes : WritesJson c) :
    (c.apply t).HoldsJson := by
  obtain ⟨inputs, results, notebooks⟩ := json
  cases c with
  | addRun row =>
    refine ⟨?_, results, notebooks⟩
    simp only [Change.apply, List.forall_mem_append, List.forall_mem_singleton]
    exact ⟨inputs, writes⟩
  | addResult row =>
    refine ⟨inputs, ?_, notebooks⟩
    simp only [Change.apply, List.forall_mem_append, List.forall_mem_singleton]
    exact ⟨results, writes⟩
  | addReport row =>
    refine ⟨inputs, results, ?_⟩
    simp only [Change.apply, List.forall_mem_append, List.forall_mem_singleton]
    exact ⟨notebooks, writes⟩
  | patchReport id patch =>
    refine ⟨inputs, results, ?_⟩
    simp only [Change.apply, List.forall_mem_map]
    intro row there
    split
    · rw [ReportRow.patch]
      cases given : patch.notebook with
      | none => exact notebooks row there
      | some v => exact writes v given
    · exact notebooks row there
  | _ => exact ⟨inputs, results, notebooks⟩

/-- The rows after statements that the database lets through, one after another. -/
inductive Reached : Tables → Prop
  | empty : Reached Tables.empty
  | step {t : Tables} (c : Change) : Reached t → t.refusal? c = none →
      (∀ row, c = .addRunReport row → t.IdFree row.id) → WritesJson c → Reached (c.apply t)

/-- Whatever statements have run, no table holds two rows with one key, and the JSON columns hold
texts. -/
theorem Reached.keeps (reached : Reached t) : t.Keyed ∧ t.HoldsJson := by
  induction reached with
  | empty => exact ⟨keyed_empty, by simp [Tables.empty], by simp [Tables.empty],
      by simp [Tables.empty]⟩
  | step c _ allowed fresh writes ih =>
    exact ⟨ih.1.apply allowed fresh, ih.2.apply writes⟩

end RunReports.Store.Tables
