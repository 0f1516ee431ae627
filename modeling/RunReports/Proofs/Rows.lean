import Mathlib.Data.List.Nodup
import RunReports.Report.Record

/-!
# Rows of run reports

The ids of run reports are their key. Where keys are distinct, deleting the records of a run and
report by their ids takes away these records alone. A live record of a run and report is what
makes the database refuse a second one.
-/
namespace RunReports.Store

open RunReports.Report

namespace Tables

variable {t : Tables} {r : RunReport}

def KeysDistinct (t : Tables) : Prop := (t.runReports.map RunReport.id).Nodup

def IdFree (t : Tables) (id : Nat) : Prop := ∀ r ∈ t.runReports, r.id ≠ id

theorem KeysDistinct.eq_of_id {t : Tables} (keys : t.KeysDistinct) {q r : RunReport}
    (thereq : q ∈ t.runReports) (therer : r ∈ t.runReports) (same : q.id = r.id) : q = r :=
  List.inj_on_of_nodup_map keys thereq therer same

theorem le_foldl_max (l : List Nat) (start : Nat) :
    start ≤ l.foldl max start ∧ ∀ n ∈ l, n ≤ l.foldl max start := by
  induction l generalizing start with
  | nil => simp
  | cons m rest ih =>
    obtain ⟨starts, others⟩ := ih (max start m)
    refine ⟨by rw [List.foldl_cons]; omega, ?_⟩
    intro n member
    rw [List.foldl_cons]
    rcases List.mem_cons.mp member with rfl | member
    · omega
    · exact others n member

theorem le_greatestId (there : r ∈ t.runReports) : r.id ≤ t.greatestId :=
  (le_foldl_max (t.runReports.map RunReport.id) 0).2 r.id (List.mem_map_of_mem there)

/-- As long as there are greater ids, the next one is greater than all others. -/
theorem lt_nextId (room : t.greatestId < idLimit) (there : r ∈ t.runReports) : r.id < t.nextId := by
  rw [nextId, if_pos room]
  exact Nat.lt_succ_of_le (le_greatestId there)

theorem spareId_free (t : Tables) : t.IdFree t.spareId := by
  rw [spareId]
  cases found : (List.range' 1 (t.runReports.length + 1)).find? fun id =>
      t.runReports.all fun r => r.id != id with
  | some id =>
    intro r there
    have free := List.find?_some found
    simpa using List.all_eq_true.mp free r there
  | none =>
    -- there are more candidates than records, so not every candidate can be in use
    have used : List.range' 1 (t.runReports.length + 1) ⊆ t.runReports.map RunReport.id := by
      intro id candidate
      have taken := List.find?_eq_none.mp found id candidate
      simpa using taken
    have count := List.Nodup.length_le_of_subset List.nodup_range' used
    rw [List.length_range', List.length_map] at count
    omega

/-- The next id is free. -/
theorem nextId_free (t : Tables) : t.IdFree t.nextId := by
  by_cases room : t.greatestId < idLimit
  · exact fun r there => Nat.ne_of_lt (lt_nextId room there)
  · rw [nextId, if_neg room]
    exact t.spareId_free

def withoutRecords (t : Tables) (runId reportId : String) : Tables :=
  { t with runReports := t.runReports.filter fun r => !r.isOf runId reportId }

def withRecord (t : Tables) (r : RunReport) : Tables :=
  { t with runReports := t.runReports ++ [r] }

theorem mem_recordsOf {runId reportId : String} :
    r ∈ recordsOf runId reportId t ↔ r ∈ t.runReports ∧ r.isOf runId reportId = true :=
  List.mem_filter

theorem not_mem_recordsOf_withoutRecords {runId reportId : String} :
    r ∉ recordsOf runId reportId (t.withoutRecords runId reportId) := by
  simp [mem_recordsOf, withoutRecords]

theorem withoutRecords_eq_self {runId reportId : String}
    (none : recordsOf runId reportId t = []) : t.withoutRecords runId reportId = t := by
  have all : t.runReports.filter (fun r => !r.isOf runId reportId) = t.runReports := by
    refine List.filter_eq_self.mpr fun r therer => ?_
    simpa using List.filter_eq_nil_iff.mp none r therer
  rw [withoutRecords, all]

/-- Deleting by id takes the records of a run and report alone. -/
theorem apply_dropRecords {runId reportId : String} (keys : t.KeysDistinct) :
    (Change.dropRunReports ((recordsOf runId reportId t).map RunReport.id)).apply t =
      t.withoutRecords runId reportId := by
  have same : ∀ r ∈ t.runReports,
      (!((recordsOf runId reportId t).map RunReport.id).contains r.id) =
        !r.isOf runId reportId := by
    intro r therer
    congr 1
    rw [Bool.eq_iff_iff]
    simp only [List.contains_iff_mem, List.mem_map, mem_recordsOf]
    constructor
    · rintro ⟨q, ⟨thereq, isOf⟩, sameId⟩
      exact keys.eq_of_id thereq therer sameId ▸ isOf
    · intro isOf
      exact ⟨r, ⟨therer, isOf⟩, rfl⟩
  simp only [Change.apply, withoutRecords, List.filter_congr same]

/-- A new key is added to distinct ones. -/
theorem nodup_keys_snoc {α κ : Type} {key : α → κ} {rows : List α} {row : α}
    (keys : (rows.map key).Nodup) (new : ∀ r ∈ rows, key r ≠ key row) :
    ((rows ++ [row]).map key).Nodup := by
  rw [List.map_append]
  refine List.Nodup.append keys (List.nodup_singleton _) ?_
  intro k there same
  obtain ⟨r, member, rfl⟩ := List.mem_map.mp there
  exact new r member (List.mem_singleton.mp same)

theorem KeysDistinct.withRecord (keys : t.KeysDistinct) (free : t.IdFree r.id) :
    (t.withRecord r).KeysDistinct :=
  nodup_keys_snoc keys free

/-- A record with a free id is found by this id once it is there. -/
theorem find?_withRecord (free : t.IdFree r.id) :
    (t.withRecord r).runReports.find? (fun q => q.id == r.id) = some r := by
  have before : t.runReports.find? (fun q => q.id == r.id) = none := by
    refine List.find?_eq_none.mpr fun q thereq => ?_
    simpa using free q thereq
  simp [withRecord, List.find?_append, before]

theorem map_id_advance (t : Tables) (id : Nat) (p : Progress) :
    ((Change.advance id p).apply t).runReports.map RunReport.id =
      t.runReports.map RunReport.id := by
  simp only [Change.apply, List.map_map]
  refine List.map_congr_left fun r _ => ?_
  simp only [Function.comp_apply]
  split <;> rfl

theorem KeysDistinct.advance (keys : t.KeysDistinct) (id : Nat) (p : Progress) :
    ((Change.advance id p).apply t).KeysDistinct := by
  rw [KeysDistinct, map_id_advance]
  exact keys

/-- Progress is written to one row alone. -/
theorem mem_advance_of_ne {id : Nat} {p : Progress} (there : r ∈ t.runReports) (other : r.id ≠ id) :
    r ∈ ((Change.advance id p).apply t).runReports :=
  List.mem_map.mpr ⟨r, there, if_neg other⟩

/-- Progress leaves every row its id and its job. -/
theorem exists_of_mem_advance {id : Nat} {p : Progress}
    (there : r ∈ ((Change.advance id p).apply t).runReports) :
    ∃ q ∈ t.runReports, r.id = q.id ∧ r.jobId = q.jobId := by
  obtain ⟨q, before, rfl⟩ := List.mem_map.mp there
  refine ⟨q, before, ?_⟩
  split <;> exact ⟨rfl, rfl⟩

theorem refusal?_addRunReport {row : RunReport}
    (dead : ∀ q ∈ recordsOf row.runId row.reportId t, q.isLive = false)
    (references : (t.hasRun row.runId && t.hasReport row.reportId) = true) :
    t.refusal? (.addRunReport row) = none := by
  have alone : t.hasOtherLive row = false := by
    refine List.any_eq_false.mpr fun q thereq => ?_
    by_cases isOf : q.isOf row.runId row.reportId = true
    · simp [dead q (mem_recordsOf.mpr ⟨thereq, isOf⟩)]
    · simp [isOf]
  simp [refusal?, secondLive?, duplicate?, alone, dangling?, references]

/-- A live record of the same run and report forbids a second one. -/
theorem refusal?_secondLive {q row : RunReport} (member : q ∈ recordsOf row.runId row.reportId t)
    (live : q.isLive = true) (new : row.isLive = true) (other : q.id ≠ row.id) :
    t.refusal? (.addRunReport row) = some (.unique "run_reports" ["run_id", "report_id"]) := by
  have found : t.hasOtherLive row = true := by
    obtain ⟨thereq, isOf⟩ := mem_recordsOf.mp member
    exact List.any_eq_true.mpr ⟨q, thereq, by simp [other, isOf, live]⟩
  simp [refusal?, secondLive?, duplicate?, new, found, TableName.text]

end Tables

end RunReports.Store
