import RunReports.Proofs.Creation

/-!
# The guard and the index of live records

The database lets one record of a run and report be live, next to any number of failed ones. The
guard decides by the current record, deletes by status, and the index looks at the new record only
when it is inserted. On every table that satisfies the index they agree: what the guard lets begin
the index lets in, and where a live record is there both refuse another one.
-/
namespace RunReports.Store.Tables

open RunReports.Report

variable {t : Tables} {row : RunReport}

/-- The rules for run reports hold: ids are distinct, and of the records of a run and report at most
one is live. -/
structure Indexed (t : Tables) : Prop where
  keys : t.KeysDistinct
  live : ∀ q ∈ t.runReports, ∀ r ∈ t.runReports, q.isLive = true → r.isLive = true →
    q.runId = r.runId → q.reportId = r.reportId → q.id = r.id

theorem hasOtherLive_iff : t.hasOtherLive row = true ↔
    ∃ q ∈ recordsOf row.runId row.reportId t, q.isLive = true ∧ q.id ≠ row.id := by
  simp only [hasOtherLive, List.any_eq_true, mem_recordsOf, Bool.and_eq_true, bne_iff_ne]
  constructor
  · rintro ⟨q, there, ⟨other, isOf⟩, live⟩
    exact ⟨q, ⟨there, isOf⟩, live, other⟩
  · rintro ⟨q, ⟨there, isOf⟩, live, other⟩
    exact ⟨q, there, ⟨other, isOf⟩, live⟩

/-- The index lets in what has failed, and what has no other live record beside it. -/
theorem secondLive?_eq_none : t.secondLive? row = none ↔
    (row.isLive = true → ∀ q ∈ recordsOf row.runId row.reportId t, q.isLive = true →
      q.id = row.id) := by
  have free : t.secondLive? row = none ↔ ¬ (row.isLive = true ∧ t.hasOtherLive row = true) := by
    cases new : row.isLive <;> cases other : t.hasOtherLive row <;>
      simp [secondLive?, duplicate?, new, other]
  rw [free, hasOtherLive_iff]
  constructor
  · intro none new q member live
    by_contra other
    exact none ⟨new, q, member, live, other⟩
  · rintro only ⟨new, q, member, live, other⟩
    exact other (only new q member live)

end RunReports.Store.Tables

namespace RunReports.Report

open RunReports RunReports.Action RunReports.Calendar RunReports.Store RunReports.Store.Session

variable {runId reportId : String} {t : Tables}

/-! ## The current record -/

/-- The current one of the records of a run and report: the live one, else the failed one with the
greatest id, else none. -/
inductive IsCurrent (records : List RunReport) : Option RunReport → Prop
  | live (r : RunReport) (member : r ∈ records) (live : r.isLive = true)
      (alone : ∀ q ∈ records, q.isLive = true → q = r) : IsCurrent records (some r)
  | failed (r : RunReport) (member : r ∈ records) (dead : ∀ q ∈ records, q.isLive = false)
      (newest : ∀ q ∈ records, q.id ≤ r.id) : IsCurrent records (some r)
  | absent (nothing : records = []) : IsCurrent records none

theorem newest?_id_le {l : List RunReport} {r : RunReport} (h : newest? l = some r) :
    ∀ q ∈ l, q.id ≤ r.id := by
  induction l generalizing r with
  | nil => cases h
  | cons q rest ih =>
    rw [newest?] at h
    cases found : newest? rest with
    | none =>
      rw [found] at h
      cases h
      rw [newest?_eq_none.mp found]
      simp
    | some p =>
      have later := ih found
      rw [found] at h
      simp only at h
      refine List.forall_mem_cons.mpr ?_
      split at h
      · rename_i less
        cases h
        exact ⟨Nat.le_refl _, fun q' member => Nat.le_trans (later q' member) (Nat.le_of_lt less)⟩
      · rename_i less
        cases h
        exact ⟨Nat.le_of_not_lt less, later⟩

theorem recordsOf_live_unique (indexed : t.Indexed) {q r : RunReport}
    (thereq : q ∈ recordsOf runId reportId t) (therer : r ∈ recordsOf runId reportId t)
    (liveq : q.isLive = true) (liver : r.isLive = true) : q = r := by
  rw [Tables.mem_recordsOf] at thereq therer
  simp only [RunReport.isOf, Bool.and_eq_true, beq_iff_eq] at thereq therer
  refine indexed.keys.eq_of_id thereq.1 therer.1 ?_
  exact indexed.live q thereq.1 r therer.1 liveq liver (thereq.2.1.trans therer.2.1.symm)
    (thereq.2.2.trans therer.2.2.symm)

/-- Where the index holds, the record that is found is the current one. -/
theorem current?_isCurrent (indexed : t.Indexed) (runId reportId : String) :
    IsCurrent (recordsOf runId reportId t) (current? (recordsOf runId reportId t)) := by
  cases found : current? (recordsOf runId reportId t) with
  | none => exact .absent (current?_none found)
  | some r =>
    obtain ⟨member, dead⟩ := current?_some found
    cases live : r.isLive with
    | true =>
      exact .live r member live fun q thereq liveq => recordsOf_live_unique indexed thereq member liveq live
    | false =>
      have all := dead live
      have none : (recordsOf runId reportId t).filter RunReport.isLive = [] := by
        refine List.filter_eq_nil_iff.mpr fun q thereq => ?_
        simp [all q thereq]
      have newest : newest? ((recordsOf runId reportId t).filter fun q => !q.isLive) = some r := by
        rw [current?, none] at found
        exact found
      refine .failed r member all fun q thereq => newest?_id_le newest q (List.mem_filter.mpr ⟨thereq, ?_⟩)
      simp [all q thereq]

/-! ## Insertions -/

/-- The index lets in a further record of the run and report, whatever its status. Where the run and
the report are there, an insertion then goes through. -/
structure Admits (runId reportId : String) (s : Session) : Prop where
  index : ∀ row : RunReport, row.isOf runId reportId = true → s.view.secondLive? row = none
  insert : (s.view.hasRun runId && s.view.hasReport reportId) = true →
    ∀ now status jobId createdBy results,
      (insert now runId reportId status jobId createdBy results).Ensures s
        (fun row t => t.committed = s.committed ∧ t.view = s.view.withRecord row.stored)
        fun _ _ => ¬ s.Calm

/-- The index lets in no further live record of the run and report, and an insertion is told so. -/
structure Refuses (runId reportId : String) (s : Session) : Prop where
  index : ∀ row : RunReport, row.isOf runId reportId = true → row.isLive = true →
    s.view.IdFree row.id →
    s.view.refusal? (.addRunReport row) = some (.unique "run_reports" ["run_id", "report_id"])
  insert : ∀ now status jobId createdBy results, status.isFailure = false →
    (insert now runId reportId status jobId createdBy results).Ensures s (fun _ _ => False)
      fun f t => t.committed = s.committed ∧ t.pending = [] ∧
        (s.Calm → f = .report (.prohibited (.exists runId reportId)))

theorem admits_of_absent {s : Session} (absent : recordsOf runId reportId s.view = []) :
    Admits runId reportId s where
  index row isOf := by
    simp only [RunReport.isOf, Bool.and_eq_true, beq_iff_eq] at isOf
    obtain ⟨rfl, rfl⟩ := isOf
    refine Tables.secondLive?_eq_none.mpr fun _ q member => ?_
    rw [absent] at member
    cases member
  insert references now status jobId createdBy results := by
    refine (insertAs_ensures _ now runId reportId status jobId createdBy results s).mono ?_ ?_
    · rintro row u ⟨-, more, -⟩
      exact ⟨more.committed, more.view⟩
    · rintro f u ⟨-, -, refused⟩ calm
      obtain ⟨fault, forbids, -⟩ := refused calm
      have dead : ∀ q ∈ recordsOf runId reportId s.view, q.isLive = false := by simp [absent]
      rw [Tables.refusal?_addRunReport dead references] at forbids
      cases forbids

theorem refuses_of_live {s : Session} {q : RunReport}
    (member : q ∈ recordsOf runId reportId s.view) (live : q.isLive = true) :
    Refuses runId reportId s := by
  have index : ∀ row : RunReport, row.isOf runId reportId = true → row.isLive = true →
      s.view.IdFree row.id →
      s.view.refusal? (.addRunReport row) =
        some (.unique "run_reports" ["run_id", "report_id"]) := by
    intro row isOf new free
    simp only [RunReport.isOf, Bool.and_eq_true, beq_iff_eq] at isOf
    obtain ⟨rfl, rfl⟩ := isOf
    exact Tables.refusal?_secondLive member live new (free q (Tables.mem_recordsOf.mp member).1)
  refine ⟨index, fun now status jobId createdBy results lives => ?_⟩
  have refused : s.view.refusal? (.addRunReport (newRecord s.view.nextId now runId reportId status
      jobId createdBy results)) = some (.unique "run_reports" ["run_id", "report_id"]) := by
    refine index _ ?_ ?_ s.view.nextId_free
    · simp [RunReport.isOf, newRecord]
    · simp [RunReport.isLive, newRecord, lives]
  refine (insertAs_ensures _ now runId reportId status jobId createdBy results s).mono ?_ ?_
  · rintro row u ⟨rfl, -, allowed⟩
    rw [refused] at allowed
    cases allowed
  · rintro f u ⟨committed, pending, told⟩
    refine ⟨committed, pending, fun calm => ?_⟩
    obtain ⟨fault, forbids, rfl⟩ := told calm
    rw [refused] at forbids
    cases forbids
    rfl

/-! ## The guard -/

theorem recordsOf_cleared {deleteFailed : Bool} (may : MayCreate runId reportId deleteFailed t) :
    recordsOf runId reportId (cleared runId reportId true t) = [] := by
  refine List.filter_eq_nil_iff.mpr fun r there isOf => ?_
  obtain ⟨before, stays⟩ := List.mem_filter.mp there
  have dead := may.1 r (Tables.mem_recordsOf.mpr ⟨before, isOf⟩)
  have failed : r.status.isFailure = true := by simpa [RunReport.isLive] using dead
  simp [isOf, failed] at stays

/-- What the guard deletes are the failed records of the run and report, and no other ones. -/
theorem clearing_eq_failed {deleteFailed : Bool} (keys : t.KeysDistinct)
    (may : MayCreate runId reportId deleteFailed t) :
    (clearing runId reportId t).foldl Change.apply t = cleared runId reportId true t :=
  clearing_eq_cleared keys ⟨may.1, Or.inr rfl⟩

/-- The guard is exact and agrees with the index, on every table that satisfies the index. The
record that is found is the current one. The guard passes exactly if no record of the run and report
is live and there is none at all or failed ones may go; then it has deleted the failed ones and left
every other row as it was, and the index lets in a record of any status. Otherwise it has changed
nothing. Where a record is live the index refuses a second one. -/
theorem guard_agrees_with_index (runId reportId : String) (deleteFailed : Bool) (s : Session)
    (indexed : s.view.Indexed) :
    (find runId reportId).Ensures s
      (fun found t => IsCurrent (recordsOf runId reportId s.view) found ∧ Keeps s t)
      (fun _ t => Keeps s t ∧ ¬ s.Calm) ∧
    (ensureMayCreate runId reportId deleteFailed).Ensures s
      (fun _ t => MayCreate runId reportId deleteFailed s.view ∧ t.committed = s.committed ∧
        t.view = cleared runId reportId true s.view ∧ Admits runId reportId t)
      (fun f t => Keeps s t ∧ (s.Calm → ¬ MayCreate runId reportId deleteFailed s.view ∧
        f = .report (.prohibited (.exists runId reportId)))) ∧
    ∀ q ∈ recordsOf runId reportId s.view, q.isLive = true → Refuses runId reportId s := by
  refine ⟨?_, ?_, fun q member live => refuses_of_live member live⟩
  · refine (find_ensures runId reportId s).mono ?_ fun _ _ h => h
    rintro found t ⟨rfl, kept⟩
    exact ⟨current?_isCurrent indexed runId reportId, kept⟩
  · refine (ensureMayCreate_ensures runId reportId deleteFailed s).mono ?_ fun _ _ h => h
    rintro - t ⟨may, room⟩
    have view : t.view = cleared runId reportId true s.view := by
      rw [room.view, clearing_eq_failed indexed.keys may]
    refine ⟨may, room.committed, view, admits_of_absent ?_⟩
    rw [view, recordsOf_cleared may]

/-- Failed attempts beside a live record, failed attempts alone, and a record of another report. -/
def attempts : Tables :=
  let record (id : Nat) (reportId : String) (status : ReportStatus) : RunReport :=
    ⟨id, "run", reportId, status, some "job", .null, none, ⟨machineEpoch, none⟩, none⟩
  { Tables.empty with
    runReports :=
      [record 7 "live" .failed, record 2 "live" .running, record 5 "live" .aborted,
        record 3 "failed" .expired, record 9 "failed" .failed, record 1 "other" .succeeded] }

theorem attempts_indexed : attempts.Indexed where
  keys := by
    unfold Tables.KeysDistinct
    decide
  live := by decide

theorem guard_agrees_with_index_attempts : (Session.on attempts).view.Indexed ∧
    (find "run" "live").Ensures (Session.on attempts)
      (fun found _ => found.map RunReport.id = some 2) (fun _ _ => False) ∧
    (ensureMayCreate "run" "failed" true).Ensures (Session.on attempts)
      (fun _ t => t.view.runReports.map RunReport.id = [7, 2, 5, 1] ∧ Admits "run" "failed" t)
      (fun _ _ => False) ∧
    Refuses "run" "live" (Session.on attempts) := by
  have calm : (Session.on attempts).Calm := ⟨rfl, rfl, rfl⟩
  have failed := guard_agrees_with_index "run" "failed" true (Session.on attempts) attempts_indexed
  have live := guard_agrees_with_index "run" "live" false (Session.on attempts) attempts_indexed
  refine ⟨attempts_indexed, live.1.mono ?_ ?_, failed.2.1.mono ?_ ?_, ?_⟩
  · rintro found t ⟨current, -⟩
    have only : ∀ q ∈ recordsOf "run" "live" attempts, q.isLive = true → q.id = 2 := by decide
    cases current with
    | live r member lives alone => exact congrArg some (only r member lives)
    | failed r member dead newest => exact absurd dead (by decide)
    | absent nothing => exact absurd (congrArg List.length nothing) (by decide)
  · exact fun f t h => h.2 calm
  · rintro - t ⟨-, -, view, admits⟩
    refine ⟨?_, admits⟩
    rw [view]
    decide
  · intro f t h
    exact (h.2 calm).1 ⟨by decide, Or.inr rfl⟩
  · obtain ⟨q, member, lives⟩ : ∃ q ∈ recordsOf "run" "live" attempts, q.isLive = true := by
      decide
    exact live.2.2 q member lives

end RunReports.Report
