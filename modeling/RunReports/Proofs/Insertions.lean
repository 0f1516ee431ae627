import RunReports.Proofs.Guarding
import RunReports.Proofs.Keys

/-!
# Insertions

A record is let in unless a live one of its run and report is there and it is live itself, or the
run or the report is missing. In each case the caller is told that there is a record already, so
that this answer can be relied on only where the run and the report are there. An insertion that
fails leaves no trace, and one that succeeds adds one record, with an id of its own, which is
greater than all others as long as there is a greater one. -/
namespace RunReports.Store.Tables

open RunReports.Report

variable {t : Tables} {row : RunReport} {fault : Fault}

/-- The run and the report of a record are there, or nobody looks. -/
def Refers (t : Tables) (runId reportId : String) : Prop :=
  (t.hasRun runId && t.hasReport reportId) = true ∨ t.unchecked = true

theorem secondLive?_eq_some : t.secondLive? row = some fault ↔
    (row.isLive = true ∧ t.hasOtherLive row = true) ∧
      fault = .unique "run_reports" ["run_id", "report_id"] := by
  cases live : row.isLive <;> cases other : t.hasOtherLive row <;>
    simp [secondLive?, duplicate?, live, other, TableName.text, eq_comm]

theorem dangling?_eq_some {isThere : Bool} : t.dangling? isThere = some fault ↔
    ¬ (isThere = true ∨ t.unchecked = true) ∧ fault = .foreignKey := by
  cases isThere <;> cases unchecked : t.unchecked <;> simp [dangling?, unchecked, eq_comm]

/-- For a record with a free id every live one of its run and report is another one. -/
theorem hasOtherLive_free (free : t.IdFree row.id) : t.hasOtherLive row = true ↔
    ∃ q ∈ recordsOf row.runId row.reportId t, q.isLive = true := by
  rw [hasOtherLive_iff]
  refine exists_congr fun q => and_congr_right fun member => ?_
  exact and_iff_left (free q (mem_recordsOf.mp member).1)

/-- Two rules can forbid a new record, the one about live records and the one about references. The
first is looked at first. -/
theorem refusal?_addRunReport_eq_some (free : t.IdFree row.id) :
    t.refusal? (.addRunReport row) = some fault ↔
      ((row.isLive = true ∧ ∃ q ∈ recordsOf row.runId row.reportId t, q.isLive = true) ∧
          fault = .unique "run_reports" ["run_id", "report_id"]) ∨
        (¬ (row.isLive = true ∧ ∃ q ∈ recordsOf row.runId row.reportId t, q.isLive = true) ∧
          ¬ t.Refers row.runId row.reportId ∧ fault = .foreignKey) := by
  rw [← hasOtherLive_free free]
  have second : t.secondLive? row = none ↔ ¬ (row.isLive = true ∧ t.hasOtherLive row = true) := by
    cases live : row.isLive <;> cases other : t.hasOtherLive row <;>
      simp [secondLive?, duplicate?, live, other]
  rw [refusal?, Option.orElse_eq_orElse, Option.orElse_eq_or, Option.or_eq_some_iff,
    dangling?_eq_some, secondLive?_eq_some, second]
  rfl

end RunReports.Store.Tables

namespace RunReports.Report

open RunReports RunReports.Action RunReports.Calendar RunReports.Store RunReports.Store.Session

variable {runId reportId : String} {s : Session}

def HasLive (runId reportId : String) (t : Tables) : Prop :=
  ∃ q ∈ recordsOf runId reportId t, q.isLive = true

/-- The rows after an insertion: one record more, the given one, whose id no other has, and which is
greater than those of all others unless the greatest possible id is in use. -/
structure IsInserted (row : RunReport) (t t' : Tables) : Prop where
  added : t' = t.withRecord row.stored
  free : t.IdFree row.id
  greatest : t.greatestId < idLimit → ∀ q ∈ t.runReports, q.id < row.id

def IsProhibited {α : Type} (a : Action Session α) (s : Session) : Prop :=
  ∃ error u, a.run s = (.error (.report error), u) ∧ error.kind = .prohibited

section
variable (now : Moment) (runId reportId : String) (status : ReportStatus)
variable (jobId createdBy : Option String) (results : Json)

/-- With nothing amiss with the database, an insertion is prohibited exactly if a rule forbids the
record. -/
theorem isProhibited_insert_iff (calm : s.Calm) :
    IsProhibited (insert now runId reportId status jobId createdBy results) s ↔
      (HasLive runId reportId s.view ∧ status.isFailure = false) ∨
        ¬ s.view.Refers runId reportId := by
  have forbids := @Tables.refusal?_addRunReport_eq_some s.view
    (newRecord s.view.nextId now runId reportId status jobId createdBy results)
  have live : RunReport.isLive (newRecord s.view.nextId now runId reportId status jobId createdBy
      results) = true ↔ status.isFailure = false := by simp [RunReport.isLive, newRecord]
  have ends := insertAs_ensures Tables.nextId now runId reportId status jobId createdBy results s
  constructor
  · rintro ⟨error, u, ended, -⟩
    obtain ⟨fault, refused, -⟩ := (ends.error ended).2.2 calm
    rcases (forbids s.view.nextId_free).mp refused with ⟨second, -⟩ | ⟨-, dangling, -⟩
    · exact Or.inl ⟨second.2, live.mp second.1⟩
    · exact Or.inr dangling
  · intro broken
    have refused : ∃ fault, s.view.refusal? (.addRunReport (newRecord s.view.nextId now runId
        reportId status jobId createdBy results)) = some fault := by
      by_cases second : HasLive runId reportId s.view ∧ status.isFailure = false
      · exact ⟨_, (forbids s.view.nextId_free).mpr
          (Or.inl ⟨⟨live.mpr second.2, second.1⟩, rfl⟩)⟩
      · refine ⟨_, (forbids s.view.nextId_free).mpr (Or.inr ⟨?_, broken.resolve_left second, rfl⟩)⟩
        exact fun both => second ⟨both.2, live.mp both.1⟩
    rcases ended : (insert now runId reportId status jobId createdBy results).run s with
      ⟨f | row, u⟩
    · obtain ⟨fault, refused, rfl⟩ := (ends.error ended).2.2 calm
      -- Both rules are told in the same words.
      rcases (forbids s.view.nextId_free).mp refused with ⟨-, rfl⟩ | ⟨-, -, rfl⟩
      · exact ⟨.prohibited (.exists runId reportId), u, ended, rfl⟩
      · exact ⟨.prohibited (.exists runId reportId), u, ended, rfl⟩
    · obtain ⟨rfl, -, allowed⟩ := ends.ok ended
      obtain ⟨fault, refused⟩ := refused
      cases allowed.symm.trans refused

/-- An insertion adds one record or leaves no trace. -/
theorem insert_ensures (s : Session) :
    (insert now runId reportId status jobId createdBy results).Ensures s
      (fun row u => row = newRecord row.id now runId reportId status jobId createdBy results ∧
        u.committed = s.committed ∧ IsInserted row s.view u.view)
      (fun _ u => u.committed = s.committed ∧ u.pending = []) := by
  refine (insertAs_ensures Tables.nextId now runId reportId status jobId createdBy results s).mono
    ?_ fun _ _ h => ⟨h.1, h.2.1⟩
  rintro row u ⟨rfl, more, -⟩
  exact ⟨rfl, more.committed, more.view, s.view.nextId_free, fun room _ there =>
    Tables.lt_nextId room there⟩

/-- Where the run and the report are there, an insertion is prohibited exactly if a live record of
them is there and the new one is live too; results that come with it have to be such that they can
be written. However it ends, and whatever the database does, one that fails leaves the rows as they
were committed and nothing pending, and one that does not adds exactly one record, with an id that
is free and, as long as there is a greater one, greater than all others. -/
theorem insertion_exact (s : Session) :
    (s.Calm → (s.view.hasRun runId && s.view.hasReport reportId) = true →
      (results.isShallow && results.isShort) = true →
      (IsProhibited (insert now runId reportId status jobId createdBy results) s ↔
        HasLive runId reportId s.view ∧ status.isFailure = false)) ∧
    (insert now runId reportId status jobId createdBy results).Ensures s
      (fun row u => row = newRecord row.id now runId reportId status jobId createdBy results ∧
        u.committed = s.committed ∧ IsInserted row s.view u.view)
      (fun _ u => u.committed = s.committed ∧ u.pending = []) := by
  refine ⟨fun calm there _ => ?_,
    insert_ensures now runId reportId status jobId createdBy results s⟩
  rw [isProhibited_insert_iff now runId reportId status jobId createdBy results calm]
  exact or_iff_left fun dangling => dangling (Or.inl there)

end

/-- A run and a report, with a record that has failed and a live one. -/
def inserted : Tables :=
  let record (id : Nat) (status : ReportStatus) : RunReport :=
    ⟨id, "run", "report", status, some "job", .null, none, ⟨machineEpoch, none⟩, none⟩
  { Tables.empty with
    templates := [⟨"template", "template"⟩]
    tests := [⟨"test", "template", "test"⟩]
    runs := [⟨"run", "test", "run", .succeeded, .obj [], .obj [], none, none, none,
      ⟨machineEpoch, none⟩, none⟩]
    reports := [⟨"report", "report", none, .obj [], .null⟩]
    runReports := [record 4 .running, record 2 .failed] }

theorem insertion_exact_inserted :
    (Session.on inserted).Calm ∧
      (inserted.hasRun "run" && inserted.hasReport "report") = true ∧
      IsProhibited (insert ⟨machineEpoch, none⟩ "run" "report" .submitted none none .null)
        (Session.on inserted) ∧
      ¬ IsProhibited (insert ⟨machineEpoch, none⟩ "run" "report" .expired none none .null)
        (Session.on inserted) := by
  have calm : (Session.on inserted).Calm := ⟨rfl, rfl, rfl⟩
  have there : (inserted.hasRun "run" && inserted.hasReport "report") = true := by decide
  have live : HasLive "run" "report" inserted := by
    unfold HasLive
    decide
  refine ⟨calm, there, ?_, ?_⟩
  · exact ((insertion_exact ⟨machineEpoch, none⟩ "run" "report" .submitted none none .null
      (Session.on inserted)).1 calm there rfl).mpr ⟨live, rfl⟩
  · intro prohibited
    have new := ((insertion_exact ⟨machineEpoch, none⟩ "run" "report" .expired none none .null
      (Session.on inserted)).1 calm there rfl).mp prohibited
    cases new.2

/-- There is no record of any run and report, and yet a first one is said to be there already. -/
theorem absent_run_prohibited : Tables.Reached Tables.empty ∧ Tables.empty.unchecked = false ∧
    ¬ HasLive "run" "report" Tables.empty ∧
    IsProhibited (insert ⟨machineEpoch, none⟩ "run" "report" .submitted (some "job") none .null)
      (Session.on Tables.empty) := by
  refine ⟨.empty, rfl, ?_, .prohibited (.exists "run" "report"), _, rfl, rfl⟩
  rintro ⟨q, member, -⟩
  cases member

end RunReports.Report
