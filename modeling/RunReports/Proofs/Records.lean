import RunReports.Proofs.Rows
import RunReports.Proofs.Session
import RunReports.Report.Creation

/-!
# What creation does to the records

One statement for each operation on the records of a run and report: what it returns, which
statements it adds to the pending ones, and, where nothing is amiss with the database, why it
fails. The guard lets a creation begin exactly if no record is live and either there is none at
all or failed ones may be deleted.
-/
namespace RunReports.Report

open RunReports RunReports.Action RunReports.Calendar RunReports.Store RunReports.Store.Session

theorem newest?_eq_none {l : List RunReport} : newest? l = none ↔ l = [] := by
  cases l with
  | nil => simp [newest?]
  | cons r rest =>
    simp only [newest?, reduceCtorEq, iff_false]
    cases newest? rest with
    | none => simp
    | some q => simp only; split <;> simp

theorem newest?_mem {l : List RunReport} {r : RunReport} (h : newest? l = some r) : r ∈ l := by
  induction l generalizing r with
  | nil => cases h
  | cons q rest ih =>
    rw [newest?] at h
    cases found : newest? rest with
    | none =>
      rw [found] at h
      cases h
      exact List.mem_cons_self
    | some p =>
      rw [found] at h
      simp only at h
      split at h
      · cases h
        exact List.mem_cons_self
      · cases h
        exact List.mem_cons_of_mem q (ih found)

/-- The current record is live if any record is. -/
theorem current?_some {l : List RunReport} {r : RunReport} (h : current? l = some r) :
    r ∈ l ∧ (r.isLive = false → ∀ q ∈ l, q.isLive = false) := by
  rw [current?] at h
  cases found : newest? (l.filter RunReport.isLive) with
  | some q =>
    rw [found] at h
    cases h
    have member := List.mem_filter.mp (newest?_mem found)
    exact ⟨member.1, fun dead => by rw [member.2] at dead; cases dead⟩
  | none =>
    rw [found] at h
    have member := List.mem_filter.mp (newest?_mem h)
    have none := List.filter_eq_nil_iff.mp (newest?_eq_none.mp found)
    exact ⟨member.1, fun _ q thereq => by simpa using none q thereq⟩

theorem current?_none {l : List RunReport} (h : current? l = none) : l = [] := by
  rw [current?] at h
  cases found : newest? (l.filter RunReport.isLive) with
  | some q =>
    rw [found] at h
    cases h
  | none =>
    rw [found] at h
    have live := List.filter_eq_nil_iff.mp (newest?_eq_none.mp found)
    have dead := List.filter_eq_nil_iff.mp (newest?_eq_none.mp h)
    cases l with
    | nil => rfl
    | cons q rest =>
      have alive := live q List.mem_cons_self
      have ended := dead q List.mem_cons_self
      simp [alive] at ended

theorem failureStatuses_contains (s : ReportStatus) :
    failureStatuses.contains s.text = s.isFailure := by
  cases s <;> decide

variable {runId reportId : String} {deleteFailed : Bool} {t : Tables}

/-- A creation may begin: no record is live, and failed ones, if there are any, may go. -/
def MayCreate (runId reportId : String) (deleteFailed : Bool) (t : Tables) : Prop :=
  (∀ r ∈ recordsOf runId reportId t, r.isLive = false) ∧
    (recordsOf runId reportId t = [] ∨ deleteFailed = true)

/-- The statements that make room for a new record: all records are deleted, if there are any. -/
def clearing (runId reportId : String) (t : Tables) : List Change :=
  match recordsOf runId reportId t with
  | [] => []
  | r :: rest => [.dropRunReports ((r :: rest).map RunReport.id)]

theorem filter_failure {l : List RunReport} (dead : ∀ r ∈ l, r.isLive = false) :
    l.filter (fun r => r.status.isFailure) = l := by
  refine List.filter_eq_self.mpr fun r there => ?_
  simpa [RunReport.isLive] using dead r there

theorem find_ensures (runId reportId : String) (s : Session) :
    (find runId reportId).Ensures s
      (fun found t => found = current? (recordsOf runId reportId s.view) ∧ Keeps s t)
      (fun _ t => Keeps s t ∧ ¬ s.Calm) :=
  accessing_ensures_same (read_ensures _ _ s)

theorem delete_ensures (runId reportId : String) (s : Session) :
    (delete runId reportId failureStatuses).Ensures s
      (fun _ t => Extends [.dropRunReports (((recordsOf runId reportId s.view).filter
        fun r => r.status.isFailure).map RunReport.id)] s t)
      (fun _ t => Keeps s t ∧ ¬ s.Calm) := by
  refine accessing_ensures_same ((read_ensures _ _ s).bind ?_)
  rintro ids t ⟨rfl, kept⟩
  simp only [failureStatuses_contains]
  refine ((execute_ensures _ t).mono (fun _ _ h => h) ?_).bind ?_
  · rintro f u ⟨same, -, refused⟩
    refine ⟨kept.keeps same, fun calm => ?_⟩
    obtain ⟨fault, forbids, -⟩ := refused (kept.calm calm)
    cases forbids
  · rintro - u ⟨more, -⟩
    exact ensures_pure (kept.trans more)

theorem presence_ensures (runId reportId : String) (s : Session) :
    (presence runId reportId).Ensures s
      (fun p t => p = presenceOf (current? (recordsOf runId reportId s.view)) ∧ Keeps s t)
      (fun _ t => Keeps s t ∧ ¬ s.Calm) := by
  refine (find_ensures runId reportId s).bind ?_
  rintro found t ⟨rfl, kept⟩
  exact ensures_pure ⟨rfl, kept⟩

theorem not_mayCreate_live {runId reportId : String} {deleteFailed : Bool} {t : Tables}
    {r : RunReport} (member : r ∈ recordsOf runId reportId t) (live : r.isLive = true) :
    ¬ MayCreate runId reportId deleteFailed t := by
  intro may
  rw [may.1 r member] at live
  cases live

theorem not_mayCreate_kept {runId reportId : String} {t : Tables} {r : RunReport}
    (member : r ∈ recordsOf runId reportId t) : ¬ MayCreate runId reportId false t := by
  intro may
  rcases may.2 with absent | wanted
  · rw [absent] at member
    cases member
  · cases wanted

theorem clearing_of_mem {runId reportId : String} {t : Tables} {r : RunReport}
    (member : r ∈ recordsOf runId reportId t) :
    clearing runId reportId t =
      [.dropRunReports ((recordsOf runId reportId t).map RunReport.id)] := by
  rw [clearing]
  cases records : recordsOf runId reportId t with
  | nil =>
    rw [records] at member
    cases member
  | cons q rest => rfl

/-- The guard passes exactly if a creation may begin, and then makes room for the new record. -/
theorem ensureMayCreate_ensures (runId reportId : String) (deleteFailed : Bool) (s : Session) :
    (ensureMayCreate runId reportId deleteFailed).Ensures s
      (fun _ t => MayCreate runId reportId deleteFailed s.view ∧
        Extends (clearing runId reportId s.view) s t)
      (fun f t => Keeps s t ∧ (s.Calm → ¬ MayCreate runId reportId deleteFailed s.view ∧
        f = .report (.prohibited (.exists runId reportId)))) := by
  refine ((presence_ensures runId reportId s).mono (fun _ _ h => h)
    fun _ _ h => ⟨h.1, fun calm => False.elim (h.2 calm)⟩).bind ?_
  rintro p t ⟨rfl, kept⟩
  cases found : current? (recordsOf runId reportId s.view) with
  | none =>
    have absent := current?_none found
    refine ensures_pure ⟨⟨by simp [absent], Or.inl absent⟩, ?_⟩
    rw [clearing, absent]
    exact kept
  | some r =>
    obtain ⟨member, dead⟩ := current?_some found
    by_cases live : r.isLive = true
    · simp only [presenceOf, live, if_true]
      exact ensures_throw ⟨kept, fun _ => ⟨not_mayCreate_live member live, rfl⟩⟩
    · have dead := dead (by simpa using live)
      simp only [presenceOf, live]
      cases deleteFailed with
      | false => exact ensures_throw ⟨kept, fun _ => ⟨not_mayCreate_kept member, rfl⟩⟩
      | true =>
        refine ((delete_ensures runId reportId t).mono (fun _ _ h => h) ?_).bind ?_
        · exact fun _ _ h => ⟨kept.keeps h.1, fun calm => False.elim (h.2 (kept.calm calm))⟩
        · intro _ u more
          refine ensures_pure ⟨⟨dead, Or.inr rfl⟩, ?_⟩
          rw [kept.view, filter_failure dead] at more
          rw [clearing_of_mem member]
          exact kept.trans more

/-- What the guard does makes the records of the run and report go, as the session sees them. -/
theorem clearing_apply (keys : t.KeysDistinct) :
    (clearing runId reportId t).foldl Change.apply t = t.withoutRecords runId reportId := by
  rw [clearing]
  cases records : recordsOf runId reportId t with
  | nil => exact (Tables.withoutRecords_eq_self records).symm
  | cons r rest =>
    rw [← Tables.apply_dropRecords keys, records]
    rfl

/-- An insertion before its refusal is put into words: the store's own fault is passed on. -/
theorem insertion_ensures (allocate : Tables → Nat) (now : Moment) (runId reportId : String)
    (status : ReportStatus) (jobId createdBy : Option String) (results : Json) (s : Session) :
    (orRollback do
      let id ← Session.read .runReports allocate
      let row := newRecord id now runId reportId status jobId createdBy results
      Session.execute (.addRunReport row)
      pure row).Ensures s
      (fun r t =>
        r = newRecord (allocate s.view) now runId reportId status jobId createdBy results ∧
        Extends [.addRunReport r] s t ∧ s.view.refusal? (.addRunReport r) = none)
      (fun f t => t.committed = s.committed ∧ t.pending = [] ∧ (s.Calm → ∃ fault,
        s.view.refusal? (.addRunReport (newRecord (allocate s.view) now runId reportId status jobId
          createdBy results)) = some fault ∧ f = .store fault)) := by
  refine (orRollback_ensures (E := fun f u => u.committed = s.committed ∧ (s.Calm → ∃ fault,
      s.view.refusal? (.addRunReport (newRecord (allocate s.view) now runId reportId status jobId
        createdBy results)) = some fault ∧ f = .store fault))
    (((read_ensures _ _ s).mono (fun _ _ h => h) ?_).bind ?_)).mono (fun _ _ h => h) ?_
  · exact fun _ _ h => ⟨h.1.committed, fun calm => False.elim (h.2 calm)⟩
  · rintro id t ⟨rfl, kept⟩
    refine ((execute_ensures _ t).mono (fun _ _ h => h) ?_).bind ?_
    · rintro f u ⟨same, -, refused⟩
      refine ⟨same.committed.trans kept.committed, fun calm => ?_⟩
      have refused := refused (kept.calm calm)
      rwa [kept.view] at refused
    · rintro - u ⟨more, allowed⟩
      rw [kept.view] at allowed
      exact ensures_pure ⟨rfl, kept.trans more, allowed⟩
  · rintro f t ⟨u, ⟨committed, refused⟩, rfl⟩
    exact ⟨committed, rfl, refused⟩

/-- An insertion adds the new record, or it is refused and nothing stays pending. -/
theorem insertAs_ensures (allocate : Tables → Nat) (now : Moment) (runId reportId : String)
    (status : ReportStatus) (jobId createdBy : Option String) (results : Json) (s : Session) :
    (insertAs allocate now runId reportId status jobId createdBy results).Ensures s
      (fun row t =>
        row = newRecord (allocate s.view) now runId reportId status jobId createdBy results ∧
        Extends [.addRunReport row] s t ∧ s.view.refusal? (.addRunReport row) = none)
      (fun f t => t.committed = s.committed ∧ t.pending = [] ∧ (s.Calm → ∃ fault,
        s.view.refusal? (.addRunReport (newRecord (allocate s.view) now runId reportId status jobId
          createdBy results)) = some fault ∧ f = insertFailure runId reportId fault)) := by
  refine (insertion_ensures allocate now runId reportId status jobId createdBy results s).tryCatch
    ?_
  rintro f t ⟨committed, pending, refused⟩
  cases f with
  | store fault =>
    refine ensures_throw ⟨committed, pending, fun calm => ?_⟩
    obtain ⟨fault', forbids, same⟩ := refused calm
    cases same
    exact ⟨fault, forbids, rfl⟩
  | _ =>
    refine ensures_throw ⟨committed, pending, fun calm => ?_⟩
    obtain ⟨fault', -, same⟩ := refused calm
    cases same

/-- Keeping a job commits the new record, and everything that was pending, or nothing at all. -/
theorem keepAs_ensures (allocate : Tables → Nat) (now : Moment) (runId reportId jobId : String)
    (createdBy : Option String) (s : Session) (free : s.view.IdFree (allocate s.view)) :
    (keepAs allocate now runId reportId jobId createdBy).Ensures s
      (fun record t =>
        record = (newRecord (allocate s.view) now runId reportId .submitted (some jobId) createdBy
          .null).stored ∧
        t.committed = s.view.withRecord record ∧ t.pending = [] ∧ (s.Calm → t.Calm) ∧
        s.view.refusal? (.addRunReport (newRecord (allocate s.view) now runId reportId .submitted
          (some jobId) createdBy .null)) = none)
      (fun f t => t.committed = s.committed ∧ (s.Calm → ∃ fault,
        s.view.refusal? (.addRunReport (newRecord (allocate s.view) now runId reportId .submitted
          (some jobId) createdBy .null)) = some fault ∧
        f = insertFailure runId reportId fault)) := by
  refine ((insertAs_ensures allocate now runId reportId .submitted (some jobId) createdBy .null
    s).mono (fun _ _ h => h) fun _ _ h => ⟨h.1, h.2.2⟩).bind ?_
  rintro row t ⟨rfl, more, allowed⟩
  refine ((commit_ensures t).mono (fun _ _ h => h) ?_).bind ?_
  · exact fun _ _ h => ⟨h.1.committed.trans more.committed,
      fun calm => False.elim (h.2.1 (more.calm calm))⟩
  · rintro - u ⟨committed, pending, calm⟩
    let record := (newRecord (allocate s.view) now runId reportId .submitted (some jobId)
      createdBy .null).stored
    have seen : t.view = s.view.withRecord record := more.view
    have view : u.view = s.view.withRecord record := by
      rw [Session.view, committed, pending, List.foldl_nil, seen]
    have found : (u.view.runReports.find? fun q => q.id == record.id) = some record := by
      rw [view]
      exact Tables.find?_withRecord free
    have reloaded : ((u.view.runReports.find? fun q => q.id == record.id).getD
        (newRecord (allocate s.view) now runId reportId .submitted (some jobId) createdBy .null)) =
        record := by rw [found, Option.getD_some]
    simp only [reload, Ensures, run_bind, run_get, run_pure]
    refine ⟨reloaded, ?_, pending, fun c => calm (more.calm c), allowed⟩
    rw [committed, seen]
    exact congrArg s.view.withRecord reloaded.symm

end RunReports.Report
