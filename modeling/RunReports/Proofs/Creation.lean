import RunReports.Proofs.Drafts
import RunReports.Proofs.Surroundings

/-!
# What creation does to the rows

A creation that succeeds has replaced the failed records of its run and report, or none, by one
new record; a creation that fails has left every table as it was. This holds for every behaviour
of the surroundings and of the database, and what is known of the surroundings at the end is
known of them then.
-/
namespace RunReports.Report

open RunReports RunReports.Action RunReports.Calendar RunReports.Store RunReports.Store.Session

variable {σ α : Type}

theorem orRollbackWorld_ensures {a : Action (World σ) α} {w : World σ}
    {Q : α → World σ → Prop} {E : Failure → World σ → Prop} (h : a.Ensures w Q E) :
    (orRollbackWorld a).Ensures w Q fun f w' =>
      ∃ u, E f u ∧ w' = { u with session := u.session.rollback } := by
  refine h.tryCatch ?_
  intro f w' ended
  simpa only [Ensures, run_bind, run_modify, run_throw] using ⟨w', ended, rfl⟩

structure IsSubmitted (runId reportId jobId : String) (createdBy : Option String)
    (record : RunReport) : Prop where
  runId : record.runId = runId
  reportId : record.reportId = reportId
  status : record.status = .submitted
  jobId : record.jobId = some jobId
  createdBy : record.createdBy = createdBy
  results : record.results = .null
  finishedAt : record.finishedAt = none

/-- The rows without the failed records of a run and report, if these are to be deleted. -/
def cleared (runId reportId : String) (deleteFailed : Bool) (t : Tables) : Tables :=
  { t with
    runReports := t.runReports.filter fun r =>
      !(deleteFailed && r.isOf runId reportId && r.status.isFailure) }

theorem clearing_eq_cleared {runId reportId : String} {deleteFailed : Bool} {t : Tables}
    (keys : t.KeysDistinct) (may : MayCreate runId reportId deleteFailed t) :
    (clearing runId reportId t).foldl Change.apply t = cleared runId reportId deleteFailed t := by
  rw [clearing_apply keys, Tables.withoutRecords, cleared]
  congr 1
  refine List.filter_congr fun r there => ?_
  by_cases isOf : r.isOf runId reportId = true
  · have member : r ∈ recordsOf runId reportId t := Tables.mem_recordsOf.mpr ⟨there, isOf⟩
    have failed : r.status.isFailure = true := by
      simpa [RunReport.isLive] using may.1 r member
    rcases may.2 with absent | wanted
    · rw [absent] at member
      cases member
    · simp [isOf, failed, wanted]
  · simp [isOf]

/-- A creation is all or nothing. `Q` is what a launched job leaves outside, and `E` what a failed
launch leaves there. -/
theorem create_ensures (e : Surroundings σ) (g : Generator) (runId reportId : String)
    (createdBy : Option String) (deleteFailed : Bool) {t : Tables} (keys : t.KeysDistinct)
    (refusal : Option String) (trouble : List (Option Fault)) (o : σ)
    {Q : Draft → Engine.Submission → σ → Prop} {E : Draft → σ → Prop}
    (launch : ∀ d, draftOf runId reportId t = .ok d →
      (e.launch g d).Ensures o (Q d) fun _ o' => E d o') :
    (create e.services g runId reportId createdBy deleteFailed).Ensures
      ⟨⟨t, [], refusal, trouble⟩, o⟩
      (fun record w => MayCreate runId reportId deleteFailed t ∧
        (∃ d submission, draftOf runId reportId t = .ok d ∧ Q d submission w.outside ∧
          IsSubmitted runId reportId submission.jobId createdBy record) ∧
        (cleared runId reportId deleteFailed t).IdFree record.id ∧
        w.session.committed = (cleared runId reportId deleteFailed t).withRecord record ∧
        w.session.pending = [])
      (fun _ w => w.session.committed = t ∧ w.session.pending = [] ∧
        (w.outside = o ∨ MayCreate runId reportId deleteFailed t ∧
          ∃ d, draftOf runId reportId t = .ok d ∧
            (E d w.outside ∨ ∃ submission, Q d submission w.outside))) := by
  rw [create_services]
  refine (orRollbackWorld_ensures (E := fun _ w => w.session.committed = t ∧
    (w.outside = o ∨ MayCreate runId reportId deleteFailed t ∧
      ∃ d, draftOf runId reportId t = .ok d ∧
        (E d w.outside ∨ ∃ submission, Q d submission w.outside)))
    (accessing_ensures_same ?_)).mono (fun _ _ h => h) ?_
  swap
  · rintro f _ ⟨w, ⟨committed, outside⟩, rfl⟩
    exact ⟨committed, rfl, outside⟩
  refine ((prepare_ensures runId reportId deleteFailed _).within.mono (fun _ _ h => h) ?_).bind ?_
  · rintro f _ ⟨s, ⟨committed, -⟩, rfl⟩
    exact ⟨committed, Or.inl rfl⟩
  rintro d _ ⟨s, ⟨may, made, room⟩, rfl⟩
  have view : s.view = cleared runId reportId deleteFailed t := by
    rw [room.view]
    exact clearing_eq_cleared keys may
  refine ((launch d made).within.mono (fun _ _ h => h) ?_).bind ?_
  · rintro f _ ⟨o', failed, rfl⟩
    exact ⟨room.committed, Or.inr ⟨may, d, made, Or.inl failed⟩⟩
  rintro submission _ ⟨o', launched, rfl⟩
  refine ensures_get.bind ?_
  rintro w _ ⟨rfl, rfl⟩
  refine (keepAs_ensures _ _ runId reportId submission.jobId createdBy s
    (Tables.nextId_free s.view)).within.mono ?_ ?_
  · rintro record _ ⟨s', ⟨rfl, committed, pending, -, -⟩, rfl⟩
    refine ⟨may, ⟨d, submission, made, launched, ⟨rfl, rfl, rfl, rfl, rfl, rfl, rfl⟩⟩, ?_, ?_,
      pending⟩
    · rw [← view]
      exact Tables.nextId_free s.view
    · rw [← view]
      exact committed
  · rintro f _ ⟨s', ⟨committed, -⟩, rfl⟩
    exact ⟨committed.trans room.committed, Or.inr ⟨may, d, made, Or.inr ⟨_, launched⟩⟩⟩

end RunReports.Report
