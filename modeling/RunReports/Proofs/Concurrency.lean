import Mathlib.Logic.Relation
import RunReports.Proofs.Effects
import RunReports.Proofs.Sharing
import RunReports.Proofs.Stages

/-!
# Creations at the same time

Many creations of the same report on the same run may be under way at once, since the guard only
sees what has been committed. The database decides between them: the first one to commit its
record wins, and every other one is refused, by the guard or by the rule that forbids a second
live record, and leaves nothing behind.
-/
namespace RunReports.Store

def Change.drops : Change → List Nat
  | .dropRunReports ids => ids
  | _ => []

end RunReports.Store

namespace RunReports.Report

open RunReports RunReports.Action RunReports.Store RunReports.Store.Session

variable {ι σ : Type}

section Runs

variable [DecidableEq ι] (calls : ι → Call σ) (runId reportId : String)

/-- An id that is new to a caller and that no pending deletion is about. -/
def Unused (S : Shared ι Stage σ) (i : ι) (id : Nat) : Prop :=
  (S.world i).session.view.IdFree id ∧ ∀ j, ∀ change ∈ S.pending j, id ∉ change.drops

def stepOf (S : Shared ι Stage σ) (i : ι) (allocate : Tables → Nat) : Stage × World σ :=
  (calls i).step runId reportId allocate (S.state i, S.world i)

/-- A caller may take its next step, and only the guard or the insertion may stop it there: the
run and the report can be read, nothing fails outside, and a new record gets an unused id. -/
structure Smooth (S : Shared ι Stage σ) (i : ι) (allocate : Tables → Nat) : Prop where
  goesOn : ¬ (S.state i).IsEnded
  loads : S.state i = .guarding →
    ∃ d, ((loadDraft runId reportId).run (Session.on S.committed)).1 = .ok d
  outside : (S.state i).IsUnderWay → (∀ jobId, S.state i ≠ .keeping jobId) →
    ∀ f, (stepOf calls runId reportId S i allocate).1 ≠ .raised f
  unused : ∀ jobId, S.state i = .keeping jobId → Unused S i (allocate (S.world i).session.view)

inductive Moves : Shared ι Stage σ → Shared ι Stage σ → Prop
  | move (S : Shared ι Stage σ) (i : ι) (allocate : Tables → Nat)
      (smooth : Smooth calls runId reportId S i allocate) :
      Moves S (S.put i (stepOf calls runId reportId S i allocate))

abbrev Runs : Shared ι Stage σ → Shared ι Stage σ → Prop :=
  Relation.ReflTransGen (Moves calls runId reportId)

end Runs

section Invariant

variable (calls : ι → Call σ) (runId reportId : String) (T : Tables)

/-- What is so of each caller: let in, it waits to delete the records that were there at first;
otherwise nothing is pending, and if it has failed it has been refused. -/
structure Orderly (c : Call σ) (stage : Stage) (cs : List Change) : Prop where
  guarding : stage = .guarding → cs = []
  underWay : stage.IsUnderWay → MayCreate runId reportId c.deleteFailed T ∧
    (T.hasRun runId && T.hasReport reportId) = true ∧ cs = clearing runId reportId T
  returned : ∀ r, stage = .returned r → cs = []
  raised : ∀ f, stage = .raised f → f = .report (.prohibited (.exists runId reportId)) ∧ cs = []

/-- Nobody has won: the rows are as they were, and only the guard has refused anybody. -/
structure Undecided (S : Shared ι Stage σ) : Prop where
  committed : S.committed = T
  noneReturned : ∀ i r, S.state i ≠ .returned r
  refused : ∀ i f, S.state i = .raised f → ¬ MayCreate runId reportId (calls i).deleteFailed T

/-- A caller has won: its record stands in place of those that were there at first. -/
structure Decided (S : Shared ι Stage σ) (i : ι) (r : RunReport) : Prop where
  returned : S.state i = .returned r
  may : MayCreate runId reportId (calls i).deleteFailed T
  submitted : ∃ jobId, IsSubmitted runId reportId jobId (calls i).createdBy r
  spared : ∀ change ∈ clearing runId reportId T, r.id ∉ change.drops
  committed : S.committed = (T.withoutRecords runId reportId).withRecord r
  alone : ∀ j q, S.state j = .returned q → j = i

structure Settled (S : Shared ι Stage σ) : Prop where
  orderly : ∀ i, Orderly runId reportId T (calls i) (S.state i) (S.pending i)
  either : Undecided calls runId reportId T S ∨ ∃ i r, Decided calls runId reportId T S i r

variable {calls runId reportId T} {c : Call σ} {stage : Stage} {cs : List Change}
variable {S : Shared ι Stage σ}

theorem orderly_underWay (underWay : stage.IsUnderWay)
    (may : MayCreate runId reportId c.deleteFailed T)
    (references : (T.hasRun runId && T.hasReport reportId) = true) :
    Orderly runId reportId T c stage (clearing runId reportId T) where
  guarding at_ := by rw [at_] at underWay; exact False.elim underWay
  underWay _ := ⟨may, references, rfl⟩
  returned r at_ := by rw [at_] at underWay; exact False.elim underWay
  raised f at_ := by rw [at_] at underWay; exact False.elim underWay

theorem orderly_raised :
    Orderly runId reportId T c (.raised (.report (.prohibited (.exists runId reportId)))) [] where
  guarding _ := rfl
  underWay no := False.elim no
  returned _ _ := rfl
  raised f at_ := by cases at_; exact ⟨rfl, rfl⟩

theorem orderly_returned (r : RunReport) : Orderly runId reportId T c (.returned r) [] where
  guarding _ := rfl
  underWay no := False.elim no
  returned _ _ := rfl
  raised f at_ := by cases at_

theorem settled_start (o : σ) : Settled calls runId reportId T (Shared.start T o .guarding) where
  orderly _ := ⟨fun _ => rfl, fun no => False.elim no, fun _ _ => rfl, fun f at_ => by cases at_⟩
  either := Or.inl {
    committed := rfl
    noneReturned := fun _ _ at_ => by cases at_
    refused := fun _ _ at_ => by cases at_ }

/-- The record of the winner is live, so nobody else may begin. -/
theorem Decided.prohibits {i : ι} {r : RunReport} {deleteFailed : Bool}
    (won : Decided calls runId reportId T S i r) :
    ¬ MayCreate runId reportId deleteFailed S.committed := by
  obtain ⟨jobId, submitted⟩ := won.submitted
  have member : r ∈ recordsOf runId reportId S.committed := by
    rw [won.committed, Tables.mem_recordsOf]
    refine ⟨List.mem_append_right _ (List.mem_singleton_self r), ?_⟩
    simp [RunReport.isOf, submitted.runId, submitted.reportId]
  refine not_mayCreate_live member ?_
  rw [RunReport.isLive, submitted.status]
  rfl

/-- A record outlives the deletion of others. -/
theorem mem_clearing_apply {t : Tables} {r : RunReport} (member : r ∈ t.runReports)
    (spared : ∀ change ∈ clearing runId reportId T, r.id ∉ change.drops) :
    r ∈ ((clearing runId reportId T).foldl Change.apply t).runReports := by
  rw [clearing] at spared ⊢
  cases records : recordsOf runId reportId T with
  | nil => exact member
  | cons q rest =>
    rw [records] at spared
    refine List.mem_filter.mpr ⟨member, ?_⟩
    have kept := spared _ (List.mem_singleton_self _)
    simpa [Change.drops] using kept

/-- Whoever was let in before somebody won is refused at the end. -/
theorem Decided.refuses {i : ι} {r row : RunReport} (won : Decided calls runId reportId T S i r)
    (runs : row.runId = runId) (reports : row.reportId = reportId) (new : row.isLive = true)
    (free : ((clearing runId reportId T).foldl Change.apply S.committed).IdFree row.id) :
    ((clearing runId reportId T).foldl Change.apply S.committed).refusal? (.addRunReport row) =
      some (.unique "run_reports" ["run_id", "report_id"]) := by
  obtain ⟨jobId, submitted⟩ := won.submitted
  have there : r ∈ S.committed.runReports := by
    rw [won.committed]
    exact List.mem_append_right _ (List.mem_singleton_self r)
  have member := mem_clearing_apply there won.spared
  refine Tables.refusal?_secondLive (q := r) ?_ ?_ new (free r member)
  · refine Tables.mem_recordsOf.mpr ⟨member, ?_⟩
    simp [RunReport.isOf, submitted.runId, submitted.reportId, runs, reports]
  · rw [RunReport.isLive, submitted.status]
    rfl

theorem Decided.of_moved {i j : ι} {r : RunReport} {S' : Shared ι Stage σ}
    (won : Decided calls runId reportId T S i r) (committed : S'.committed = S.committed)
    (returned : S'.state i = S.state i)
    (alone : ∀ k q, S'.state k = .returned q → k ≠ j → S.state k = .returned q)
    (loser : ∀ q, S'.state j ≠ .returned q) : Decided calls runId reportId T S' i r where
  returned := returned.trans won.returned
  may := won.may
  submitted := won.submitted
  spared := won.spared
  committed := committed.trans won.committed
  alone k q at_ := by
    by_cases same : k = j
    · rw [same] at at_
      exact False.elim (loser q at_)
    · exact won.alone k q (alone k q at_ same)

end Invariant

section Steps

variable {calls : ι → Call σ} {runId reportId : String} {T : Tables}
variable {S : Shared ι Stage σ} {i : ι} {allocate : Tables → Nat}

theorem loads_made {t : Tables} {d : Draft}
    (loads : ((loadDraft runId reportId).run (Session.on t)).1 = .ok d) :
    draftOf runId reportId t = .ok d := by
  cases ended : (loadDraft runId reportId).run (Session.on t) with
  | mk r s =>
    rw [ended] at loads
    subst loads
    exact ((reads_draft runId reportId (Session.on t)).ok ended).1

theorem Settled.there (settled : Settled calls runId reportId T S) (there : T.lost = []) :
    S.committed.lost = [] := by
  rcases settled.either with undecided | ⟨i, r, won⟩
  · rw [undecided.committed, there]
  · rw [won.committed]
    exact there

/-- Where the earlier records are gone, a new one is let in. -/
theorem admits_after_clearing {row : RunReport} (runs : row.runId = runId)
    (reports : row.reportId = reportId)
    (references : (T.hasRun runId && T.hasReport reportId) = true) :
    (T.withoutRecords runId reportId).refusal? (.addRunReport row) = none := by
  refine Tables.refusal?_addRunReport ?_ ?_
  · rw [runs, reports]
    exact fun q member => False.elim (Tables.not_mem_recordsOf_withoutRecords member)
  · rw [runs, reports]
    exact references

theorem length_live_withRecord {t : Tables} {r : RunReport}
    (dead : ∀ q ∈ recordsOf runId reportId t, q.isLive = false) :
    ((recordsOf runId reportId (t.withRecord r)).filter RunReport.isLive).length ≤ 1 := by
  have none : (recordsOf runId reportId t).filter RunReport.isLive = [] := by
    refine List.filter_eq_nil_iff.mpr fun q member => ?_
    simp [dead q member]
  have split : recordsOf runId reportId (t.withRecord r) =
      recordsOf runId reportId t ++ [r].filter fun q => q.isOf runId reportId :=
    List.filter_append ..
  rw [split, List.filter_append, none, List.nil_append]
  exact Nat.le_trans (List.length_filter_le _ _) (List.length_filter_le _ [r])

/-- However far the creations have come, at most one record is live. -/
theorem Settled.live_le_one (settled : Settled calls runId reportId T S)
    (dead : ∀ r ∈ recordsOf runId reportId T, r.isLive = false) :
    ((recordsOf runId reportId S.committed).filter RunReport.isLive).length ≤ 1 := by
  rcases settled.either with undecided | ⟨i, r, won⟩
  · have none : (recordsOf runId reportId T).filter RunReport.isLive = [] := by
      refine List.filter_eq_nil_iff.mpr fun q member => ?_
      simp [dead q member]
    rw [undecided.committed, none]
    exact Nat.zero_le 1
  · rw [won.committed]
    exact length_live_withRecord fun q member =>
      False.elim (Tables.not_mem_recordsOf_withoutRecords member)

/-- Of creations that have all ended one has returned, if any was let in. -/
theorem Settled.exists_returned (settled : Settled calls runId reportId T S)
    (may : MayCreate runId reportId (calls i).deleteFailed T)
    (ended : ∀ j, (S.state j).IsEnded) : ∃ j r, S.state j = .returned r := by
  rcases settled.either with undecided | ⟨w, r, won⟩
  · exfalso
    cases at_ : S.state i with
    | returned r => exact undecided.noneReturned i r at_
    | raised f => exact undecided.refused i f at_ may
    | _ =>
      have done := ended i
      rw [at_] at done
      exact done
  · exact ⟨w, r, won.returned⟩

section Stepping

variable (calls runId reportId)

/-- What the guard does for a caller, whose session is still as it was at first. -/
theorem stepOf_guarding {d : Draft} (there : S.committed.lost = []) (at_ : S.state i = .guarding)
    (nothing : S.pending i = []) (made : draftOf runId reportId S.committed = .ok d) :
    ∃ stage' w', stepOf calls runId reportId S i allocate = (stage', w') ∧
      w'.session.committed = S.committed ∧
      ((MayCreate runId reportId (calls i).deleteFailed S.committed ∧ stage' = .uploading d ∧
          w'.session.pending = clearing runId reportId S.committed) ∨
        (¬ MayCreate runId reportId (calls i).deleteFailed S.committed ∧
          stage' = .raised (.report (.prohibited (.exists runId reportId))) ∧
          w'.session.pending = [])) := by
  have world : S.world i = ⟨⟨S.committed, [], none, []⟩, S.outside⟩ := by
    rw [Shared.world, nothing]
  rw [stepOf, at_, world]
  exact step_guarding (calls i) runId reportId allocate S.outside there made

/-- What the insertion does for a caller, whose statements so far are still pending. -/
theorem stepOf_keeping {jobId : String} (there : S.committed.lost = [])
    (at_ : S.state i = .keeping jobId) {t : Tables}
    (seen : (S.world i).session.view = t) (free : t.IdFree (allocate t)) :
    ∃ row, row.id = allocate t ∧ row.isLive = true ∧
      IsSubmitted runId reportId jobId (calls i).createdBy row.stored ∧ ∃ stage' w',
      stepOf calls runId reportId S i allocate = (stage', w') ∧ w'.session.pending = [] ∧
      ((t.refusal? (.addRunReport row) = none ∧ stage' = .returned row.stored ∧
          w'.session.committed = t.withRecord row.stored) ∨
        (∃ fault, t.refusal? (.addRunReport row) = some fault ∧
          stage' = .raised (insertFailure runId reportId fault) ∧
          w'.session.committed = S.committed)) := by
  subst seen
  rw [stepOf, at_]
  exact step_keeping (calls i) runId reportId allocate jobId S.outside there free

end Stepping

variable [DecidableEq ι]

/-- A step that changes no row and leads to no return keeps what is so. -/
theorem Settled.put_quiet (settled : Settled calls runId reportId T S) {p : Stage × World σ}
    (goesOn : ¬ (S.state i).IsEnded) (committed : p.2.session.committed = S.committed)
    (orderly : Orderly runId reportId T (calls i) p.1 p.2.session.pending)
    (quiet : ∀ r, p.1 ≠ .returned r)
    (refused : S.committed = T → ∀ f, p.1 = .raised f →
      ¬ MayCreate runId reportId (calls i).deleteFailed T) :
    Settled calls runId reportId T (S.put i p) where
  orderly := Shared.forall_put orderly fun j _ => settled.orderly j
  either := by
    rcases settled.either with undecided | ⟨w, r, won⟩
    · refine Or.inl ⟨committed.trans undecided.committed, fun j q at_ => ?_, fun j f at_ => ?_⟩
      · by_cases same : j = i
        · subst same
          rw [Shared.put_state_self] at at_
          exact quiet q at_
        · rw [Shared.put_state_other same] at at_
          exact undecided.noneReturned j q at_
      · by_cases same : j = i
        · subst same
          rw [Shared.put_state_self] at at_
          exact refused undecided.committed f at_
        · rw [Shared.put_state_other same] at at_
          exact undecided.refused j f at_
    · have other : w ≠ i := by
        intro same
        rw [← same, won.returned] at goesOn
        exact goesOn trivial
      refine Or.inr ⟨w, r, won.of_moved (j := i) committed (Shared.put_state_other other) ?_ ?_⟩
      · intro k q at_ different
        rwa [Shared.put_state_other different] at at_
      · intro q at_
        rw [Shared.put_state_self] at at_
        exact quiet q at_

theorem settled_guarding (settled : Settled calls runId reportId T S) (there : T.lost = [])
    (at_ : S.state i = .guarding) (smooth : Smooth calls runId reportId S i allocate) :
    Settled calls runId reportId T (S.put i (stepOf calls runId reportId S i allocate)) := by
  obtain ⟨d, loads⟩ := smooth.loads at_
  have made := loads_made loads
  obtain ⟨stage', w', stepped, committed, h⟩ := stepOf_guarding calls runId reportId
    (settled.there there) at_ ((settled.orderly i).guarding at_) made
  rw [stepped]
  rcases h with ⟨may, rfl, pending⟩ | ⟨prohibited, rfl, pending⟩
  · rcases settled.either with undecided | ⟨j, r, won⟩
    · rw [undecided.committed] at may pending made
      refine settled.put_quiet smooth.goesOn committed ?_ (fun r no => by cases no)
        fun _ f no => by cases no
      rw [pending]
      exact orderly_underWay trivial may (draftOf_references made)
    · exact False.elim (won.prohibits may)
  · refine settled.put_quiet smooth.goesOn committed ?_ (fun r no => by cases no) ?_
    · rw [pending]
      exact orderly_raised
    · intro unchanged f _
      rwa [unchanged] at prohibited

theorem settled_outside (settled : Settled calls runId reportId T S)
    (underWay : (S.state i).IsUnderWay) (outside : ∀ jobId, S.state i ≠ .keeping jobId)
    (smooth : Smooth calls runId reportId S i allocate) :
    Settled calls runId reportId T (S.put i (stepOf calls runId reportId S i allocate)) := by
  obtain ⟨further, kept⟩ := step_outside (calls i) runId reportId allocate underWay outside
    (smooth.outside underWay outside)
  obtain ⟨may, references, pending⟩ := (settled.orderly i).underWay underWay
  have waits : (stepOf calls runId reportId S i allocate).2.session.pending =
      clearing runId reportId T := by
    rw [stepOf, kept]
    exact pending
  refine settled.put_quiet smooth.goesOn (congrArg Session.committed kept) ?_ ?_ ?_
  · rw [waits]
    exact orderly_underWay further may references
  · intro r returned
    rw [stepOf] at returned
    rw [returned] at further
    exact further
  · intro _ f raised
    exact False.elim (smooth.outside underWay outside f raised)

theorem settled_keeping (settled : Settled calls runId reportId T S) (keys : T.KeysDistinct)
    (there : T.lost = []) {jobId : String} (at_ : S.state i = .keeping jobId)
    (smooth : Smooth calls runId reportId S i allocate) :
    Settled calls runId reportId T (S.put i (stepOf calls runId reportId S i allocate)) := by
  have underWay : (S.state i).IsUnderWay := by rw [at_]; exact trivial
  obtain ⟨may, references, pending⟩ := (settled.orderly i).underWay underWay
  obtain ⟨free, unused⟩ := smooth.unused jobId at_
  have seen : (S.world i).session.view =
      (clearing runId reportId T).foldl Change.apply S.committed := by
    rw [Shared.world, pending, Session.view]
  rw [seen] at free
  obtain ⟨row, id, new, submitted, stage', w', stepped, nothing, h⟩ := stepOf_keeping calls
    runId reportId (settled.there there) at_ seen free
  have runs : row.runId = runId := submitted.runId
  have reports : row.reportId = reportId := submitted.reportId
  rw [stepped]
  rcases settled.either with undecided | ⟨w, r, won⟩
  · rw [undecided.committed, clearing_apply keys] at h
    have allowed := admits_after_clearing runs reports references
    rcases h with ⟨-, rfl, committed⟩ | ⟨fault, refused, -⟩
    · refine ⟨Shared.forall_put ?_ fun j _ => settled.orderly j, Or.inr ⟨i, row.stored, ?_⟩⟩
      · rw [nothing]
        exact orderly_returned _
      · refine ⟨Shared.put_state_self, may, ⟨jobId, submitted⟩, ?_, committed, ?_⟩
        · intro change member
          have fresh := unused i change (by rwa [pending])
          rw [seen, ← id] at fresh
          exact fresh
        · intro j q returned
          by_contra other
          rw [Shared.put_state_other other] at returned
          exact undecided.noneReturned j q returned
    · rw [allowed] at refused
      cases refused
  · rw [← id] at free
    have refusal := won.refuses runs reports new free
    rcases h with ⟨allowed, -⟩ | ⟨fault, refused, rfl, committed⟩
    · rw [refusal] at allowed
      cases allowed
    · rw [refusal] at refused
      cases refused
      refine settled.put_quiet smooth.goesOn committed ?_ (fun r no => by cases no) ?_
      · rw [nothing]
        exact orderly_raised
      · intro unchanged
        exact False.elim (won.prohibits (by rw [unchanged]; exact may))

/-- What is so stays so, whichever caller takes a step. -/
theorem settled_moves (settled : Settled calls runId reportId T S) (keys : T.KeysDistinct)
    (there : T.lost = []) {S' : Shared ι Stage σ} (moves : Moves calls runId reportId S S') :
    Settled calls runId reportId T S' := by
  cases moves with
  | move i allocate smooth =>
    cases at_ : S.state i with
    | guarding => exact settled_guarding settled there at_ smooth
    | keeping jobId => exact settled_keeping settled keys there at_ smooth
    | returned r => exact False.elim (smooth.goesOn (by rw [at_]; exact trivial))
    | raised f => exact False.elim (smooth.goesOn (by rw [at_]; exact trivial))
    | _ =>
      refine settled_outside settled (by rw [at_]; exact trivial) (fun jobId no => ?_) smooth
      rw [at_] at no
      cases no

theorem settled_runs (settled : Settled calls runId reportId T S) (keys : T.KeysDistinct)
    (there : T.lost = []) {S' : Shared ι Stage σ} (runs : Runs calls runId reportId S S') :
    Settled calls runId reportId T S' := by
  induction runs with
  | refl => exact settled
  | tail _ moves ih => exact settled_moves ih keys there moves

/-- A return comes from the stage before it, with the job that was submitted. -/
theorem returned_moves (settled : Settled calls runId reportId T S) (there : T.lost = [])
    {S' : Shared ι Stage σ} (moves : Moves calls runId reportId S S') {r : RunReport}
    (returned : S'.state i = .returned r) :
    S.state i = .returned r ∨ ∃ jobId, S.state i = .keeping jobId ∧ r.jobId = some jobId := by
  cases moves with
  | move j allocate smooth =>
    by_cases other : i = j
    · subst other
      rw [Shared.put_state_self] at returned
      cases at_ : S.state i with
      | guarding =>
        obtain ⟨d, loads⟩ := smooth.loads at_
        obtain ⟨stage', w', stepped, -, h⟩ := stepOf_guarding calls runId reportId
          (settled.there there) at_ ((settled.orderly i).guarding at_) (loads_made loads)
        rw [stepped] at returned
        rcases h with ⟨-, rfl, -⟩ | ⟨-, rfl, -⟩ <;> cases returned
      | keeping jobId =>
        obtain ⟨row, -, -, submitted, stage', w', stepped, -, h⟩ := stepOf_keeping calls runId
          reportId (settled.there there) at_ rfl (smooth.unused jobId at_).1
        rw [stepped] at returned
        rcases h with ⟨-, rfl, -⟩ | ⟨fault, -, rfl, -⟩
        · cases returned
          exact Or.inr ⟨jobId, rfl, submitted.jobId⟩
        · cases returned
      | returned q => exact False.elim (smooth.goesOn (by rw [at_]; exact trivial))
      | raised f => exact False.elim (smooth.goesOn (by rw [at_]; exact trivial))
      | _ =>
        have underWay : (S.state i).IsUnderWay := by rw [at_]; exact trivial
        have outside : ∀ jobId, S.state i ≠ .keeping jobId := fun jobId no => by
          rw [at_] at no
          cases no
        have further := (step_outside (calls i) runId reportId allocate underWay outside
          (smooth.outside underWay outside)).1
        rw [stepOf] at returned
        rw [returned] at further
        exact False.elim further
    · rw [Shared.put_state_other other] at returned
      exact Or.inl returned

/-- The job of a record that was returned is the one that its own creation has submitted. -/
theorem returned_job (keys : T.KeysDistinct) (there : T.lost = [])
    (settled : Settled calls runId reportId T S) (none : ∀ i r, S.state i ≠ .returned r)
    {S' : Shared ι Stage σ} (runs : Runs calls runId reportId S S') {r : RunReport}
    (returned : S'.state i = .returned r) :
    ∃ S₁ jobId, Runs calls runId reportId S S₁ ∧ Runs calls runId reportId S₁ S' ∧
      S₁.state i = .keeping jobId ∧ r.jobId = some jobId := by
  induction runs with
  | refl => exact False.elim (none i r returned)
  | tail before moves ih =>
    rcases returned_moves (settled_runs settled keys there before) there moves returned with
      earlier | ⟨jobId, keeping, job⟩
    · obtain ⟨S₁, jobId, start, later, keeping, job⟩ := ih earlier
      exact ⟨S₁, jobId, start, later.tail moves, keeping, job⟩
    · exact ⟨_, jobId, before, .single moves, keeping, job⟩

/-- Creations of the same report on the same run, interleaved in any way: at most one record is
live, at most one creation returns and its record is what has changed, every other one that ends
is refused and leaves nothing, and one does return if any was let in and all have ended. -/
theorem concurrent_creations (calls : ι → Call σ) (runId reportId : String) (T : Tables)
    (keys : T.KeysDistinct) (there : T.lost = [])
    (dead : ∀ r ∈ recordsOf runId reportId T, r.isLive = false) (o : σ) (S : Shared ι Stage σ)
    (runs : Runs calls runId reportId (Shared.start T o .guarding) S) :
    ((recordsOf runId reportId S.committed).filter RunReport.isLive).length ≤ 1 ∧
    (∀ i f, S.state i = .raised f →
      f = .report (.prohibited (.exists runId reportId)) ∧ S.pending i = []) ∧
    ((S.committed = T ∧ ∀ i r, S.state i ≠ .returned r) ∨
      ∃ i r, S.state i = .returned r ∧ (∀ j q, S.state j = .returned q → j = i) ∧
        S.pending i = [] ∧
        S.committed = (cleared runId reportId (calls i).deleteFailed T).withRecord r ∧
        ∃ S₁ jobId, Runs calls runId reportId (Shared.start T o .guarding) S₁ ∧
          Runs calls runId reportId S₁ S ∧ S₁.state i = .keeping jobId ∧
          IsSubmitted runId reportId jobId (calls i).createdBy r) ∧
    ((∀ i, (S.state i).IsEnded) →
      (∃ S₁ i, Runs calls runId reportId (Shared.start T o .guarding) S₁ ∧
        Runs calls runId reportId S₁ S ∧ (S₁.state i).IsUnderWay) →
      ∃ i r, S.state i = .returned r) := by
  have start : Settled calls runId reportId T (Shared.start T o .guarding) := settled_start o
  have settled := settled_runs start keys there runs
  have noneReturned : ∀ i r, (Shared.start T o Stage.guarding : Shared ι Stage σ).state i ≠
      .returned r := fun i r no => by cases no
  refine ⟨?_, fun i f raised => (settled.orderly i).raised f raised, ?_, ?_⟩
  · exact settled.live_le_one dead
  · rcases settled.either with undecided | ⟨i, r, won⟩
    · exact Or.inl ⟨undecided.committed, undecided.noneReturned⟩
    · obtain ⟨S₁, jobId, before, after, keeping, job⟩ :=
        returned_job keys there start noneReturned runs won.returned
      obtain ⟨jobId', submitted⟩ := won.submitted
      have same : jobId' = jobId := Option.some.inj (submitted.jobId.symm.trans job)
      subst same
      refine Or.inr ⟨i, r, won.returned, won.alone, (settled.orderly i).returned r won.returned,
        ?_, S₁, jobId', before, after, keeping, submitted⟩
      rw [won.committed, ← clearing_eq_cleared keys won.may, clearing_apply keys]
  · rintro ended ⟨S₁, i, before, after, underWay⟩
    have settled₁ := settled_runs start keys there before
    exact settled.exists_returned ((settled₁.orderly i).underWay underWay).1 ended

end Steps

section Two

/-- A caller that may begin is let in. -/
theorem moves_guarding [DecidableEq ι] (calls : ι → Call σ) (runId reportId : String)
    (S : Shared ι Stage σ) (i : ι) {d : Draft} (there : S.committed.lost = [])
    (at_ : S.state i = .guarding) (nothing : S.pending i = [])
    (may : MayCreate runId reportId (calls i).deleteFailed S.committed)
    (loads : ((loadDraft runId reportId).run (Session.on S.committed)).1 = .ok d) :
    ∃ S', Moves calls runId reportId S S' ∧ (S'.state i).IsUnderWay ∧
      S'.committed = S.committed ∧
      ∀ j, j ≠ i → S'.state j = S.state j ∧ S'.pending j = S.pending j := by
  have smooth : Smooth calls runId reportId S i Tables.nextId :=
    { goesOn := by rw [at_]; exact id
      loads := fun _ => ⟨d, loads⟩
      outside := fun no => by rw [at_] at no; exact False.elim no
      unused := fun jobId no => by rw [at_] at no; cases no }
  obtain ⟨stage', w', stepped, committed, h⟩ := stepOf_guarding calls runId reportId there at_
    nothing (loads_made loads)
  refine ⟨_, .move S i Tables.nextId smooth, ?_, ?_, ?_⟩
  · rw [Shared.put_state_self, stepped]
    rcases h with ⟨-, rfl, -⟩ | ⟨prohibited, -, -⟩
    · exact trivial
    · exact False.elim (prohibited may)
  · rw [Shared.put_committed, stepped]
    exact committed
  · exact fun j other => ⟨Shared.put_state_other other, Shared.put_pending_other other⟩

def retry : Call Unit := ⟨obliging, simpleGenerator, none, true⟩

theorem failedOnce_loads :
    ∃ d, ((loadDraft "run" "report").run (Session.on failedOnce)).1 = .ok d := by
  have loads : ((loadDraft "run" "report").run (Session.on failedOnce)).1.isOk = true := by
    decide +kernel
  cases ended : ((loadDraft "run" "report").run (Session.on failedOnce)).1 with
  | ok d => exact ⟨d, rfl⟩
  | error f =>
    rw [ended] at loads
    cases loads

/-- Two creations are both let in, and at most one record is live whatever they do then. -/
theorem concurrent_creations_two :
    ∃ S : Shared Bool Stage Unit,
      Runs (fun _ => retry) "run" "report" (Shared.start failedOnce () .guarding) S ∧
      (S.state false).IsUnderWay ∧ (S.state true).IsUnderWay ∧
      ∀ S', Runs (fun _ => retry) "run" "report" S S' →
        ((recordsOf "run" "report" S'.committed).filter RunReport.isLive).length ≤ 1 := by
  obtain ⟨d, loads⟩ := failedOnce_loads
  have may : MayCreate "run" "report" true failedOnce := ⟨by decide, Or.inr rfl⟩
  obtain ⟨S₁, first, in₁, same₁, others₁⟩ := moves_guarding (fun _ : Bool => retry) "run"
    "report" (Shared.start failedOnce () .guarding) false rfl rfl rfl may loads
  have same : S₁.committed = failedOnce := same₁
  obtain ⟨state, pending⟩ := others₁ true (by decide)
  obtain ⟨S₂, second, in₂, -, others₂⟩ := moves_guarding (fun _ : Bool => retry) "run" "report" S₁
    true (by rw [same]; rfl) state pending (by rw [same]; exact may) (by rw [same]; exact loads)
  have runs := (Relation.ReflTransGen.single first).tail second
  refine ⟨S₂, runs, by rwa [(others₂ false (by decide)).1], in₂, fun S' more => ?_⟩
  exact (concurrent_creations (fun _ => retry) "run" "report" failedOnce failedOnce_keysDistinct
    rfl may.1 () S' (runs.trans more)).1

end Two

end RunReports.Report
