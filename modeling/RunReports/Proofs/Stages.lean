import Mathlib.Logic.Function.Iterate
import RunReports.Proofs.Creation

/-!
# Creation, stage by stage

A creation waits four times: for the upload, for the workflow source, for the submission, and
before it begins. Between its waits it runs undisturbed. `Stage` is where it stands, `Call.step`
takes it to its next wait or to its end, and five steps in a row are a creation.
-/
namespace RunReports.Report

open RunReports RunReports.Action RunReports.Calendar RunReports.Store RunReports.Store.Session

variable {σ α β : Type}

/-- Where a creation stands, with what it has got so far. -/
inductive Stage
  | guarding
  | uploading (d : Draft)
  | resolving (inputs : Json.Fields)
  | submitting (inputs : Json.Fields) (source : String)
  | keeping (jobId : String)
  | returned (record : RunReport)
  | raised (failure : Failure)

def Stage.IsUnderWay : Stage → Prop
  | .uploading _ => True
  | .resolving _ => True
  | .submitting _ _ => True
  | .keeping _ => True
  | _ => False

def Stage.IsEnded : Stage → Prop
  | .returned _ => True
  | .raised _ => True
  | _ => False

/-- What a creation is asked for, apart from its run and report, and whom it asks. -/
structure Call (σ : Type) where
  surroundings : Surroundings σ
  generator : Generator
  createdBy : Option String
  deleteFailed : Bool

def Call.services (c : Call σ) : Services σ := c.surroundings.services

variable (c : Call σ) (runId reportId : String) (allocate : Tables → Nat)

def Call.next : Stage → Action (World σ) Stage
  | .guarding => do
    let d ← onSession (prepare runId reportId c.deleteFailed)
    pure (.uploading d)
  | .uploading d => do
    let inputs ← sendUp c.services c.generator d
    pure (.resolving inputs)
  | .resolving inputs => do
    let source ← Workflow.resolve c.services.fetch c.generator.workflowUrl
    pure (.submitting inputs source)
  | .submitting inputs source => do
    let submission ← c.generator.engine.submit c.services.exchange source inputs
    pure (.keeping submission.jobId)
  | .keeping jobId => do
    let record ← onSession
      (keepAs allocate (c.services.now (← get)) runId reportId jobId c.createdBy)
    pure (.returned record)
  | ended => pure ended

def Stage.after : Except Failure Stage × World σ → Stage × World σ
  | (.ok stage, w) => (stage, w)
  | (.error f, w) => (.raised f, w)

def Call.step (p : Stage × World σ) : Stage × World σ :=
  Stage.after ((orRollbackWorld (accessing .runReport
    (c.next runId reportId allocate p.1))).run p.2)

def Stage.ofEnd : Except Failure RunReport × World σ → Stage × World σ
  | (.ok record, w) => (.returned record, w)
  | (.error f, w) => (.raised f, w)

theorem run_guarded_bind (a : Action (World σ) α) (k : α → Action (World σ) β) (w : World σ) :
    (orRollbackWorld (accessing .runReport (a >>= k))).run w =
      match (orRollbackWorld (accessing .runReport a)).run w with
      | (.ok x, w') => (orRollbackWorld (accessing .runReport (k x))).run w'
      | (.error f, w') => (.error f, w') := by
  simp only [orRollbackWorld, accessing, run_tryCatch, run_bind]
  rcases a.run w with ⟨f | x, w'⟩
  · cases f <;> rfl
  · rfl

theorem step_after (a : Action (World σ) Stage) (w : World σ) :
    c.step runId reportId allocate
        (Stage.after ((orRollbackWorld (accessing .runReport a)).run w)) =
      Stage.after ((orRollbackWorld (accessing .runReport
        (a >>= c.next runId reportId allocate))).run w) := by
  rw [run_guarded_bind]
  rcases (orRollbackWorld (accessing .runReport a)).run w with ⟨f | stage, w'⟩ <;> rfl

theorem after_returned (a : Action (World σ) RunReport) (w : World σ) :
    Stage.after ((orRollbackWorld (accessing .runReport
        (a >>= fun record => pure (.returned record)))).run w) =
      Stage.ofEnd ((orRollbackWorld (accessing .runReport a)).run w) := by
  rw [run_guarded_bind]
  rcases (orRollbackWorld (accessing .runReport a)).run w with ⟨f | record, w'⟩ <;> rfl

/-- Five steps in a row are a creation. -/
theorem steps_eq_create (w : World σ) :
    (c.step runId reportId Tables.nextId)^[5] (.guarding, w) =
      Stage.ofEnd ((create c.services c.generator runId reportId c.createdBy
        c.deleteFailed).run w) := by
  rw [create, ← after_returned]
  have first : c.step runId reportId Tables.nextId (.guarding, w) =
      Stage.after ((orRollbackWorld (accessing .runReport
        (c.next runId reportId Tables.nextId .guarding))).run w) := rfl
  simp only [Function.iterate_succ, Function.iterate_zero, Function.comp_apply, id_eq]
  rw [first, step_after, step_after, step_after, step_after]
  simp only [Call.next, bind_assoc, pure_bind]
  rfl

section Steps

variable {c runId reportId allocate}
variable {stage : Stage} {w : World σ} {Q : Stage → World σ → Prop}
variable {E : Failure → World σ → Prop}

def raisedAs : Failure → Failure
  | .store fault => .report (.database .runReport fault)
  | f => f

/-- A step does what an action does from one stage to the next, or it raises the failure of the
action, with the session rolled back. -/
theorem step_cases (h : (c.next runId reportId allocate stage).Ensures w Q E) :
    Q (c.step runId reportId allocate (stage, w)).1 (c.step runId reportId allocate (stage, w)).2 ∨
      ∃ f u, E f u ∧ c.step runId reportId allocate (stage, w) =
        (.raised (raisedAs f), { u with session := u.session.rollback }) := by
  have guarded : (orRollbackWorld (accessing .runReport
      (c.next runId reportId allocate stage))).Ensures w Q fun f w' =>
        ∃ u, (∃ f', E f' u ∧ f = raisedAs f') ∧
          w' = { u with session := u.session.rollback } := by
    refine orRollbackWorld_ensures (accessing_ensures h ?_ ?_)
    · exact fun fault t e => ⟨_, e, rfl⟩
    · intro f t other e
      refine ⟨f, e, ?_⟩
      cases f with
      | store fault => exact False.elim (other fault rfl)
      | _ => rfl
  cases ended : (orRollbackWorld (accessing .runReport
      (c.next runId reportId allocate stage))).run w with
  | mk r w' =>
    have stepped : c.step runId reportId allocate (stage, w) = Stage.after (r, w') := by
      rw [Call.step, ended]
    cases r with
    | ok stage' =>
      rw [stepped]
      exact Or.inl (guarded.ok ended)
    | error f =>
      obtain ⟨u, ⟨f', e, rfl⟩, rfl⟩ := guarded.error ended
      exact Or.inr ⟨f', u, e, stepped⟩

variable (c runId reportId allocate)

theorem next_outside (underWay : stage.IsUnderWay) (outside : ∀ jobId, stage ≠ .keeping jobId) :
    ∃ (α : Type) (a : Action σ α) (k : α → Stage), (∀ x, (k x).IsUnderWay) ∧
      c.next runId reportId allocate stage = onOutside a >>= fun x => pure (k x) := by
  cases stage with
  | uploading d =>
    refine ⟨_, c.surroundings.sendUp c.generator d, .resolving, fun _ => trivial, ?_⟩
    rw [Call.next, Call.services, sendUp_services]
  | resolving inputs =>
    refine ⟨_, Workflow.resolve c.surroundings.fetch c.generator.workflowUrl,
      .submitting inputs, fun _ => trivial, ?_⟩
    rw [Call.next, Call.services, resolve_services]
  | submitting inputs source =>
    refine ⟨_, c.generator.engine.submit c.surroundings.exchange source inputs,
      fun submission => .keeping submission.jobId, fun _ => trivial, ?_⟩
    rw [Call.next, Call.services, submit_services]
  | keeping jobId => exact False.elim (outside jobId rfl)
  | _ => exact False.elim underWay

/-- Outside of the session a creation goes on to its next stage, unless something fails there. -/
theorem step_outside (underWay : stage.IsUnderWay) (outside : ∀ jobId, stage ≠ .keeping jobId)
    (smooth : ∀ f, (c.step runId reportId allocate (stage, w)).1 ≠ .raised f) :
    (c.step runId reportId allocate (stage, w)).1.IsUnderWay ∧
      (c.step runId reportId allocate (stage, w)).2.session = w.session := by
  obtain ⟨α, a, k, further, is⟩ :=
    next_outside c runId reportId allocate underWay outside
  have acts : (c.next runId reportId allocate stage).Ensures w
      (fun stage' w' => stage'.IsUnderWay ∧ w'.session = w.session) (fun _ _ => True) := by
    rw [is]
    refine ((ensures_run a w.outside).within.mono (fun _ _ h => h) fun _ _ _ => trivial).bind ?_
    rintro x _ ⟨o, -, rfl⟩
    exact ensures_pure ⟨further x, rfl⟩
  rcases step_cases acts with ended | ⟨f, u, -, raised⟩
  · exact ended
  · exact False.elim (smooth (raisedAs f) (by rw [raised]))

theorem calm_mk {t : Tables} {cs : List Change} (there : t.lost = []) :
    (Session.mk t cs none []).Calm := ⟨rfl, rfl, there⟩

/-- The guard lets a creation in if it may begin, and its failed records go as far as the session
is concerned; else nothing has happened. -/
theorem step_guarding (o : σ) {t : Tables} {d : Draft} (there : t.lost = [])
    (made : draftOf runId reportId t = .ok d) :
    ∃ stage' w', c.step runId reportId allocate (.guarding, ⟨⟨t, [], none, []⟩, o⟩) =
      (stage', w') ∧ w'.session.committed = t ∧
      ((MayCreate runId reportId c.deleteFailed t ∧ stage' = .uploading d ∧
          w'.session.pending = clearing runId reportId t) ∨
        (¬ MayCreate runId reportId c.deleteFailed t ∧
          stage' = .raised (.report (.prohibited (.exists runId reportId))) ∧
          w'.session.pending = [])) := by
  have acts : (c.next runId reportId allocate .guarding).Ensures ⟨⟨t, [], none, []⟩, o⟩
      (fun stage' w' => w'.session.committed = t ∧ MayCreate runId reportId c.deleteFailed t ∧
        stage' = .uploading d ∧ w'.session.pending = clearing runId reportId t)
      (fun f w' => w'.session.committed = t ∧ ¬ MayCreate runId reportId c.deleteFailed t ∧
        f = .report (.prohibited (.exists runId reportId))) := by
    refine ((prepare_ensures runId reportId c.deleteFailed _).within.mono
      (fun _ _ h => h) ?_).bind ?_
    · rintro f _ ⟨s, ⟨committed, why⟩, rfl⟩
      rcases why (calm_mk there) with prohibited | ⟨-, failed⟩
      · exact ⟨committed, prohibited⟩
      · rw [show draftOf runId reportId t = .error f from failed] at made
        cases made
    · rintro d' _ ⟨s, ⟨may, made', room⟩, rfl⟩
      rw [show draftOf runId reportId t = .ok d' from made'] at made
      cases made
      exact ensures_pure ⟨room.committed, may, rfl, room.pending⟩
  rcases step_cases acts with ⟨committed, h⟩ | ⟨f, u, ⟨committed, prohibited, rfl⟩, raised⟩
  · exact ⟨_, _, rfl, committed, Or.inl h⟩
  · exact ⟨_, _, raised, committed, Or.inr ⟨prohibited, rfl, rfl⟩⟩

/-- At its end a creation commits its record and what was pending, unless a rule forbids the
record; then nothing of it stays. -/
theorem step_keeping (jobId : String) (o : σ) {t : Tables} {cs : List Change} (there : t.lost = [])
    (free : (cs.foldl Change.apply t).IdFree (allocate (cs.foldl Change.apply t))) :
    ∃ row, row.id = allocate (cs.foldl Change.apply t) ∧ row.isLive = true ∧
      IsSubmitted runId reportId jobId c.createdBy row.stored ∧ ∃ stage' w',
      c.step runId reportId allocate (.keeping jobId, ⟨⟨t, cs, none, []⟩, o⟩) = (stage', w') ∧
      w'.session.pending = [] ∧
      (((cs.foldl Change.apply t).refusal? (.addRunReport row) = none ∧
          stage' = .returned row.stored ∧
          w'.session.committed = (cs.foldl Change.apply t).withRecord row.stored) ∨
        (∃ fault, (cs.foldl Change.apply t).refusal? (.addRunReport row) = some fault ∧
          stage' = .raised (insertFailure runId reportId fault) ∧ w'.session.committed = t)) := by
  let row := newRecord (allocate (cs.foldl Change.apply t)) (c.services.now ⟨⟨t, cs, none, []⟩, o⟩)
    runId reportId .submitted (some jobId) c.createdBy .null
  refine ⟨row, rfl, rfl, ⟨rfl, rfl, rfl, rfl, rfl, rfl, rfl⟩, ?_⟩
  have acts : (c.next runId reportId allocate (.keeping jobId)).Ensures ⟨⟨t, cs, none, []⟩, o⟩
      (fun stage' w' => w'.session.pending = [] ∧
        (cs.foldl Change.apply t).refusal? (.addRunReport row) = none ∧
        stage' = .returned row.stored ∧
        w'.session.committed = (cs.foldl Change.apply t).withRecord row.stored)
      (fun f w' => w'.session.committed = t ∧
        ∃ fault, (cs.foldl Change.apply t).refusal? (.addRunReport row) = some fault ∧
          f = insertFailure runId reportId fault) := by
    refine ensures_get.bind ?_
    rintro w _ ⟨rfl, rfl⟩
    refine ((keepAs_ensures allocate _ runId reportId jobId c.createdBy _ ?_).within.mono
      (fun _ _ h => h) ?_).bind ?_
    · exact free
    · rintro f _ ⟨s, ⟨committed, why⟩, rfl⟩
      exact ⟨committed, why (calm_mk there)⟩
    · rintro record _ ⟨s, ⟨rfl, committed, pending, -, allowed⟩, rfl⟩
      exact ensures_pure ⟨pending, allowed, rfl, committed⟩
  rcases step_cases acts with ⟨pending, h⟩ | ⟨f, u, ⟨committed, fault, refused, rfl⟩, raised⟩
  · exact ⟨_, _, rfl, pending, Or.inl h⟩
  · have told : raisedAs (insertFailure runId reportId fault) =
        insertFailure runId reportId fault := by
      rw [insertFailure]
      split <;> rfl
    exact ⟨_, _, raised, rfl, Or.inr ⟨fault, refused, by rw [told], committed⟩⟩

end Steps

end RunReports.Report
