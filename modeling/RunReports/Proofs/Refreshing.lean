import Mathlib.Logic.Function.Iterate
import RunReports.Proofs.Lifecycle

/-!
# A refresh and its wait

A refresh reads the current record, waits for what the engine says about its job, and then writes
this into the record as it was read. `Inquiry` is where it stands, and two steps in a row are a
refresh. What the second step writes goes to the row with the id that was read: this row has to be
there, but neither its status nor its job is looked at again.
-/
namespace RunReports.Report

open RunReports RunReports.Action RunReports.Store RunReports.Store.Session

variable {σ α β : Type}

/-- Where a refresh stands. It waits for an answer about a job, with the record that it has read. -/
inductive Inquiry
  | finding
  | waiting (record : RunReport) (jobId : String)
  | returned (record : RunReport)
  | raised (failure : Failure)

def Inquiry.next (s : Services σ) (g : Generator) (runId reportId : String) :
    Inquiry → Action (World σ) Inquiry
  | .finding => do
    match ← onSession (find runId reportId) with
    | none => throw (.report (.notFound (.runReport runId reportId)))
    | some record =>
      match openJob? record with
      | none => pure (.returned record)
      | some jobId => pure (.waiting record jobId)
  | .waiting record jobId => do
    let state ← g.engine.jobState s.exchange jobId
    let record ← onSession (settle (s.now (← get)) record state)
    pure (.returned record)
  | ended => pure ended

def Inquiry.after : Except Failure Inquiry × World σ → Inquiry × World σ
  | (.ok stage, w) => (stage, w)
  | (.error f, w) => (.raised f, w)

def Inquiry.step (s : Services σ) (g : Generator) (runId reportId : String)
    (p : Inquiry × World σ) : Inquiry × World σ :=
  Inquiry.after ((p.1.next s g runId reportId).run p.2)

def Inquiry.ofEnd : Except Failure RunReport × World σ → Inquiry × World σ
  | (.ok record, w) => (.returned record, w)
  | (.error f, w) => (.raised f, w)

section Steps

variable (s : Services σ) (g : Generator) (runId reportId : String)

theorem inquiry_step_after (a : Action (World σ) Inquiry) (w : World σ) :
    Inquiry.step s g runId reportId (Inquiry.after (a.run w)) =
      Inquiry.after ((a >>= Inquiry.next s g runId reportId).run w) := by
  rw [run_bind]
  rcases a.run w with ⟨f | stage, w'⟩ <;> rfl

theorem inquiry_after_returned (a : Action (World σ) RunReport) (w : World σ) :
    Inquiry.after ((a >>= fun record => pure (.returned record)).run w) =
      Inquiry.ofEnd (a.run w) := by
  rw [run_bind]
  rcases a.run w with ⟨f | record, w'⟩ <;> rfl

/-- Two steps in a row are a refresh. -/
theorem steps_eq_refresh (w : World σ) :
    (Inquiry.step s g runId reportId)^[2] (.finding, w) =
      Inquiry.ofEnd ((refresh s g runId reportId).run w) := by
  have first : Inquiry.step s g runId reportId (.finding, w) =
      Inquiry.after ((Inquiry.next s g runId reportId .finding).run w) := rfl
  simp only [Function.iterate_succ, Function.iterate_zero, Function.comp_apply, id_eq]
  rw [first, inquiry_step_after, ← inquiry_after_returned, refresh, Inquiry.next]
  simp only [bind_assoc]
  refine congrArg (fun a : Action (World σ) Inquiry => Inquiry.after (a.run w))
    (bind_congr fun found => ?_)
  cases found with
  | none => rfl
  | some record =>
    simp only
    cases openJob? record with
    | none => rfl
    | some jobId => simp only [pure_bind, Inquiry.next, bind_assoc]

end Steps

theorem jobId_of_openJob? {record : RunReport} {jobId : String}
    (asks : openJob? record = some jobId) : record.jobId = some jobId := by
  rw [openJob?] at asks
  split at asks
  · cases asks
  · exact (Option.filter_eq_some_iff.mp asks).1

/-- Progress can be written only where its row is. -/
theorem id_of_advance {t : Tables} {id : Nat} {p : Progress}
    (allowed : t.refusal? (.advance id p) = none) : ∃ r ∈ t.runReports, r.id = id := by
  cases found : t.runReports.find? fun r => r.id == id with
  | none => simp [Tables.refusal?, found] at allowed
  | some r => exact ⟨r, List.mem_of_find?_eq_some found, by simpa using List.find?_some found⟩

/-- Nothing has changed, and what an answer is awaited about is there and open. -/
structure Asked (t : Tables) (stage : Inquiry) (s : Session) : Prop where
  committed : s.committed = t
  pending : s.pending = []
  begun : stage ≠ .finding
  about : ∀ q jobId, stage = .waiting q jobId → q ∈ t.runReports ∧ openJob? q = some jobId

/-- Whoever does not wait asks about nothing. -/
theorem Asked.raised {f : Failure} {s u : Session} (kept : Keeps s u) (nothing : s.pending = []) :
    Asked s.committed (.raised f) u := by
  refine ⟨kept.committed, kept.pending.trans nothing, ?_, ?_⟩
  · rintro ⟨⟩
  · rintro _ _ ⟨⟩

theorem Asked.returned {r : RunReport} {s u : Session} (kept : Keeps s u)
    (nothing : s.pending = []) : Asked s.committed (.returned r) u := by
  refine ⟨kept.committed, kept.pending.trans nothing, ?_, ?_⟩
  · rintro ⟨⟩
  · rintro _ _ ⟨⟩

/-- What comes of an answer: the refresh fails, or it has nothing new to write, or it has written to
the row with the id of the record that it had read. -/
inductive Answered (t : Tables) (q : RunReport) : Inquiry → Session → Prop
  | failed (f : Failure) (s : Session) (nothing : s.pending = []) (committed : s.committed = t) :
      Answered t q (.raised f) s
  | known (s : Session) (nothing : s.pending = []) (committed : s.committed = t) :
      Answered t q (.returned q) s
  | written (r : RunReport) (p : Progress) (s : Session) (nothing : s.pending = [])
      (news : p.status ≠ q.status) (there : ∃ r ∈ t.runReports, r.id = q.id)
      (committed : s.committed = (Change.advance q.id p).apply t) : Answered t q (.returned r) s

section Cases

variable {s : Services σ} {g : Generator} {runId reportId : String} {stage : Inquiry}
variable {w : World σ} {P : Inquiry → World σ → Prop}

/-- What is so after a step, with a failure taken as a stage. -/
theorem inquiry_step_ensures
    (h : (stage.next s g runId reportId).Ensures w P fun f w' => P (.raised f) w') :
    P (Inquiry.step s g runId reportId (stage, w)).1
      (Inquiry.step s g runId reportId (stage, w)).2 := by
  rcases ended : (stage.next s g runId reportId).run w with ⟨f | stage', w'⟩ <;>
    rw [Inquiry.step, ended]
  · exact h.error ended
  · exact h.ok ended

variable (e : Surroundings σ) (g runId reportId)

theorem finding_step (nothing : w.session.pending = []) :
    Asked w.session.committed (Inquiry.step e.services g runId reportId (.finding, w)).1
      (Inquiry.step e.services g runId reportId (.finding, w)).2.session := by
  refine inquiry_step_ensures (P := fun stage w' => Asked w.session.committed stage w'.session) ?_
  refine ((find_ensures runId reportId w.session).within.mono (fun _ _ h => h) ?_).bind ?_
  · rintro f _ ⟨u, ⟨kept, -⟩, rfl⟩
    exact .raised kept nothing
  rintro found _ ⟨u, ⟨current, kept⟩, rfl⟩
  cases found with
  | none => exact ensures_throw (.raised kept nothing)
  | some record =>
    simp only
    cases asks : openJob? record with
    | none => exact ensures_pure (.returned kept nothing)
    | some jobId =>
      have there := (Tables.mem_recordsOf.mp (current?_some current.symm).1).1
      rw [Session.view_eq_committed nothing] at there
      refine ensures_pure ⟨kept.committed, kept.pending.trans nothing, ?_, ?_⟩
      · rintro ⟨⟩
      · intro q jobId' same
        cases same
        exact ⟨there, asks⟩

/-- A new status is always written. -/
theorem advancing_of_ne {q : RunReport} {p : Progress} (news : p.status ≠ q.status) :
    advancing q p = [.advance q.id (newProgress q p)] := by
  have moves : changes q (newProgress q p) = true := by
    simp [changes, newProgress, news]
  rw [advancing, if_pos moves]

theorem settle_answered (now : Calendar.Moment) (q : RunReport) (state : Engine.JobState)
    {u : Session} (nothing : u.pending = []) :
    (settle now q state).Ensures u
      (fun r v => Answered u.committed q (.returned r) v)
      (fun f v => Answered u.committed q (.raised f) v) := by
  have view : u.view = u.committed := Session.view_eq_committed nothing
  rw [settle]
  cases jobStatuses.lookup state.status with
  | none => exact ensures_throw (.failed _ u nothing rfl)
  | some status =>
    simp only
    by_cases same : status = q.status
    · rw [if_pos same]
      exact ensures_pure (.known u nothing rfl)
    · rw [if_neg same]
      refine (keepProgress_ensures q _ u).mono ?_ fun f v h => .failed f v h.1 h.2
      intro r v h
      obtain ⟨pending, committed, allowed⟩ := h
      rw [advancing_of_ne same, view] at committed allowed
      have there := id_of_advance (allowed _ List.mem_cons_self)
      exact .written r _ v pending same there committed

theorem waiting_step (q : RunReport) (jobId : String) (nothing : w.session.pending = []) :
    Answered w.session.committed q
      (Inquiry.step e.services g runId reportId (.waiting q jobId, w)).1
      (Inquiry.step e.services g runId reportId (.waiting q jobId, w)).2.session := by
  have same : g.engine.jobState e.services.exchange jobId =
      onOutside (g.engine.jobState e.exchange jobId) :=
    isPart_outside.jobState e.exchange g.engine jobId
  refine inquiry_step_ensures
    (P := fun stage w' => Answered w.session.committed q stage w'.session) ?_
  rw [Inquiry.next, same]
  refine ((ensures_run (g.engine.jobState e.exchange jobId) w.outside).within.mono
    (fun _ _ h => h) ?_).bind ?_
  · rintro f _ ⟨o, -, rfl⟩
    exact .failed f _ nothing rfl
  rintro state _ ⟨o, -, rfl⟩
  refine ensures_get.bind ?_
  rintro x _ ⟨rfl, rfl⟩
  refine ((settle_answered (e.now o) q state (u := ({ w with outside := o } : World σ).session)
    nothing).within.mono (fun _ _ h => h) ?_).bind ?_
  · rintro f _ ⟨u, answered, rfl⟩
    exact answered
  · rintro record _ ⟨u, answered, rfl⟩
    exact ensures_pure answered

/-- All that a refresh does to the rows: it writes progress into one, if anything. -/
theorem refresh_written (nothing : w.session.pending = []) :
    (refresh e.services g runId reportId).Ensures w
      (fun _ w' => w'.session.pending = [] ∧ (w'.session.committed = w.session.committed ∨
        ∃ id p, w'.session.committed = (Change.advance id p).apply w.session.committed))
      (fun _ w' => w'.session.pending = [] ∧ (w'.session.committed = w.session.committed ∨
        ∃ id p, w'.session.committed = (Change.advance id p).apply w.session.committed)) := by
  have steps := steps_eq_refresh e.services g runId reportId w
  have asked := finding_step g runId reportId e nothing
  rcases first : Inquiry.step e.services g runId reportId (.finding, w) with ⟨stage, w₁⟩
  rw [first] at asked
  simp only [Function.iterate_succ, Function.iterate_zero, Function.comp_apply, id_eq, first]
    at steps
  rcases second : Inquiry.step e.services g runId reportId (stage, w₁) with ⟨stage', s', o'⟩
  have written : s'.pending = [] ∧ (s'.committed = w.session.committed ∨
      ∃ id p, s'.committed = (Change.advance id p).apply w.session.committed) := by
    have committed : w₁.session.committed = w.session.committed := asked.committed
    cases stage with
    | finding => exact False.elim (asked.begun rfl)
    | waiting q jobId =>
      have answered := waiting_step g runId reportId e q jobId (w := w₁) asked.pending
      rw [second, committed] at answered
      cases answered with
      | failed _ _ nothing same => exact ⟨nothing, Or.inl same⟩
      | known _ nothing same => exact ⟨nothing, Or.inl same⟩
      | written _ p _ nothing _ _ same => exact ⟨nothing, Or.inr ⟨q.id, p, same⟩⟩
    | returned r =>
      cases second
      exact ⟨asked.pending, Or.inl committed⟩
    | raised f =>
      cases second
      exact ⟨asked.pending, Or.inl committed⟩
  rw [second] at steps
  refine (ensures_run _ w).mono ?_ ?_
  · intro r w' ended
    rw [ended] at steps
    cases steps
    exact written
  · intro f w' ended
    rw [ended] at steps
    cases steps
    exact written

end Cases

end RunReports.Report
