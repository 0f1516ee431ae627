import RunReports.Proofs.Creation
import RunReports.Proofs.Jobs

/-!
# The life of a record

Whatever is called, and however it ends, each record stays lawful: it has a job, it has ended
exactly if its status is terminal, and it has results exactly if the report succeeded. A record
lives on from call to call, unchanged once its status is terminal; only a creation that is asked
to delete failed records makes some go, those of its own run and report.
-/
namespace RunReports.Report

open RunReports RunReports.Action RunReports.Calendar RunReports.Store RunReports.Store.Session

variable {σ α β : Type}

structure Lawful (r : RunReport) : Prop where
  job : ∃ jobId, r.jobId = some jobId ∧ Engine.IsJobId jobId
  finished : r.finishedAt.isSome = r.status.isTerminal
  results : r.results.isNull = false ↔ r.status = .succeeded

structure Sound (t : Tables) : Prop where
  keys : t.KeysDistinct
  lawful : ∀ r ∈ t.runReports, Lawful r

/-- The same record at a later time. If its status was terminal nothing has changed. -/
structure Continues (r q : RunReport) : Prop where
  id : q.id = r.id
  runId : q.runId = r.runId
  reportId : q.reportId = r.reportId
  jobId : q.jobId = r.jobId
  createdBy : q.createdBy = r.createdBy
  terminal : r.status.isTerminal = true → q = r

theorem Continues.refl (r : RunReport) : Continues r r := ⟨rfl, rfl, rfl, rfl, rfl, fun _ => rfl⟩

theorem Continues.trans {r q p : RunReport} (h : Continues r q) (k : Continues q p) :
    Continues r p where
  id := k.id.trans h.id
  runId := k.runId.trans h.runId
  reportId := k.reportId.trans h.reportId
  jobId := k.jobId.trans h.jobId
  createdBy := k.createdBy.trans h.createdBy
  terminal ended := by
    have same := h.terminal ended
    rw [same] at k
    exact k.terminal ended

/-- The rows stay sound, and every record lives on that need not go. -/
structure Evolves (mayGo : RunReport → Prop) (t t' : Tables) : Prop where
  sound : Sound t'
  livesOn : ∀ r ∈ t.runReports, mayGo r ∨ ∃ q ∈ t'.runReports, Continues r q

def nobody (_ : RunReport) : Prop := False

theorem Evolves.refl {t : Tables} (sound : Sound t) : Evolves nobody t t :=
  ⟨sound, fun r member => Or.inr ⟨r, member, Continues.refl r⟩⟩

theorem Evolves.trans {t t' t'' : Tables} (h : Evolves nobody t t') (k : Evolves nobody t' t'') :
    Evolves nobody t t'' where
  sound := k.sound
  livesOn r member := by
    rcases h.livesOn r member with no | ⟨q, there, first⟩
    · exact False.elim no
    · rcases k.livesOn q there with no | ⟨p, there', second⟩
      · exact False.elim no
      · exact Or.inr ⟨p, there', first.trans second⟩

theorem Evolves.mono {mayGo mayGo' : RunReport → Prop} {t t' : Tables} (h : Evolves mayGo t t')
    (more : ∀ r, mayGo r → mayGo' r) : Evolves mayGo' t t' :=
  ⟨h.sound, fun r member => (h.livesOn r member).imp_left (more r)⟩

theorem evolves_of_records {t t' : Tables} (sound : Sound t) (same : t'.runReports = t.runReports) :
    Evolves nobody t t' where
  sound := by
    refine ⟨?_, ?_⟩
    · rw [Tables.KeysDistinct, same]
      exact sound.keys
    · rw [same]
      exact sound.lawful
  livesOn r member := Or.inr ⟨r, by rwa [same], Continues.refl r⟩

theorem IsSubmitted.lawful {runId reportId jobId : String} {createdBy : Option String}
    {r : RunReport} (h : IsSubmitted runId reportId jobId createdBy r)
    (job : Engine.IsJobId jobId) : Lawful r where
  job := ⟨jobId, h.jobId, job⟩
  finished := by rw [h.finishedAt, h.status]; rfl
  results := by simp [h.results, h.status, Json.isNull]

def Replaced (runId reportId : String) (deleteFailed : Bool) (r : RunReport) : Prop :=
  deleteFailed = true ∧ r.isOf runId reportId = true ∧ r.status.isFailure = true

theorem evolves_created {runId reportId jobId : String} {createdBy : Option String}
    {deleteFailed : Bool} {t : Tables} {record : RunReport} (sound : Sound t)
    (submitted : IsSubmitted runId reportId jobId createdBy record) (job : Engine.IsJobId jobId)
    (free : (cleared runId reportId deleteFailed t).IdFree record.id) :
    Evolves (Replaced runId reportId deleteFailed) t
      ((cleared runId reportId deleteFailed t).withRecord record) where
  sound := by
    have keys : (cleared runId reportId deleteFailed t).KeysDistinct :=
      sound.keys.sublist (List.filter_sublist.map RunReport.id)
    refine ⟨keys.withRecord free, fun r member => ?_⟩
    rcases List.mem_append.mp member with old | new
    · exact sound.lawful r (List.mem_filter.mp old).1
    · rw [List.mem_singleton.mp new]
      exact submitted.lawful job
  livesOn r member := by
    by_cases goes : (deleteFailed && r.isOf runId reportId && r.status.isFailure) = true
    · simp only [Bool.and_eq_true] at goes
      exact Or.inl ⟨goes.1.1, goes.1.2, goes.2⟩
    · refine Or.inr ⟨r, List.mem_append_left _ (List.mem_filter.mpr ⟨member, ?_⟩),
        Continues.refl r⟩
      rw [Bool.not_eq_true] at goes
      simp only [goes, Bool.not_false]

/-- The statements that write progress into a record: none if it would change nothing. -/
def advancing (record : RunReport) (p : Progress) : List Change :=
  if changes record (newProgress record p) then [.advance record.id (newProgress record p)] else []

theorem advance_ensures (record : RunReport) (p : Progress) (s : Session) :
    (advance record p).Ensures s
      (fun _ t => Extends (advancing record p) s t ∧
        ∀ c ∈ advancing record p, s.view.refusal? c = none)
      (fun _ t => t.committed = s.committed ∧ t.pending = []) := by
  refine accessing_ensures_same ((orRollback_ensures (E := fun _ t => t.committed = s.committed)
    ?_).mono (fun _ _ h => h) ?_)
  · rw [advancing]
    by_cases moves : changes record (newProgress record p) = true
    · simp only [moves, if_true]
      refine ((execute_ensures _ s).mono (fun _ _ h => h) fun _ _ h => h.1.committed).bind ?_
      rintro _ t ⟨more, allowed⟩
      exact ensures_pure ⟨more, fun c only => by rwa [List.mem_singleton.mp only]⟩
    · simp only [moves]
      exact ensures_pure ⟨Keeps.refl s, fun c no => by cases no⟩
  · rintro f t ⟨u, committed, rfl⟩
    exact ⟨committed, rfl⟩

/-- Keeping progress commits it, or nothing at all. -/
theorem keepProgress_ensures (record : RunReport) (p : Progress) (s : Session) :
    (keepProgress record p).Ensures s
      (fun _ t => t.pending = [] ∧
        t.committed = (advancing record p).foldl Change.apply s.view ∧
        ∀ c ∈ advancing record p, s.view.refusal? c = none)
      (fun _ t => t.pending = [] ∧ t.committed = s.committed) := by
  refine (accessing_ensures_same (P := fun t => t.pending = [] ∧ t.committed = s.committed)
    (Q := fun _ t => t.pending = [] ∧
      t.committed = (advancing record p).foldl Change.apply s.view ∧
      ∀ c ∈ advancing record p, s.view.refusal? c = none)
    ((orRollback_ensures (E := fun _ t => t.committed = s.committed) ?_).mono
      (fun _ _ h => h) ?_)).bind ?_
  · refine ((advance_ensures record p s).mono (fun _ _ h => h) fun _ _ h => h.1).bind ?_
    rintro _ t ⟨more, allowed⟩
    refine (commit_ensures t).mono ?_ ?_
    · rintro _ u ⟨committed, pending, -⟩
      exact ⟨pending, by rw [committed, more.view], allowed⟩
    · exact fun _ u h => h.1.committed.trans more.committed
  · rintro f t ⟨u, committed, rfl⟩
    exact ⟨rfl, committed⟩
  · intro _ t kept
    exact ensures_get.bind fun x u h => ensures_pure (by rw [h.2]; exact kept)

section Progress

variable {r : RunReport} {now : Moment} {status : ReportStatus} {outputs : Option Json.Fields}

theorem Lawful.results_null (lawful : Lawful r) (open_ : r.status.isTerminal = false) :
    r.results = .null := by
  have none : r.results.isNull = true := by
    by_contra some
    have done := lawful.results.mp (by simpa using some)
    rw [done] at open_
    cases open_
  cases given : r.results with
  | null => rfl
  | _ =>
    rw [given] at none
    cases none

/-- Progress of an open record is written as it is. -/
theorem advancing_progressOf (lawful : Lawful r) (open_ : r.status.isTerminal = false)
    (moves : status ≠ r.status) :
    advancing r (progressOf now status outputs) =
      [.advance r.id (progressOf now status outputs)] := by
  have same : newProgress r (progressOf now status outputs) = progressOf now status outputs := by
    have results : (progressOf now status outputs).results.filter
        (fun v => !r.results.same v) = (progressOf now status outputs).results := by
      rw [lawful.results_null open_, progressOf]
      by_cases done : status = .succeeded
      · cases outputs with
        | none => simp [done]
        | some fields => simp [done, Json.same, Json.sameScalar, Json.whole?]
      · simp [done]
    rw [newProgress, results]
  have changed : changes r (progressOf now status outputs) = true := by
    simp [changes, progressOf, moves]
  rw [advancing, same, if_pos changed]

theorem Lawful.advance (lawful : Lawful r) (open_ : r.status.isTerminal = false)
    (given : outputs.isSome = true ↔ status = .succeeded) :
    Lawful (r.advance (progressOf now status outputs)).stored where
  job := lawful.job
  finished := by
    have unfinished : r.finishedAt = none := by
      simpa [open_] using lawful.finished
    cases ended : status.isTerminal <;>
      simp [RunReport.stored, RunReport.advance, progressOf, ended, unfinished]
  results := by
    have null := lawful.results_null open_
    by_cases done : status = .succeeded
    · obtain ⟨fields, some⟩ := Option.isSome_iff_exists.mp (given.mpr done)
      simp [RunReport.stored, RunReport.advance, progressOf, done, some, Json.isNull]
    · simp [RunReport.stored, RunReport.advance, progressOf, done, null, Json.isNull]

/-- Progress of an open record: the record lives on, and no other one is touched. -/
theorem evolves_advance {t : Tables} (sound : Sound t) (member : r ∈ t.runReports)
    (open_ : r.status.isTerminal = false) (given : outputs.isSome = true ↔ status = .succeeded) :
    Evolves nobody t ((Change.advance r.id (progressOf now status outputs)).apply t) where
  sound := by
    refine ⟨?_, ?_⟩
    · exact sound.keys.advance r.id _
    · intro q there
      obtain ⟨p, before, rfl⟩ := List.mem_map.mp there
      split
      · rename_i same
        rw [sound.keys.eq_of_id before member same]
        exact (sound.lawful r member).advance open_ given
      · exact sound.lawful p before
  livesOn p there := by
    refine Or.inr ⟨_, List.mem_map_of_mem there, ?_⟩
    split
    · rename_i same
      rw [sound.keys.eq_of_id there member same]
      exact ⟨rfl, rfl, rfl, rfl, rfl, fun ended => by rw [open_] at ended; cases ended⟩
    · exact Continues.refl p

end Progress

section Calls

variable {w : World σ}

/-- Nothing is pending, and the rows are sound and go on from earlier ones. -/
structure Settles (mayGo : RunReport → Prop) (t : Tables) (s : Session) : Prop where
  pending : s.pending = []
  evolves : Evolves mayGo t s.committed

theorem Settles.of_keeps {mayGo : RunReport → Prop} {t : Tables} {s s' : Session}
    (h : Settles mayGo t s) (kept : Keeps s s') : Settles mayGo t s' where
  pending := kept.pending.trans h.pending
  evolves := by
    rw [kept.committed]
    exact h.evolves

theorem Settles.view {mayGo : RunReport → Prop} {t : Tables} {s : Session}
    (h : Settles mayGo t s) : s.view = s.committed :=
  Session.view_eq_committed h.pending

/-- Settling what the engine says about the job of an open record. -/
theorem settle_ensures (now : Moment) (record : RunReport) (state : Engine.JobState)
    {t : Tables} {s : Session} (settled : Settles nobody t s)
    (member : record ∈ s.committed.runReports) (open_ : record.status.isTerminal = false)
    (outputs : state.outputs.isSome = true ↔ state.status = Engine.succeeded) :
    (settle now record state).Ensures s (fun _ => Settles nobody t)
      fun _ => Settles nobody t := by
  rw [settle]
  cases found : jobStatuses.lookup state.status with
  | none => exact ensures_throw settled
  | some status =>
    simp only
    by_cases same : status = record.status
    · rw [if_pos same]
      exact ensures_pure settled
    · rw [if_neg same]
      have sound := settled.evolves.sound
      have given : state.outputs.isSome = true ↔ status = .succeeded := by
        rw [outputs, lookup_succeeded found]
      refine (keepProgress_ensures record (progressOf now status state.outputs) s).mono ?_ ?_
      · rintro _ u ⟨pending, committed, -⟩
        rw [settled.view, advancing_progressOf (sound.lawful record member) open_ same] at committed
        refine ⟨pending, settled.evolves.trans ?_⟩
        rw [committed]
        exact evolves_advance sound member open_ given
      · rintro _ u ⟨pending, committed⟩
        exact ⟨pending, by rw [committed]; exact settled.evolves⟩

/-- The engine is only asked about records that are open. -/
theorem isTerminal_of_openJob? {record : RunReport} {jobId : String}
    (asks : openJob? record = some jobId) : record.status.isTerminal = false := by
  rw [openJob?] at asks
  split at asks
  · cases asks
  · rename_i open_
    simpa using open_

theorem refresh_ensures (e : Surroundings σ) (g : Generator) (runId reportId : String) {t : Tables}
    (settled : Settles nobody t w.session) :
    (refresh e.services g runId reportId).Ensures w (fun _ w' => Settles nobody t w'.session)
      fun _ w' => Settles nobody t w'.session := by
  refine ((find_ensures runId reportId w.session).within.mono (fun _ _ h => h) ?_).bind ?_
  · rintro f _ ⟨s, ⟨kept, -⟩, rfl⟩
    exact settled.of_keeps kept
  rintro found _ ⟨s, ⟨current, kept⟩, rfl⟩
  have settled := settled.of_keeps kept
  cases found with
  | none => exact ensures_throw settled
  | some record =>
    simp only
    cases asks : openJob? record with
    | none => exact ensures_pure settled
    | some jobId =>
      have open_ := isTerminal_of_openJob? asks
      have member : record ∈ s.committed.runReports := by
        have there := (current?_some current.symm).1
        rw [← kept.view, settled.view] at there
        exact (Tables.mem_recordsOf.mp there).1
      have same : g.engine.jobState e.services.exchange jobId =
          onOutside (g.engine.jobState e.exchange jobId) :=
        isPart_outside.jobState e.exchange g.engine jobId
      simp only [same]
      refine ((Engine.jobState_outputs e.exchange g.engine jobId _).within.mono
        (fun _ _ h => h) ?_).bind ?_
      · rintro f _ ⟨o, -, rfl⟩
        exact settled
      rintro state _ ⟨o, outputs, rfl⟩
      refine ensures_get.bind ?_
      rintro x _ ⟨rfl, rfl⟩
      refine (settle_ensures _ record state settled member open_ outputs).within.mono ?_ ?_
      · rintro q _ ⟨u, done, rfl⟩
        exact done
      · rintro f _ ⟨u, done, rfl⟩
        exact done

theorem refreshEach_ensures (e : Surroundings σ) (g : Generator) (runId : String)
    (reportIds : List String) {t : Tables} {w : World σ} (settled : Settles nobody t w.session) :
    (refreshEach e.services g runId reportIds).Ensures w (fun _ w' => Settles nobody t w'.session)
      fun _ w' => Settles nobody t w'.session := by
  induction reportIds generalizing w with
  | nil => exact ensures_pure settled
  | cons reportId rest ih =>
    refine (refresh_ensures e g runId reportId settled).bind fun record w' settled => ?_
    exact (ih settled).bind fun records w'' settled => ensures_pure settled

theorem refreshAll_ensures (e : Surroundings σ) (g : Generator) (runId : String) {t : Tables}
    (settled : Settles nobody t w.session) :
    (refreshAll e.services g runId).Ensures w (fun _ w' => Settles nobody t w'.session)
      fun _ w' => Settles nobody t w'.session := by
  refine ((reads_read .runReports (.runReportsOfRun runId) (reportsOfRun runId)
    _).within.mono (fun _ _ h => h) ?_).bind ?_
  · rintro f _ ⟨s, ⟨kept, -⟩, rfl⟩
    exact settled.of_keeps kept
  · rintro reportIds _ ⟨s, ⟨-, kept⟩, rfl⟩
    exact refreshEach_ensures e g runId reportIds (settled.of_keeps kept)

theorem create_settles (e : Surroundings σ) (g : Generator) (runId reportId : String)
    (createdBy : Option String) (deleteFailed : Bool) (pending : w.session.pending = [])
    (sound : Sound w.session.committed) :
    (create e.services g runId reportId createdBy deleteFailed).Ensures w
      (fun _ w' => Settles (Replaced runId reportId deleteFailed) w.session.committed w'.session)
      fun _ w' =>
        Settles (Replaced runId reportId deleteFailed) w.session.committed w'.session := by
  obtain ⟨⟨t, cs, refusal, trouble⟩, o⟩ := w
  have none : cs = [] := pending
  subst none
  refine (create_ensures e g runId reportId createdBy deleteFailed sound.keys refusal trouble o
    fun d _ => launch_isJobId e g d o).mono ?_ ?_
  · rintro record w' ⟨-, ⟨d, submission, -, job, submitted⟩, free, committed, pending⟩
    refine ⟨pending, ?_⟩
    rw [committed]
    exact evolves_created sound submitted job free
  · rintro f w' ⟨committed, pending, -⟩
    refine ⟨pending, ?_⟩
    rw [committed]
    exact (Evolves.refl sound).mono fun r no => False.elim no

/-- A creation that deletes nothing lets every record live on. -/
theorem Settles.then_created {t : Tables} {s s' : Session} {runId reportId : String}
    (settled : Settles nobody t s)
    (created : Settles (Replaced runId reportId false) s.committed s') : Settles nobody t s' := by
  refine ⟨created.pending, settled.evolves.trans (created.evolves.mono ?_)⟩
  rintro r ⟨no, -⟩
  cases no

theorem createEach_ensures (e : Surroundings σ) (g : Generator) (run : Run.Snapshot)
    (reportIds : List String) {t : Tables} {w : World σ} (settled : Settles nobody t w.session) :
    (createEach e.services g run reportIds).Ensures w (fun _ w' => Settles nobody t w'.session)
      fun _ w' => Settles nobody t w'.session := by
  induction reportIds generalizing w with
  | nil => exact ensures_pure settled
  | cons reportId rest ih =>
    refine ((create_settles e g run.runId reportId run.createdBy false settled.pending
      settled.evolves.sound).mono (fun _ _ h => settled.then_created h)
      fun _ _ h => settled.then_created h).bind fun record w' settled => ?_
    exact (ih settled).bind fun records w'' settled => ensures_pure settled

theorem quiet_listMapped (testId : String) : Quiet (listMapped testId) :=
  (quiet_read _ _ _).bind fun found => (quiet_present _ found).bind fun _ => quiet_read _ _ _

theorem createAll_ensures (e : Surroundings σ) (g : Generator) (run : Run.Snapshot) {t : Tables}
    (settled : Settles nobody t w.session) :
    (createAll e.services g run).Ensures w (fun _ w' => Settles nobody t w'.session)
      fun _ w' => Settles nobody t w'.session := by
  refine ((quiet_listMapped run.testId _).within.mono (fun _ _ h => h) ?_).bind ?_
  · rintro f _ ⟨s, kept, rfl⟩
    exact settled.of_keeps kept
  · rintro reportIds _ ⟨s, kept, rfl⟩
    exact createEach_ensures e g run reportIds (settled.of_keeps kept)

theorem quiet_newConfig (r : Revision) : Quiet (r.newConfig : Action Session (Option Json)) := by
  rw [Revision.newConfig]
  split
  · exact quiet_pure _
  · exact quiet_pure _
  · exact quiet_throw _

theorem quiet_newNotebook (r : Revision) :
    Quiet (r.newNotebook : Action Session (Option Json)) := by
  rw [Revision.newNotebook]
  split
  · exact quiet_pure _
  · split
    · exact quiet_throw _
    · split
      · exact quiet_throw _
      · exact quiet_pure _

/-- A notebook or a configuration is given only where no record of the report is live. -/
theorem executedParts_ensures (reportId : String) (r : Revision) (s : Session) :
    (executedParts reportId r).Ensures s
      (fun parts t => Keeps s t ∧ (parts = (none, none) ∨
        ∀ q ∈ s.view.runReports, q.reportId = reportId → q.isLive = false))
      (fun _ t => Keeps s t) := by
  rw [executedParts]
  split
  · exact ensures_pure ⟨Keeps.refl s, Or.inl rfl⟩
  · refine ((reads_read .runReports (.runReportsOfReport reportId) _ s).mono (fun _ _ h => h)
      fun _ _ h => h.1).bind ?_
    rintro live t ⟨same, kept⟩
    cases same
    split
    · exact ensures_throw kept
    · rename_i none
      refine (((quiet_newConfig r).bind fun _ =>
        (quiet_newNotebook r).bind fun _ => quiet_pure _) t).mono ?_ fun _ _ more => kept.trans more
      intro parts u more
      refine ⟨kept.trans more, Or.inr fun q member about => ?_⟩
      by_contra live
      refine none (List.any_eq_true.mpr ⟨q, member, ?_⟩)
      simpa [about] using live

theorem patch_nothing {p : ReportPatch} (nothing : givesAny p = false) (q : ReportRow) :
    q.patch p = q := by
  simp only [givesAny, Bool.or_eq_false_iff, Option.isSome_eq_false_iff,
    Option.isNone_iff_eq_none] at nothing
  obtain ⟨⟨⟨name, description⟩, notebook⟩, config⟩ := nothing
  simp [ReportRow.patch, name, description, notebook, config]

theorem writePatch_ensures (reportId : String) (p : ReportPatch) (s : Session) :
    (writePatch reportId p).Ensures s
      (fun _ t => Extends [.patchReport reportId p] s t ∧
        s.view.refusal? (.patchReport reportId p) = none)
      (fun f t => Keeps s t ∧ (s.Calm → isWritable p = false ∧ f = .store .longNumber ∨
        ∃ fault, s.view.refusal? (.patchReport reportId p) = some fault ∧ f = .store fault)) := by
  rw [writePatch]
  split
  · exact (execute_ensures _ s).mono (fun _ _ h => h) fun _ _ h =>
      ⟨h.1, fun calm => Or.inr (h.2.2 calm)⟩
  · rename_i long
    exact ensures_throw ⟨Keeps.refl s, fun _ => Or.inl ⟨by simpa using long, rfl⟩⟩

/-- A definition is patched, and nothing else is written. In a calm session only a rule can forbid
this, or a number that is too long, and only if there is something to write. -/
theorem commitPatch_ensures (reportId : String) (p : ReportPatch) (s : Session) :
    (commitPatch reportId p).Ensures s
      (fun _ t => t.pending = [] ∧ t.committed = (Change.patchReport reportId p).apply s.view ∧
        (givesAny p = true → s.view.refusal? (.patchReport reportId p) = none))
      (fun f t => t.committed = s.committed ∧ (s.Calm → givesAny p = true ∧
        (isWritable p = false ∧ f = .store .longNumber ∨
          ∃ fault, s.view.refusal? (.patchReport reportId p) = some fault ∧
            f = .store fault))) := by
  refine ensures_get.bind ?_
  rintro x t ⟨same, here⟩
  rw [same, here]
  cases refusal : s.commitRefusal with
  | some text =>
    have upset : ¬ s.Calm := fun calm => by cases calm.2.1.symm.trans refusal
    rw [Option.isNone_some, Bool.and_false]
    exact (commit_refused refusal).mono (fun _ _ h => False.elim h)
      fun _ _ same => ⟨same, fun calm => False.elim (upset calm)⟩
  | none =>
    rw [Option.isNone_none, Bool.and_true]
    cases any : givesAny p with
    | true =>
      refine ((writePatch_ensures reportId p s).mono (fun _ _ h => h)
        fun _ _ h => ⟨h.1.committed, fun calm => ⟨rfl, h.2 calm⟩⟩).bind ?_
      rintro _ u ⟨more, allowed⟩
      refine (commit_ensures u).mono ?_ ?_
      · rintro _ v ⟨committed, pending, -⟩
        exact ⟨pending, committed.trans more.view, fun _ => allowed⟩
      · rintro _ v ⟨kept, upset, -⟩
        exact ⟨kept.committed.trans more.committed, fun calm => absurd (more.calm calm) upset⟩
    | false =>
      refine (commit_ensures s).mono ?_ fun _ _ h =>
        ⟨h.1.committed, fun calm => absurd calm h.2.1⟩
      rintro _ v ⟨committed, pending, -⟩
      refine ⟨pending, committed.trans ?_, fun gives => by cases gives⟩
      simp [Change.apply, patch_nothing any]

/-- What a revision does to the rows: it patches the definition of a report, but neither its
notebook nor its configuration while a record of the report is live. -/
structure Revised (reportId : String) (t : Tables) (s : Session) : Prop where
  pending : s.pending = []
  committed : s.committed = t ∨ ∃ p, s.committed = (Change.patchReport reportId p).apply t ∧
    ((p.notebook = none ∧ p.config = none) ∨
      ∀ q ∈ t.runReports, q.reportId = reportId → q.isLive = false)

theorem revise_revised (reportId : String) (r : Revision) {s : Session} (nothing : s.pending = []) :
    (revise reportId r).Ensures s (fun _ => Revised reportId s.committed)
      fun _ => Revised reportId s.committed := by
  have unchanged : ∀ {t : Session}, Keeps s t → Revised reportId s.committed t :=
    fun kept => ⟨kept.pending.trans nothing, Or.inl kept.committed⟩
  have view : ∀ {t : Session}, Keeps s t → t.view = s.committed := fun kept => by
    rw [kept.view, Session.view_eq_committed nothing]
  have defined : Quiet (findDefinition reportId) := Reads.quiet fun s => ⟨_, reads_definition _ s⟩
  refine ((defined s).mono (fun _ _ kept => kept) fun _ _ kept => unchanged kept).bind
    fun row t kept => ?_
  refine ((executedParts_ensures reportId r t).mono (fun _ _ h => h)
    fun _ _ more => unchanged (kept.trans more)).bind ?_
  rintro ⟨notebook, config⟩ u ⟨more, parts⟩
  have kept' := kept.trans more
  rw [view kept] at parts
  refine (accessing_ensures_same (Q := fun _ => Revised reportId s.committed)
    (P := Revised reportId s.committed)
    ((orRollback_ensures (commitPatch_ensures reportId _ u)).mono ?_ ?_)).bind ?_
  · rintro _ v ⟨pending, patched, -⟩
    rw [view kept'] at patched
    refine ⟨pending, Or.inr ⟨_, patched, parts.imp_left fun given => ?_⟩⟩
    cases given
    exact ⟨rfl, rfl⟩
  · rintro f _ ⟨v, ⟨committed, -⟩, rfl⟩
    exact ⟨rfl, Or.inl (committed.trans kept'.committed)⟩
  · intro _ v revised
    exact ensures_get.bind fun x v' h => ensures_pure (by rw [h.2]; exact revised)

/-- A revision touches no record. -/
theorem revise_ensures (reportId : String) (r : Revision) {t : Tables} {s : Session}
    (settled : Settles nobody t s) :
    (revise reportId r).Ensures s (fun _ => Settles nobody t) fun _ => Settles nobody t := by
  have settles : ∀ {u : Session}, Revised reportId s.committed u → Settles nobody t u := by
    intro u revised
    refine ⟨revised.pending, settled.evolves.trans ?_⟩
    rcases revised.committed with same | ⟨p, patched, -⟩
    · exact evolves_of_records settled.evolves.sound (by rw [same])
    · exact evolves_of_records settled.evolves.sound (by rw [patched]; rfl)
  exact (revise_revised reportId r settled.pending).mono (fun _ _ h => settles h)
    fun _ _ h => settles h

end Calls

inductive Task
  | create (runId reportId : String) (createdBy : Option String) (deleteFailed : Bool)
  | createAll (run : Run.Snapshot)
  | refresh (runId reportId : String)
  | refreshAll (runId : String)
  | revise (reportId : String) (revision : Revision)

def Task.Deletes : Task → RunReport → Prop
  | .create runId reportId _ deleteFailed, r => Replaced runId reportId deleteFailed r
  | _, _ => False

def Task.act (s : Services σ) (g : Generator) : Task → Action (World σ) Unit
  | .create runId reportId createdBy deleteFailed => do
    let _ ← Report.create s g runId reportId createdBy deleteFailed
  | .createAll run => do
    let _ ← Report.createAll s g run
  | .refresh runId reportId => do
    let _ ← Report.refresh s g runId reportId
  | .refreshAll runId => do
    let _ ← Report.refreshAll s g runId
  | .revise reportId revision => do
    let _ ← onSession (Report.revise reportId revision)

/-- A task, whom it asks, what it finds outside, and what the database will refuse. -/
structure Event (σ : Type) where
  task : Task
  surroundings : Surroundings σ
  generator : Generator
  outside : σ
  refusal : Option String
  trouble : List (Option Fault)

def Event.run (ev : Event σ) (t : Tables) : Session :=
  ((ev.task.act ev.surroundings.services ev.generator).run
    ⟨⟨t, [], ev.refusal, ev.trouble⟩, ev.outside⟩).2.session

def rowsAfter (events : List (Event σ)) (t : Tables) : Tables :=
  events.foldl (fun t ev => (ev.run t).committed) t

/-- A task keeps the rows sound, and every record but those that it deletes. -/
theorem act_ensures (task : Task) (e : Surroundings σ) (g : Generator) {w : World σ}
    (pending : w.session.pending = []) (sound : Sound w.session.committed) :
    (task.act e.services g).Ensures w
      (fun _ w' => Settles task.Deletes w.session.committed w'.session)
      fun _ w' => Settles task.Deletes w.session.committed w'.session := by
  have start : Settles nobody w.session.committed w.session := ⟨pending, Evolves.refl sound⟩
  have more : ∀ {s : Session}, Settles nobody w.session.committed s →
      Settles task.Deletes w.session.committed s :=
    fun h => ⟨h.pending, h.evolves.mono fun r no => False.elim no⟩
  cases task with
  | create runId reportId createdBy deleteFailed =>
    exact (create_settles e g runId reportId createdBy deleteFailed pending sound).bind
      fun _ _ h => ensures_pure h
  | createAll run =>
    exact ((createAll_ensures e g run start).mono (fun _ _ h => more h) fun _ _ h => more h).bind
      fun _ _ h => ensures_pure h
  | refresh runId reportId =>
    exact ((refresh_ensures e g runId reportId start).mono (fun _ _ h => more h)
      fun _ _ h => more h).bind fun _ _ h => ensures_pure h
  | refreshAll runId =>
    exact ((refreshAll_ensures e g runId start).mono (fun _ _ h => more h)
      fun _ _ h => more h).bind fun _ _ h => ensures_pure h
  | revise reportId revision =>
    refine (((revise_ensures reportId revision start).within).mono (fun _ _ h => h) ?_).bind ?_
    · rintro f _ ⟨s, h, rfl⟩
      exact more h
    · rintro row _ ⟨s, h, rfl⟩
      exact ensures_pure (more h)

theorem event_settles (ev : Event σ) {t : Tables} (sound : Sound t) :
    Settles ev.task.Deletes t (ev.run t) :=
  Ensures.state (P := fun w' : World σ => Settles ev.task.Deletes t w'.session)
    (act_ensures ev.task ev.surroundings ev.generator
      (w := ⟨⟨t, [], ev.refusal, ev.trouble⟩, ev.outside⟩) rfl sound)

theorem sound_after (events : List (Event σ)) {t : Tables} (sound : Sound t) :
    Sound (rowsAfter events t) := by
  induction events generalizing t with
  | nil => exact sound
  | cons ev rest ih => exact ih (event_settles ev sound).evolves.sound

/-- A record whose status is terminal stays as it is until a task deletes it. -/
theorem terminal_after (events : List (Event σ)) {t : Tables} (sound : Sound t) {r : RunReport}
    (member : r ∈ t.runReports) (ended : r.status.isTerminal = true) :
    r ∈ (rowsAfter events t).runReports ∨ ∃ ev ∈ events, ev.task.Deletes r := by
  induction events generalizing t with
  | nil => exact Or.inl member
  | cons ev rest ih =>
    have settled := event_settles ev sound
    rcases settled.evolves.livesOn r member with goes | ⟨q, there, same⟩
    · exact Or.inr ⟨ev, List.mem_cons_self, goes⟩
    · rw [same.terminal ended] at there
      rcases ih settled.evolves.sound there with stays | ⟨ev', later, goes⟩
      · exact Or.inl stays
      · exact Or.inr ⟨ev', List.mem_cons_of_mem ev later, goes⟩

theorem sound_of_none {t : Tables} (none : t.runReports = []) : Sound t where
  keys := by rw [Tables.KeysDistinct, none]; exact List.nodup_nil
  lawful r member := by rw [none] at member; cases member

/-- The life of records, from a database without any, through any calls in any order. In every
state each record is lawful and has an id of its own. With the next call it lives on, unless this
deletes it, being asked to delete the failed records of its run and report; and once its status is
terminal it stays as it is until then. -/
theorem lifecycle (t : Tables) (events : List (Event σ)) :
    (∀ r ∈ (rowsAfter events { t with runReports := [] }).runReports, Lawful r) ∧
    (rowsAfter events { t with runReports := [] }).KeysDistinct ∧
    (∀ (ev : Event σ),
      (ev.run (rowsAfter events { t with runReports := [] })).pending = [] ∧
      ∀ r ∈ (rowsAfter events { t with runReports := [] }).runReports,
        ev.task.Deletes r ∨
          ∃ q ∈ (rowsAfter (events ++ [ev]) { t with runReports := [] }).runReports,
            Continues r q) ∧
    (∀ (later : List (Event σ)),
      ∀ r ∈ (rowsAfter events { t with runReports := [] }).runReports,
        r.status.isTerminal = true →
          r ∈ (rowsAfter (events ++ later) { t with runReports := [] }).runReports ∨
            ∃ ev ∈ later, ev.task.Deletes r) := by
  have sound : Sound (rowsAfter events { t with runReports := [] }) :=
    sound_after events (sound_of_none rfl)
  refine ⟨sound.lawful, sound.keys, ?_, ?_⟩
  · intro ev
    have settled := event_settles ev sound
    refine ⟨settled.pending, fun r member => ?_⟩
    rw [rowsAfter, List.foldl_append]
    exact settled.evolves.livesOn r member
  · intro later r member ended
    rw [rowsAfter, List.foldl_append]
    exact terminal_after later sound member ended

end RunReports.Report
