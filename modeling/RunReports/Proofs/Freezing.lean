import RunReports.Proofs.Assembled
import RunReports.Proofs.LateAnswers
import RunReports.Proofs.Reproducible
import RunReports.Proofs.Stable

/-!
# Definitions under a creation

A creation reads the definition of its report once, before it waits for the first time, and the
definition is not frozen before the creation has committed its record. Meanwhile revisions, each on
a session of its own, may come in between any two steps. So what a creation commits is a record of
the notebook and the configuration that it has uploaded and submitted, unless a revision has changed
them while the creation was under way. This does happen.
-/
namespace RunReports.Report

open RunReports RunReports.Action RunReports.Calendar RunReports.Store RunReports.Store.Session

variable {σ : Type}

/-- A creation among revisions: where it stands, the committed rows, its own pending statements, and
what is outside, with the effects so far. -/
structure Course (σ : Type) where
  stage : Stage
  committed : Tables
  pending : List Change
  outside : Recorded σ

def Course.start (t : Tables) (o : σ) : Course σ := ⟨.guarding, t, [], ⟨o, []⟩⟩

def Call.recorded (c : Call σ) : Call (Recorded σ) :=
  ⟨c.surroundings.recorded, c.generator, c.createdBy, c.deleteFailed⟩

section Courses

variable (c : Call σ) (runId reportId : String)

def Course.world (S : Course σ) (refusal : Option String) (trouble : List (Option Fault)) :
    World (Recorded σ) := ⟨⟨S.committed, S.pending, refusal, trouble⟩, S.outside⟩

def Course.of (p : Stage × World (Recorded σ)) : Course σ :=
  ⟨p.1, p.2.session.committed, p.2.session.pending, p.2.outside⟩

/-- The next step of the creation. The database may refuse its next commit and fail its next
accesses. -/
def Course.further (S : Course σ) (refusal : Option String) (trouble : List (Option Fault)) :
    Course σ :=
  .of (c.recorded.step runId reportId Tables.nextId (S.stage, S.world refusal trouble))

def Course.revise (S : Course σ) (id : String) (r : Revision) (refusal : Option String)
    (trouble : List (Option Fault)) : Course σ :=
  { S with
    committed := ((Report.revise id r).run ⟨S.committed, [], refusal, trouble⟩).2.committed }

inductive Proceeds : Course σ → Course σ → Prop
  | furthers (S : Course σ) (refusal : Option String) (trouble : List (Option Fault)) :
    Proceeds S (S.further c runId reportId refusal trouble)
  | revises (S : Course σ) (id : String) (r : Revision) (refusal : Option String)
    (trouble : List (Option Fault)) : Proceeds S (S.revise id r refusal trouble)

abbrev Proceeding : Course σ → Course σ → Prop :=
  Relation.ReflTransGen (Proceeds c runId reportId)

/-- The file of the notebook that is assembled from a stored notebook and a run. -/
def IsFileOf (run : Run.Snapshot) (notebook : Json) (content : List UInt8) : Prop :=
  ∃ doc, Notebook.assemble notebook run = .ok doc ∧ doc.serialize? = some content

/-- The file of a notebook was uploaded, and the inputs of its job are those that a configuration
gives. -/
def IsUploaded (g : Generator) (run : Run.Snapshot) (notebook config : Json)
    (inputs : Json.Fields) (effects : List Effect) : Prop :=
  ∃ content path location, IsFileOf run notebook content ∧
    Workflow.buildInputs g.namespaced location g.image config = .ok inputs ∧
    effects = [.upload content path (.ok location)]

/-- All that has happened outside is that the file of a notebook was uploaded and a job submitted,
with the inputs that a configuration gives. -/
def BuiltFrom (g : Generator) (run : Run.Snapshot) (notebook config : Json)
    (effects : List Effect) : Prop :=
  ∃ content path location inputs source url outcome, IsFileOf run notebook content ∧
    Workflow.buildInputs g.namespaced location g.image config = .ok inputs ∧
    effects = [.upload content path (.ok location),
      .submission (.post url (Engine.submissionForm source inputs)) (.ok outcome)]

/-- What a creation that was let in has in its hands and has done outside is of one run and one
definition, up to its end. -/
def Carries (g : Generator) (run : Run.Snapshot) (notebook config : Json)
    (effects : List Effect) : Stage → Prop
  | .guarding => False
  | .uploading d => effects = [] ∧ IsFileOf run notebook d.content ∧ d.config = config
  | .resolving inputs => IsUploaded g run notebook config inputs effects
  | .submitting inputs _ => IsUploaded g run notebook config inputs effects
  | .keeping _ => BuiltFrom g run notebook config effects
  | .returned _ => BuiltFrom g run notebook config effects
  | .raised _ => True

/-- While the creation was under way and no record of the report was live, a revision has committed
another definition of the report, in place of one with this notebook and configuration. -/
def Overtaken (S₀ S : Course σ) (notebook config : Json) : Prop :=
  ∃ S₁ r refusal trouble, Proceeding c runId reportId S₀ S₁ ∧ S₁.stage.IsUnderWay ∧
    (∀ q ∈ S₁.committed.runReports, q.reportId = reportId → q.isLive = false) ∧
    Executes S₁.committed reportId notebook config ∧
    ¬ Executes (S₁.revise reportId r refusal trouble).committed reportId notebook config ∧
    Proceeding c runId reportId (S₁.revise reportId r refusal trouble) S

/-- The creation has committed its record, and all that it did outside was built from the stored run
and from one notebook and one configuration. Right then these are stored in the definition of the
report, unless the creation was overtaken before. -/
def Kept (S₀ S : Course σ) (record : RunReport) : Prop :=
  ∃ S₁ S₂ jobId run notebook config, Proceeding c runId reportId S₀ S₁ ∧
    Proceeds c runId reportId S₁ S₂ ∧ Proceeding c runId reportId S₂ S ∧
    S₁.stage = .keeping jobId ∧ S₂.stage = .returned record ∧
    record ∈ S₂.committed.runReports ∧ runOf runId S₂.committed = .ok run ∧
    BuiltFrom c.generator run notebook config S₂.outside.effects ∧
    (Executes S₂.committed reportId notebook config ∨
      Overtaken c runId reportId S₀ S₁ notebook config)

/-- What is so of a creation under way: it carries what it has read of the run and the definition,
and these are stored unless it was overtaken. -/
structure Holds (S₀ S : Course σ) (run : Run.Snapshot) (notebook config : Json) : Prop where
  underWay : S.stage.IsUnderWay
  carries : Carries c.generator run notebook config S.outside.effects S.stage
  drops : OnlyDrops S.pending
  run : runOf runId S.committed = .ok run
  definition : Executes S.committed reportId notebook config ∨
    Overtaken c runId reportId S₀ S notebook config

inductive Faithful (S₀ S : Course σ) : Prop
  | before (at_ : S.stage = .guarding) (nothing : S.pending = [])
    (idle : S.outside.effects = [])
  | underWay (run : Run.Snapshot) (notebook config : Json)
    (holds : Holds c runId reportId S₀ S run notebook config)
  | returned (record : RunReport) (at_ : S.stage = .returned record)
    (kept : Kept c runId reportId S₀ S record)
  | raised (f : Failure) (at_ : S.stage = .raised f)

/-- All that a step of a creation under way can do. -/
inductive StepOf (S S' : Course σ) (run : Run.Snapshot) (notebook config : Json) : Prop
  | goesOn (underWay : S'.stage.IsUnderWay)
    (carries : Carries c.generator run notebook config S'.outside.effects S'.stage)
    (committed : S'.committed = S.committed) (pending : S'.pending = S.pending)
  | keeps (jobId : String) (record : RunReport) (at_ : S.stage = .keeping jobId)
    (ended : S'.stage = .returned record) (outside : S'.outside = S.outside)
    (committed : S'.committed = (S.pending.foldl Change.apply S.committed).withRecord record)
    (nothing : S'.pending = [])
  | fails (f : Failure) (ended : S'.stage = .raised f) (committed : S'.committed = S.committed)
    (nothing : S'.pending = [])

end Courses

/-! ## What the rows give -/

theorem runOf_congr {t t' : Tables} (runs : t'.runs = t.runs) (results : t'.results = t.results)
    (runId : String) : runOf runId t' = runOf runId t := by
  rw [runOf, runOf, runs, results]

/-- Deletions of records leave runs, results and definitions alone. -/
theorem OnlyDrops.spares {cs : List Change} (drops : OnlyDrops cs) (t : Tables) :
    (cs.foldl Change.apply t).runs = t.runs ∧ (cs.foldl Change.apply t).results = t.results ∧
      (cs.foldl Change.apply t).reports = t.reports := by
  induction cs generalizing t with
  | nil => exact ⟨rfl, rfl, rfl⟩
  | cons change rest ih =>
    obtain ⟨ids, rfl⟩ := drops change List.mem_cons_self
    exact ih (fun c member => drops c (List.mem_cons_of_mem _ member)) _

/-- Revisions leave runs and results alone. -/
theorem Revised.spares {id : String} {t : Tables} {s : Session} (revised : Revised id t s) :
    s.committed.runs = t.runs ∧ s.committed.results = t.results := by
  rcases revised.committed with same | ⟨p, patched, -⟩
  · rw [same]
    exact ⟨rfl, rfl⟩
  · rw [patched]
    exact ⟨rfl, rfl⟩

/-- A draft is the file of a stored run and a stored notebook, with the stored configuration. -/
theorem draftOf_built {runId reportId : String} {t : Tables} {d : Draft}
    (made : draftOf runId reportId t = .ok d) : ∃ run notebook config,
      runOf runId t = .ok run ∧ Executes t reportId notebook config ∧
        IsFileOf run notebook d.content ∧ d.config = config := by
  cases ran : runOf runId t with
  | error f =>
    rw [draftOf, ran] at made
    cases made
  | ok run =>
    cases read : templateOf reportId t with
    | error f =>
      rw [draftOf, ran, read] at made
      cases made
    | ok template =>
      rw [draftOf, ran, read] at made
      have made : draft run template = .ok d := made
      rw [draft] at made
      split at made
      · cases made
      · cases made
      · rename_i doc assembled
        split at made
        · cases made
        · rename_i content written
          cases made
          exact ⟨run, template.notebook, template.config, rfl, ⟨template, read, rfl, rfl⟩,
            ⟨doc, assembled, written⟩, rfl⟩

/-! ## Steps of the creation -/

theorem Carries.underWay_or_ended {g : Generator} {run : Run.Snapshot} {notebook config : Json}
    {effects : List Effect} {stage : Stage}
    (carries : Carries g run notebook config effects stage) : stage.IsUnderWay ∨ stage.IsEnded := by
  cases stage with
  | guarding => exact False.elim carries
  | returned record => exact Or.inr trivial
  | raised f => exact Or.inr trivial
  | _ => exact Or.inl trivial

section Steps

variable (c : Call σ) (runId reportId : String) {S S₀ : Course σ}
variable {run : Run.Snapshot} {notebook config : Json} {stage : Stage} {w : World (Recorded σ)}

theorem guarding_next (nothing : w.session.pending = []) (idle : w.outside.effects = []) :
    (c.recorded.next runId reportId Tables.nextId .guarding).Ensures w
      (fun stage w' => w'.session.committed = w.session.committed ∧
        OnlyDrops w'.session.pending ∧ stage.IsUnderWay ∧ ∃ run notebook config,
          runOf runId w.session.committed = .ok run ∧
          Executes w.session.committed reportId notebook config ∧
          Carries c.generator run notebook config w'.outside.effects stage)
      fun _ w' => w'.session.committed = w.session.committed := by
  have view : w.session.view = w.session.committed := Session.view_eq_committed nothing
  refine ((prepare_ensures runId reportId c.deleteFailed w.session).within.mono
    (fun _ _ h => h) ?_).bind ?_
  · rintro f _ ⟨s, ⟨committed, -⟩, rfl⟩
    exact committed
  · rintro d _ ⟨s, ⟨-, made, room⟩, rfl⟩
    rw [view] at made room
    obtain ⟨run, notebook, config, ran, executes, file, given⟩ := draftOf_built made
    have drops : OnlyDrops s.pending := by
      rw [room.pending, nothing]
      exact onlyDrops_clearing runId reportId _
    exact ensures_pure ⟨room.committed, drops, trivial, run, notebook, config, ran, executes, idle,
      file, given⟩

/-- Outside of its session, what a creation does is built from what it carries. -/
theorem outside_next (underWay : stage.IsUnderWay) (outside : ∀ jobId, stage ≠ .keeping jobId)
    (carries : Carries c.generator run notebook config w.outside.effects stage) :
    (c.recorded.next runId reportId Tables.nextId stage).Ensures w
      (fun stage' w' => w'.session = w.session ∧ stage'.IsUnderWay ∧
        Carries c.generator run notebook config w'.outside.effects stage')
      fun _ w' => w'.session.committed = w.session.committed := by
  have failing : ∀ (f : Failure) (w' : World (Recorded σ)) (P : Recorded σ → Prop),
      (∃ r, P r ∧ w' = { w with outside := r }) →
      w'.session.committed = w.session.committed := by
    rintro f _ P ⟨r, -, rfl⟩
    rfl
  cases stage with
  | uploading d =>
    obtain ⟨idle, file, given⟩ := carries
    have acts := sendUp_ensures c.surroundings c.generator d w.outside
    rw [Call.next, Call.services, sendUp_services]
    refine (acts.within.mono (fun _ _ h => h) fun f w' => failing f w' _).bind ?_
    rintro inputs _ ⟨r, ⟨location, -, built, effects⟩, rfl⟩
    rw [idle, List.nil_append] at effects
    rw [given] at built
    exact ensures_pure ⟨rfl, trivial, d.content, d.path, location, file, built, effects⟩
  | resolving inputs =>
    have acts := resolve_ensures c.surroundings c.generator w.outside
    rw [Call.next, Call.services, resolve_services]
    refine (acts.within.mono (fun _ _ h => h) fun f w' => failing f w' _).bind ?_
    rintro source _ ⟨r, ⟨-, effects⟩, rfl⟩
    have carries : IsUploaded c.generator run notebook config inputs w.outside.effects := carries
    rw [← effects] at carries
    exact ensures_pure ⟨rfl, trivial, carries⟩
  | submitting inputs source =>
    obtain ⟨content, path, location, file, built, uploaded⟩ := carries
    have acts := submit_recorded_ensures c.surroundings c.generator source inputs w.outside
    rw [Call.next, Call.services, submit_services]
    refine (acts.within.mono (fun _ _ h => h) fun f w' => failing f w' _).bind ?_
    rintro submission _ ⟨r, ⟨url, outcome, -, -, effects, -⟩, rfl⟩
    rw [uploaded] at effects
    exact ensures_pure ⟨rfl, trivial, content, path, location, inputs, source, url, outcome, file,
      built, effects⟩
  | keeping jobId => exact absurd rfl (outside jobId)
  | _ => exact False.elim underWay

theorem keeping_next (jobId : String) :
    (c.recorded.next runId reportId Tables.nextId (.keeping jobId)).Ensures w
      (fun stage w' => ∃ record, stage = .returned record ∧ w'.outside = w.outside ∧
        w'.session.committed = w.session.view.withRecord record ∧ w'.session.pending = [])
      fun _ w' => w'.session.committed = w.session.committed := by
  refine ensures_get.bind ?_
  rintro w _ ⟨rfl, rfl⟩
  refine ((keepAs_ensures Tables.nextId _ runId reportId jobId c.createdBy _
    (Tables.nextId_free _)).within.mono (fun _ _ h => h) ?_).bind ?_
  · rintro f _ ⟨s, ⟨committed, -⟩, rfl⟩
    exact committed
  · rintro record _ ⟨s, ⟨-, committed, nothing, -⟩, rfl⟩
    exact ensures_pure ⟨record, rfl, rfl, committed, nothing⟩

variable (refusal : Option String) (trouble : List (Option Fault))

/-- A step of the creation leads where its action does, or a failure is raised. -/
theorem further_cases {Q : Stage → World (Recorded σ) → Prop}
    (acts : (c.recorded.next runId reportId Tables.nextId S.stage).Ensures
      (S.world refusal trouble) Q fun _ w => w.session.committed = S.committed) :
    (∃ stage w, Q stage w ∧ S.further c runId reportId refusal trouble = .of (stage, w)) ∨
      ∃ f w, w.session.committed = S.committed ∧ w.session.pending = [] ∧
        S.further c runId reportId refusal trouble = .of (.raised f, w) := by
  rcases step_cases acts with ended | ⟨f, u, committed, raised⟩
  · exact Or.inl ⟨_, _, ended, rfl⟩
  · rw [Course.further, raised]
    exact Or.inr ⟨_, { u with session := u.session.rollback }, committed, rfl, rfl⟩

/-- A creation that has ended takes no more steps. -/
theorem further_ended (ended : S.stage.IsEnded) :
    S.further c runId reportId refusal trouble = S := by
  obtain ⟨stage, committed, pending, outside⟩ := S
  cases stage with
  | returned record => rfl
  | raised f => rfl
  | _ => exact False.elim ended

theorem stepOf_further (underWay : S.stage.IsUnderWay)
    (carries : Carries c.generator run notebook config S.outside.effects S.stage) :
    StepOf c S (S.further c runId reportId refusal trouble) run notebook config := by
  by_cases keeping : ∃ jobId, S.stage = .keeping jobId
  · obtain ⟨jobId, at_⟩ := keeping
    have acts := keeping_next c runId reportId (w := S.world refusal trouble) jobId
    rw [← at_] at acts
    rcases further_cases c runId reportId refusal trouble acts with
      ⟨_, w, ⟨record, rfl, outside, committed, nothing⟩, is⟩ | ⟨f, w, committed, nothing, is⟩
    · rw [is]
      exact .keeps jobId record at_ rfl outside committed nothing
    · rw [is]
      exact .fails f rfl committed nothing
  · have acts := outside_next c runId reportId (w := S.world refusal trouble) underWay
      (fun jobId at_ => keeping ⟨jobId, at_⟩) carries
    rcases further_cases c runId reportId refusal trouble acts with
      ⟨stage, w, ⟨session, further, carries⟩, is⟩ | ⟨f, w, committed, nothing, is⟩
    · rw [is]
      exact .goesOn further carries (congrArg Session.committed session)
        (congrArg Session.pending session)
    · rw [is]
      exact .fails f rfl committed nothing

/-- All that a creation does outside is built from what it carries, and it touches no definition. -/
theorem Carries.further
    (carries : Carries c.generator run notebook config S.outside.effects S.stage)
    (drops : OnlyDrops S.pending) :
    Carries c.generator run notebook config
        (S.further c runId reportId refusal trouble).outside.effects
        (S.further c runId reportId refusal trouble).stage ∧
      OnlyDrops (S.further c runId reportId refusal trouble).pending ∧
      (S.further c runId reportId refusal trouble).committed.reports = S.committed.reports := by
  rcases carries.underWay_or_ended with underWay | ended
  · have step := stepOf_further c runId reportId refusal trouble underWay carries
    generalize S.further c runId reportId refusal trouble = S' at step
    cases step with
    | goesOn _ carries' committed pending =>
      rw [committed, pending]
      exact ⟨carries', drops, rfl⟩
    | keeps jobId record at_ ended outside committed nothing =>
      rw [at_] at carries
      rw [ended, outside, committed, nothing]
      exact ⟨carries, onlyDrops_nil, (drops.spares S.committed).2.2⟩
    | fails f ended committed nothing =>
      rw [ended, committed, nothing]
      exact ⟨trivial, onlyDrops_nil, rfl⟩
  · rw [further_ended c runId reportId refusal trouble ended]
    exact ⟨carries, drops, rfl⟩

variable {c runId reportId}

theorem Overtaken.proceeds {S' : Course σ}
    (overtaken : Overtaken c runId reportId S₀ S notebook config)
    (next : Proceeds c runId reportId S S') :
    Overtaken c runId reportId S₀ S' notebook config := by
  obtain ⟨S₁, r, refusal, trouble, before, underWay, dead, read, changed, after⟩ := overtaken
  exact ⟨S₁, r, refusal, trouble, before, underWay, dead, read, changed, after.tail next⟩

theorem Kept.proceeds {S' : Course σ} {record : RunReport}
    (kept : Kept c runId reportId S₀ S record) (next : Proceeds c runId reportId S S') :
    Kept c runId reportId S₀ S' record := by
  obtain ⟨S₁, S₂, jobId, run, notebook, config, before, commits, after, rest⟩ := kept
  exact ⟨S₁, S₂, jobId, run, notebook, config, before, commits, after.tail next, rest⟩

/-- The guard lets a creation in with what it has read. -/
theorem further_guarding (at_ : S.stage = .guarding) (nothing : S.pending = [])
    (idle : S.outside.effects = []) :
    Faithful c runId reportId S₀ (S.further c runId reportId refusal trouble) := by
  have acts := guarding_next c runId reportId (w := S.world refusal trouble) nothing idle
  rw [← at_] at acts
  rcases further_cases c runId reportId refusal trouble acts with
    ⟨stage, w, ⟨committed, drops, underWay, run, notebook, config, ran, executes, carries⟩, is⟩ |
      ⟨f, w, -, -, is⟩
  · rw [is]
    refine .underWay run notebook config ⟨underWay, carries, drops, ?_, Or.inl ?_⟩
    · exact (congrArg (runOf runId) committed).trans ran
    · exact (executes_congr (congrArg Tables.reports committed)).mpr executes
  · rw [is]
    exact .raised f rfl

/-- A creation under way goes on with what it carries, and in the end commits a record of it. -/
theorem Holds.further (holds : Holds c runId reportId S₀ S run notebook config)
    (runs : Proceeding c runId reportId S₀ S) :
    Faithful c runId reportId S₀ (S.further c runId reportId refusal trouble) := by
  have next : Proceeds c runId reportId S (S.further c runId reportId refusal trouble) :=
    .furthers S refusal trouble
  have step := stepOf_further c runId reportId refusal trouble holds.underWay holds.carries
  generalize S.further c runId reportId refusal trouble = S' at next step
  cases step with
  | goesOn underWay carries committed pending =>
    refine .underWay run notebook config ⟨underWay, carries, ?_, ?_, ?_⟩
    · rw [pending]
      exact holds.drops
    · rw [committed]
      exact holds.run
    · refine holds.definition.imp (fun executes => ?_) fun overtaken => overtaken.proceeds next
      rwa [committed]
  | keeps jobId record at_ ended outside committed _ =>
    obtain ⟨sameRuns, sameResults, sameReports⟩ := holds.drops.spares S.committed
    have built := holds.carries
    rw [at_] at built
    refine .returned record ended ⟨S, S', jobId, run, notebook, config, runs, next, .refl, at_,
      ended, ?_, ?_, ?_, ?_⟩
    · rw [committed]
      exact List.mem_append_right _ (List.mem_singleton_self record)
    · rw [committed]
      exact (runOf_congr sameRuns sameResults runId).trans holds.run
    · rw [outside]
      exact built
    · refine holds.definition.imp_left fun executes => ?_
      rw [committed]
      exact (executes_congr sameReports).mpr executes
  | fails f ended _ _ => exact .raised f ended

theorem Faithful.further (faithful : Faithful c runId reportId S₀ S)
    (runs : Proceeding c runId reportId S₀ S) :
    Faithful c runId reportId S₀ (S.further c runId reportId refusal trouble) := by
  have idle (ended : S.stage.IsEnded) := further_ended c runId reportId refusal trouble ended
  cases faithful with
  | before at_ nothing idle => exact further_guarding refusal trouble at_ nothing idle
  | underWay run notebook config holds => exact holds.further refusal trouble runs
  | returned record at_ kept =>
    rw [idle (by rw [at_]; trivial)]
    exact .returned record at_ kept
  | raised f at_ =>
    rw [idle (by rw [at_]; trivial)]
    exact .raised f at_

/-! ## Revisions -/

/-- A revision leaves the definition of a report as it is, or it is one of the report and none of
its records is live. -/
theorem Revised.executes {id : String} {t : Tables} {s : Session} (revised : Revised id t s)
    (executes : Executes t reportId notebook config) :
    Executes s.committed reportId notebook config ∨
      id = reportId ∧ ∀ q ∈ t.runReports, q.reportId = reportId → q.isLive = false := by
  rcases revised.committed with same | ⟨p, patched, parts⟩
  · rw [same]
    exact Or.inl executes
  · rw [patched]
    by_cases about : reportId = id
    · rcases parts with neither | dead
      · exact Or.inl (executes_patch (Or.inr neither) executes)
      · exact Or.inr ⟨about.symm, about ▸ dead⟩
    · exact Or.inl (executes_patch (Or.inl about) executes)

theorem Faithful.revise (faithful : Faithful c runId reportId S₀ S)
    (runs : Proceeding c runId reportId S₀ S) (id : String) (r : Revision) :
    Faithful c runId reportId S₀ (S.revise id r refusal trouble) := by
  have next : Proceeds c runId reportId S (S.revise id r refusal trouble) :=
    .revises S id r refusal trouble
  cases faithful with
  | before at_ nothing idle => exact .before at_ nothing idle
  | underWay run notebook config holds =>
    have revised : Revised id S.committed
        ((Report.revise id r).run ⟨S.committed, [], refusal, trouble⟩).2 :=
      Ensures.state (revise_revised id r rfl)
    have ran := (runOf_congr revised.spares.1 revised.spares.2 runId).trans holds.run
    refine .underWay run notebook config ⟨holds.underWay, holds.carries, holds.drops, ran, ?_⟩
    -- the definition that was read is still stored, or it is this revision that has replaced it
    rcases holds.definition with executes | overtaken
    · by_cases still : Executes (S.revise id r refusal trouble).committed reportId notebook config
      · exact Or.inl still
      · obtain ⟨rfl, dead⟩ := (revised.executes executes).resolve_left still
        exact Or.inr ⟨S, r, refusal, trouble, runs, holds.underWay, dead, executes, still, .refl⟩
    · exact Or.inr (overtaken.proceeds next)
  | returned record at_ kept => exact .returned record at_ (kept.proceeds next)
  | raised f at_ => exact .raised f at_

theorem faithful_proceeding {t : Tables} {o : σ}
    (runs : Proceeding c runId reportId (.start t o) S) :
    Faithful c runId reportId (.start t o) S := by
  -- what is kept from step to step is `Faithful`, and `Overtaken` tells of the run so far
  induction runs with
  | refl => exact .before rfl rfl rfl
  | tail before next ih =>
    cases next with
    | furthers refusal trouble => exact ih.further refusal trouble before
    | revises id r refusal trouble => exact ih.revise refusal trouble before id r

end Steps

/-- Among any revisions, what a creation commits when it returns is a record of the notebook and the
configuration that it has uploaded and submitted, unless it was overtaken. -/
theorem commits_what_was_built (c : Call σ) (runId reportId : String) (t : Tables) (o : σ)
    {S : Course σ} {record : RunReport} (runs : Proceeding c runId reportId (.start t o) S)
    (returned : S.stage = .returned record) : Kept c runId reportId (.start t o) S record := by
  cases faithful_proceeding runs with
  | before at_ _ _ =>
    rw [returned] at at_
    cases at_
  | underWay run notebook config holds =>
    have underWay := holds.underWay
    rw [returned] at underWay
    exact False.elim underWay
  | returned record' at_ kept =>
    rw [returned] at at_
    cases at_
    exact kept
  | raised f at_ =>
    rw [returned] at at_
    cases at_

/-! ## A revision that slips in -/

/-- The guard does nothing outside. -/
theorem step_guarding_outside (c : Call σ) (runId reportId : String) (allocate : Tables → Nat)
    (w : World σ) : (c.step runId reportId allocate (.guarding, w)).2.outside = w.outside := by
  have acts : (c.next runId reportId allocate .guarding).Ensures w
      (fun _ w' => w'.outside = w.outside) fun _ w' => w'.outside = w.outside := by
    refine ((ensures_run (prepare runId reportId c.deleteFailed) w.session).within.mono
      (fun _ _ h => h) ?_).bind ?_
    · rintro f _ ⟨s, -, rfl⟩
      rfl
    · rintro d _ ⟨s, -, rfl⟩
      exact ensures_pure rfl
  rcases step_cases acts with outside | ⟨f, u, outside, raised⟩
  · exact outside
  · rw [raised]
    exact outside

section Courses

variable (c : Call σ) (runId reportId : String)

/-- The creation after several steps in a row, with nothing amiss with the database. -/
def Course.furthered (S : Course σ) : Nat → Course σ
  | 0 => S
  | n + 1 => (Course.furthered S n).further c runId reportId none []

theorem proceeding_furthered (S : Course σ) (n : Nat) :
    Proceeding c runId reportId S (S.furthered c runId reportId n) := by
  induction n with
  | zero => exact .refl
  | succ n ih => exact ih.tail (.furthers _ none [])

variable {S : Course σ}

theorem Carries.furthered {run : Run.Snapshot} {notebook config : Json}
    (carries : Carries c.generator run notebook config S.outside.effects S.stage)
    (drops : OnlyDrops S.pending) (n : Nat) :
    Carries c.generator run notebook config (S.furthered c runId reportId n).outside.effects
        (S.furthered c runId reportId n).stage ∧
      OnlyDrops (S.furthered c runId reportId n).pending ∧
      (S.furthered c runId reportId n).committed.reports = S.committed.reports := by
  induction n with
  | zero => exact ⟨carries, drops, rfl⟩
  | succ n ih =>
    obtain ⟨carries, drops, reports⟩ := ih
    obtain ⟨carries, drops, same⟩ := Carries.further c runId reportId none [] carries drops
    exact ⟨carries, drops, same.trans reports⟩

end Courses

/-- What has happened outside tells the file. -/
theorem BuiltFrom.same_file {g g' : Generator} {run run' : Run.Snapshot}
    {notebook config notebook' config' : Json} {effects : List Effect}
    (built : BuiltFrom g run notebook config effects)
    (built' : BuiltFrom g' run' notebook' config' effects) :
    ∃ content, IsFileOf run notebook content ∧ IsFileOf run' notebook' content := by
  obtain ⟨content, _, _, _, _, _, _, file, -, effects⟩ := built
  obtain ⟨content', _, _, _, _, _, _, file', -, effects'⟩ := built'
  rw [effects, List.cons.injEq, Effect.upload.injEq] at effects'
  obtain ⟨⟨rfl, -⟩, -⟩ := effects'
  exact ⟨content, file, file'⟩

/-- What is read from a file does not depend on what it was assembled from. -/
theorem IsFileOf.plain_eq {run run' : Run.Snapshot} {notebook notebook' : Json}
    {content : List UInt8} (file : IsFileOf run notebook content)
    (file' : IsFileOf run' notebook' content) (form : Json.WellFormed notebook)
    (form' : Json.WellFormed notebook') : ∃ doc doc',
      Notebook.assemble notebook run = .ok doc ∧ Notebook.assemble notebook' run' = .ok doc' ∧
        doc.plain = doc'.plain := by
  have read : ∀ {run notebook doc}, Notebook.assemble notebook run = .ok doc →
      Json.WellFormed notebook → doc.serialize? = some content →
      Notebook.Document.deserialize (.bytes content) = .ok doc.plain := by
    intro run notebook doc assembled form written
    have comes : doc.ComesOf notebook := .assembled run doc assembled
    exact Notebook.Document.deserialize_written (comes.wellFormed form) written comes.apart
  obtain ⟨doc, assembled, written⟩ := file
  obtain ⟨doc', assembled', written'⟩ := file'
  refine ⟨doc, doc', assembled, assembled', ?_⟩
  exact Except.ok.inj ((read assembled form written).symm.trans (read assembled' form' written'))

/-- The job that a creation is about to keep, or the record that it has returned. -/
def Stage.outcome? : Stage → Option (String ⊕ RunReport)
  | .keeping jobId => some (.inl jobId)
  | .returned record => some (.inr record)
  | _ => none

theorem Stage.of_outcome?_left {stage : Stage} (h : stage.outcome?.any Sum.isLeft = true) :
    ∃ jobId, stage = .keeping jobId := by
  cases stage with
  | keeping jobId => exact ⟨jobId, rfl⟩
  | _ => cases h

theorem Stage.of_outcome?_right {stage : Stage} (h : stage.outcome?.any Sum.isRight = true) :
    ∃ record, stage = .returned record := by
  cases stage with
  | returned record => exact ⟨record, rfl⟩
  | _ => cases h

def blankCells (n : Nat) : Json := .obj
  [("cells", .arr (List.replicate n (.obj [("source", .str ""), ("cell_type", .str "markdown")])))]

def blankDocument (n : Nat) : Notebook.Document where
  cells := List.replicate n (.markdown ⟨none, some (.text ""), []⟩)
  metadata := none
  format := none
  formatMinor := none
  extras := []

def unreported : Tables :=
  { failedOnce with
    reports := [⟨"report", "name", none, blankCells 1, .obj []⟩]
    runReports := [] }

def unreportedRun : Run.Snapshot where
  runId := "run"
  testId := "test"
  name := "name"
  status := "succeeded"
  testInput := []
  evalInput := []
  results := []
  testJobId := none
  evalJobId := none
  createdBy := none
  createdAt := ⟨machineEpoch, some 0⟩
  finishedAt := none

theorem runOf_unreported : runOf "run" unreported = .ok unreportedRun := by
  change Run.snapshotOf { sampledRun with testInput := .obj [], testJobId := none }
    (Run.resultMembers "run" []) = _
  rw [Run.resultMembers_nil, Run.snapshotOf_objects rfl rfl]
  rfl

def firstReport : Notebook.Document := (blankDocument 1).assembleWith false unreportedRun.toJson

@[irreducible]
def firstFile : List UInt8 := Text.utf8 (firstReport.toJson.indented ++ "\n")

theorem firstReport_assembled :
    Notebook.assemble (blankCells 1) unreportedRun = .ok firstReport :=
  Notebook.assemble_eq rfl rfl rfl

theorem firstReport_written : firstReport.serialize? = some firstFile := by
  have shallow : firstReport.toJson.isShallow = true :=
    Notebook.assembled_isShallow (d := blankDocument 1) rfl rfl firstReport_assembled
  have written := Notebook.Document.serialize?_of_isShallow shallow
  unfold firstFile
  exact written

theorem firstFile_isFileOf : IsFileOf unreportedRun (blankCells 1) firstFile :=
  ⟨_, firstReport_assembled, firstReport_written⟩

def firstDraft : Draft :=
  ⟨firstFile, Storage.notebookPath unreportedRun.name "name", .obj []⟩

theorem draftOf_unreported : draftOf "run" "report" unreported = .ok firstDraft := by
  have template : templateOf "report" unreported = .ok ⟨"report", "name", blankCells 1, .obj []⟩ :=
    rfl
  have made := draftOf_eq runOf_unreported template firstReport_assembled firstReport_written
  exact made

def untroubled : Call Unit := ⟨providing, fetchingGenerator, none, false⟩

def letIn : Course Unit := ⟨.uploading firstDraft, unreported, [], ⟨(), []⟩⟩

theorem further_unreported :
    (Course.start unreported ()).further untroubled "run" "report" none [] = letIn := by
  obtain ⟨stage, w, stepped, committed, ended⟩ := step_guarding untroubled.recorded "run" "report"
    Tables.nextId (Recorded.mk () []) (t := unreported) rfl draftOf_unreported
  have outside : w.outside = ⟨(), []⟩ :=
    (congrArg (fun p => p.2.outside) stepped).symm.trans (step_guarding_outside _ _ _ _ _)
  have empty : recordsOf "run" "report" unreported = [] := rfl
  rcases ended with ⟨-, rfl, pending⟩ | ⟨refused, -⟩
  · rw [clearing, empty] at pending
    refine (congrArg Course.of stepped).trans ?_
    rw [Course.of, letIn, committed, pending, outside]
  · refine absurd ⟨?_, Or.inl empty⟩ refused
    rw [empty]
    exact fun r no => by cases no

/-- The creation some steps after that, with a revision of the report right before them. -/
def revisedMeanwhile (r : Revision) (steps : Nat) : Course Unit :=
  (letIn.revise "report" r none []).furthered untroubled "run" "report" steps

theorem proceeding_revisedMeanwhile (r : Revision) (steps : Nat) :
    Proceeding untroubled "run" "report" (.start unreported ()) (revisedMeanwhile r steps) := by
  have guarded : Proceeds untroubled "run" "report" (.start unreported ()) letIn :=
    further_unreported ▸ .furthers (.start unreported ()) none []
  have revised := (Relation.ReflTransGen.single guarded).tail (.revises _ "report" r none [])
  exact revised.trans (proceeding_furthered untroubled "run" "report" _ steps)

/-- Whatever the revision is, the creation carries what it read before, and the definitions stay as
the revision has left them. -/
theorem revisedMeanwhile_carries (r : Revision) (steps : Nat) :
    Carries untroubled.generator unreportedRun (blankCells 1) (.obj [])
        (revisedMeanwhile r steps).outside.effects (revisedMeanwhile r steps).stage ∧
      OnlyDrops (revisedMeanwhile r steps).pending ∧
      (revisedMeanwhile r steps).committed.reports =
        ((revise "report" r).run ⟨unreported, [], none, []⟩).2.committed.reports :=
  Carries.furthered untroubled "run" "report" (S := letIn.revise "report" r none [])
    ⟨rfl, firstFile_isFileOf, rfl⟩ onlyDrops_nil steps

def renamed : Revision := ⟨some "other name", none, .null, .null⟩

def lengthened : Revision := ⟨none, none, blankCells 2, .null⟩

/-- Neither revision stops the creation. -/
theorem revisedMeanwhile_ends :
    (revisedMeanwhile renamed 4).stage.outcome?.any Sum.isRight = true ∧
      (revisedMeanwhile lengthened 3).stage.outcome?.any Sum.isLeft = true ∧
      (revisedMeanwhile lengthened 4).stage.outcome?.any Sum.isRight = true := by
  decide +kernel

theorem commits_what_was_built_renamed : ∃ S record,
    Proceeding untroubled "run" "report" (.start unreported ()) S ∧ S.stage = .returned record ∧
      Kept untroubled "run" "report" (.start unreported ()) S record := by
  obtain ⟨record, returned⟩ := Stage.of_outcome?_right revisedMeanwhile_ends.1
  have proceeding := proceeding_revisedMeanwhile renamed 4
  exact ⟨_, record, proceeding, returned,
    commits_what_was_built untroubled "run" "report" unreported () proceeding returned⟩

def longer : Tables :=
  { unreported with reports := [⟨"report", "name", none, blankCells 2, .obj []⟩] }

theorem lengthened_reports :
    ((revise "report" lengthened).run ⟨unreported, [], none, []⟩).2.committed.reports =
      longer.reports := rfl

theorem length_assembled {template : Json} {run : Run.Snapshot} {d doc : Notebook.Document}
    {content : Notebook.Content} (read : Notebook.Document.read template = .ok d)
    (prose : d.cells.head? = some (.markdown content))
    (assembled : Notebook.assemble template run = .ok doc) :
    doc.cells.length = d.cells.length + 5 := by
  obtain ⟨d', again, laidOut⟩ := Notebook.laidOut_of_assembled assembled
  obtain rfl : d = d' := Except.ok.inj (read.symm.trans again)
  refine laidOut.length.2 _ prose ?_
  rintro ⟨_, _, _, _, _, ⟨⟩, -⟩

/-- No file is that of one cell and that of two. -/
theorem not_isFileOf_both {run run' : Run.Snapshot} {content : List UInt8}
    (one : IsFileOf run (blankCells 1) content) : ¬ IsFileOf run' (blankCells 2) content := by
  intro two
  have form : Json.WellFormed (blankCells 1) ∧ Json.WellFormed (blankCells 2) := by
    simp [blankCells, Json.WellFormed, Json.WellFormedItems, Json.WellFormedFields]
  obtain ⟨doc, doc', assembled, assembled', same⟩ := one.plain_eq two form.1 form.2
  have six : doc.cells.length = 1 + 5 :=
    length_assembled (d := blankDocument 1) rfl rfl assembled
  have seven : doc'.cells.length = 2 + 5 :=
    length_assembled (d := blankDocument 2) rfl rfl assembled'
  have lengths := congrArg (fun d => d.cells.length) same
  simp only [Notebook.Document.plain, List.length_map] at lengths
  omega

/-- A step that commits a record of what one cell gave leaves it with a report of two cells, if the
report has got the second one in between. -/
theorem StepOf.not_executed {g : Call σ} {S S' : Course σ} {run : Run.Snapshot} {config : Json}
    {jobId : String} {record : RunReport} (step : StepOf g S S' run (blankCells 1) config)
    (carries : Carries g.generator run (blankCells 1) config S.outside.effects S.stage)
    (drops : OnlyDrops S.pending) (keeping : S.stage = .keeping jobId)
    (returned : S'.stage = .returned record) (reports : S.committed.reports = longer.reports) :
    record ∈ S'.committed.runReports ∧
      ¬ ∃ run notebook config, Executes S'.committed "report" notebook config ∧
        BuiltFrom g.generator run notebook config S'.outside.effects := by
  cases step with
  | goesOn underWay _ _ _ =>
    rw [returned] at underWay
    exact False.elim underWay
  | fails f ended _ _ =>
    rw [returned] at ended
    cases ended
  | keeps _ record' _ ended outside committed _ =>
    rw [returned] at ended
    cases ended
    rw [keeping] at carries
    rw [committed, outside]
    refine ⟨List.mem_append_right _ (List.mem_singleton_self record), ?_⟩
    rintro ⟨run', notebook, config', executes, built⟩
    have stored : Executes longer "report" notebook config' :=
      (executes_congr ((drops.spares _).2.2.trans reports).symm).mpr executes
    obtain ⟨row, found, rfl, rfl⟩ := executes_iff.mp stored
    cases found
    obtain ⟨content, one, two⟩ := BuiltFrom.same_file carries built
    exact not_isFileOf_both one two

/-- While the notebook of one cell is being uploaded, a revision gives the report two cells. Then
the record is committed, and the notebook that is stored and frozen was never executed. -/
theorem revision_slips_in : ∃ S S' record,
    Proceeding untroubled "run" "report" (.start unreported ()) S ∧
      Proceeds untroubled "run" "report" S S' ∧ (∃ jobId, S.stage = .keeping jobId) ∧
      S'.stage = .returned record ∧ record ∈ S'.committed.runReports ∧
      ¬ ∃ run notebook config, Executes S'.committed "report" notebook config ∧
        BuiltFrom untroubled.generator run notebook config S'.outside.effects := by
  -- the number of steps is forgotten here, so that nothing below evaluates the steps again
  obtain ⟨n, atLeft, atRight⟩ :
      ∃ n, (revisedMeanwhile lengthened n).stage.outcome?.any Sum.isLeft = true ∧
        (revisedMeanwhile lengthened (n + 1)).stage.outcome?.any Sum.isRight = true :=
    ⟨3, revisedMeanwhile_ends.2⟩
  obtain ⟨jobId, keeping⟩ := Stage.of_outcome?_left atLeft
  obtain ⟨record, returned⟩ := Stage.of_outcome?_right atRight
  obtain ⟨carries, drops, reports⟩ := revisedMeanwhile_carries lengthened n
  have step := stepOf_further untroubled "run" "report" none [] (by rw [keeping]; trivial) carries
  exact ⟨revisedMeanwhile lengthened n, _, record, proceeding_revisedMeanwhile lengthened n,
    .furthers _ none [], ⟨jobId, keeping⟩, returned,
    step.not_executed carries drops keeping returned (reports.trans lengthened_reports)⟩

end RunReports.Report
