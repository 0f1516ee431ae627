import RunReports.Proofs.Creation
import RunReports.Rehearsal.Server

/-!
# All or nothing

Outside of the session a creation makes one upload and then one submission, and a failure cuts
this short: where the guard, the rows or the notebook are at fault nothing was uploaded, and where
the upload, the inputs or the workflow source are at fault nothing was submitted. The effects are
recorded in surroundings that are otherwise like the given ones.
-/
namespace RunReports.Report

open RunReports RunReports.Action RunReports.Calendar RunReports.Store

variable {σ α : Type}

/-- What changes something outside: storage was called, or a request was sent to the engine. -/
inductive Effect
  | upload (content : List UInt8) (path : String) (ended : Except Failure String)
  | submission (request : Http.Request) (ended : Except Failure Http.Outcome)

structure Recorded (σ : Type) where
  outside : σ
  effects : List Effect

/-- The action, with a record of the effect that it has, however it ends. -/
def noting (effect : Except Failure α → Effect) (a : Action σ α) : Action (Recorded σ) α :=
  fun r => ((a.run r.outside).1,
    ⟨(a.run r.outside).2, r.effects ++ [effect (a.run r.outside).1]⟩)

def unnoted (a : Action σ α) : Action (Recorded σ) α :=
  within Recorded.outside (fun o r => { r with outside := o }) a

theorem isPart_recorded :
    IsPart Recorded.outside fun (o : σ) (r : Recorded σ) => { r with outside := o } :=
  ⟨fun _ => rfl, fun _ _ => rfl, fun _ _ _ => rfl⟩

def Surroundings.recorded (e : Surroundings σ) : Surroundings (Recorded σ) where
  upload content path := noting (.upload content path) (e.upload content path)
  fetch request := unnoted (e.fetch request)
  exchange request := noting (.submission request) (e.exchange request)
  now r := e.now r.outside

theorem run_noting (effect : Except Failure α → Effect) (a : Action σ α) (r : Recorded σ) :
    (noting effect a).run r = ((a.run r.outside).1,
      ⟨(a.run r.outside).2, r.effects ++ [effect (a.run r.outside).1]⟩) := rfl

/-- The effects that the creation of a report from a draft may have, in order. The second one
needs a first one that went well, inputs and a workflow source. -/
inductive Delivered (e : Surroundings σ) (g : Generator) (d : Draft) (o : σ) : List Effect → Prop
  | uploaded (ended : Except Failure String)
      (upload : ((e.upload d.content d.path).run o).1 = ended) :
      Delivered e g d o [.upload d.content d.path ended]
  | submitted (location source : String) (inputs : Json.Fields) (url : Http.Url) (o₁ o₂ : σ)
      (ended : Except Failure Http.Outcome)
      (upload : (e.upload d.content d.path).run o = (.ok location, o₁))
      (built : Workflow.buildInputs g.namespaced location g.image d.config = .ok inputs)
      (resolved : (Workflow.resolve e.fetch g.workflowUrl).run o₁ = (.ok source, o₂))
      (made : g.engine.url (g.engine.workflowsPath "") = .ok url)
      (exchange :
        ((e.exchange (.post url (Engine.submissionForm source inputs))).run o₂).1 = ended) :
      Delivered e g d o
        [.upload d.content d.path (.ok location),
          .submission (.post url (Engine.submissionForm source inputs)) ended]

def Accepts (g : Generator) (outcome : Http.Outcome) (jobId : String) : Prop :=
  ∃ fields submission, Engine.readAnswer (g.engine.workflowsPath "") outcome = .ok fields ∧
    Engine.readSubmission fields = .ok submission ∧ submission.jobId = jobId

section Steps

variable (e : Surroundings σ) (g : Generator)

theorem noting_ensures (effect : Except Failure α → Effect) (a : Action σ α) (r : Recorded σ) :
    (noting effect a).Ensures r
      (fun x r' => a.run r.outside = (.ok x, r'.outside) ∧
        r'.effects = r.effects ++ [effect (.ok x)])
      (fun f r' => a.run r.outside = (.error f, r'.outside) ∧
        r'.effects = r.effects ++ [effect (.error f)]) := by
  rcases ended : a.run r.outside with ⟨_ | x, o'⟩
  · exact ensures_of_error (by rw [run_noting, ended]) ⟨rfl, rfl⟩
  · exact ensures_of_ok (by rw [run_noting, ended]) ⟨rfl, rfl⟩

theorem unnoted_ensures (a : Action σ α) (r : Recorded σ) :
    (unnoted a).Ensures r
      (fun x r' => a.run r.outside = (.ok x, r'.outside) ∧ r'.effects = r.effects)
      (fun _ r' => r'.effects = r.effects) := by
  refine (ensures_run a r.outside).within.mono ?_ ?_
  · rintro x _ ⟨o', ended, rfl⟩
    exact ⟨ended, rfl⟩
  · rintro f _ ⟨o', -, rfl⟩
    rfl

theorem sendUp_ensures (d : Draft) (r : Recorded σ) :
    (e.recorded.sendUp g d).Ensures r
      (fun inputs r' => ∃ location,
        (e.upload d.content d.path).run r.outside = (.ok location, r'.outside) ∧
        Workflow.buildInputs g.namespaced location g.image d.config = .ok inputs ∧
        r'.effects = r.effects ++ [.upload d.content d.path (.ok location)])
      (fun _ r' => r'.effects = r.effects ++
        [.upload d.content d.path ((e.upload d.content d.path).run r.outside).1]) := by
  refine ((noting_ensures _ (e.upload d.content d.path) r).mono (fun _ _ h => h) ?_).bind ?_
  · rintro f r' ⟨ended, noted⟩
    rw [noted, ended]
  · rintro location r' ⟨ended, noted⟩
    refine (jobInputs_ensures g location d.config r').mono ?_ ?_
    · rintro inputs _ ⟨built, rfl⟩
      exact ⟨location, ended, built, noted⟩
    · rintro f _ rfl
      rw [noted, ended]

theorem resolve_ensures (r : Recorded σ) :
    (Workflow.resolve e.recorded.fetch g.workflowUrl).Ensures r
      (fun source r' => (Workflow.resolve e.fetch g.workflowUrl).run r.outside =
        (.ok source, r'.outside) ∧ r'.effects = r.effects)
      (fun _ r' => r'.effects = r.effects) := by
  have same : Workflow.resolve e.recorded.fetch g.workflowUrl =
      unnoted (Workflow.resolve e.fetch g.workflowUrl) :=
    isPart_recorded.resolve e.fetch g.workflowUrl
  rw [same]
  exact unnoted_ensures _ r

theorem submit_recorded_ensures (source : String) (inputs : Json.Fields) (r : Recorded σ) :
    (g.engine.submit e.recorded.exchange source inputs).Ensures r
      (fun submission r' => ∃ url outcome, g.engine.url (g.engine.workflowsPath "") = .ok url ∧
        ((e.exchange (.post url (Engine.submissionForm source inputs))).run r.outside).1 =
          .ok outcome ∧
        r'.effects = r.effects ++
          [.submission (.post url (Engine.submissionForm source inputs)) (.ok outcome)] ∧
        Accepts g outcome submission.jobId)
      (fun _ r' => r'.effects = r.effects ∨ ∃ url ended,
        g.engine.url (g.engine.workflowsPath "") = .ok url ∧
        ((e.exchange (.post url (Engine.submissionForm source inputs))).run r.outside).1 = ended ∧
        r'.effects = r.effects ++
          [.submission (.post url (Engine.submissionForm source inputs)) ended]) := by
  have noted : ∀ request ended r', (e.recorded.exchange request).run r = (ended, r') →
      ((e.exchange request).run r.outside).1 = ended ∧
        r'.effects = r.effects ++ [.submission request ended] := by
    intro request ended r' run
    cases run
    exact ⟨rfl, rfl⟩
  refine (submit_ensures e.recorded.exchange g.engine source inputs r).mono ?_ ?_
  · rintro submission r' ⟨url, outcome, fields, made, run, read, submitted⟩
    obtain ⟨answered, effects⟩ := noted _ _ _ run
    exact ⟨url, outcome, made, answered, effects, fields, submission, read, submitted, rfl⟩
  · rintro f r' (rfl | ⟨url, ended, made, run⟩)
    · exact Or.inl rfl
    · obtain ⟨answered, effects⟩ := noted _ _ _ run
      exact Or.inr ⟨url, ended, made, answered, effects⟩

/-- The effects of a launch follow those before it. They are a beginning of an upload and a
submission, all of it if it goes well. -/
theorem launch_effects (d : Draft) (r : Recorded σ) :
    (e.recorded.launch g d).Ensures r
      (fun submission r' => ∃ location url form outcome,
        r'.effects = r.effects ++ [.upload d.content d.path (.ok location),
          .submission (.post url form) (.ok outcome)] ∧
        Delivered e g d r.outside [.upload d.content d.path (.ok location),
          .submission (.post url form) (.ok outcome)] ∧
        Accepts g outcome submission.jobId)
      (fun _ r' => ∃ effects, r'.effects = r.effects ++ effects ∧
        Delivered e g d r.outside effects) := by
  refine ((sendUp_ensures e g d r).mono (fun _ _ h => h) ?_).bind ?_
  · intro f r' effects
    exact ⟨_, effects, .uploaded _ rfl⟩
  rintro inputs r₁ ⟨location, uploaded, built, effects⟩
  have delivered : Delivered e g d r.outside [.upload d.content d.path (.ok location)] :=
    .uploaded _ (by rw [uploaded])
  refine ((resolve_ensures e g r₁).mono (fun _ _ h => h) ?_).bind ?_
  · intro f r₂ same
    exact ⟨_, same.trans effects, delivered⟩
  rintro source r₂ ⟨resolved, same⟩
  refine (submit_recorded_ensures e g source inputs r₂).mono ?_ ?_
  · rintro submission r₃ ⟨url, outcome, target, answered, sent, accepts⟩
    refine ⟨location, url, Engine.submissionForm source inputs, outcome, ?_, ?_, accepts⟩
    · rw [sent, same, effects, List.append_assoc]
      rfl
    · exact .submitted location source inputs url _ _ _ uploaded built resolved target answered
  · rintro f r₃ (unsent | ⟨url, ended, target, answered, sent⟩)
    · exact ⟨_, (unsent.trans same).trans effects, delivered⟩
    · refine ⟨_, ?_, .submitted location source inputs url _ _ ended uploaded built resolved target
        answered⟩
      rw [sent, same, effects, List.append_assoc]
      rfl

theorem launch_ensures (d : Draft) (o : σ) :
    (e.recorded.launch g d).Ensures ⟨o, []⟩
      (fun submission r => Delivered e g d o r.effects ∧ ∃ location url form outcome,
        r.effects = [.upload d.content d.path (.ok location),
          .submission (.post url form) (.ok outcome)] ∧ Accepts g outcome submission.jobId)
      (fun _ r => Delivered e g d o r.effects) := by
  refine (launch_effects e g d ⟨o, []⟩).mono ?_ ?_
  · rintro submission r ⟨location, url, form, outcome, effects, delivered, accepts⟩
    rw [List.nil_append] at effects
    exact ⟨effects ▸ delivered, location, url, form, outcome, effects, accepts⟩
  · rintro f r ⟨effects, same, delivered⟩
    rw [List.nil_append] at same
    exact same ▸ delivered

end Steps

/-- What may have happened outside: nothing, or the effects of a draft that the rows give to a
creation that may begin. -/
def Warranted (e : Surroundings σ) (g : Generator) (runId reportId : String) (deleteFailed : Bool)
    (t : Tables) (o : σ) (effects : List Effect) : Prop :=
  effects = [] ∨ MayCreate runId reportId deleteFailed t ∧
    ∃ d, draftOf runId reportId t = .ok d ∧ Delivered e g d o effects

/-- What a creation that succeeds has done: its one new record stands in the place of the failed
ones, if these were to be deleted, and it is about the job that the engine's answer tells of. -/
def Created (e : Surroundings σ) (g : Generator) (runId reportId : String)
    (createdBy : Option String) (deleteFailed : Bool) (t : Tables) (o : σ) (record : RunReport)
    (w : World (Recorded σ)) : Prop :=
  ∃ d location url form outcome jobId,
    MayCreate runId reportId deleteFailed t ∧
    draftOf runId reportId t = .ok d ∧
    Delivered e g d o w.outside.effects ∧
    w.outside.effects = [.upload d.content d.path (.ok location),
      .submission (.post url form) (.ok outcome)] ∧
    Accepts g outcome jobId ∧
    IsSubmitted runId reportId jobId createdBy record ∧
    (cleared runId reportId deleteFailed t).IdFree record.id ∧
    w.session.committed = (cleared runId reportId deleteFailed t).withRecord record ∧
    w.session.pending = []

/-- What a creation that fails has left: every table as it was, and a beginning of its effects. -/
def Undone (e : Surroundings σ) (g : Generator) (runId reportId : String) (deleteFailed : Bool)
    (t : Tables) (o : σ) (w : World (Recorded σ)) : Prop :=
  w.session.committed = t ∧ w.session.pending = [] ∧
    Warranted e g runId reportId deleteFailed t o w.outside.effects

/-- A creation is all or nothing, whatever storage, web, engine and database do. -/
theorem create_all_or_nothing (e : Surroundings σ) (g : Generator) (runId reportId : String)
    (createdBy : Option String) (deleteFailed : Bool) (t : Tables) (keys : t.KeysDistinct)
    (refusal : Option String) (trouble : List (Option Fault)) (o : σ) :
    (create e.recorded.services g runId reportId createdBy deleteFailed).Ensures
      ⟨⟨t, [], refusal, trouble⟩, ⟨o, []⟩⟩
      (fun record w => Created e g runId reportId createdBy deleteFailed t o record w)
      (fun _ w => Undone e g runId reportId deleteFailed t o w) := by
  refine (create_ensures e.recorded g runId reportId createdBy deleteFailed keys refusal trouble
    ⟨o, []⟩ fun d _ => launch_ensures e g d o).mono ?_ ?_
  · rintro record w ⟨may, ⟨d, submission, made, launched, submitted⟩, free, committed, pending⟩
    obtain ⟨delivered, location, url, form, outcome, effects, accepts⟩ := launched
    exact ⟨d, location, url, form, outcome, submission.jobId, may, made, delivered, effects,
      accepts, submitted, free, committed, pending⟩
  · rintro f w ⟨committed, pending, outside⟩
    refine ⟨committed, pending, ?_⟩
    rcases outside with same | ⟨may, d, made, failed | ⟨submission, launched⟩⟩
    · exact Or.inl (by rw [same])
    · exact Or.inr ⟨may, d, made, failed⟩
    · exact Or.inr ⟨may, d, made, launched.1⟩

def failedOnce : Tables :=
  let then_ : Moment := ⟨machineEpoch, none⟩
  let notebook : Json := .obj
    [("cells", .arr [.obj [("cell_type", .str "markdown"), ("source", .str "")]])]
  { Tables.empty with
    runs := [⟨"run", "test", "name", .succeeded, .obj [], .obj [], none, none, none, then_, none⟩]
    reports := [⟨"report", "name", none, notebook, .obj []⟩]
    runReports :=
      [⟨1, "run", "report", .failed, some "job", .null, none, then_, some then_⟩] }

theorem failedOnce_keysDistinct : failedOnce.KeysDistinct := by
  unfold Tables.KeysDistinct
  decide

def obliging : Surroundings Unit where
  upload _ path := pure path
  fetch _ := pure (Rehearsal.answer 404 "")
  exchange _ := pure Rehearsal.Server.fresh.accept.1
  now _ := ⟨machineEpoch, none⟩

def simpleGenerator : Generator := ⟨"image", none, false, Rehearsal.engine⟩

def providing : Surroundings Unit :=
  { obliging with
    fetch := fun _ =>
      pure (Rehearsal.answer 200 ("workflow " ++ Workflow.workflowName ++ " \x7b")) }

def fetchingGenerator : Generator :=
  { simpleGenerator with workflowUrl := some "http://workflows/" }

/-- With a commit that is refused, and one where everything goes well. -/
theorem create_all_or_nothing_failedOnce :
    failedOnce.KeysDistinct ∧
      (create obliging.recorded.services simpleGenerator "run" "report" none true).Ensures
        ⟨⟨failedOnce, [], some "disk full", []⟩, ⟨(), []⟩⟩
        (fun record w =>
          Created obliging simpleGenerator "run" "report" none true failedOnce () record w)
        (fun _ w => Undone obliging simpleGenerator "run" "report" true failedOnce () w) ∧
      ∃ record w,
        (create providing.recorded.services fetchingGenerator "run" "report" none true).run
          ⟨⟨failedOnce, [], none, []⟩, ⟨(), []⟩⟩ = (.ok record, w) ∧
        Created providing fetchingGenerator "run" "report" none true failedOnce () record w := by
  refine ⟨failedOnce_keysDistinct, create_all_or_nothing obliging simpleGenerator "run" "report"
    none true failedOnce failedOnce_keysDistinct (some "disk full") [] (), ?_⟩
  have succeeds : ∃ record w,
      (create providing.recorded.services fetchingGenerator "run" "report" none true).run
        ⟨⟨failedOnce, [], none, []⟩, ⟨(), []⟩⟩ = (.ok record, w) :=
    exists_ok (by decide +kernel)
  obtain ⟨record, w, ended⟩ := succeeds
  exact ⟨record, w, ended, (create_all_or_nothing providing fetchingGenerator "run" "report" none
    true failedOnce failedOnce_keysDistinct none [] ()).ok ended⟩

end RunReports.Report
