import RunReports.Proofs.Action
import RunReports.Report.Creation

/-!
# Outside of the session

Storage, the web, the job engine and the clock have a state of their own and leave the session
alone. What is built of them alone may as well be run on their own state. A call of the job engine
exchanges one request, or none if no request can be made.
-/
namespace RunReports.Report

open RunReports RunReports.Action RunReports.Calendar RunReports.Store

variable {σ α β : Type}

/-- Storage, the exchange of requests with the web and with the job engine, and the clock, on a
state that is no session's. -/
structure Surroundings (σ : Type) where
  upload : List UInt8 → String → Action σ String
  fetch : Engine.Exchange σ
  exchange : Engine.Exchange σ
  now : σ → Moment

def Surroundings.services (e : Surroundings σ) : Services σ where
  upload content path := onOutside (e.upload content path)
  fetch request := onOutside (e.fetch request)
  exchange request := onOutside (e.exchange request)
  now w := e.now w.outside

section Outside

variable {τ : Type} {part : σ → τ} {put : τ → σ → σ}

/-- A part of a state that may be put in place without any trace of what stood there. -/
structure IsPart (part : σ → τ) (put : τ → σ → σ) : Prop where
  unchanged : ∀ s, put (part s) s = s
  part_put : ∀ t s, part (put t s) = t
  put_put : ∀ t u s, put t (put u s) = put t s

theorem isPart_outside :
    IsPart World.outside fun (o : σ) (w : World σ) => { w with outside := o } :=
  ⟨fun _ => rfl, fun _ _ => rfl, fun _ _ _ => rfl⟩

variable (is : IsPart part put)

include is

theorem IsPart.pure (x : α) : within part put (Pure.pure x) = Pure.pure x :=
  within_pure is.unchanged x

theorem IsPart.throw (f : Failure) :
    within part put (MonadExcept.throw f : Action τ α) = MonadExcept.throw f :=
  within_throw is.unchanged f

theorem IsPart.bind (a : Action τ α) (k : α → Action τ β) :
    within part put a >>= (fun x => within part put (k x)) = within part put (a >>= k) :=
  (within_bind is.part_put is.put_put a k).symm

theorem IsPart.target (url : Except Http.UrlFault Http.Url) :
    (Engine.target url : Action σ Http.Url) = within part put (Engine.target url) := by
  cases url with
  | error fault => exact (is.throw _).symm
  | ok url =>
    simp only [Engine.target]
    cases url.hostFault? with
    | some fault => exact (is.throw _).symm
    | none => exact (is.pure _).symm

variable (x : Engine.Exchange τ)

theorem IsPart.send (request : Http.Request) :
    Engine.send (fun r => within part put (x r)) request =
      within part put (Engine.send x request) := by
  rw [Engine.send, Engine.send, ← is.bind]
  refine bind_congr fun outcome => ?_
  cases outcome with
  | failed description => exact (is.pure _).symm
  | answered r =>
    simp only
    split
    · exact (is.pure _).symm
    · exact (is.throw _).symm

theorem IsPart.call (e : Engine.Endpoint) (path : String) (request : Http.Url → Http.Request) :
    e.call (fun r => within part put (x r)) path request =
      within part put (e.call x path request) := by
  rw [Engine.Endpoint.call, Engine.Endpoint.call, ← is.bind, is.target]
  refine bind_congr fun url => ?_
  rw [← is.bind, is.send]
  refine bind_congr fun outcome => ?_
  cases Engine.readAnswer path outcome with
  | error f => exact (is.throw f).symm
  | ok fields => exact (is.pure fields).symm

theorem IsPart.submit (e : Engine.Endpoint) (source : String) (inputs : Json.Fields) :
    e.submit (fun r => within part put (x r)) source inputs =
      within part put (e.submit x source inputs) := by
  rw [Engine.Endpoint.submit, Engine.Endpoint.submit, ← is.bind, is.call]
  refine bind_congr fun fields => ?_
  generalize Engine.readSubmission fields = read
  cases read with
  | error fault => exact (is.throw _).symm
  | ok submission => exact (is.pure submission).symm

theorem IsPart.jobState (e : Engine.Endpoint) (jobId : String) :
    e.jobState (fun r => within part put (x r)) jobId = within part put (e.jobState x jobId) := by
  rw [Engine.Endpoint.jobState, Engine.Endpoint.jobState, ← is.bind, is.call]
  refine bind_congr fun fields => ?_
  generalize Engine.readStatus jobId fields = read
  cases read with
  | error fault => exact (is.throw _).symm
  | ok status =>
    simp only
    split
    · rw [← is.bind, is.call]
      refine bind_congr fun outputs => ?_
      exact (is.pure _).symm
    · exact (is.pure _).symm

theorem IsPart.checked (source : String) :
    (Workflow.checked source : Action σ String) = within part put (Workflow.checked source) := by
  rw [Workflow.checked, Workflow.checked]
  cases Workflow.validate source with
  | error fault => exact (is.throw _).symm
  | ok s => exact (is.pure s).symm

theorem IsPart.fetch (text : String) :
    Workflow.fetch (fun r => within part put (x r)) text =
      within part put (Workflow.fetch x text) := by
  rw [Workflow.fetch, Workflow.fetch, ← is.bind, is.target]
  refine bind_congr fun url => ?_
  rw [← is.bind, is.send]
  refine bind_congr fun outcome => ?_
  cases Workflow.readSource text url outcome with
  | error f => exact (is.throw _).symm
  | ok source => exact is.checked source

theorem IsPart.resolve (url : Option String) :
    Workflow.resolve (fun r => within part put (x r)) url =
      within part put (Workflow.resolve x url) := by
  cases url with
  | none =>
    simp only [Workflow.resolve]
    exact is.checked Workflow.packagedSource
  | some text =>
    simp only [Workflow.resolve]
    split
    · exact is.checked Workflow.packagedSource
    · exact is.fetch x text

theorem IsPart.jobInputs (g : Generator) (location : String) (config : Json) :
    (Report.jobInputs g location config : Action σ Json.Fields) =
      within part put (Report.jobInputs g location config) := by
  rw [Report.jobInputs, Report.jobInputs]
  cases Workflow.buildInputs g.namespaced location g.image config with
  | error fault => exact (is.throw _).symm
  | ok inputs => exact (is.pure inputs).symm

end Outside

section Services

variable (e : Surroundings σ) (g : Generator)

def Surroundings.sendUp (d : Draft) : Action σ Json.Fields := do
  let location ← e.upload d.content d.path
  Report.jobInputs g location d.config

theorem sendUp_services (d : Draft) : sendUp e.services g d = onOutside (e.sendUp g d) := by
  rw [sendUp, onOutside, Surroundings.sendUp, ← isPart_outside.bind]
  exact bind_congr fun location => isPart_outside.jobInputs g location d.config

theorem resolve_services :
    Workflow.resolve e.services.fetch g.workflowUrl =
      onOutside (Workflow.resolve e.fetch g.workflowUrl) :=
  isPart_outside.resolve e.fetch g.workflowUrl

theorem submit_services (source : String) (inputs : Json.Fields) :
    g.engine.submit e.services.exchange source inputs =
      onOutside (g.engine.submit e.exchange source inputs) :=
  isPart_outside.submit e.exchange g.engine source inputs

/-- The way of a draft to a submitted job, outside of the session. -/
def Surroundings.launch (d : Draft) : Action σ Engine.Submission := do
  let inputs ← e.sendUp g d
  let source ← Workflow.resolve e.fetch g.workflowUrl
  g.engine.submit e.exchange source inputs

/-- A creation works on the session, then outside, then on the session again. -/
theorem create_services (runId reportId : String) (createdBy : Option String)
    (deleteFailed : Bool) :
    create e.services g runId reportId createdBy deleteFailed =
      orRollbackWorld (accessing .runReport do
        let d ← onSession (prepare runId reportId deleteFailed)
        let submission ← onOutside (e.launch g d)
        onSession (keep (e.now (← get).outside) runId reportId submission.jobId createdBy)) := by
  rw [create]
  refine congrArg (fun a => orRollbackWorld (accessing .runReport a)) ?_
  refine bind_congr fun d => ?_
  have launched : onOutside (e.launch g d) = (do
      let inputs ← sendUp e.services g d
      let source ← Workflow.resolve e.services.fetch g.workflowUrl
      g.engine.submit e.services.exchange source inputs) := by
    rw [Surroundings.launch, onOutside, ← isPart_outside.bind, sendUp_services]
    refine bind_congr fun inputs => ?_
    rw [← isPart_outside.bind, resolve_services]
    exact bind_congr fun source => (submit_services e g source inputs).symm
  rw [launched]
  simp only [bind_assoc]
  rfl

end Services

section Calls

theorem send_ensures (x : Engine.Exchange σ) (request : Http.Request) (o : σ) :
    (Engine.send x request).Ensures o (fun outcome o' => (x request).run o = (.ok outcome, o'))
      (fun _ o' => ∃ ended, (x request).run o = (ended, o')) := by
  refine ((ensures_run (x request) o).mono (fun _ _ h => h) fun f _ h => ⟨.error f, h⟩).bind ?_
  intro outcome o' ended
  cases outcome with
  | failed description => exact ensures_pure ended
  | answered r =>
    simp only
    split
    · exact ensures_pure ended
    · exact ensures_throw ⟨_, ended⟩

theorem target_ensures (url : Except Http.UrlFault Http.Url) (o : σ) :
    (Engine.target url : Action σ Http.Url).Ensures o (fun u o' => url = .ok u ∧ o' = o)
      (fun _ o' => o' = o) := by
  cases url with
  | error fault => exact ensures_throw rfl
  | ok url =>
    simp only [Engine.target]
    cases url.hostFault? with
    | some fault => exact ensures_throw rfl
    | none => exact ensures_pure ⟨rfl, rfl⟩

theorem jobInputs_ensures (g : Generator) (location : String) (config : Json) (o : σ) :
    (jobInputs g location config : Action σ Json.Fields).Ensures o
      (fun inputs o' =>
        Workflow.buildInputs g.namespaced location g.image config = .ok inputs ∧ o' = o)
      (fun _ o' => o' = o) := by
  rw [jobInputs]
  cases Workflow.buildInputs g.namespaced location g.image config with
  | error fault => exact ensures_throw rfl
  | ok inputs => exact ensures_pure ⟨rfl, rfl⟩

/-- A request is exchanged once, or not at all if it cannot be made. -/
theorem call_ensures (x : Engine.Exchange σ) (e : Engine.Endpoint) (path : String)
    (request : Http.Url → Http.Request) (o : σ) :
    (e.call x path request).Ensures o
      (fun fields o' => ∃ url outcome, e.url path = .ok url ∧
        (x (request url)).run o = (.ok outcome, o') ∧ Engine.readAnswer path outcome = .ok fields)
      (fun _ o' => o' = o ∨ ∃ url ended, e.url path = .ok url ∧
        (x (request url)).run o = (ended, o')) := by
  refine ((target_ensures (e.url path) o).mono (fun _ _ h => h) fun _ _ h => Or.inl h).bind ?_
  rintro url o' ⟨made, same⟩
  rw [same]
  refine ((send_ensures x (request url) o).mono (fun _ _ h => h) ?_).bind ?_
  · rintro _ o' ⟨ended, run⟩
    exact Or.inr ⟨url, ended, made, run⟩
  · intro outcome o' run
    cases read : Engine.readAnswer path outcome with
    | error f => exact ensures_throw (Or.inr ⟨url, .ok outcome, made, run⟩)
    | ok fields => exact ensures_pure ⟨url, outcome, made, run, read⟩

/-- A submission that succeeds is what the engine's answer says. -/
theorem submit_ensures (x : Engine.Exchange σ) (e : Engine.Endpoint) (source : String)
    (inputs : Json.Fields) (o : σ) :
    (e.submit x source inputs).Ensures o
      (fun submission o' => ∃ url outcome fields, e.url (e.workflowsPath "") = .ok url ∧
        (x (.post url (Engine.submissionForm source inputs))).run o = (.ok outcome, o') ∧
        Engine.readAnswer (e.workflowsPath "") outcome = .ok fields ∧
        Engine.readSubmission fields = .ok submission)
      (fun _ o' => o' = o ∨ ∃ url ended, e.url (e.workflowsPath "") = .ok url ∧
        (x (.post url (Engine.submissionForm source inputs))).run o = (ended, o')) := by
  refine (call_ensures x e _ _ o).bind ?_
  rintro fields o' ⟨url, outcome, made, run, read⟩
  cases submitted : Engine.readSubmission fields with
  | error fault => exact ensures_throw (Or.inr ⟨url, .ok outcome, made, run⟩)
  | ok submission => exact ensures_pure ⟨url, outcome, fields, made, run, read, submitted⟩

end Calls

end RunReports.Report
