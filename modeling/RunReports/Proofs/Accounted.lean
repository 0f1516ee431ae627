import RunReports.Proofs.Effects
import RunReports.Proofs.Refreshing
import RunReports.Proofs.ShortNumbers

/-!
# Failures that are accounted for

A creation, a fan-out and a refresh fail with a report error and with nothing else, whatever is in
the rows, whatever storage and the job engine do, and whether or not the commit is refused, within
five bounds. The values in the rows can be read, the inputs of the run stand for members with texts
as names, its data nest no deeper than the limit, the URLs that are asked are ones that can be
asked, and the answers can be read. Outside of these bounds no stage accounts for the failure, and
it comes out as it is. -/
namespace RunReports

variable {σ τ α β : Type}

def Failure.IsAccounted (f : Failure) : Prop := ∃ error, f = .report error

/-- A failure that is accounted for once it is said what the access to the database was about. -/
def Failure.IsTellable (f : Failure) : Prop := f.IsAccounted ∨ ∃ fault, f = .store fault

/-! ## Actions that fail only in some ways -/

namespace Action

def FailsOnly (E : Failure → Prop) (a : Action σ α) : Prop :=
  ∀ s, a.Ensures s (fun _ _ => True) fun f _ => E f

variable {E E' : Failure → Prop} {a : Action σ α}

theorem failsOnly_pure (x : α) : FailsOnly E (pure x : Action σ α) := fun _ => ensures_pure trivial

theorem failsOnly_throw {f : Failure} (e : E f) : FailsOnly E (throw f : Action σ α) :=
  fun _ => ensures_throw e

theorem failsOnly_get : FailsOnly E (get : Action σ σ) :=
  fun _ => ensures_get.mono (fun _ _ _ => trivial) fun _ _ e => e

theorem FailsOnly.bind {k : α → Action σ β} (h : FailsOnly E a) (next : ∀ x, FailsOnly E (k x)) :
    FailsOnly E (a >>= k) :=
  fun s => (h s).bind fun x t _ => next x t

theorem FailsOnly.mono (h : FailsOnly E a) (weaker : ∀ f, E f → E' f) : FailsOnly E' a :=
  fun s => (h s).mono (fun _ _ q => q) fun f _ e => weaker f e

theorem FailsOnly.tryCatch {handle : Failure → Action σ α} (h : FailsOnly E a)
    (handled : ∀ f, E f → FailsOnly E' (handle f)) : FailsOnly E' (tryCatch a handle) :=
  fun s => (h s).tryCatch fun f t e => handled f e t

theorem FailsOnly.within {part : σ → τ} {put : τ → σ → σ} {a : Action τ α} (h : FailsOnly E a) :
    FailsOnly E (within part put a) := by
  intro s
  refine (h (part s)).within.mono (fun _ _ _ => trivial) ?_
  rintro f _ ⟨_, e, -⟩
  exact e

/-- What is so of a value is known from one account of the action, and what is so of a failure from
another. -/
theorem Ensures.failing {s : σ} {Q Q' : α → σ → Prop} {E E' : Failure → σ → Prop}
    (h : a.Ensures s Q E) (k : a.Ensures s Q' E') : a.Ensures s Q E' :=
  (ensures_run a s).mono (fun _ _ ran => h.ok ran) fun _ _ ran => k.error ran

end Action

open RunReports.Action

/-! ## The database -/

namespace Store

open RunReports.Store.Session

theorem failsOnly_access : FailsOnly Failure.IsTellable access :=
  fun s => (access_ensures s).mono (fun _ _ _ => trivial) fun _ _ h => Or.inr h.2.2

theorem failsOnly_read (table : TableName) (f : Tables → α) :
    FailsOnly Failure.IsTellable (Session.read table f) := by
  refine failsOnly_access.bind fun _ => failsOnly_get.bind fun s => ?_
  dsimp only
  split
  · exact failsOnly_throw (Or.inr ⟨_, rfl⟩)
  · exact failsOnly_pure _

theorem failsOnly_execute (c : Change) : FailsOnly Failure.IsTellable (execute c) :=
  fun s => (execute_ensures c s).mono (fun _ _ _ => trivial) fun _ _ h => Or.inr h.2.1

theorem failsOnly_commit : FailsOnly Failure.IsTellable commit :=
  fun s => (commit_ensures s).mono (fun _ _ _ => trivial) fun _ _ h => Or.inr h.2.2

/-- Once it is said what the access was about, a fault of the database is accounted for. -/
theorem accountedFor {subject : Subject} {a : Action σ α} (h : FailsOnly Failure.IsTellable a) :
    FailsOnly Failure.IsAccounted (accessing subject a) := by
  intro s
  refine accessing_ensures (h s) (fun fault _ _ => ⟨_, rfl⟩) ?_
  rintro f t other (accounted | ⟨fault, same⟩)
  · exact accounted
  · exact absurd same (other fault)

theorem failsOnly_orRollback {E : Failure → Prop} {a : Action Session α} (h : FailsOnly E a) :
    FailsOnly E (orRollback a) := by
  intro s
  refine (orRollback_ensures (h s)).mono (fun _ _ _ => trivial) ?_
  rintro f _ ⟨_, e, -⟩
  exact e

end Store

namespace Report

open RunReports.Calendar RunReports.Store

theorem tellable {f : Failure} (h : f.IsAccounted) : f.IsTellable := Or.inl h

theorem failsOnly_find (runId reportId : String) :
    FailsOnly Failure.IsAccounted (find runId reportId) :=
  accountedFor (failsOnly_read _ _)

theorem failsOnly_delete (runId reportId : String) (statuses : List String) :
    FailsOnly Failure.IsAccounted (delete runId reportId statuses) :=
  accountedFor ((failsOnly_read _ _).bind fun _ =>
    (failsOnly_execute _).bind fun _ => failsOnly_pure _)

theorem failsOnly_ensureMayCreate (runId reportId : String) (deleteFailed : Bool) :
    FailsOnly Failure.IsAccounted (ensureMayCreate runId reportId deleteFailed) := by
  refine ((failsOnly_find runId reportId).bind fun _ => failsOnly_pure _).bind fun presence => ?_
  cases presence with
  | absent => exact failsOnly_pure _
  | live => exact failsOnly_throw ⟨_, rfl⟩
  | failed =>
    dsimp only
    split
    · exact (failsOnly_delete _ _ _).bind fun _ => failsOnly_pure _
    · exact failsOnly_throw ⟨_, rfl⟩

theorem failsOnly_present (subject : Subject) (found : Option α) :
    FailsOnly Failure.IsAccounted (Run.present subject found : Action σ α) := by
  cases found with
  | none => exact failsOnly_throw ⟨_, rfl⟩
  | some x => exact failsOnly_pure x

theorem failsOnly_loadTemplate (reportId : String) :
    FailsOnly Failure.IsAccounted (loadTemplate reportId) :=
  ((accountedFor (failsOnly_read _ _)).bind fun _ => failsOnly_present _ _).bind
    fun _ => failsOnly_pure _

theorem failsOnly_listMapped (testId : String) :
    FailsOnly Failure.IsAccounted (listMapped testId) :=
  (accountedFor (failsOnly_read _ _)).bind fun _ =>
    (failsOnly_present _ _).bind fun _ => accountedFor (failsOnly_read _ _)

theorem insertFailure_isAccounted (runId reportId : String) (fault : Fault) :
    (insertFailure runId reportId fault).IsAccounted := by
  rw [insertFailure]
  split <;> exact ⟨_, rfl⟩

theorem failsOnly_insertAs (allocate : Tables → Nat) (now : Moment) (runId reportId : String)
    (status : ReportStatus) (jobId createdBy : Option String) (results : Json) :
    FailsOnly Failure.IsAccounted
      (insertAs allocate now runId reportId status jobId createdBy results) := by
  refine (failsOnly_orRollback ((failsOnly_read _ _).bind fun _ =>
    (failsOnly_execute _).bind fun _ => failsOnly_pure _)).tryCatch ?_
  rintro f (⟨error, rfl⟩ | ⟨fault, rfl⟩)
  · exact failsOnly_throw ⟨error, rfl⟩
  · exact failsOnly_throw (insertFailure_isAccounted runId reportId fault)

theorem failsOnly_keep (now : Moment) (runId reportId jobId : String) (createdBy : Option String) :
    FailsOnly Failure.IsTellable (keep now runId reportId jobId createdBy) :=
  ((failsOnly_insertAs _ _ _ _ _ _ _ _).mono fun _ => tellable).bind fun _ =>
    failsOnly_commit.bind fun _ => failsOnly_get.bind fun _ => failsOnly_pure _

theorem failsOnly_advance (record : RunReport) (p : Progress) :
    FailsOnly Failure.IsAccounted (advance record p) := by
  refine accountedFor (failsOnly_orRollback ?_)
  dsimp only
  split
  · exact (failsOnly_execute _).bind fun _ => failsOnly_pure _
  · exact failsOnly_pure _

theorem failsOnly_settle (now : Moment) (record : RunReport) (state : Engine.JobState) :
    FailsOnly Failure.IsAccounted (settle now record state) := by
  rw [settle]
  split
  · exact failsOnly_throw ⟨_, rfl⟩
  · split
    · exact failsOnly_pure _
    · refine (accountedFor (failsOnly_orRollback ?_)).bind fun _ =>
        failsOnly_get.bind fun _ => failsOnly_pure _
      exact ((failsOnly_advance _ _).mono fun _ => tellable).bind fun _ => failsOnly_commit

/-! ## The data of a run -/

/-- A value that can be read back from the text of its column. How many levels are too many depends
on the calls that are under way, and this many are not. -/
structure IsReadable (v : Json) : Prop where
  nested : v.depth ≤ 500
  short : v.isShort = true

/-- Every value that is stored as a text can be read with its row. -/
structure HoldsReadable (t : Tables) : Prop where
  inputs : ∀ row ∈ t.runs, IsReadable row.testInput ∧ IsReadable row.evalInput
  results : ∀ row ∈ t.results, IsReadable row.value
  definitions : ∀ row ∈ t.reports, IsReadable row.notebook ∧ IsReadable row.config
  records : ∀ r ∈ t.runReports, IsReadable r.results

/-- A stored value that stands for members: the names of its pairs are texts. -/
def StandsForMembers (v : Json) : Prop :=
  ∃ pairs, Run.storedPairs v = .ok pairs ∧ ∀ p ∈ pairs, ∃ name, p.1 = .str name

/-- The rows let a run be shown: its inputs stand for members, and its data nest no deeper than the
limit. -/
structure Presentable (runId : String) (t : Tables) : Prop where
  inputs : ∀ row ∈ t.runs, row.id = runId →
    StandsForMembers row.testInput ∧ StandsForMembers row.evalInput
  shallow : ∀ run, runOf runId t = .ok run → run.toJson.isShallow = true

/-- The rows let a run be shown, and its data be written. -/
structure Writable (runId : String) (t : Tables) : Prop extends Presentable runId t where
  short : ∀ run, runOf runId t = .ok run → run.toJson.isShort = true

theorem Presentable.writable {runId : String} {t : Tables} (presentable : Presentable runId t)
    (readable : HoldsReadable t) : Writable runId t := by
  refine ⟨presentable, fun run is => Notebook.holdsShortNumbers_iff.mp ?_⟩
  rw [runOf] at is
  cases found : t.runs.find? fun r => r.id == runId with
  | none =>
    rw [found] at is
    cases is
  | some row =>
    rw [found] at is
    obtain ⟨test, eval⟩ := readable.inputs row (List.mem_of_find?_eq_some found)
    refine Run.snapshotOf_short test.short eval.short (Run.resultMembers_digits ?_ runId) is
    exact fun r there => of_decide_eq_true (readable.results r there).short

theorem Writable.of_runs {runId : String} {t t' : Tables} (h : Writable runId t)
    (runs : t'.runs = t.runs) (results : t'.results = t.results) : Writable runId t' := by
  have same : runOf runId t' = runOf runId t := by rw [runOf, runOf, runs, results]
  refine ⟨⟨?_, ?_⟩, ?_⟩
  · rw [runs]
    exact h.inputs
  · rw [same]
    exact h.shallow
  · rw [same]
    exact h.short

theorem pairMembers_ok (place : String) {pairs : List (Json × Json)}
    (texts : ∀ p ∈ pairs, ∃ name, p.1 = .str name) :
    ∃ fields, Run.pairMembers place pairs = .ok fields := by
  induction pairs with
  | nil => exact ⟨[], rfl⟩
  | cons p rest ih =>
    obtain ⟨⟨name, is⟩, others⟩ := List.forall_mem_cons.mp texts
    obtain ⟨fields, read⟩ := ih others
    obtain ⟨k, v⟩ := p
    obtain rfl : k = .str name := is
    exact ⟨(name, v) :: fields, by rw [Run.pairMembers, read]⟩

theorem snapshotOf_ok {row : RunRow} (test : StandsForMembers row.testInput)
    (eval : StandsForMembers row.evalInput) (results : Json.Fields) :
    ∃ run, Run.snapshotOf row results = .ok run := by
  obtain ⟨testPairs, testRead, testTexts⟩ := test
  obtain ⟨evalPairs, evalRead, evalTexts⟩ := eval
  obtain ⟨testInput, testMembers⟩ := pairMembers_ok "test_input" testTexts
  obtain ⟨evalInput, evalMembers⟩ := pairMembers_ok "eval_input" evalTexts
  cases made : Run.snapshotOf row results with
  | ok run => exact ⟨run, rfl⟩
  | error f =>
    simp only [Run.snapshotOf, testRead, evalRead, testMembers, evalMembers, bind, Except.bind,
      Run.Checked.apply] at made
    cases made

/-- A run that can be shown is loaded, or it is accounted for that it is not. -/
theorem load_accounted {runId : String} {s : Session} (writable : Writable runId s.view) :
    (Run.load runId).Ensures s
      (fun run _ => Notebook.writableData run = .ok run.toJson)
      (fun f _ => f.IsAccounted) := by
  have accounted : (Run.load runId).Ensures s (fun _ _ => True) fun f _ => f.IsAccounted := by
    refine ((reads_read _ _ _ s).failing (accountedFor (failsOnly_read _ _) s)).bind ?_
    rintro found t ⟨same, kept⟩
    obtain rfl := Except.ok.inj same
    cases found : s.view.runs.find? fun r => r.id == runId with
    | none =>
      refine Ensures.bind (Q := fun _ _ => False) (ensures_throw ⟨_, rfl⟩) fun _ _ no => ?_
      exact False.elim no
    | some row =>
      have is : row.id = runId := by simpa using List.find?_some found
      obtain ⟨test, eval⟩ := writable.inputs row (List.mem_of_find?_eq_some found) is
      refine Ensures.bind (Q := fun x _ => x = row) (ensures_pure rfl) ?_
      rintro _ u rfl
      refine (accountedFor (failsOnly_read _ _) u).bind fun results v _ => ?_
      obtain ⟨run, made⟩ := snapshotOf_ok test eval results
      simp only [made]
      exact ensures_pure trivial
  refine ((reads_run runId s).failing accounted).mono ?_ fun _ _ h => h
  rintro run t ⟨is, -⟩
  exact Notebook.writableData_ok_iff.mpr ⟨rfl, writable.shallow run is, writable.short run is⟩

theorem draft_accounted {run : Run.Snapshot} (written : Notebook.writableData run = .ok run.toJson)
    {template : Template} {f : Failure} (failed : draft run template = .error f) :
    f.IsAccounted := by
  rw [draft] at failed
  cases assembled : Notebook.assemble template.notebook run with
  | error fault =>
    rw [assembled] at failed
    cases fault with
    | template fault =>
      cases failed
      exact ⟨_, rfl⟩
    | runData fault => cases written.symm.trans (Notebook.unwritable_of_assemble assembled)
  | ok document =>
    simp only [assembled] at failed
    cases file : document.serialize? with
    | none =>
      rw [file] at failed
      cases failed
      exact ⟨_, rfl⟩
    | some content =>
      rw [file] at failed
      cases failed

theorem loadDraft_accounted {runId : String} (reportId : String) {s : Session}
    (writable : Writable runId s.view) :
    (loadDraft runId reportId).Ensures s (fun _ _ => True) (fun f _ => f.IsAccounted) := by
  refine (load_accounted writable).bind fun run t written => ?_
  refine (failsOnly_loadTemplate reportId t).bind fun template u _ => ?_
  cases made : draft run template with
  | ok d => exact ensures_pure trivial
  | error f => exact ensures_throw (draft_accounted written made)

theorem prepare_accounted {runId : String} (reportId : String) (deleteFailed : Bool) {s : Session}
    (writable : Writable runId s.view) :
    (prepare runId reportId deleteFailed).Ensures s (fun _ _ => True)
      (fun f _ => f.IsAccounted) := by
  refine ((ensureMayCreate_ensures runId reportId deleteFailed s).failing
    (failsOnly_ensureMayCreate runId reportId deleteFailed s)).bind ?_
  rintro - t ⟨-, room⟩
  refine loadDraft_accounted reportId (writable.of_runs ?_ ?_)
  · rw [room.view, clearing]
    split <;> rfl
  · rw [room.view, clearing]
    split <;> rfl

/-! ## Outside of the session -/

/-- A request can be made for the URL, and an answer from it is taken. -/
def Reachable (url : Except Http.UrlFault Http.Url) : Prop :=
  ∃ u, url = .ok u ∧ u.hostFault? = none ∧ Http.hasType u.text.toList = true

/-- The text of an answer can be read. In a character set that is not known here a replacement
character may stand for half a character, which no text can be sent with. -/
def HasText (r : Http.Response) : Prop :=
  ∃ s, r.text = .ok s ∧
    (Http.charset? r.contentType = none → Text.replacementChar ∉ s.toList)

/-- An answer of the engine can be read, as a text and as a value, and the id in it can be stored: a
replacement character in it may stand for half a character, which no row can hold. -/
structure Legible (r : Http.Response) : Prop where
  text : HasText r
  read : ∀ container, Json.readBytes r.body ≠ .error (.tooNested container)
  nested : ∀ v, Json.readBytes r.body = .ok v → v.depth ≤ 500
  id : ∀ fields jobId, Json.readBytes r.body = .ok (.obj fields) →
    Engine.memberText "id" fields = some jobId → Text.replacementChar ∉ jobId.toList

/-- Storage fails only as storage does, an exchange of requests has an outcome, and the answers can
be read. -/
structure Surroundings.Regular (e : Surroundings σ) : Prop where
  upload : ∀ content path, FailsOnly (fun f => ∃ error, f = .report error ∧ error.kind = .storage)
    (e.upload content path)
  fetch : ∀ request o, (e.fetch request).Ensures o
    (fun outcome _ => ∀ r, outcome = .answered r → HasText r) fun _ _ => False
  exchange : ∀ request o, (e.exchange request).Ensures o
    (fun outcome _ => ∀ r, outcome = .answered r → Legible r) fun _ _ => False

/-- The URLs that a generator asks for a source and with a submission can be asked. -/
structure Generator.Reaches (g : Generator) : Prop where
  source : ∀ text, g.workflowUrl = some text → text ≠ "" → Reachable (Workflow.sourceUrl text)
  submission : Reachable (g.engine.url (g.engine.workflowsPath ""))

theorem target_reachable {url : Except Http.UrlFault Http.Url} (reachable : Reachable url) (o : σ) :
    (Engine.target url : Action σ Http.Url).Ensures o
      (fun u _ => Http.hasType u.text.toList = true) (fun f _ => f.IsAccounted) := by
  obtain ⟨u, rfl, host, type⟩ := reachable
  simp only [Engine.target, host]
  exact ensures_pure type

theorem send_typed {x : Engine.Exchange σ} {request : Http.Request} {o : σ}
    {Q : Http.Outcome → Prop} (exchanged : (x request).Ensures o (fun outcome _ => Q outcome)
      fun _ _ => False) (type : Http.hasType request.url.text.toList = true) :
    (Engine.send x request).Ensures o (fun outcome _ => Q outcome) fun f _ => f.IsAccounted := by
  refine (exchanged.mono (fun _ _ h => h) fun _ _ no => False.elim no).bind ?_
  intro outcome o' is
  cases outcome with
  | failed description => exact ensures_pure is
  | answered r =>
    simp only [if_pos type]
    exact ensures_pure is

theorem readAnswer_accounted {path : String} {outcome : Http.Outcome}
    (legible : ∀ r, outcome = .answered r → Legible r) {f : Failure}
    (failed : Engine.readAnswer path outcome = .error f) : f.IsAccounted := by
  cases outcome with
  | failed description =>
    cases failed
    exact ⟨_, rfl⟩
  | answered r =>
    rw [Engine.readAnswer] at failed
    split at failed
    · cases read : Json.readBytes r.body with
      | error fault =>
        rw [read] at failed
        cases fault with
        | tooNested container => exact absurd read ((legible r rfl).read container)
        | _ =>
          cases failed
          exact ⟨_, rfl⟩
      | ok v =>
        rw [read] at failed
        cases v with
        | obj fields => cases failed
        | _ =>
          cases failed
          exact ⟨_, rfl⟩
    · obtain ⟨text, known, -⟩ := (legible r rfl).text
      rw [known] at failed
      cases failed
      exact ⟨_, rfl⟩

theorem readSource_accounted {text : String} {sent : Http.Url} {outcome : Http.Outcome}
    (readable : ∀ r, outcome = .answered r → HasText r) {f : Failure}
    (failed : Workflow.readSource text sent outcome = .error f) : f.IsAccounted := by
  cases outcome with
  | failed description =>
    cases failed
    exact ⟨_, rfl⟩
  | answered r =>
    rw [Workflow.readSource] at failed
    split at failed
    · obtain ⟨source, known, -⟩ := readable r rfl
      rw [known] at failed
      cases failed
    · cases failed
      exact ⟨_, rfl⟩

theorem checked_accounted (source : String) :
    FailsOnly Failure.IsAccounted (Workflow.checked source : Action σ String) := by
  rw [Workflow.checked]
  cases Workflow.validate source with
  | error fault => exact failsOnly_throw ⟨_, rfl⟩
  | ok s => exact failsOnly_pure s

section Calls

variable {e : Surroundings σ} {g : Generator} (regular : e.Regular)
include regular

theorem call_accounted {endpoint : Engine.Endpoint} {path : String}
    {request : Http.Url → Http.Request} (own : ∀ url, (request url).url = url)
    (reachable : Reachable (endpoint.url path)) :
    FailsOnly Failure.IsAccounted (endpoint.call e.exchange path request) := by
  intro o
  refine (target_reachable reachable o).bind fun url o₁ type => ?_
  refine (send_typed (regular.exchange (request url) o₁) (by rwa [own])).bind ?_
  intro outcome o₂ legible
  cases read : Engine.readAnswer path outcome with
  | error f => exact ensures_throw (readAnswer_accounted legible read)
  | ok fields => exact ensures_pure trivial

theorem submit_accounted (reaches : g.Reaches) (source : String) (inputs : Json.Fields) :
    FailsOnly Failure.IsAccounted (g.engine.submit e.exchange source inputs) := by
  refine (call_accounted regular (fun _ => rfl) reaches.submission).bind fun fields => ?_
  cases Engine.readSubmission fields with
  | error fault => exact failsOnly_throw ⟨_, rfl⟩
  | ok submission => exact failsOnly_pure submission

theorem resolve_accounted (reaches : g.Reaches) :
    FailsOnly Failure.IsAccounted (Workflow.resolve e.fetch g.workflowUrl) := by
  cases given : g.workflowUrl with
  | none =>
    simp only [Workflow.resolve]
    exact checked_accounted Workflow.packagedSource
  | some text =>
    simp only [Workflow.resolve]
    split
    · exact checked_accounted Workflow.packagedSource
    · rename_i named
      have reachable := reaches.source text given (by simpa using named)
      intro o
      refine (target_reachable reachable o).bind fun url o₁ type => ?_
      refine (send_typed (regular.fetch (.get url) o₁) type).bind ?_
      intro outcome o₂ readable
      cases read : Workflow.readSource text url outcome with
      | error failure => exact ensures_throw (readSource_accounted readable read)
      | ok source => exact checked_accounted source o₂

theorem launch_accounted (reaches : g.Reaches) (d : Draft) :
    FailsOnly Failure.IsAccounted (e.launch g d) := by
  have sent : FailsOnly Failure.IsAccounted (e.sendUp g d) := by
    refine ((regular.upload d.content d.path).mono ?_).bind fun location => ?_
    · rintro _ ⟨error, rfl, -⟩
      exact ⟨error, rfl⟩
    · rw [jobInputs]
      cases Workflow.buildInputs g.namespaced location g.image d.config with
      | error fault => exact failsOnly_throw ⟨_, rfl⟩
      | ok inputs => exact failsOnly_pure inputs
  exact sent.bind fun inputs => (resolve_accounted regular reaches).bind fun source =>
    submit_accounted regular reaches source inputs

/-! ## The calls -/

/-- A creation succeeds or it is accounted for that it does not. -/
theorem create_accounted (reaches : g.Reaches) {runId : String} (reportId : String)
    (createdBy : Option String) (deleteFailed : Bool) {w : World σ}
    (writable : Writable runId w.session.view) :
    (create e.services g runId reportId createdBy deleteFailed).Ensures w (fun _ _ => True)
      (fun f _ => f.IsAccounted) := by
  rw [create_services]
  refine (orRollbackWorld_ensures (E := fun f _ => f.IsAccounted) (accessing_ensures
    (E := fun f _ => f.IsTellable) ?_ (fun fault _ _ => ⟨_, rfl⟩) ?_)).mono (fun _ _ h => h) ?_
  · refine ((prepare_accounted reportId deleteFailed writable).within.mono (fun _ _ h => h)
      ?_).bind ?_
    · rintro f _ ⟨_, accounted, -⟩
      exact Or.inl accounted
    intro d w₁ _
    refine (((launch_accounted regular reaches d).mono fun _ => tellable).within w₁).bind ?_
    intro submission w₂ _
    refine (failsOnly_get w₂).bind fun w₃ _ _ => ?_
    exact (failsOnly_keep _ _ _ _ _).within _
  · rintro f t other (accounted | ⟨fault, same⟩)
    · exact accounted
    · exact absurd same (other fault)
  · rintro f _ ⟨_, accounted, -⟩
    exact accounted

/-- Reports are created one after another, and the rows let the run be shown throughout. -/
theorem createEach_accounted (reaches : g.Reaches) (run : Run.Snapshot) (reportIds : List String)
    {w : World σ} (nothing : w.session.pending = []) (keys : w.session.committed.KeysDistinct)
    (writable : Writable run.runId w.session.committed) :
    (createEach e.services g run reportIds).Ensures w (fun _ _ => True)
      (fun f _ => f.IsAccounted) := by
  induction reportIds generalizing w with
  | nil => exact ensures_pure trivial
  | cons reportId rest ih =>
    obtain ⟨⟨t, cs, refusal, trouble⟩, o⟩ := w
    obtain rfl : cs = [] := nothing
    have rows := create_ensures e g run.runId reportId run.createdBy false keys refusal trouble o
      (Q := fun _ _ _ => True) (E := fun _ _ => True) fun d _ =>
        (ensures_run (e.launch g d) o).mono (fun _ _ _ => trivial) fun _ _ _ => trivial
    refine (rows.failing (create_accounted regular reaches reportId run.createdBy false
      writable)).bind ?_
    rintro record w₁ ⟨-, -, free, committed, pending⟩
    refine (ih pending ?_ ?_).bind fun _ _ _ => ensures_pure trivial
    · rw [committed]
      refine Tables.KeysDistinct.withRecord ?_ free
      exact keys.sublist (List.filter_sublist.map RunReport.id)
    · rw [committed]
      exact writable.of_runs rfl rfl

theorem createAll_accounted (reaches : g.Reaches) (run : Run.Snapshot) {w : World σ}
    (nothing : w.session.pending = []) (keys : w.session.committed.KeysDistinct)
    (writable : Writable run.runId w.session.committed) :
    (createAll e.services g run).Ensures w (fun _ _ => True) (fun f _ => f.IsAccounted) := by
  refine (((quiet_listMapped run.testId w.session).failing
    (failsOnly_listMapped run.testId w.session)).within.mono (fun _ _ h => h) ?_).bind ?_
  · rintro f _ ⟨_, accounted, -⟩
    exact accounted
  · rintro reportIds _ ⟨s, kept, rfl⟩
    refine createEach_accounted regular reaches run reportIds (kept.pending.trans nothing) ?_ ?_
    · rwa [kept.committed]
    · rwa [kept.committed]

/-- The engine can be asked about the job of the current record, if it is to be. -/
def JobReachable (g : Generator) (runId reportId : String) (t : Tables) : Prop :=
  ∀ record jobId, current? (recordsOf runId reportId t) = some record →
    openJob? record = some jobId →
    Reachable (g.engine.url (g.engine.workflowsPath ("/" ++ jobId ++ "/status"))) ∧
      Reachable (g.engine.url (g.engine.workflowsPath ("/" ++ jobId ++ "/outputs")))

theorem jobState_accounted (jobId : String)
    (status : Reachable (g.engine.url (g.engine.workflowsPath ("/" ++ jobId ++ "/status"))))
    (outputs : Reachable (g.engine.url (g.engine.workflowsPath ("/" ++ jobId ++ "/outputs")))) :
    FailsOnly Failure.IsAccounted (g.engine.jobState e.exchange jobId) := by
  refine (call_accounted regular (fun _ => rfl) status).bind fun fields => ?_
  cases Engine.readStatus jobId fields with
  | error fault => exact failsOnly_throw ⟨_, rfl⟩
  | ok told =>
    dsimp only
    split
    · exact (call_accounted regular (fun _ => rfl) outputs).bind fun _ => failsOnly_pure _
    · exact failsOnly_pure _

theorem refresh_accounted (runId reportId : String) {w : World σ}
    (reachable : JobReachable g runId reportId w.session.view) :
    (refresh e.services g runId reportId).Ensures w (fun _ _ => True)
      (fun f _ => f.IsAccounted) := by
  refine (((find_ensures runId reportId w.session).failing
    (failsOnly_find runId reportId w.session)).within.mono (fun _ _ h => h) ?_).bind ?_
  · rintro f _ ⟨_, accounted, -⟩
    exact accounted
  rintro found _ ⟨s, ⟨same, -⟩, rfl⟩
  cases found with
  | none => exact ensures_throw ⟨_, rfl⟩
  | some record =>
    simp only
    cases asks : openJob? record with
    | none => exact ensures_pure trivial
    | some jobId =>
      obtain ⟨status, outputs⟩ := reachable record jobId same.symm asks
      have outside : g.engine.jobState e.services.exchange jobId =
          onOutside (g.engine.jobState e.exchange jobId) :=
        isPart_outside.jobState e.exchange g.engine jobId
      simp only [outside]
      refine ((jobState_accounted regular jobId status outputs).within _).bind fun state w₁ _ => ?_
      refine (failsOnly_get w₁).bind fun w₂ _ _ => ?_
      exact (failsOnly_settle _ _ _).within _

end Calls

/-- Creation, fan-out and refresh end with a value or with a failure that is accounted for, whatever
is in the rows, whatever storage and the engine do, and whether or not the commit is refused. The
database is taken to be well otherwise: once a record is committed, nothing looks after the reading
of it. -/
theorem failures_accounted (e : Surroundings σ) (regular : e.Regular) (g : Generator)
    (reaches : g.Reaches) (t : Tables) (keys : t.KeysDistinct) (readable : HoldsReadable t)
    (refusal : Option String) (o : σ) :
    (∀ runId reportId createdBy deleteFailed, Presentable runId t →
      (create e.services g runId reportId createdBy deleteFailed).Ensures
        ⟨⟨t, [], refusal, []⟩, o⟩ (fun _ _ => True) (fun f _ => f.IsAccounted)) ∧
    (∀ run, Presentable run.runId t →
      (createAll e.services g run).Ensures ⟨⟨t, [], refusal, []⟩, o⟩ (fun _ _ => True)
        (fun f _ => f.IsAccounted)) ∧
    ∀ runId reportId, JobReachable g runId reportId t →
      (refresh e.services g runId reportId).Ensures ⟨⟨t, [], refusal, []⟩, o⟩
        (fun _ _ => True) (fun f _ => f.IsAccounted) := by
  refine ⟨?_, ?_, ?_⟩
  · intro runId reportId createdBy deleteFailed presentable
    exact create_accounted regular reaches reportId createdBy deleteFailed
      (presentable.writable readable)
  · intro run presentable
    exact createAll_accounted regular reaches run rfl keys (presentable.writable readable)
  · intro runId reportId reachable
    exact refresh_accounted regular runId reportId reachable

theorem hasText_answer (status : Int) (body : List UInt8) (foreign : Except String String) :
    HasText ⟨status, body, none, foreign⟩ :=
  ⟨_, rfl, fun unknown => by cases unknown⟩

def twoTexts? : Json → Option ((String × String) × String × String)
  | .obj [(n, .str a), (m, .str b)] => some ((n, a), m, b)
  | _ => none

theorem eq_of_twoTexts? {v : Json} {n a m b : String}
    (two : twoTexts? v = some ((n, a), m, b)) : v = .obj [(n, .str a), (m, .str b)] := by
  unfold twoTexts? at two
  split at two
  · cases two
    rfl
  · cases two

theorem readBytes_accept {r : Http.Response}
    (is : Rehearsal.Server.fresh.accept.1 = .answered r) :
    Json.readBytes r.body = .ok (.obj [("id", .str "job-1"), ("status", .str "Submitted")]) := by
  have body : r.body = Text.utf8 (Json.obj [("id", .str ("job-" ++ toString (0 + 1))),
      ("status", .str "Submitted")]).compact := by
    obtain rfl := Http.Outcome.answered.inj is
    rfl
  have texts : (Json.readBytes (Text.utf8 (Json.obj [("id", .str ("job-" ++ toString (0 + 1))),
      ("status", .str "Submitted")]).compact)).toOption.bind twoTexts? =
        some (("id", "job-1"), "status", "Submitted") := by
    decide +kernel
  rw [← body] at texts
  cases read : Json.readBytes r.body with
  | error fault =>
    rw [read] at texts
    cases texts
  | ok v =>
    rw [read] at texts
    rw [eq_of_twoTexts? texts]

theorem obliging_regular : obliging.Regular where
  upload _ _ := failsOnly_pure _
  fetch _ _ := ensures_pure (by
    rintro _ ⟨⟩
    exact hasText_answer _ _ _)
  exchange _ _ := ensures_pure (by
    intro r is
    have value := readBytes_accept is
    obtain rfl := Http.Outcome.answered.inj is
    refine ⟨hasText_answer _ _ _, ?_, ?_, ?_⟩
    · intro container nested
      cases value.symm.trans nested
    · intro v again
      obtain rfl := Except.ok.inj (value.symm.trans again)
      decide
    · intro fields jobId again id
      cases value.symm.trans again
      obtain rfl : "job-1" = jobId := Option.some.inj id
      decide)

theorem reachable_iff {url : Except Http.UrlFault Http.Url} : Reachable url ↔
    (url.toOption.any fun u => u.hostFault?.isNone && Http.hasType u.text.toList) = true := by
  cases url <;> simp [Reachable, Except.toOption]

theorem simpleGenerator_reaches : simpleGenerator.Reaches where
  source _ given := by cases given
  submission := reachable_iff.mpr (by decide +kernel)

theorem failedOnce_presentable : Presentable "run" failedOnce := by
  refine ⟨?_, fun run is => ?_⟩
  · intro row member _
    obtain rfl := List.mem_singleton.mp member
    exact ⟨⟨[], rfl, by simp⟩, [], rfl, by simp⟩
  · have shallow : ((runOf "run" failedOnce).toOption.all fun run => run.toJson.isShallow) =
        true := by decide +kernel
    rw [is] at shallow
    exact shallow

theorem failedOnce_readable : HoldsReadable failedOnce where
  inputs row there := by
    obtain rfl := List.mem_singleton.mp there
    exact ⟨⟨by decide, by decide⟩, ⟨by decide, by decide⟩⟩
  results row there := by cases there
  definitions row there := by
    obtain rfl := List.mem_singleton.mp there
    exact ⟨⟨by decide, by decide⟩, ⟨by decide, by decide⟩⟩
  records r there := by
    obtain rfl := List.mem_singleton.mp there
    exact ⟨by decide, by decide⟩

/-- The same run and report, with a record whose job is under way. -/
def underWay : Tables :=
  { failedOnce with
    runReports := failedOnce.runReports.map fun r =>
      { r with status := .submitted, finishedAt := none } }

theorem underWay_readable : HoldsReadable underWay where
  inputs := failedOnce_readable.inputs
  results := failedOnce_readable.results
  definitions := failedOnce_readable.definitions
  records r there := by
    obtain rfl := List.mem_singleton.mp there
    exact ⟨by decide, by decide⟩

theorem underWay_jobReachable : JobReachable simpleGenerator "run" "report" underWay := by
  intro record jobId current asks
  have job : (current? (recordsOf "run" "report" underWay)).bind openJob? = some "job" := rfl
  rw [current, Option.bind_some, asks] at job
  obtain rfl := Option.some.inj job
  exact ⟨reachable_iff.mpr (by decide +kernel), reachable_iff.mpr (by decide +kernel)⟩

/-- A creation in the place of a failed record, whose commit is refused, and a refresh of a job
under way. -/
theorem failures_accounted_underWay :
    obliging.Regular ∧ simpleGenerator.Reaches ∧ failedOnce.KeysDistinct ∧ underWay.KeysDistinct ∧
      HoldsReadable failedOnce ∧ HoldsReadable underWay ∧ Presentable "run" failedOnce ∧
      JobReachable simpleGenerator "run" "report" underWay ∧
      (create obliging.services simpleGenerator "run" "report" none true).Ensures
        ⟨⟨failedOnce, [], some "disk full", []⟩, ()⟩ (fun _ _ => True) (fun f _ => f.IsAccounted) ∧
      (refresh obliging.services simpleGenerator "run" "report").Ensures
        ⟨⟨underWay, [], none, []⟩, ()⟩ (fun _ _ => True) (fun f _ => f.IsAccounted) :=
  have keys : underWay.KeysDistinct := failedOnce_keysDistinct
  ⟨obliging_regular, simpleGenerator_reaches, failedOnce_keysDistinct, keys, failedOnce_readable,
    underWay_readable, failedOnce_presentable, underWay_jobReachable,
    (failures_accounted obliging obliging_regular simpleGenerator simpleGenerator_reaches failedOnce
      failedOnce_keysDistinct failedOnce_readable (some "disk full") ()).1 "run" "report" none true
      failedOnce_presentable,
    (failures_accounted obliging obliging_regular simpleGenerator simpleGenerator_reaches underWay
      keys underWay_readable none ()).2.2 "run" "report" underWay_jobReachable⟩

def numbered : Tables :=
  { failedOnce with
    runs := failedOnce.runs.map fun r => { r with testInput := .int 5 }
    runReports := [] }

/-- A number stands for no members, and nothing accounts for that. -/
theorem create_unaccounted :
    numbered.KeysDistinct ∧
      ((create obliging.services simpleGenerator "run" "report" none false).run
        ⟨Session.on numbered, ()⟩).1 = .error (.wrongForm "'int' object is not iterable") ∧
      ¬ (Failure.wrongForm "'int' object is not iterable").IsAccounted :=
  ⟨List.nodup_nil, rfl, fun ⟨_, same⟩ => by cases same⟩

end Report

end RunReports
