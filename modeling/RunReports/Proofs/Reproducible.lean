import RunReports.Proofs.Effects
import RunReports.Proofs.Refreshing

/-!
# Live reports stay reproducible

A report is made from the notebook and the configuration that its definition has at that time.
As long as the record of the report has not failed, the definition keeps them: a revision leaves
them alone while any record of the report is live, failure is final, and nothing but a creation
adds a record. So whatever is called, and in whatever order, the stored notebook and configuration
of a live record are those that its creation has read.
-/
namespace RunReports.Report

open RunReports RunReports.Action RunReports.Store RunReports.Store.Session

variable {σ α : Type}

def Executes (t : Tables) (reportId : String) (notebook config : Json) : Prop :=
  ∃ template, templateOf reportId t = .ok template ∧ template.notebook = notebook ∧
    template.config = config

theorem templateOf_congr {t t' : Tables} (same : t'.reports = t.reports) (reportId : String) :
    templateOf reportId t' = templateOf reportId t := by
  rw [templateOf, templateOf, definitionOf, definitionOf, same]

theorem executes_congr {t t' : Tables} (same : t'.reports = t.reports) {reportId : String}
    {notebook config : Json} :
    Executes t' reportId notebook config ↔ Executes t reportId notebook config := by
  rw [Executes, Executes, templateOf_congr same]

theorem executes_iff {t : Tables} {reportId : String} {notebook config : Json} :
    Executes t reportId notebook config ↔
      ∃ row, (t.reports.find? fun r => r.id == reportId) = some row ∧ row.notebook = notebook ∧
        row.config = config := by
  rw [Executes, templateOf, definitionOf]
  cases t.reports.find? fun r => r.id == reportId with
  | none =>
    constructor
    · rintro ⟨template, no, -⟩
      cases no
    · rintro ⟨row, no, -⟩
      cases no
  | some row =>
    constructor
    · rintro ⟨template, read, rfl, rfl⟩
      cases read
      exact ⟨row, rfl, rfl, rfl⟩
    · rintro ⟨row', same, rfl, rfl⟩
      cases same
      exact ⟨_, rfl, rfl, rfl⟩

/-- What a draft is made of can be read. -/
theorem executes_of_draft {runId reportId : String} {t : Tables} {d : Draft}
    (made : draftOf runId reportId t = .ok d) :
    ∃ notebook config, Executes t reportId notebook config := by
  cases read : templateOf reportId t with
  | ok template => exact ⟨_, _, template, read, rfl, rfl⟩
  | error f =>
    rw [draftOf, read] at made
    cases ran : runOf runId t <;> rw [ran] at made <;> cases made

section Refreshes

/-- Nothing is pending, the definitions are as they were, and so are the ids of the records. -/
structure Framed (t : Tables) (s : Session) : Prop where
  pending : s.pending = []
  reports : s.committed.reports = t.reports
  ids : s.committed.runReports.map RunReport.id = t.runReports.map RunReport.id

variable {t : Tables} {w : World σ} (e : Surroundings σ) (g : Generator) (runId : String)

theorem refresh_framed (reportId : String) (framed : Framed t w.session) :
    (refresh e.services g runId reportId).Ensures w (fun _ w' => Framed t w'.session)
      fun _ w' => Framed t w'.session := by
  have frames : ∀ w' : World σ, (w'.session.pending = [] ∧
      (w'.session.committed = w.session.committed ∨
        ∃ id p, w'.session.committed = (Change.advance id p).apply w.session.committed)) →
      Framed t w'.session := by
    rintro w' ⟨pending, same | ⟨id, p, written⟩⟩
    · exact ⟨pending, by rw [same, framed.reports], by rw [same, framed.ids]⟩
    · refine ⟨pending, ?_, ?_⟩
      · rw [written, ← framed.reports]
        rfl
      · rw [written, Tables.map_id_advance, framed.ids]
  exact (refresh_written g runId reportId e framed.pending).mono (fun _ w' h => frames w' h)
    fun _ w' h => frames w' h

theorem refreshEach_framed (reportIds : List String) (framed : Framed t w.session) :
    (refreshEach e.services g runId reportIds).Ensures w (fun _ w' => Framed t w'.session)
      fun _ w' => Framed t w'.session := by
  induction reportIds generalizing w with
  | nil => exact ensures_pure framed
  | cons reportId rest ih =>
    refine (refresh_framed e g runId reportId framed).bind fun record w' framed => ?_
    exact (ih framed).bind fun records w'' framed => ensures_pure framed

theorem refreshAll_framed (framed : Framed t w.session) :
    (refreshAll e.services g runId).Ensures w (fun _ w' => Framed t w'.session)
      fun _ w' => Framed t w'.session := by
  have kept : ∀ s, Keeps w.session s → Framed t s := fun s kept =>
    ⟨kept.pending.trans framed.pending, by rw [kept.committed, framed.reports],
      by rw [kept.committed, framed.ids]⟩
  refine ((quiet_read .runReports (.runReportsOfRun runId) (reportsOfRun runId)
    w.session).within.mono (fun _ _ h => h) ?_).bind ?_
  · rintro f _ ⟨s, same, rfl⟩
    exact kept s same
  · rintro reportIds _ ⟨s, same, rfl⟩
    exact refreshEach_framed e g runId reportIds (kept s same)

/-- Where no id is new, every record is an earlier one that has lived on. -/
theorem Framed.stems {s : Session} (framed : Framed t s) (evolves : Evolves nobody t s.committed)
    {q : RunReport} (member : q ∈ s.committed.runReports) :
    ∃ r ∈ t.runReports, Continues r q := by
  have id : q.id ∈ t.runReports.map RunReport.id := by
    rw [← framed.ids]
    exact List.mem_map_of_mem member
  obtain ⟨r, there, same⟩ := List.mem_map.mp id
  rcases evolves.livesOn r there with no | ⟨p, stays, goesOn⟩
  · exact False.elim no
  · have only : p = q := evolves.sound.keys.eq_of_id stays member (goesOn.id.trans same)
    exact ⟨r, there, only ▸ goesOn⟩

end Refreshes

section Creations

/-- In a row of creations on a run, one that begins in a given world makes a record. -/
inductive MakesEach (s : Services σ) (g : Generator) (run : Run.Snapshot) :
    List String → World σ → World σ → RunReport → Prop
  | first (reportId : String) (rest : List String) (w w' : World σ) (q : RunReport)
      (made : (create s g run.runId reportId run.createdBy false).run w = (.ok q, w')) :
      MakesEach s g run (reportId :: rest) w w q
  | later (reportId : String) (rest : List String) (w w' w₀ : World σ) (p q : RunReport)
      (made : (create s g run.runId reportId run.createdBy false).run w = (.ok p, w'))
      (makes : MakesEach s g run rest w' w₀ q) : MakesEach s g run (reportId :: rest) w w₀ q

/-- In the course of a task, a creation that begins in a given world makes a record. -/
inductive Task.Makes (s : Services σ) (g : Generator) :
    Task → World σ → World σ → RunReport → Prop
  | create (runId reportId : String) (createdBy : Option String) (deleteFailed : Bool)
      (w w' : World σ) (q : RunReport)
      (made : (Report.create s g runId reportId createdBy deleteFailed).run w = (.ok q, w')) :
      Makes s g (.create runId reportId createdBy deleteFailed) w w q
  | createAll (run : Run.Snapshot) (reportIds : List String) (w w' w₀ : World σ) (q : RunReport)
      (listed : (onSession (listMapped run.testId)).run w = (.ok reportIds, w'))
      (makes : MakesEach s g run reportIds w' w₀ q) : Makes s g (.createAll run) w w₀ q

/-- A creation in a given world can read the definition of the report, which is as it was. -/
structure ReadsFrom (t : Tables) (w₀ : World σ) (q : RunReport) : Prop where
  reports : w₀.session.view.reports = t.reports
  reads : ∃ notebook config, Executes w₀.session.view q.reportId notebook config

/-- Nothing is pending, the definitions are as they were, and each record was there or has been
made. -/
structure Grown (made : RunReport → Prop) (t : Tables) (s : Session) : Prop where
  pending : s.pending = []
  reports : s.committed.reports = t.reports
  origin : ∀ q ∈ s.committed.runReports, q ∈ t.runReports ∨ made q

theorem Grown.refl {s : Session} (nothing : s.pending = []) (made : RunReport → Prop) :
    Grown made s.committed s := ⟨nothing, rfl, fun _ member => Or.inl member⟩

theorem Grown.mono {made made' : RunReport → Prop} {t : Tables} {s : Session}
    (h : Grown made t s) (more : ∀ q, made q → made' q) : Grown made' t s :=
  ⟨h.pending, h.reports, fun q member => (h.origin q member).imp_right (more q)⟩

theorem Grown.trans {made : RunReport → Prop} {t : Tables} {s s' : Session}
    (h : Grown made t s) (k : Grown made s.committed s') : Grown made t s' where
  pending := k.pending
  reports := k.reports.trans h.reports
  origin q member := (k.origin q member).elim (h.origin q) Or.inr

variable {w : World σ} (e : Surroundings σ) (g : Generator)

/-- A creation adds the record that it returns, whose definition it has read, or nothing. -/
theorem create_grown (runId reportId : String) (createdBy : Option String) (deleteFailed : Bool)
    (nothing : w.session.pending = []) (keys : w.session.committed.KeysDistinct) :
    (create e.services g runId reportId createdBy deleteFailed).Ensures w
      (fun p w' => Grown (fun q => q = p) w.session.committed w'.session ∧
        ReadsFrom w.session.committed w p)
      (fun _ w' => Grown (fun _ => False) w.session.committed w'.session) := by
  obtain ⟨⟨t, cs, refusal, trouble⟩, o⟩ := w
  have none : cs = [] := nothing
  subst none
  refine (create_ensures e g runId reportId createdBy deleteFailed keys refusal trouble o
    fun d _ => (ensures_run (e.launch g d) o).mono (fun _ _ _ => trivial)
      fun _ _ _ => trivial).mono ?_ ?_
  · rintro p w' ⟨-, ⟨d, submission, made, -, submitted⟩, -, committed, pending⟩
    refine ⟨⟨pending, by rw [committed]; rfl, fun q member => ?_⟩, rfl, ?_⟩
    · rw [committed] at member
      rcases List.mem_append.mp member with old | new
      · exact Or.inl (List.mem_filter.mp old).1
      · exact Or.inr (List.mem_singleton.mp new)
    · rw [submitted.reportId]
      exact executes_of_draft made
  · rintro f w' ⟨committed, pending, -⟩
    exact ⟨pending, by rw [committed], fun q member => Or.inl (committed ▸ member)⟩

/-- The records that a row of creations makes, from definitions that are as they were. -/
def MadeByEach (run : Run.Snapshot) (reportIds : List String) (w : World σ) (q : RunReport) :
    Prop :=
  ∃ w₀, MakesEach e.services g run reportIds w w₀ q ∧ ReadsFrom w.session.committed w₀ q

theorem createEach_grown (run : Run.Snapshot) (reportIds : List String) {t : Tables}
    (settled : Settles nobody t w.session) :
    (createEach e.services g run reportIds).Ensures w
      (fun _ w' => Grown (MadeByEach e g run reportIds w) w.session.committed w'.session)
      (fun _ w' => Grown (MadeByEach e g run reportIds w) w.session.committed w'.session) := by
  induction reportIds generalizing w with
  | nil => exact ensures_pure (Grown.refl settled.pending _)
  | cons reportId rest ih =>
    have grows := create_grown e g run.runId reportId run.createdBy false settled.pending
      settled.evolves.sound.keys
    refine ((ensures_run _ w).mono (fun _ _ h => h) ?_).bind ?_
    · intro f w' ran
      exact (grows.error ran).mono fun q no => False.elim no
    · intro p w' ran
      obtain ⟨grown, reads⟩ := grows.ok ran
      have settled' := settled.then_created ((create_settles e g run.runId reportId run.createdBy
        false settled.pending settled.evolves.sound).ok ran)
      have firstly : Grown (MadeByEach e g run (reportId :: rest) w) w.session.committed
          w'.session := by
        refine grown.mono fun q same => ?_
        rw [same]
        exact ⟨w, .first reportId rest w w' p ran, reads⟩
      have thenMore : ∀ s, Grown (MadeByEach e g run rest w') w'.session.committed s →
          Grown (MadeByEach e g run (reportId :: rest) w) w.session.committed s := by
        intro s more
        refine firstly.trans (more.mono ?_)
        rintro q ⟨w₀, makes, reads'⟩
        exact ⟨w₀, .later reportId rest w w' w₀ p q ran makes,
          reads'.reports.trans grown.reports, reads'.reads⟩
      refine ((ih settled').mono (fun _ _ more => thenMore _ more)
        fun _ _ more => thenMore _ more).bind ?_
      intro records w'' more
      exact ensures_pure more

end Creations

section Events

def Event.world (ev : Event σ) (t : Tables) : World σ :=
  ⟨⟨t, [], ev.refusal, ev.trouble⟩, ev.outside⟩

/-- The records that a task makes, from definitions that are as they were. -/
def Task.Made (task : Task) (e : Surroundings σ) (g : Generator) (w : World σ) (q : RunReport) :
    Prop :=
  ∃ w₀, task.Makes e.services g w w₀ q ∧ ReadsFrom w.session.committed w₀ q

variable {w : World σ} (e : Surroundings σ) (g : Generator)

theorem createAll_grown (run : Run.Snapshot) {t : Tables} (settled : Settles nobody t w.session) :
    (createAll e.services g run).Ensures w
      (fun _ w' => Grown ((Task.createAll run).Made e g w) w.session.committed w'.session)
      (fun _ w' => Grown ((Task.createAll run).Made e g w) w.session.committed w'.session) := by
  have quiet : (onSession (listMapped run.testId) : Action (World σ) _).Ensures w
      (fun _ w' => Keeps w.session w'.session) (fun _ w' => Keeps w.session w'.session) := by
    refine (quiet_listMapped run.testId w.session).within.mono ?_ ?_
    · rintro _ _ ⟨s, kept, rfl⟩
      exact kept
    · rintro _ _ ⟨s, kept, rfl⟩
      exact kept
  have unchanged : ∀ s, Keeps w.session s → ∀ made, Grown made w.session.committed s :=
    fun s kept made => kept.committed ▸ Grown.refl (kept.pending.trans settled.pending) made
  refine ((ensures_run _ w).mono (fun _ _ h => h) ?_).bind ?_
  · intro f w' ran
    exact unchanged _ (quiet.error ran) _
  · intro reportIds w' ran
    have kept := quiet.ok ran
    have more : ∀ s, Grown (MadeByEach e g run reportIds w') w'.session.committed s →
        Grown ((Task.createAll run).Made e g w) w.session.committed s := by
      intro s grown
      refine (unchanged _ kept _).trans (grown.mono ?_)
      rintro q ⟨w₀, makes, reads⟩
      exact ⟨w₀, .createAll run reportIds w w' w₀ q ran makes,
        by rw [reads.reports, kept.committed], reads.reads⟩
    exact (createEach_grown e g run reportIds (settled.of_keeps kept)).mono
      (fun _ _ h => more _ h) fun _ _ h => more _ h

/-- What is so after a task: each record is an earlier one that has lived on or was made by the
task, and the definition of a live one executes what it did before the task. -/
structure Follows (task : Task) (e : Surroundings σ) (g : Generator) (w : World σ) (s : Session) :
    Prop where
  origin : ∀ q ∈ s.committed.runReports,
    (∃ r ∈ w.session.committed.runReports, Continues r q) ∨ task.Made e g w q
  frozen : ∀ q ∈ s.committed.runReports, q.isLive = true → ∀ notebook config,
    Executes w.session.committed q.reportId notebook config →
      Executes s.committed q.reportId notebook config

theorem Grown.follows {task : Task} {s : Session}
    (grown : Grown (task.Made e g w) w.session.committed s) : Follows task e g w s where
  origin q member :=
    (grown.origin q member).imp_left fun there => ⟨q, there, Continues.refl q⟩
  frozen _ _ _ _ _ := (executes_congr grown.reports).mpr

theorem Framed.follows {task : Task} {s : Session} (framed : Framed w.session.committed s)
    (settled : Settles nobody w.session.committed s) : Follows task e g w s where
  origin _ member := Or.inl (framed.stems settled.evolves member)
  frozen _ _ _ _ _ := (executes_congr framed.reports).mpr

theorem find?_patch (t : Tables) (id reportId : String) (p : ReportPatch) :
    ((Change.patchReport id p).apply t).reports.find? (fun row => row.id == reportId) =
      (t.reports.find? fun row => row.id == reportId).map fun row =>
        if row.id = id then row.patch p else row := by
  have same : ((fun row : ReportRow => row.id == reportId) ∘ fun row =>
      if row.id = id then row.patch p else row) = fun row => row.id == reportId := by
    funext row
    simp only [Function.comp_apply]
    split <;> rfl
  rw [Change.apply, List.find?_map, same]

/-- A patch leaves the notebook and the configuration of a definition alone if it is one of another
definition, or gives neither. -/
theorem executes_patch {t : Tables} {id reportId : String} {p : ReportPatch}
    {notebook config : Json} (spares : reportId ≠ id ∨ (p.notebook = none ∧ p.config = none))
    (executes : Executes t reportId notebook config) :
    Executes ((Change.patchReport id p).apply t) reportId notebook config := by
  rw [executes_iff] at executes ⊢
  obtain ⟨row, found, rfl, rfl⟩ := executes
  refine ⟨if row.id = id then row.patch p else row, by rw [find?_patch, found, Option.map_some], ?_⟩
  have about : row.id = reportId := by simpa using List.find?_some found
  by_cases patched : row.id = id
  · rcases spares with other | ⟨notebook, config⟩
    · exact False.elim (other (about.symm.trans patched))
    · simp [patched, ReportRow.patch, notebook, config]
  · simp [patched]

theorem Revised.follows {task : Task} {reportId : String} {s : Session}
    (revised : Revised reportId w.session.committed s) : Follows task e g w s := by
  rcases revised.committed with same | ⟨p, patched, parts⟩
  · constructor
    · intro q member
      rw [same] at member
      exact Or.inl ⟨q, member, Continues.refl q⟩
    · intro q _ _ notebook config executes
      rwa [same]
  · have records : s.committed.runReports = w.session.committed.runReports := by
      rw [patched]
      rfl
    constructor
    · intro q member
      rw [records] at member
      exact Or.inl ⟨q, member, Continues.refl q⟩
    · intro q member live notebook config executes
      rw [patched]
      refine executes_patch ?_ executes
      rcases parts with neither | dead
      · exact Or.inr neither
      · refine Or.inl fun about => ?_
        rw [records] at member
        rw [dead q member about] at live
        cases live

theorem act_follows (task : Task) (pending : w.session.pending = [])
    (sound : Sound w.session.committed) :
    (task.act e.services g).Ensures w (fun _ w' => Follows task e g w w'.session)
      fun _ w' => Follows task e g w w'.session := by
  have start : Settles nobody w.session.committed w.session := ⟨pending, Evolves.refl sound⟩
  have unmoved : Framed w.session.committed w.session := ⟨pending, rfl, rfl⟩
  cases task with
  | create runId reportId createdBy deleteFailed =>
    have grows := create_grown e g runId reportId createdBy deleteFailed pending sound.keys
    refine ((ensures_run _ w).mono (fun _ _ h => h) ?_).bind ?_
    · intro f w' ran
      exact Grown.follows e g ((grows.error ran).mono fun q no => False.elim no)
    · intro p w' ran
      obtain ⟨grown, reads⟩ := grows.ok ran
      refine ensures_pure (Grown.follows e g (grown.mono ?_))
      intro q same
      rw [same]
      exact ⟨w, .create runId reportId createdBy deleteFailed w w' p ran, reads⟩
  | createAll run =>
    refine ((createAll_grown e g run start).mono (fun _ _ h => h) fun _ _ h => ?_).bind ?_
    · exact Grown.follows e g h
    · intro _ w' h
      exact ensures_pure (Grown.follows e g h)
  | refresh runId reportId =>
    have framed := refresh_framed e g runId reportId unmoved
    have settled := refresh_ensures e g runId reportId start
    refine ((ensures_run _ w).mono (fun _ _ h => h) ?_).bind ?_
    · intro f w' ran
      exact Framed.follows e g (framed.error ran) (settled.error ran)
    · intro _ w' ran
      exact ensures_pure (Framed.follows e g (framed.ok ran) (settled.ok ran))
  | refreshAll runId =>
    have framed := refreshAll_framed e g runId unmoved
    have settled := refreshAll_ensures e g runId start
    refine ((ensures_run _ w).mono (fun _ _ h => h) ?_).bind ?_
    · intro f w' ran
      exact Framed.follows e g (framed.error ran) (settled.error ran)
    · intro _ w' ran
      exact ensures_pure (Framed.follows e g (framed.ok ran) (settled.ok ran))
  | revise reportId revision =>
    refine ((revise_revised reportId revision pending).within.mono (fun _ _ h => h) ?_).bind ?_
    · rintro f _ ⟨s, revised, rfl⟩
      exact Revised.follows e g revised
    · rintro row _ ⟨s, revised, rfl⟩
      exact ensures_pure (Revised.follows e g revised)

theorem event_follows (ev : Event σ) {t : Tables} (sound : Sound t) :
    Follows ev.task ev.surroundings ev.generator (ev.world t) (ev.run t) :=
  Ensures.state
    (P := fun w' : World σ => Follows ev.task ev.surroundings ev.generator (ev.world t) w'.session)
    (act_follows ev.surroundings ev.generator ev.task (w := ev.world t) rfl sound)

end Events

section Histories

/-- A record lives on through events, from what it is at first to what it has become. -/
inductive LivesOn : List (Event σ) → Tables → RunReport → RunReport → Prop
  | here (t : Tables) (r : RunReport) (there : r ∈ t.runReports) : LivesOn [] t r r
  | next (ev : Event σ) (rest : List (Event σ)) (t : Tables) (q r s : RunReport)
      (there : q ∈ t.runReports) (goesOn : Continues q r)
      (later : LivesOn rest (ev.run t).committed r s) : LivesOn (ev :: rest) t q s

theorem LivesOn.snoc {events : List (Event σ)} {ev : Event σ} {t : Tables} {q r r' : RunReport}
    (lives : LivesOn events t q r) (goesOn : Continues r r')
    (there : r' ∈ (ev.run (rowsAfter events t)).committed.runReports) :
    LivesOn (events ++ [ev]) t q r' := by
  induction lives with
  | here t r before => exact .next ev [] t r r' r' before goesOn (.here _ r' there)
  | next ev' rest t p q s before first later ih =>
    exact .next ev' (rest ++ [ev]) t p q r' before first (ih goesOn there)

theorem rowsAfter_snoc (events : List (Event σ)) (ev : Event σ) (t : Tables) :
    rowsAfter (events ++ [ev]) t = (ev.run (rowsAfter events t)).committed := by
  rw [rowsAfter, List.foldl_append]
  rfl

/-- A record was made in the course of an event, with a notebook and a configuration that its
creation has read, and has lived on since; and this notebook and configuration are still stored. -/
def Reproducible (events : List (Event σ)) (t : Tables) (r : RunReport) : Prop :=
  ∃ before ev after w₀ q notebook config, events = before ++ ev :: after ∧
    ev.task.Makes ev.surroundings.services ev.generator (ev.world (rowsAfter before t)) w₀ q ∧
    Executes w₀.session.view q.reportId notebook config ∧
    LivesOn after (rowsAfter (before ++ [ev]) t) q r ∧
    Executes (rowsAfter events t) r.reportId notebook config

/-- Failure is final, so a live record has been live before. -/
theorem Continues.isLive {q r : RunReport} (goesOn : Continues q r) (live : r.isLive = true) :
    q.isLive = true := by
  by_contra dead
  have failed : q.status.isFailure = true := by simpa [RunReport.isLive] using dead
  have final : q.status.isTerminal = true := by simp [ReportStatus.isTerminal, failed]
  rw [goesOn.terminal final] at live
  exact dead live

theorem Reproducible.snoc {events : List (Event σ)} {ev : Event σ} {t : Tables}
    {r r' : RunReport} (before : Reproducible events t r) (goesOn : Continues r r')
    (there : r' ∈ (rowsAfter (events ++ [ev]) t).runReports)
    (frozen : ∀ notebook config, Executes (rowsAfter events t) r'.reportId notebook config →
      Executes (rowsAfter (events ++ [ev]) t) r'.reportId notebook config) :
    Reproducible (events ++ [ev]) t r' := by
  obtain ⟨first, ev₀, later, w₀, q, notebook, config, split, makes, read, lives, stored⟩ := before
  refine ⟨first, ev₀, later ++ [ev], w₀, q, notebook, config, ?_, makes, read, ?_, ?_⟩
  · rw [split, List.append_assoc, List.cons_append]
  · refine lives.snoc goesOn ?_
    rw [rowsAfter_snoc, split] at there
    simpa only [rowsAfter, List.foldl_append, List.foldl_cons, List.foldl_nil] using there
  · rw [← goesOn.reportId] at stored
    exact frozen notebook config stored

/-- Live reports stay reproducible. From a database without records, through any calls in any
order: the notebook and the configuration that are stored for a live record are those that its
creation has read. -/
theorem live_reproducible (t : Tables) (events : List (Event σ)) (r : RunReport)
    (there : r ∈ (rowsAfter events { t with runReports := [] }).runReports)
    (live : r.isLive = true) : Reproducible events { t with runReports := [] } r := by
  generalize start : { t with runReports := [] } = t₀ at there
  have none : t₀.runReports = [] := by rw [← start]
  induction events using List.reverseRecOn generalizing r with
  | nil =>
    rw [rowsAfter, List.foldl_nil, none] at there
    cases there
  | append_singleton events ev ih =>
    have sound : Sound (rowsAfter events t₀) := sound_after events (sound_of_none none)
    have follows := event_follows ev sound
    rw [rowsAfter_snoc] at there
    have frozen : ∀ notebook config, Executes (rowsAfter events t₀) r.reportId notebook config →
        Executes (rowsAfter (events ++ [ev]) t₀) r.reportId notebook config := by
      rw [rowsAfter_snoc]
      exact follows.frozen r there live
    rcases follows.origin r there with ⟨q, before, goesOn⟩ | ⟨w₀, makes, reads⟩
    · refine (ih q (goesOn.isLive live) before).snoc goesOn ?_ frozen
      rwa [rowsAfter_snoc]
    · obtain ⟨notebook, config, read⟩ := reads.reads
      refine ⟨events, ev, [], w₀, r, notebook, config, rfl, makes, read, .here _ r ?_, ?_⟩
      · rwa [rowsAfter_snoc]
      · exact frozen notebook config ((executes_congr reads.reports).mp read)

/-- A report is created, and then its definition is to get another notebook. -/
def createdAndRevised : List (Event Unit) :=
  [⟨.create "run" "report" none false, providing, fetchingGenerator, (), none, []⟩,
    ⟨.revise "report" ⟨none, none, .obj [], .null⟩, providing, fetchingGenerator, (), none, []⟩]

theorem live_reproducible_revised :
    ∃ r ∈ (rowsAfter createdAndRevised { failedOnce with runReports := [] }).runReports,
      r.isLive = true ∧ Reproducible createdAndRevised { failedOnce with runReports := [] } r := by
  have live : (rowsAfter createdAndRevised { failedOnce with runReports := [] }).runReports.any
      RunReport.isLive = true := by decide +kernel
  obtain ⟨r, there, live⟩ := List.any_eq_true.mp live
  exact ⟨r, there, live, live_reproducible failedOnce createdAndRevised r there live⟩

end Histories

end RunReports.Report
