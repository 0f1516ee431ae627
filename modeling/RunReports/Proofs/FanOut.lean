import Mathlib.Data.Prod.Lex
import Mathlib.Data.String.Basic
import RunReports.Proofs.Effects

/-!
# Fan-out

The reports mapped to the template of a finished run are created one after another, the oldest
mapping first, up to the first failure. What has been created before that stays, the failed creation
leaves no row behind, and nothing is done for the mappings after it. A first report that has a
record already, failed or not, stops the whole fan-out before it has done anything, and so a fan-out
that stopped part-way cannot be taken up again. What storage, web, engine and database do is left
open. -/
namespace RunReports.Report

open RunReports RunReports.Action RunReports.Calendar RunReports.Store RunReports.Store.Session

variable {σ : Type}

/-! ## The order of mappings -/

/-- What decides the order of mappings: the moment they were made, then the id of their report. -/
def place (m : MappingRow) : Nat ×ₗ String := toLex (m.createdAt.micros, m.reportId)

/-- The reports mapped to the template of a test, in the order of their mappings. -/
def IsMapped (testId : String) (t : Tables) (reportIds : List String) : Prop :=
  ∃ (test : TestRow) (rows : List MappingRow),
    (t.tests.find? fun r => r.id == testId) = some test ∧
    rows.Perm (t.mappings.filter fun m => m.templateId == test.templateId) ∧
    rows.Pairwise (fun a b => place a ≤ place b) ∧ rows.map MappingRow.reportId = reportIds

variable {testId : String} {t : Tables}

theorem mappedReports_isMapped {test : TestRow}
    (found : (t.tests.find? fun r => r.id == testId) = some test) :
    IsMapped testId t (mappedReports test.templateId t) := by
  let before (a b : MappingRow) : Bool := a.createdAt.micros < b.createdAt.micros ||
    (a.createdAt.micros == b.createdAt.micros && decide (a.reportId ≤ b.reportId))
  have before_iff : ∀ a b, before a b = true ↔ place a ≤ place b := by
    intro a b
    simp [before, place, Prod.Lex.toLex_le_toLex]
  have sorted := List.pairwise_mergeSort
    (fun a b c h k =>
      (before_iff a c).mpr (((before_iff a b).mp h).trans ((before_iff b c).mp k)))
    (fun a b => by
      rw [Bool.or_eq_true, before_iff, before_iff]
      exact le_total (place a) (place b))
    (t.mappings.filter fun m => m.templateId == test.templateId)
  exact ⟨test, _, found, List.mergeSort_perm _ _, sorted.imp (before_iff _ _).mp, rfl⟩

/-- The order leaves no choice. -/
theorem IsMapped.unique {reportIds reportIds' : List String} (h : IsMapped testId t reportIds)
    (k : IsMapped testId t reportIds') : reportIds = reportIds' := by
  obtain ⟨test, rows, found, perm, sorted, rfl⟩ := h
  obtain ⟨test', rows', found', perm', sorted', rfl⟩ := k
  cases Option.some.inj (found.symm.trans found')
  have places : rows.map place = rows'.map place :=
    List.Perm.eq_of_pairwise (fun a b _ _ => le_antisymm) (List.pairwise_map.mpr sorted)
      (List.pairwise_map.mpr sorted') ((perm.trans perm'.symm).map place)
  have reports : ∀ rows : List MappingRow,
      rows.map MappingRow.reportId = (rows.map place).map fun p => (ofLex p).2 := by
    intro rows
    rw [List.map_map]
    rfl
  rw [reports, places, ← reports]

/-- The reports that a run of a test gets; there are none to tell of if there is no such test. -/
def mappedOf (testId : String) (t : Tables) : Except Failure (List String) := do
  let test ← (t.tests.find? fun r => r.id == testId).elim
    (.error (.report (.notFound (.subject (.test testId))))) .ok
  pure (mappedReports test.templateId t)

theorem reads_listMapped (testId : String) (s : Session) :
    Reads (listMapped testId) s (mappedOf testId s.view) := by
  refine (reads_read _ _ _ s).then fun t seen => ?_
  refine (reads_present _ _ t).bind fun test u seen' => ?_
  rw [← seen, ← seen']
  exact reads_read _ _ _ u

theorem mappedOf_ok {reportIds : List String} (listed : mappedOf testId t = .ok reportIds) :
    IsMapped testId t reportIds := by
  rw [mappedOf] at listed
  cases found : t.tests.find? fun r => r.id == testId with
  | none =>
    rw [found] at listed
    cases listed
  | some test =>
    rw [found] at listed
    cases listed
    exact mappedReports_isMapped found

theorem mappedOf_error {f : Failure} (failed : mappedOf testId t = .error f) :
    t.hasTest testId = false ∧ f = .report (.notFound (.subject (.test testId))) := by
  rw [mappedOf] at failed
  cases found : t.tests.find? fun r => r.id == testId with
  | none =>
    rw [found] at failed
    cases failed
    refine ⟨List.any_eq_false.mpr fun r member => ?_, rfl⟩
    simpa using List.find?_eq_none.mp found r member
  | some test =>
    rw [found] at failed
    cases failed

/-! ## One creation -/

section Steps

variable (e : Surroundings σ) (g : Generator) (run : Run.Snapshot)

abbrev createOne (reportId : String) : Action (World (Recorded σ)) RunReport :=
  create e.recorded.services g run.runId reportId run.createdBy false

/-- Creating the report ends with a record: there was none for it, this one is added, committed, to
the rows, and a notebook was uploaded and submitted for it. -/
structure Adds (reportId : String) (w : World (Recorded σ)) (record : RunReport)
    (w' : World (Recorded σ)) : Prop where
  ran : (createOne e g run reportId).run w = (.ok record, w')
  new : recordsOf run.runId reportId w.session.committed = []
  free : w.session.committed.IdFree record.id
  committed : w'.session.committed = w.session.committed.withRecord record
  pending : w'.session.pending = []
  delivered : ∃ d location url form outcome jobId,
    draftOf run.runId reportId w.session.committed = .ok d ∧
    Delivered e g d w.outside.outside [.upload d.content d.path (.ok location),
      .submission (.post url form) (.ok outcome)] ∧
    w'.outside.effects = w.outside.effects ++ [.upload d.content d.path (.ok location),
      .submission (.post url form) (.ok outcome)] ∧
    Accepts g outcome jobId ∧ IsSubmitted run.runId reportId jobId run.createdBy record

/-- Creating the report ends with a failure: the rows are as they were, and outside there is at most
a beginning of what the creation of this report does. -/
structure Stops (reportId : String) (w : World (Recorded σ)) (f : Failure)
    (w' : World (Recorded σ)) : Prop where
  ran : (createOne e g run reportId).run w = (.error f, w')
  committed : w'.session.committed = w.session.committed
  pending : w'.session.pending = []
  warranted : ∃ effects, w'.outside.effects = w.outside.effects ++ effects ∧
    Warranted e g run.runId reportId false w.session.committed w.outside.outside effects

/-- Reports are created one after another, each where the one before has ended. -/
inductive AddsEach : World (Recorded σ) → List String → List RunReport → World (Recorded σ) → Prop
  | done (w : World (Recorded σ)) : AddsEach w [] [] w
  | next {reportId : String} {rest : List String} {record : RunReport} {records : List RunReport}
      {w w₁ w' : World (Recorded σ)} (first : Adds e g run reportId w record w₁)
      (others : AddsEach w₁ rest records w') :
      AddsEach w (reportId :: rest) (record :: records) w'

variable {w w' : World (Recorded σ)}

theorem cleared_false (runId reportId : String) (t : Tables) :
    cleared runId reportId false t = t := by
  simp [cleared]

theorem createOne_ensures (reportId : String) (nothing : w.session.pending = [])
    (keys : w.session.committed.KeysDistinct) :
    (createOne e g run reportId).Ensures w (fun record w' => Adds e g run reportId w record w')
      (fun f w' => Stops e g run reportId w f w') := by
  obtain ⟨⟨t, cs, refusal, trouble⟩, r⟩ := w
  obtain rfl : cs = [] := nothing
  refine (create_ensures e.recorded g run.runId reportId run.createdBy false keys refusal trouble r
    fun d _ => launch_effects e g d r).ran.mono ?_ ?_
  · rintro record w' ⟨ran, may, ⟨d, submission, made, launched, submitted⟩, free, committed,
      pending⟩
    obtain ⟨location, url, form, outcome, effects, delivered, accepts⟩ := launched
    rw [cleared_false] at free committed
    have new : recordsOf run.runId reportId t = [] := may.2.resolve_right (by simp)
    exact ⟨ran, new, free, committed, pending, d, location, url, form, outcome, submission.jobId,
      made, delivered, effects, accepts, submitted⟩
  · rintro f w' ⟨ran, committed, pending, outside⟩
    refine ⟨ran, committed, pending, ?_⟩
    rcases outside with same | ⟨may, d, made, failed | ⟨submission, launched⟩⟩
    · exact ⟨[], by rw [same, List.append_nil], Or.inl rfl⟩
    · obtain ⟨effects, more, delivered⟩ := failed
      exact ⟨effects, more, Or.inr ⟨may, d, made, delivered⟩⟩
    · obtain ⟨location, url, form, outcome, more, delivered, -⟩ := launched
      exact ⟨_, more, Or.inr ⟨may, d, made, delivered⟩⟩

/-! ## One after another -/

/-- Creating the reports ends with a record for each of them, or at the first one whose creation
fails. -/
theorem createEach_upToFailure (reportIds : List String) (nothing : w.session.pending = [])
    (keys : w.session.committed.KeysDistinct) :
    (createEach e.recorded.services g run reportIds).Ensures w
      (fun records w' => AddsEach e g run w reportIds records w')
      (fun f w' => ∃ before reportId after records w₁, reportIds = before ++ reportId :: after ∧
        AddsEach e g run w before records w₁ ∧ Stops e g run reportId w₁ f w') := by
  induction reportIds generalizing w with
  | nil => exact ensures_pure (.done w)
  | cons reportId rest ih =>
    refine ((createOne_ensures e g run reportId nothing keys).mono (fun _ _ h => h) ?_).bind ?_
    · intro f w' stops
      exact ⟨[], reportId, rest, [], w, rfl, .done w, stops⟩
    intro record w₁ first
    have keys₁ : w₁.session.committed.KeysDistinct := by
      rw [first.committed]
      exact keys.withRecord first.free
    refine ((ih first.pending keys₁).mono (fun _ _ h => h) ?_).bind ?_
    · rintro f w' ⟨before, stopped, after, records, w₂, rfl, others, stops⟩
      exact ⟨reportId :: before, stopped, after, record :: records, w₂, rfl, .next first others,
        stops⟩
    · intro records w' others
      exact ensures_pure (.next first others)

/-- What creating reports from one state of the rows to another has done: one upload and one
submission for each report, in their order, and one new record for each, committed and submitted. -/
structure Added (w : World (Recorded σ)) (reportIds : List String) (records : List RunReport)
    (w' : World (Recorded σ)) : Prop where
  submitted : List.Forall₂ (fun reportId record =>
    ∃ jobId, IsSubmitted run.runId reportId jobId run.createdBy record) reportIds records
  committed : w'.session.committed = { w.session.committed with
    runReports := w.session.committed.runReports ++ records }
  pending : w'.session.pending = []
  effects : ∃ made : List (List Effect), w'.outside.effects = w.outside.effects ++ made.flatten ∧
    List.Forall₂ (fun reportId effects => ∃ d location url form outcome,
      draftOf run.runId reportId w.session.committed = .ok d ∧
      effects = [.upload d.content d.path (.ok location),
        .submission (.post url form) (.ok outcome)]) reportIds made

theorem AddsEach.added {reportIds : List String} {records : List RunReport}
    (each : AddsEach e g run w reportIds records w') (nothing : w.session.pending = []) :
    Added run w reportIds records w' := by
  induction each with
  | done w => exact ⟨.nil, by simp, nothing, [], by simp, .nil⟩
  | next first others ih =>
    obtain ⟨submitted, committed, pending, made, effects, each⟩ := ih first.pending
    obtain ⟨d, location, url, form, outcome, jobId, draft, -, sent, -, isSubmitted⟩ :=
      first.delivered
    refine ⟨.cons ⟨jobId, isSubmitted⟩ submitted, ?_, pending, _ :: made, ?_,
      .cons ⟨d, location, url, form, outcome, draft, rfl⟩ ?_⟩
    · rw [committed, first.committed, Tables.withRecord]
      simp
    · rw [effects, sent, List.flatten_cons, List.append_assoc]
    · -- a draft does not depend on the records that have been added since
      rw [first.committed] at each
      exact each

/-- A creation for which there is a record already does nothing. -/
theorem createOne_refused {reportId : String} {r : RunReport} (nothing : w.session.pending = [])
    (member : r ∈ recordsOf run.runId reportId w.session.committed) :
    (createOne e g run reportId).Ensures w (fun _ _ => False)
      (fun f w' => w'.session.committed = w.session.committed ∧ w'.session.pending = [] ∧
        w'.outside = w.outside ∧ (w.session.Calm →
          f = .report (.prohibited (.exists run.runId reportId)))) := by
  have view : w.session.view = w.session.committed := Session.view_eq_committed nothing
  have never : ¬ MayCreate run.runId reportId false w.session.view := by
    rw [view]
    exact not_mayCreate_kept member
  let refused (f : Failure) (w' : World (Recorded σ)) : Prop :=
    w'.session.committed = w.session.committed ∧ w'.outside = w.outside ∧
      (w.session.Calm → f = .report (.prohibited (.exists run.runId reportId)))
  rw [createOne, create_services]
  refine (orRollbackWorld_ensures (accessing_ensures (E := refused) ?_ ?_
    fun _ _ _ h => h)).mono (fun _ _ h => h) ?_
  · refine ((prepare_ensures run.runId reportId false w.session).within.mono (fun _ _ h => h)
      ?_).bind ?_
    · rintro f _ ⟨s, ⟨committed, failed⟩, rfl⟩
      refine ⟨committed, rfl, fun calm => ?_⟩
      rcases failed calm with ⟨-, prohibited⟩ | ⟨may, -⟩
      · exact prohibited
      · exact absurd may never
    · rintro d _ ⟨s, ⟨may, -, -⟩, rfl⟩
      exact absurd may never
  · rintro fault w' ⟨committed, outside, prohibited⟩
    exact ⟨committed, outside, fun calm => by cases prohibited calm⟩
  · rintro f _ ⟨u, ⟨committed, outside, prohibited⟩, rfl⟩
    exact ⟨committed, rfl, outside, prohibited⟩

/-! ## The whole fan-out -/

/-- The mappings could not be listed; nothing has changed, and if nothing is amiss with the database
there is no such test. -/
structure Unlisted (w : World (Recorded σ)) (f : Failure) (w' : World (Recorded σ)) : Prop where
  committed : w'.session.committed = w.session.committed
  pending : w'.session.pending = []
  outside : w'.outside = w.outside
  missing : w.session.Calm → w.session.committed.hasTest run.testId = false ∧
    f = .report (.notFound (.subject (.test run.testId)))

/-- A fan-out that ends with records has created all mapped reports, one after another. -/
def Completes (w : World (Recorded σ)) (records : List RunReport) (w' : World (Recorded σ)) :
    Prop :=
  ∃ reportIds w₀, IsMapped run.testId w.session.committed reportIds ∧
    Keeps w.session w₀.session ∧ w₀.outside = w.outside ∧
    AddsEach e g run w₀ reportIds records w' ∧ Added run w reportIds records w'

/-- A fan-out that stops part-way has created the mapped reports before the one that failed, and
nothing after it. -/
def StopsPartWay (w : World (Recorded σ)) (f : Failure) (w' : World (Recorded σ)) : Prop :=
  ∃ before reportId after records w₀ w₁,
    IsMapped run.testId w.session.committed (before ++ reportId :: after) ∧
    Keeps w.session w₀.session ∧ w₀.outside = w.outside ∧
    AddsEach e g run w₀ before records w₁ ∧ Stops e g run reportId w₁ f w' ∧
    Added run w before records w₁

/-- The fan-out fails without doing anything, because the report has a record for the run. -/
def Blocked (reportId : String) (t : Tables) : Prop :=
  ∀ (refusal : Option String) (trouble : List (Option Fault)) (r : Recorded σ),
    (createAll e.recorded.services g run).Ensures ⟨⟨t, [], refusal, trouble⟩, r⟩ (fun _ _ => False)
      (fun f w' => w'.session.committed = t ∧ w'.session.pending = [] ∧ w'.outside = r ∧
        (Session.Calm ⟨t, [], refusal, trouble⟩ →
          f = .report (.prohibited (.exists run.runId reportId))))

theorem Added.of_keeps {w₀ : World (Recorded σ)} {reportIds : List String}
    {records : List RunReport} (kept : Keeps w.session w₀.session)
    (outside : w₀.outside = w.outside) (added : Added run w₀ reportIds records w') :
    Added run w reportIds records w' := by
  obtain ⟨submitted, committed, pending, effects⟩ := added
  rw [kept.committed] at committed effects
  rw [outside] at effects
  exact ⟨submitted, committed, pending, effects⟩

theorem listing_ensures (nothing : w.session.pending = []) :
    (onSession (listMapped run.testId) : Action (World (Recorded σ)) (List String)).Ensures w
      (fun reportIds w₀ => IsMapped run.testId w.session.committed reportIds ∧
        Keeps w.session w₀.session ∧ w₀.outside = w.outside)
      (fun f w' => Unlisted run w f w') := by
  have view : w.session.view = w.session.committed := Session.view_eq_committed nothing
  refine (reads_listMapped run.testId w.session).within.mono ?_ ?_
  · rintro reportIds _ ⟨s, ⟨listed, kept⟩, rfl⟩
    rw [view] at listed
    exact ⟨mappedOf_ok listed, kept, rfl⟩
  · rintro f _ ⟨s, ⟨kept, failed⟩, rfl⟩
    refine ⟨kept.committed, kept.pending.trans nothing, rfl, fun calm => ?_⟩
    rw [view] at failed
    exact mappedOf_error (failed calm)

theorem createAll_upToFailure (nothing : w.session.pending = [])
    (keys : w.session.committed.KeysDistinct) :
    (createAll e.recorded.services g run).Ensures w
      (fun records w' => Completes e g run w records w')
      (fun f w' => Unlisted run w f w' ∨ StopsPartWay e g run w f w') := by
  refine ((listing_ensures run nothing).mono (fun _ _ h => h) fun _ _ h => Or.inl h).bind ?_
  rintro reportIds w₀ ⟨mapped, kept, outside⟩
  have nothing₀ : w₀.session.pending = [] := kept.pending.trans nothing
  have keys₀ : w₀.session.committed.KeysDistinct := by rwa [kept.committed]
  refine (createEach_upToFailure e g run reportIds nothing₀ keys₀).mono ?_ ?_
  · intro records w' each
    exact ⟨reportIds, w₀, mapped, kept, outside, each,
      (each.added e g run nothing₀).of_keeps run kept outside⟩
  · rintro f w' ⟨before, reportId, after, records, w₁, rfl, each, stops⟩
    exact Or.inr ⟨before, reportId, after, records, w₀, w₁, mapped, kept, outside, each, stops,
      (each.added e g run nothing₀).of_keeps run kept outside⟩

theorem blocked_of_record {first : String} {rest : List String} {r : RunReport}
    (mapped : IsMapped run.testId t (first :: rest)) (member : r ∈ recordsOf run.runId first t) :
    Blocked e g run first t := by
  intro refusal trouble o
  refine ((listing_ensures run rfl).mono (fun _ _ h => h) ?_).bind ?_
  · rintro f w' ⟨committed, pending, outside, missing⟩
    refine ⟨committed, pending, outside, fun calm => ?_⟩
    obtain ⟨test, -, found, -⟩ := mapped
    rw [Tables.hasTest, any_of_find? found] at missing
    cases (missing calm).1
  · rintro reportIds w₀ ⟨listed, kept, outside⟩
    obtain rfl : first :: rest = reportIds := mapped.unique listed
    have member₀ : r ∈ recordsOf run.runId first w₀.session.committed := by rwa [kept.committed]
    refine ((createOne_refused e g run (kept.pending.trans rfl) member₀).mono (fun _ _ h => h)
      ?_).bind fun _ _ h => False.elim h
    rintro f w' ⟨committed, pending, outside', prohibited⟩
    exact ⟨committed.trans kept.committed, pending, outside'.trans outside,
      fun calm => prohibited (kept.calm calm)⟩

/-- A fan-out that has added something is blocked by what it has added. -/
theorem StopsPartWay.blocked {f : Failure} (stopped : StopsPartWay e g run w f w')
    (changed : w'.session.committed ≠ w.session.committed) :
    ∃ first, ∀ (e' : Surroundings σ) (g' : Generator),
      Blocked e' g' run first w'.session.committed := by
  obtain ⟨before, reportId, after, records, w₀, w₁, mapped, -, -, -, stops, added⟩ := stopped
  have committed := stops.committed.trans added.committed
  cases added.submitted with
  | nil =>
    rw [List.append_nil] at committed
    exact absurd committed changed
  | @cons first record before records submitted others =>
    have mapped' : IsMapped run.testId w'.session.committed
        (first :: (before ++ reportId :: after)) := by
      rw [committed]
      exact mapped
    have member : record ∈ recordsOf run.runId first w'.session.committed := by
      obtain ⟨jobId, isSubmitted⟩ := submitted
      rw [committed, Tables.mem_recordsOf, RunReport.isOf, isSubmitted.runId, isSubmitted.reportId]
      simp
    exact ⟨first, fun e' g' => blocked_of_record e' g' run mapped' member⟩

end Steps

/-- A fan-out creates the mapped reports one after another, up to the first failure. A record of the
first one blocks it, and so does what a fan-out that stopped part-way has added. -/
theorem fanOut_sequential (e : Surroundings σ) (g : Generator) (run : Run.Snapshot)
    (t : Tables) (keys : t.KeysDistinct) (refusal : Option String) (trouble : List (Option Fault))
    (o : σ) :
    (createAll e.recorded.services g run).Ensures ⟨⟨t, [], refusal, trouble⟩, ⟨o, []⟩⟩
        (fun records w' =>
          Completes e g run ⟨⟨t, [], refusal, trouble⟩, ⟨o, []⟩⟩ records w')
        (fun f w' =>
          (Unlisted run ⟨⟨t, [], refusal, trouble⟩, ⟨o, []⟩⟩ f w' ∨
            StopsPartWay e g run ⟨⟨t, [], refusal, trouble⟩, ⟨o, []⟩⟩ f w') ∧
          (w'.session.committed ≠ t → ∃ first, ∀ (e' : Surroundings σ) (g' : Generator),
            Blocked e' g' run first w'.session.committed)) ∧
      ∀ first rest r, IsMapped run.testId t (first :: rest) →
        r ∈ recordsOf run.runId first t → Blocked e g run first t := by
  refine ⟨(createAll_upToFailure e g run rfl keys).mono (fun _ _ h => h) ?_,
    fun first rest r mapped member => blocked_of_record e g run mapped member⟩
  intro f w' ended
  refine ⟨ended, fun changed => ?_⟩
  rcases ended with unlisted | stopped
  · exact absurd unlisted.committed changed
  · exact stopped.blocked e g run changed

/-- A run with two mapped reports, of which one has a record that has failed. -/
def mappedBoth (first second : String) : Tables :=
  { failedOnce with
    tests := [⟨"test", "template", "name"⟩]
    reports := failedOnce.reports ++ failedOnce.reports.map fun r =>
      { r with id := "other", name := "other" }
    mappings :=
      [⟨"template", second, ⟨machineEpoch + 1, none⟩⟩,
        ⟨"template", first, ⟨machineEpoch, none⟩⟩] }

def mappedRun : Run.Snapshot :=
  ⟨"run", "test", "name", "succeeded", [], [], [], none, none, none, ⟨machineEpoch, none⟩, none⟩

theorem isMapped_mappedBoth (first second : String) :
    IsMapped "test" (mappedBoth first second) [first, second] :=
  ⟨_, [⟨"template", first, ⟨machineEpoch, none⟩⟩, ⟨"template", second, ⟨machineEpoch + 1, none⟩⟩],
    rfl, .swap _ _ _, by simp [place, Prod.Lex.toLex_le_toLex], rfl⟩

/-- The same run and mappings before there was any record. -/
def mappedFresh : Tables := { mappedBoth "other" "report" with runReports := [] }

theorem createAll_mappedFresh : ∃ records w',
    (createAll providing.recorded.services fetchingGenerator mappedRun).run
      ⟨⟨mappedFresh, [], none, []⟩, ⟨(), []⟩⟩ = (.ok records, w') ∧ records.length = 2 := by
  let start : World (Recorded Unit) := ⟨⟨mappedFresh, [], none, []⟩, ⟨(), []⟩⟩
  have sorted : mappedReports "template" mappedFresh = ["other", "report"] :=
    (mappedReports_isMapped rfl).unique (isMapped_mappedBoth "other" "report")
  have listed : (onSession (listMapped mappedRun.testId) :
      Action (World (Recorded Unit)) (List String)).run start =
        (.ok ["other", "report"], start) := by
    rw [← sorted]
    rfl
  have ran : (createAll providing.recorded.services fetchingGenerator mappedRun).run start =
      (createEach providing.recorded.services fetchingGenerator mappedRun
        ["other", "report"]).run start := by
    rw [createAll, run_bind, listed]
  have two : ((createEach providing.recorded.services fetchingGenerator mappedRun
      ["other", "report"]).run start).1.toOption.map List.length = some 2 := by
    decide +kernel
  rw [← ran] at two
  rcases ended : (createAll providing.recorded.services fetchingGenerator mappedRun).run start with
    ⟨f | records, w'⟩
  · rw [ended] at two
    cases two
  · rw [ended] at two
    exact ⟨records, w', rfl, Option.some.inj two⟩

/-- The report with the failed record may be mapped later than the other one, or earlier. Before
there was a record, the fan-out creates both. -/
theorem fanOut_sequential_mappedBoth :
    (mappedBoth "other" "report").KeysDistinct ∧
      (let start : World (Recorded Unit) := ⟨⟨mappedBoth "other" "report", [], none, []⟩, ⟨(), []⟩⟩
      (createAll obliging.recorded.services simpleGenerator mappedRun).Ensures start
        (fun records w' => Completes obliging simpleGenerator mappedRun start records w')
        (fun f w' =>
          (Unlisted mappedRun start f w' ∨
            StopsPartWay obliging simpleGenerator mappedRun start f w') ∧
          (w'.session.committed ≠ mappedBoth "other" "report" →
            ∃ first, ∀ (e' : Surroundings Unit) (g' : Generator),
              Blocked e' g' mappedRun first w'.session.committed))) ∧
      IsMapped "test" (mappedBoth "report" "other") ["report", "other"] ∧
      Blocked obliging simpleGenerator mappedRun "report" (mappedBoth "report" "other") ∧
      (let start : World (Recorded Unit) := ⟨⟨mappedFresh, [], none, []⟩, ⟨(), []⟩⟩
      ∃ records w', (createAll providing.recorded.services fetchingGenerator mappedRun).run start =
          (.ok records, w') ∧
        records.length = 2 ∧ Completes providing fetchingGenerator mappedRun start records w') := by
  have keys : ∀ first second, (mappedBoth first second).KeysDistinct :=
    fun _ _ => failedOnce_keysDistinct
  have mapped := isMapped_mappedBoth "report" "other"
  refine ⟨keys _ _, (fanOut_sequential obliging simpleGenerator mappedRun _ (keys _ _) none []
    ()).1, mapped, ?_, ?_⟩
  · exact (fanOut_sequential obliging simpleGenerator mappedRun _ (keys _ _) none [] ()).2
      "report" ["other"] _ mapped (List.mem_filter.mpr ⟨List.mem_singleton.mpr rfl, by decide⟩)
  · obtain ⟨records, w', ended, two⟩ := createAll_mappedFresh
    have fresh : mappedFresh.KeysDistinct := List.nodup_nil
    exact ⟨records, w', ended, two, (fanOut_sequential providing fetchingGenerator mappedRun
      mappedFresh fresh none [] ()).1.ok ended⟩

end RunReports.Report
