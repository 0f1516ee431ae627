import Mathlib.Data.List.Forall2
import Mathlib.Data.String.Basic
import RunReports.Proofs.Effects
import RunReports.Proofs.Guarding
import RunReports.Proofs.Refreshing

/-!
# Refreshing a run

The reports that a run has records of are refreshed one after another, in ascending order, up to the
first failure; what was written before that stays. A refresh writes into the current record of its
run and report alone. If the engine keeps to its answers, then a run that was refreshed is at rest:
another time writes nothing, whatever the clock says, and asks about the jobs of open records only.
Two refreshes at once are not looked at here. -/
namespace RunReports.Report

open RunReports RunReports.Action RunReports.Store RunReports.Store.Session

variable {σ : Type} {runId reportId : String} {t t' t'' : Tables} {q r : RunReport} {p : Progress}

/-! ## The reports on a run -/

/-- The reports that a run has records of, each once and in ascending order. -/
structure IsListed (runId : String) (t : Tables) (reportIds : List String) : Prop where
  ascending : reportIds.Pairwise (· < ·)
  mem_iff : ∀ reportId, reportId ∈ reportIds ↔ recordsOf runId reportId t ≠ []

theorem mem_dropRepeats {l : List String} {a : String} : a ∈ dropRepeats l ↔ a ∈ l := by
  induction l using dropRepeats.induct with
  | case1 => rfl
  | case2 b => rfl
  | case3 b rest ih =>
    rw [dropRepeats, if_pos rfl, ih]
    simp
  | case4 b c rest different ih =>
    rw [dropRepeats, if_neg different, List.mem_cons, ih]
    exact List.mem_cons.symm

theorem pairwise_dropRepeats {l : List String} (sorted : l.Pairwise (· ≤ ·)) :
    (dropRepeats l).Pairwise (· < ·) := by
  induction l using dropRepeats.induct with
  | case1 => exact .nil
  | case2 b => exact List.pairwise_singleton _ _
  | case3 b rest ih =>
    rw [dropRepeats, if_pos rfl]
    exact ih (List.pairwise_cons.mp sorted).2
  | case4 b c rest different ih =>
    obtain ⟨below, sorted⟩ := List.pairwise_cons.mp sorted
    rw [dropRepeats, if_neg different]
    refine List.pairwise_cons.mpr ⟨fun a there => ?_, ih sorted⟩
    have first : b < c := lt_of_le_of_ne (below c List.mem_cons_self) different
    rcases List.mem_cons.mp (mem_dropRepeats.mp there) with rfl | later
    · exact first
    · exact lt_of_lt_of_le first ((List.pairwise_cons.mp sorted).1 a later)

theorem reportsOfRun_isListed (runId : String) (t : Tables) :
    IsListed runId t (reportsOfRun runId t) where
  ascending := by
    refine pairwise_dropRepeats ?_
    let before (a b : String) : Bool := decide (a ≤ b)
    have transitive : ∀ a b c, before a b = true → before b c = true → before a c = true :=
      fun a b c h k => decide_eq_true (le_trans (of_decide_eq_true h) (of_decide_eq_true k))
    have total : ∀ a b, (before a b || before b a) = true := fun a b => by
      simpa [before] using le_total a b
    exact (List.pairwise_mergeSort transitive total _).imp of_decide_eq_true
  mem_iff reportId := by
    rw [reportsOfRun, mem_dropRepeats, List.mem_mergeSort, List.mem_map]
    constructor
    · rintro ⟨r, there, rfl⟩
      obtain ⟨member, about⟩ := List.mem_filter.mp there
      have isOf : r.isOf runId r.reportId = true := by simpa [RunReport.isOf] using about
      exact List.ne_nil_of_mem (Tables.mem_recordsOf.mpr ⟨member, isOf⟩)
    · intro some
      obtain ⟨r, there⟩ := List.exists_mem_of_ne_nil _ some
      obtain ⟨member, about⟩ := Tables.mem_recordsOf.mp there
      simp only [RunReport.isOf, Bool.and_eq_true, beq_iff_eq] at about
      exact ⟨r, List.mem_filter.mpr ⟨member, by simpa using about.1⟩, about.2⟩

/-- The order leaves no choice. -/
theorem IsListed.unique {reportIds reportIds' : List String} (h : IsListed runId t reportIds)
    (k : IsListed runId t reportIds') : reportIds = reportIds' := by
  have perm : reportIds.Perm reportIds' := by
    refine (List.perm_ext_iff_of_nodup (h.ascending.imp ne_of_lt) (k.ascending.imp ne_of_lt)).mpr ?_
    exact fun reportId => (h.mem_iff reportId).trans (k.mem_iff reportId).symm
  exact perm.eq_of_pairwise (fun a b _ _ less more => absurd more (lt_asymm less)) h.ascending
    k.ascending

/-! ## What a refresh may change -/

/-- Rows as the database keeps them: its rules for run reports hold, and times are stored without
their offsets. -/
structure WellKept (t : Tables) : Prop where
  indexed : t.Indexed
  stored : ∀ r ∈ t.runReports, r.stored = r

/-- A row before and after the refresh of a run and report: the current record may have another
status, other results and another end, and all else is as it was. -/
inductive RowChanges (runId reportId : String) (t : Tables) : RunReport → RunReport → Prop
  | same (r : RunReport) : RowChanges runId reportId t r r
  | current (r : RunReport) (status : ReportStatus) (results : Json)
      (finishedAt : Option Calendar.Moment)
      (current : IsCurrent (recordsOf runId reportId t) (some r)) :
      RowChanges runId reportId t r
        { r with status := status, results := results, finishedAt := finishedAt }

/-- The rows before and after the refresh of a run and report. -/
structure Confined (runId reportId : String) (t t' : Tables) : Prop where
  rows : List.Forall₂ (RowChanges runId reportId t) t.runReports t'.runReports
  tables : { t' with runReports := t.runReports } = t

theorem Confined.refl (runId reportId : String) (t : Tables) : Confined runId reportId t t :=
  ⟨List.forall₂_same.mpr fun r _ => .same r, rfl⟩

theorem mem_of_isCurrent {records : List RunReport} (current : IsCurrent records (some q)) :
    q ∈ records := by
  cases current <;> assumption

theorem RowChanges.pair {r' : RunReport} (changes : RowChanges runId reportId t r r') :
    r'.runId = r.runId ∧ r'.reportId = r.reportId := by
  cases changes <;> exact ⟨rfl, rfl⟩

/-- What rows that are kept show of themselves stays if it stays in each of them. -/
theorem map_filter_of_forall₂ {α : Type} {R : RunReport → RunReport → Prop}
    (keep : RunReport → Bool) (f : RunReport → α) {rows rows' : List RunReport}
    (each : List.Forall₂ R rows rows')
    (same : ∀ r r', R r r' → keep r' = keep r ∧ (keep r = true → f r' = f r)) :
    (rows'.filter keep).map f = (rows.filter keep).map f := by
  induction each with
  | nil => rfl
  | @cons r r' rows rows' first _ ih =>
    obtain ⟨stays, shown⟩ := same r r' first
    rw [List.filter_cons, List.filter_cons, stays]
    split
    · rename_i there
      rw [List.map_cons, List.map_cons, ih, shown there]
    · exact ih

/-- The records of another run or report are as they were. -/
theorem Confined.recordsOf (confined : Confined runId reportId t t') {runId' reportId' : String}
    (other : ¬ (runId' = runId ∧ reportId' = reportId)) :
    recordsOf runId' reportId' t' = recordsOf runId' reportId' t := by
  have kept : ∀ r r', RowChanges runId reportId t r r' →
      r'.isOf runId' reportId' = r.isOf runId' reportId' ∧
        (r.isOf runId' reportId' = true → r' = r) := by
    intro r r' changes
    refine ⟨by rw [RunReport.isOf, RunReport.isOf, changes.pair.1, changes.pair.2], fun about => ?_⟩
    cases changes with
    | same => rfl
    | current _ _ _ current =>
      have mine := (Tables.mem_recordsOf.mp (mem_of_isCurrent current)).2
      simp only [RunReport.isOf, Bool.and_eq_true, beq_iff_eq] at mine about
      exact absurd ⟨about.1.symm.trans mine.1, about.2.symm.trans mine.2⟩ other
  have filtered := map_filter_of_forall₂ _ id confined.rows kept
  rwa [List.map_id, List.map_id] at filtered

/-- A run has records of the same reports as before. -/
theorem Confined.reportsOfRun (confined : Confined runId reportId t t') (runId' : String) :
    reportsOfRun runId' t' = reportsOfRun runId' t := by
  have listed := map_filter_of_forall₂ (fun r => r.runId == runId')
    RunReport.reportId confined.rows fun r r' changes =>
      ⟨by rw [changes.pair.1], fun _ => changes.pair.2⟩
  rw [Report.reportsOfRun, Report.reportsOfRun, listed]

/-! ## Progress of a current record -/

theorem isLive_of_openJob? {jobId : String} (asks : openJob? q = some jobId) : q.isLive = true := by
  have open_ := isTerminal_of_openJob? asks
  rw [ReportStatus.isTerminal, Bool.or_eq_false_iff] at open_
  rw [RunReport.isLive, open_.2]
  rfl

/-- Of the records of a run and report only the current one can be open. -/
theorem eq_current_of_openJob? {records : List RunReport} {jobId : String}
    (current : IsCurrent records (some q)) (member : r ∈ records)
    (asks : openJob? r = some jobId) : r = q := by
  have live := isLive_of_openJob? asks
  cases current with
  | live _ _ _ alone => exact alone r member live
  | failed _ _ dead _ => cases live.symm.trans (dead r member)

theorem stored_stored (r : RunReport) : r.stored.stored = r.stored := by
  simp only [RunReport.stored, Option.map_map]
  rfl

theorem advance_stored (stored : q.stored = q) (p : Progress) : ∃ finishedAt,
    (q.advance p).stored = { q with
      status := p.status, results := p.results.getD q.results, finishedAt := finishedAt } := by
  have created : q.createdAt.wall = q.createdAt := congrArg RunReport.createdAt stored
  refine ⟨((q.advance p).finishedAt).map Calendar.Moment.wall, ?_⟩
  rw [RunReport.stored, RunReport.advance, created]

section Progress

variable (kept : WellKept t) (member : q ∈ t.runReports)
include kept member

/-- Progress of a current record changes it and no other row. -/
theorem confined_advance (current : IsCurrent (recordsOf runId reportId t) (some q))
    (p : Progress) : Confined runId reportId t ((Change.advance q.id p).apply t) where
  tables := rfl
  rows := by
    refine List.forall₂_map_right_iff.mpr (List.forall₂_same.mpr fun r there => ?_)
    split
    · rename_i same
      obtain rfl := kept.indexed.keys.eq_of_id there member same
      obtain ⟨finishedAt, is⟩ := advance_stored (kept.stored r there) p
      rw [is]
      exact .current r _ _ _ current
    · exact .same r

/-- The rules go on to hold when a record makes progress and does not become a second live one. -/
theorem WellKept.advance {p : Progress} (alone : (q.advance p).isLive = true →
    ∀ r ∈ recordsOf q.runId q.reportId t, r.isLive = true → r.id = q.id) :
    WellKept ((Change.advance q.id p).apply t) where
  indexed := by
    have beside : ∀ r ∈ t.runReports, r.isLive = true → r.runId = q.runId →
        r.reportId = q.reportId → (q.advance p).isLive = true → r.id = q.id := by
      intro r there live run report advanced
      refine alone advanced r (Tables.mem_recordsOf.mpr ⟨there, ?_⟩) live
      rw [RunReport.isOf, run, report]
      simp
    refine ⟨kept.indexed.keys.advance q.id p, fun a therea b thereb livea liveb run report => ?_⟩
    obtain ⟨a₀, therea₀, rfl⟩ := List.mem_map.mp therea
    obtain ⟨b₀, thereb₀, rfl⟩ := List.mem_map.mp thereb
    by_cases writtena : a₀.id = q.id
    · by_cases writtenb : b₀.id = q.id
      · rw [if_pos writtena, if_pos writtenb]
        exact writtena.trans writtenb.symm
      · obtain rfl := kept.indexed.keys.eq_of_id therea₀ member writtena
        rw [if_pos rfl] at livea run report ⊢
        rw [if_neg writtenb] at liveb run report ⊢
        exact (beside b₀ thereb₀ liveb run.symm report.symm livea).symm
    · by_cases writtenb : b₀.id = q.id
      · obtain rfl := kept.indexed.keys.eq_of_id thereb₀ member writtenb
        rw [if_neg writtena] at livea run report ⊢
        rw [if_pos rfl] at liveb run report ⊢
        exact beside a₀ therea₀ livea run report liveb
      · rw [if_neg writtena] at livea run report ⊢
        rw [if_neg writtenb] at liveb run report ⊢
        exact kept.indexed.live a₀ therea₀ b₀ thereb₀ livea liveb run report
  stored r there := by
    obtain ⟨r₀, before, rfl⟩ := List.mem_map.mp there
    split
    · exact stored_stored _
    · exact kept.stored r₀ before

theorem WellKept.advance_live (live : q.isLive = true) (p : Progress) :
    WellKept ((Change.advance q.id p).apply t) := by
  refine WellKept.advance kept member fun _ r there liver => ?_
  have mine : q ∈ recordsOf q.runId q.reportId t :=
    Tables.mem_recordsOf.mpr ⟨member, by simp [RunReport.isOf]⟩
  rw [recordsOf_live_unique kept.indexed there mine liver live]

end Progress

/-- What the database lets through keeps its rules, so they hold of it from its beginning. The ids
of run reports are given out by the database itself. -/
theorem WellKept.apply (kept : WellKept t) {c : Change} (allowed : t.refusal? c = none)
    (fresh : ∀ row, c = .addRunReport row → t.IdFree row.id) : WellKept (c.apply t) := by
  cases c with
  | addRunReport row =>
    simp only [Tables.refusal?, Option.orElse_eq_orElse, Option.orElse_eq_or,
      Option.or_eq_none_iff] at allowed
    have alone := Tables.secondLive?_eq_none.mp allowed.1
    have free := fresh row rfl
    have beside : ∀ r ∈ t.runReports, r.isLive = true → row.isLive = true →
        r.runId = row.runId → r.reportId = row.reportId → r.id = row.id := by
      intro r there live new run report
      refine alone new r (Tables.mem_recordsOf.mpr ⟨there, ?_⟩) live
      rw [RunReport.isOf, run, report]
      simp
    refine ⟨⟨kept.indexed.keys.withRecord free, ?_⟩, ?_⟩
    · intro a therea b thereb livea liveb run report
      rcases List.mem_append.mp therea with olda | newa
      · rcases List.mem_append.mp thereb with oldb | newb
        · exact kept.indexed.live a olda b oldb livea liveb run report
        · obtain rfl := List.mem_singleton.mp newb
          exact beside a olda livea liveb run report
      · obtain rfl := List.mem_singleton.mp newa
        rcases List.mem_append.mp thereb with oldb | newb
        · exact (beside b oldb liveb livea run.symm report.symm).symm
        · rw [List.mem_singleton.mp newb]
    · intro r there
      rcases List.mem_append.mp there with old | new
      · exact kept.stored r old
      · rw [List.mem_singleton.mp new]
        exact stored_stored row
  | dropRunReports ids =>
    have was : ∀ r ∈ ((Change.dropRunReports ids).apply t).runReports, r ∈ t.runReports :=
      fun r there => (List.mem_filter.mp there).1
    refine ⟨⟨kept.indexed.keys.sublist (List.filter_sublist.map RunReport.id), ?_⟩, ?_⟩
    · exact fun a therea b thereb => kept.indexed.live a (was a therea) b (was b thereb)
    · exact fun r there => kept.stored r (was r there)
  | advance id progress =>
    rw [Tables.refusal?] at allowed
    split at allowed
    · cases allowed
    · rename_i q found
      obtain rfl : q.id = id := by simpa using List.find?_some found
      have alone := Tables.secondLive?_eq_none.mp allowed
      exact WellKept.advance kept (List.mem_of_find?_eq_some found) alone
  | addTemplate | addTest | addRun | addResult | addReport | addMapping | patchReport =>
    exact ⟨⟨kept.indexed.keys, kept.indexed.live⟩, kept.stored⟩

/-! ## One refresh -/

section Refresh

variable (e : Surroundings σ) (g : Generator)

/-- What a refresh makes of the rows and of what is outside, by the current record of its run and
report: a record that is not open is not asked about, and what the engine says of an open one is
written if it is news. -/
inductive Refreshed (q : RunReport) (t : Tables) (o : σ) : Tables → σ → Prop
  | closed (shut : openJob? q = none) : Refreshed q t o t o
  | known {jobId : String} {state : Engine.JobState} {o' : σ} (asks : openJob? q = some jobId)
      (told : (g.engine.jobState e.exchange jobId).run o = (.ok state, o'))
      (same : jobStatuses.lookup state.status = some q.status) : Refreshed q t o t o'
  | written {jobId : String} {state : Engine.JobState} {o' : σ} {p : Progress}
      (asks : openJob? q = some jobId)
      (told : (g.engine.jobState e.exchange jobId).run o = (.ok state, o'))
      (news : jobStatuses.lookup state.status = some p.status) (other : p.status ≠ q.status) :
      Refreshed q t o ((Change.advance q.id p).apply t) o'

/-- The refresh of a run and report ends with a record. -/
structure Refreshes (runId reportId : String) (w : World σ) (record : RunReport) (w' : World σ) :
    Prop where
  ran : (refresh e.services g runId reportId).run w = (.ok record, w')
  current : ∃ q, IsCurrent (recordsOf runId reportId w.session.committed) (some q) ∧
    Refreshed e g q w.session.committed w.outside w'.session.committed w'.outside
  confined : Confined runId reportId w.session.committed w'.session.committed
  pending : w'.session.pending = []

variable {e g} {o o' : σ} {w w' : World σ}

theorem Refreshed.confined (refreshed : Refreshed e g q t o t' o') (kept : WellKept t)
    (current : IsCurrent (recordsOf runId reportId t) (some q)) :
    Confined runId reportId t t' ∧ WellKept t' := by
  have member := (Tables.mem_recordsOf.mp (mem_of_isCurrent current)).1
  cases refreshed with
  | closed => exact ⟨.refl runId reportId t, kept⟩
  | known => exact ⟨.refl runId reportId t, kept⟩
  | @written _ _ _ p asks =>
    exact ⟨confined_advance kept member current p,
      kept.advance_live member (isLive_of_openJob? asks) p⟩

theorem settle_refreshed (now : Calendar.Moment) {jobId : String} {state : Engine.JobState}
    {s : Session} (nothing : s.pending = []) (asks : openJob? q = some jobId)
    (told : (g.engine.jobState e.exchange jobId).run o = (.ok state, o')) :
    (settle now q state).Ensures s
      (fun _ u => u.pending = [] ∧ Refreshed e g q s.committed o u.committed o')
      (fun _ u => u.pending = [] ∧ u.committed = s.committed) := by
  have view : s.view = s.committed := Session.view_eq_committed nothing
  rw [settle]
  cases news : jobStatuses.lookup state.status with
  | none => exact ensures_throw ⟨nothing, rfl⟩
  | some status =>
    simp only
    by_cases same : status = q.status
    · rw [if_pos same]
      exact ensures_pure ⟨nothing, .known asks told (same ▸ news)⟩
    · rw [if_neg same]
      refine (keepProgress_ensures q _ s).mono ?_ fun _ _ h => h
      rintro record u ⟨pending, committed, -⟩
      rw [advancing_of_ne same, view] at committed
      rw [committed]
      exact ⟨pending, .written asks told news same⟩

/-- A refresh asks about the current record, if it is open, and it fails without any change. -/
theorem refresh_ends (reportId : String) (nothing : w.session.pending = [])
    (kept : WellKept w.session.committed) :
    (refresh e.services g runId reportId).Ensures w
      (fun _ w' => w'.session.pending = [] ∧
        ∃ q, IsCurrent (recordsOf runId reportId w.session.committed) (some q) ∧
          Refreshed e g q w.session.committed w.outside w'.session.committed w'.outside)
      (fun _ w' => w'.session.pending = [] ∧ w'.session.committed = w.session.committed) := by
  have view : w.session.view = w.session.committed := Session.view_eq_committed nothing
  refine ((find_ensures runId reportId w.session).within.mono (fun _ _ h => h) ?_).bind ?_
  · rintro f _ ⟨s, ⟨seen, -⟩, rfl⟩
    exact ⟨seen.pending.trans nothing, seen.committed⟩
  rintro found _ ⟨s, ⟨is, seen⟩, rfl⟩
  have pending : s.pending = [] := seen.pending.trans nothing
  have current : IsCurrent (recordsOf runId reportId w.session.committed) found := by
    rw [is, view]
    exact current?_isCurrent kept.indexed runId reportId
  rw [← seen.committed] at current ⊢
  cases found with
  | none => exact ensures_throw ⟨pending, rfl⟩
  | some q =>
    simp only
    cases asks : openJob? q with
    | none => exact ensures_pure ⟨pending, q, current, .closed asks⟩
    | some jobId =>
      have same : g.engine.jobState e.services.exchange jobId =
          onOutside (g.engine.jobState e.exchange jobId) :=
        isPart_outside.jobState e.exchange g.engine jobId
      simp only [same]
      have asked := ensures_run (g.engine.jobState e.exchange jobId)
        (World.outside ⟨s, w.outside⟩)
      refine (asked.within.mono (fun _ _ h => h) ?_).bind ?_
      · rintro f _ ⟨o, -, rfl⟩
        exact ⟨pending, rfl⟩
      rintro state _ ⟨o, told, rfl⟩
      refine ensures_get.bind ?_
      rintro x _ ⟨rfl, rfl⟩
      refine (settle_refreshed (e.now o) pending asks told).within.mono ?_ ?_
      · rintro record _ ⟨u, ⟨pending, refreshed⟩, rfl⟩
        exact ⟨pending, q, current, refreshed⟩
      · rintro f _ ⟨u, unchanged, rfl⟩
        exact unchanged

theorem refresh_refreshes (reportId : String) (nothing : w.session.pending = [])
    (kept : WellKept w.session.committed) :
    (refresh e.services g runId reportId).Ensures w
      (fun record w' => Refreshes e g runId reportId w record w')
      (fun f w' => (refresh e.services g runId reportId).run w = (.error f, w') ∧
        w'.session.pending = [] ∧ w'.session.committed = w.session.committed) := by
  refine (refresh_ends reportId nothing kept).ran.mono ?_ fun _ _ h => h
  rintro record w' ⟨ran, pending, q, current, refreshed⟩
  exact ⟨ran, ⟨q, current, refreshed⟩, (refreshed.confined kept current).1, pending⟩

theorem Refreshes.kept {record : RunReport} (refreshes : Refreshes e g runId reportId w record w')
    (kept : WellKept w.session.committed) : WellKept w'.session.committed := by
  obtain ⟨q, current, refreshed⟩ := refreshes.current
  exact (refreshed.confined kept current).2

end Refresh

/-! ## One after another -/

section Each

variable (e : Surroundings σ) (g : Generator) (runId : String)

/-- Reports on a run are refreshed one after another, each where the one before has ended. -/
inductive RefreshesEach : World σ → List String → List RunReport → World σ → Prop
  | done (w : World σ) : RefreshesEach w [] [] w
  | next {reportId : String} {rest : List String} {record : RunReport} {records : List RunReport}
      {w w₁ w' : World σ} (first : Refreshes e g runId reportId w record w₁)
      (others : RefreshesEach w₁ rest records w') :
      RefreshesEach w (reportId :: rest) (record :: records) w'

/-- Nothing is changed but records of given reports on a run. -/
structure Untouched (reportIds : List String) (t t' : Tables) : Prop where
  tables : { t' with runReports := t.runReports } = t
  records : ∀ runId' reportId', ¬ (runId' = runId ∧ reportId' ∈ reportIds) →
    recordsOf runId' reportId' t' = recordsOf runId' reportId' t

variable {e g runId} {w w' : World σ} {reportIds : List String} {records : List RunReport}

/-- Refreshing the reports ends with a record for each of them, or at the first one whose refresh
fails; this one changes nothing. -/
theorem refreshEach_upToFailure (reportIds : List String) (nothing : w.session.pending = [])
    (kept : WellKept w.session.committed) :
    (refreshEach e.services g runId reportIds).Ensures w
      (fun records w' => RefreshesEach e g runId w reportIds records w' ∧ w'.session.pending = [])
      (fun f w' => ∃ before reportId after records w₁, reportIds = before ++ reportId :: after ∧
        RefreshesEach e g runId w before records w₁ ∧
        (refresh e.services g runId reportId).run w₁ = (.error f, w') ∧
        w'.session.pending = [] ∧ w'.session.committed = w₁.session.committed) := by
  induction reportIds generalizing w with
  | nil => exact ensures_pure ⟨.done w, nothing⟩
  | cons reportId rest ih =>
    refine ((refresh_refreshes reportId nothing kept).mono (fun _ _ h => h) ?_).bind ?_
    · rintro f w' failed
      exact ⟨[], reportId, rest, [], w, rfl, .done w, failed⟩
    intro record w₁ first
    refine ((ih first.pending (first.kept kept)).mono (fun _ _ h => h) ?_).bind ?_
    · rintro f w' ⟨before, failing, after, records, w₂, rfl, others, failed⟩
      exact ⟨reportId :: before, failing, after, record :: records, w₂, rfl, .next first others,
        failed⟩
    · rintro records w' ⟨others, pending⟩
      exact ensures_pure ⟨.next first others, pending⟩

theorem Confined.untouched (confined : Confined runId reportId t t')
    (listed : reportId ∈ reportIds) : Untouched runId reportIds t t' where
  tables := confined.tables
  records _ _ other := confined.recordsOf fun ⟨run, report⟩ => other ⟨run, report ▸ listed⟩

theorem Untouched.trans (h : Untouched runId reportIds t t')
    (k : Untouched runId reportIds t' t'') : Untouched runId reportIds t t'' where
  tables := by
    rw [← h.tables, ← k.tables]
  records _ _ other := (k.records _ _ other).trans (h.records _ _ other)

theorem Untouched.mono {more : List String} (h : Untouched runId reportIds t t')
    (subset : ∀ reportId ∈ reportIds, reportId ∈ more) : Untouched runId more t t' :=
  ⟨h.tables, fun _ _ other => h.records _ _ fun ⟨run, report⟩ => other ⟨run, subset _ report⟩⟩

theorem RefreshesEach.untouched (each : RefreshesEach e g runId w reportIds records w') :
    Untouched runId reportIds w.session.committed w'.session.committed := by
  induction each with
  | done w => exact ⟨rfl, fun _ _ _ => rfl⟩
  | next first _ ih =>
    exact (first.confined.untouched List.mem_cons_self).trans
      (ih.mono fun _ => List.mem_cons_of_mem _)

theorem RefreshesEach.kept (each : RefreshesEach e g runId w reportIds records w')
    (kept : WellKept w.session.committed) : WellKept w'.session.committed := by
  induction each with
  | done w => exact kept
  | next first _ ih => exact ih (first.kept kept)

theorem RefreshesEach.reportsOfRun (each : RefreshesEach e g runId w reportIds records w')
    (runId' : String) :
    reportsOfRun runId' w'.session.committed = reportsOfRun runId' w.session.committed := by
  induction each with
  | done w => rfl
  | next first _ ih => exact ih.trans (first.confined.reportsOfRun runId')

end Each

/-! ## Runs at rest -/

/-- What the engine says of a job does not depend on what is outside. -/
def Steady (e : Surroundings σ) (g : Generator) (answer : String → Except Failure Engine.JobState) :
    Prop :=
  ∀ jobId o, ((g.engine.jobState e.exchange jobId).run o).1 = answer jobId

/-- There are records of the run and report, and those that are open have the status that the engine
says. -/
structure AtRest (answer : String → Except Failure Engine.JobState) (runId reportId : String)
    (t : Tables) : Prop where
  present : recordsOf runId reportId t ≠ []
  told : ∀ r ∈ recordsOf runId reportId t, ∀ jobId, openJob? r = some jobId →
    ∃ state, answer jobId = .ok state ∧ jobStatuses.lookup state.status = some r.status

/-- What is outside after the engine was asked about jobs, one after another. -/
def asking (e : Surroundings σ) (g : Generator) (jobIds : List String) (o : σ) : σ :=
  jobIds.foldl (fun o jobId => ((g.engine.jobState e.exchange jobId).run o).2) o

/-- The jobs of the current records of reports on a run, as far as these are open. -/
def openJobs (runId : String) (reportIds : List String) (t : Tables) : List String :=
  reportIds.filterMap fun reportId => (current? (recordsOf runId reportId t)).bind openJob?

section Rest

variable {e : Surroundings σ} {g : Generator} {answer : String → Except Failure Engine.JobState}
variable {w w' : World σ} {o o' : σ} {reportIds : List String} {records : List RunReport}

/-- Each open job is that of a current record that has not ended. -/
theorem open_of_mem_openJobs (indexed : t.Indexed) {jobId : String}
    (asked : jobId ∈ openJobs runId reportIds t) : ∃ reportId ∈ reportIds, ∃ q,
      IsCurrent (recordsOf runId reportId t) (some q) ∧ q.status.isTerminal = false ∧
        q.jobId = some jobId := by
  obtain ⟨reportId, listed, is⟩ := List.mem_filterMap.mp asked
  obtain ⟨q, found, asks⟩ := Option.bind_eq_some_iff.mp is
  refine ⟨reportId, listed, q, ?_, isTerminal_of_openJob? asks, jobId_of_openJob? asks⟩
  rw [← found]
  exact current?_isCurrent indexed runId reportId

/-- A steady engine leaves a run and report at rest when it is refreshed. -/
theorem Refreshed.atRest (refreshed : Refreshed e g q t o t' o') (steady : Steady e g answer)
    (kept : WellKept t) (current : IsCurrent (recordsOf runId reportId t) (some q)) :
    AtRest answer runId reportId t' := by
  have member := mem_of_isCurrent current
  have answers {jobId : String} {state : Engine.JobState}
      (told : (g.engine.jobState e.exchange jobId).run o = (.ok state, o')) :
      answer jobId = .ok state := by
    rw [← steady jobId o, told]
  cases refreshed with
  | closed shut =>
    refine ⟨List.ne_nil_of_mem member, fun r there jobId asks => ?_⟩
    rw [eq_current_of_openJob? current there asks, shut] at asks
    cases asks
  | known asked told same =>
    refine ⟨List.ne_nil_of_mem member, fun r there jobId asks => ?_⟩
    obtain rfl := eq_current_of_openJob? current there asks
    obtain rfl := Option.some.inj (asks.symm.trans asked)
    exact ⟨_, answers told, same⟩
  | @written jobId state _ p asked told news other =>
    obtain ⟨there, about⟩ := Tables.mem_recordsOf.mp member
    have written : (q.advance p).stored ∈
        recordsOf runId reportId ((Change.advance q.id p).apply t) :=
      Tables.mem_recordsOf.mpr ⟨List.mem_map.mpr ⟨q, there, if_pos rfl⟩, about⟩
    refine ⟨List.ne_nil_of_mem written, fun r inside jobId' asks => ?_⟩
    obtain ⟨inside, aboutr⟩ := Tables.mem_recordsOf.mp inside
    obtain ⟨r₀, before, rfl⟩ := List.mem_map.mp inside
    by_cases same : r₀.id = q.id
    · -- the record that was written has its job and the status that was told
      rw [if_pos same] at asks ⊢
      obtain rfl := kept.indexed.keys.eq_of_id before there same
      have advanced : (r₀.advance p).stored.jobId = some jobId' := jobId_of_openJob? asks
      have job : r₀.jobId = some jobId' := advanced
      rw [jobId_of_openJob? asked] at job
      cases job
      exact ⟨state, answers told, news⟩
    · rw [if_neg same] at asks aboutr
      have only := eq_current_of_openJob? current (Tables.mem_recordsOf.mpr ⟨before, aboutr⟩) asks
      exact absurd (congrArg RunReport.id only) same

theorem AtRest.of_records (rest : AtRest answer runId reportId t)
    (same : recordsOf runId reportId t' = recordsOf runId reportId t) :
    AtRest answer runId reportId t' := by
  refine ⟨?_, ?_⟩
  · rw [same]
    exact rest.present
  · rw [same]
    exact rest.told

/-- A steady engine leaves all reports at rest that were refreshed one after another: what comes
later does not touch what was refreshed before. -/
theorem RefreshesEach.atRest (each : RefreshesEach e g runId w reportIds records w')
    (steady : Steady e g answer) (kept : WellKept w.session.committed)
    (distinct : reportIds.Nodup) :
    ∀ reportId ∈ reportIds, AtRest answer runId reportId w'.session.committed := by
  induction each with
  | done w => simp
  | @next reportId rest record records w w₁ w' first others ih =>
    obtain ⟨new, distinct⟩ := List.nodup_cons.mp distinct
    obtain ⟨q, current, refreshed⟩ := first.current
    refine List.forall_mem_cons.mpr ⟨?_, ih (first.kept kept) distinct⟩
    have rest := refreshed.atRest steady kept current
    exact rest.of_records (others.untouched.records runId reportId fun ⟨_, again⟩ => new again)

/-- A report at rest is asked about if its current record is open, and nothing is written. -/
theorem refresh_atRest (steady : Steady e g answer) (nothing : w.session.pending = [])
    (rest : AtRest answer runId reportId w.session.committed) :
    (refresh e.services g runId reportId).Ensures w
      (fun _ w' => Keeps w.session w'.session ∧
        w'.outside = asking e g (openJobs runId [reportId] w.session.committed) w.outside)
      (fun _ w' => Keeps w.session w'.session ∧ ¬ w.session.Calm ∧ w'.outside = w.outside) := by
  have view : w.session.view = w.session.committed := Session.view_eq_committed nothing
  refine ((find_ensures runId reportId w.session).within.mono (fun _ _ h => h) ?_).bind ?_
  · rintro f _ ⟨s, ⟨seen, upset⟩, rfl⟩
    exact ⟨seen, upset, rfl⟩
  rintro found _ ⟨s, ⟨is, seen⟩, rfl⟩
  rw [view] at is
  have jobs : openJobs runId [reportId] w.session.committed = (found.bind openJob?).toList := by
    rw [openJobs, List.filterMap_cons, ← is]
    cases found.bind openJob? <;> rfl
  rw [jobs]
  cases found with
  | none => exact absurd (current?_none is.symm) rest.present
  | some q =>
    rw [Option.bind_some]
    simp only
    cases asks : openJob? q with
    | none => exact ensures_pure ⟨seen, rfl⟩
    | some jobId =>
      obtain ⟨state, answers, known⟩ := rest.told q (current?_some is.symm).1 jobId asks
      have same : g.engine.jobState e.services.exchange jobId =
          onOutside (g.engine.jobState e.exchange jobId) :=
        isPart_outside.jobState e.exchange g.engine jobId
      simp only [same]
      have asked := ensures_run (g.engine.jobState e.exchange jobId)
        (World.outside ⟨s, w.outside⟩)
      refine (asked.within.mono (fun _ _ h => h) ?_).bind ?_
      · rintro f _ ⟨o, told, rfl⟩
        have failed := steady jobId w.outside
        rw [told, answers] at failed
        cases failed
      rintro state' _ ⟨o, told, rfl⟩
      have again := steady jobId w.outside
      rw [told, answers] at again
      cases again
      refine ensures_get.bind ?_
      rintro x _ ⟨rfl, rfl⟩
      have settled : settle (e.now o) q state = pure q := by
        rw [settle, known]
        exact if_pos rfl
      simp only [Surroundings.services, settled]
      refine ensures_pure ⟨seen, ?_⟩
      change o = ((g.engine.jobState e.exchange jobId).run w.outside).2
      rw [told]

theorem asking_append (jobIds more : List String) (o : σ) :
    asking e g (jobIds ++ more) o = asking e g more (asking e g jobIds o) :=
  List.foldl_append

theorem openJobs_cons (runId reportId : String) (others : List String) (t : Tables) :
    openJobs runId (reportId :: others) t =
      openJobs runId [reportId] t ++ openJobs runId others t :=
  List.filterMap_append (l := [reportId])

theorem refreshEach_atRest (steady : Steady e g answer) (nothing : w.session.pending = [])
    (rest : ∀ reportId ∈ reportIds, AtRest answer runId reportId w.session.committed) :
    (refreshEach e.services g runId reportIds).Ensures w
      (fun _ w' => Keeps w.session w'.session ∧
        w'.outside = asking e g (openJobs runId reportIds w.session.committed) w.outside)
      (fun _ w' => Keeps w.session w'.session ∧ ¬ w.session.Calm ∧
        ∃ asked, asked <+: openJobs runId reportIds w.session.committed ∧
          w'.outside = asking e g asked w.outside) := by
  induction reportIds generalizing w with
  | nil => exact ensures_pure ⟨Keeps.refl _, rfl⟩
  | cons reportId others ih =>
    obtain ⟨first, rest⟩ := List.forall_mem_cons.mp rest
    rw [openJobs_cons]
    refine ((refresh_atRest steady nothing first).mono (fun _ _ h => h) ?_).bind ?_
    · rintro f w' ⟨seen, upset, outside⟩
      exact ⟨seen, upset, [], List.nil_prefix, outside⟩
    rintro record w₁ ⟨seen, asked⟩
    rw [← seen.committed] at rest
    refine ((ih (seen.pending.trans nothing) rest).mono (fun _ _ h => h) ?_).bind ?_
    · rintro f w' ⟨more, upset, jobIds, start, asked'⟩
      rw [seen.committed] at start
      refine ⟨seen.trans more, fun calm => upset (seen.calm calm), _,
        (List.prefix_append_right_inj _).mpr start, ?_⟩
      rw [asking_append, ← asked, asked']
    · rintro records w' ⟨more, asked'⟩
      refine ensures_pure ⟨seen.trans more, ?_⟩
      rw [asking_append, ← asked, ← seen.committed, asked']

end Rest

/-! ## The whole run -/

section Run

variable (e : Surroundings σ) (g : Generator) (runId : String) {w w' : World σ}

/-- The reports on a run are listed; a session reads their records, and nothing else happens. -/
structure Lists (w : World σ) (reportIds : List String) (w₀ : World σ) : Prop where
  listed : IsListed runId w.session.committed reportIds
  seen : Keeps w.session w₀.session
  outside : w₀.outside = w.outside

/-- Refreshing a run again, in any surroundings with the same engine, changes nothing and asks about
the jobs of the current records that are open. It fails only if something is amiss with the
database, and then some of the last ones may not have been asked about. -/
def StaysAsItIs (answer : String → Except Failure Engine.JobState) (reportIds : List String)
    (t : Tables) : Prop :=
  ∀ (τ : Type) (e' : Surroundings τ) (w : World τ), Steady e' g answer →
    w.session.committed = t → w.session.pending = [] →
    (refreshAll e'.services g runId).Ensures w
      (fun _ w' => w'.session.committed = t ∧ w'.session.pending = [] ∧
        w'.outside = asking e' g (openJobs runId reportIds t) w.outside)
      (fun _ w' => w'.session.committed = t ∧ w'.session.pending = [] ∧ ¬ w.session.Calm ∧
        ∃ asked, asked <+: openJobs runId reportIds t ∧ w'.outside = asking e' g asked w.outside)

/-- A run is refreshed when each report that it has records of was, in ascending order. -/
structure RefreshesAll (w : World σ) (reportIds : List String) (records : List RunReport)
    (w' : World σ) : Prop where
  each : ∃ w₀, Lists runId w reportIds w₀ ∧ RefreshesEach e g runId w₀ reportIds records w'
  pending : w'.session.pending = []
  untouched : Untouched runId reportIds w.session.committed w'.session.committed

/-- The refresh of a run stops at the first report whose refresh fails. What the reports before it
have written stays, and no other record is touched. -/
structure BreaksOff (w : World σ) (before : List String) (reportId : String) (f : Failure)
    (w' : World σ) : Prop where
  each : ∃ after records w₀ w₁, Lists runId w (before ++ reportId :: after) w₀ ∧
    RefreshesEach e g runId w₀ before records w₁ ∧
    (refresh e.services g runId reportId).run w₁ = (.error f, w') ∧
    w'.session.committed = w₁.session.committed
  pending : w'.session.pending = []
  untouched : Untouched runId before w.session.committed w'.session.committed

theorem listing_lists (nothing : w.session.pending = []) :
    (onSession (accessing (.runReportsOfRun runId)
      (Session.read .runReports (reportsOfRun runId))) : Action (World σ) (List String)).Ensures w
      (fun reportIds w₀ => reportIds = reportsOfRun runId w.session.committed ∧
        Lists runId w reportIds w₀)
      (fun _ w' => Keeps w.session w'.session ∧ ¬ w.session.Calm ∧ w'.outside = w.outside) := by
  have view : w.session.view = w.session.committed := Session.view_eq_committed nothing
  refine (accessing_ensures_same (P := fun s => Keeps w.session s ∧ ¬ w.session.Calm)
    (read_ensures _ _ _)).within.mono ?_ ?_
  · rintro reportIds _ ⟨s, ⟨rfl, seen⟩, rfl⟩
    rw [view]
    exact ⟨rfl, reportsOfRun_isListed runId _, seen, rfl⟩
  · rintro f _ ⟨s, ⟨seen, upset⟩, rfl⟩
    exact ⟨seen, upset, rfl⟩

/-- A run that was refreshed stays as it is if its reports are at rest. -/
theorem staysAsItIs_of_atRest {answer : String → Except Failure Engine.JobState} {t : Tables}
    (rest : ∀ reportId ∈ reportsOfRun runId t, AtRest answer runId reportId t) :
    StaysAsItIs g runId answer (reportsOfRun runId t) t := by
  rintro τ e' w steady rfl nothing
  refine ((listing_lists runId nothing).mono (fun _ _ h => h) ?_).bind ?_
  · rintro f w' ⟨seen, upset, outside⟩
    exact ⟨seen.committed, seen.pending.trans nothing, upset, [], List.nil_prefix, outside⟩
  rintro reportIds w₀ ⟨rfl, -, seen, outside⟩
  have rest₀ : ∀ reportId ∈ reportsOfRun runId w.session.committed,
      AtRest answer runId reportId w₀.session.committed := by
    rw [seen.committed]
    exact rest
  refine (refreshEach_atRest steady (seen.pending.trans nothing) rest₀).mono ?_ ?_
  · rintro records w' ⟨more, asked⟩
    rw [seen.committed, outside] at asked
    have same : Keeps w.session w'.session := seen.trans more
    exact ⟨same.committed, same.pending.trans nothing, asked⟩
  · rintro f w' ⟨more, upset, jobIds, start, asked⟩
    rw [seen.committed] at start
    rw [outside] at asked
    have same : Keeps w.session w'.session := seen.trans more
    exact ⟨same.committed, same.pending.trans nothing, fun calm => upset (seen.calm calm), jobIds,
      start, asked⟩

/-- Refreshing a run refreshes each report that it has records of once and in ascending order, up to
the first failure, and each refresh writes into its current record alone. With an engine that keeps
to its answers a refreshed run stays as it is, whatever the clock says, and only open records are
asked about. -/
theorem refreshAll_settles (nothing : w.session.pending = [])
    (kept : WellKept w.session.committed) :
    (refreshAll e.services g runId).Ensures w
      (fun records w' => ∃ reportIds, RefreshesAll e g runId w reportIds records w' ∧
        (∀ answer, Steady e g answer →
          StaysAsItIs g runId answer reportIds w'.session.committed) ∧
        ∀ jobId ∈ openJobs runId reportIds w'.session.committed, ∃ reportId ∈ reportIds, ∃ q,
          IsCurrent (recordsOf runId reportId w'.session.committed) (some q) ∧
            q.status.isTerminal = false ∧ q.jobId = some jobId)
      (fun f w' => (∃ before reportId, BreaksOff e g runId w before reportId f w') ∨
        w'.session.committed = w.session.committed ∧ w'.session.pending = [] ∧
          w'.outside = w.outside ∧ ¬ w.session.Calm) := by
  refine ((listing_lists runId nothing).mono (fun _ _ h => h) ?_).bind ?_
  · rintro f w' ⟨seen, upset, outside⟩
    exact Or.inr ⟨seen.committed, seen.pending.trans nothing, outside, upset⟩
  rintro reportIds w₀ ⟨is, lists⟩
  have committed := lists.seen.committed
  rw [← committed] at kept is
  refine (refreshEach_upToFailure reportIds (lists.seen.pending.trans nothing) kept).mono ?_ ?_
  · rintro records w' ⟨each, pending⟩
    have untouched := each.untouched
    rw [committed] at untouched
    refine ⟨reportIds, ⟨⟨w₀, lists, each⟩, pending, untouched⟩, fun answer steady => ?_, ?_⟩
    · have distinct : reportIds.Nodup := lists.listed.ascending.imp ne_of_lt
      have rest := each.atRest steady kept distinct
      rw [is, ← each.reportsOfRun] at rest ⊢
      exact staysAsItIs_of_atRest g runId rest
    · intro jobId asked
      exact open_of_mem_openJobs (each.kept kept).indexed asked
  · rintro f w' ⟨before, reportId, after, records, w₁, rfl, each, ran, pending, unchanged⟩
    have untouched := each.untouched
    rw [committed, ← unchanged] at untouched
    exact Or.inl ⟨before, reportId, ⟨after, records, w₀, w₁, lists, each, ran, unchanged⟩, pending,
      untouched⟩

end Run

theorem attempts_wellKept : WellKept attempts where
  indexed := attempts_indexed
  stored := by
    intro r there
    simp only [attempts, List.mem_cons, List.not_mem_nil, or_false] at there
    rcases there with rfl | rfl | rfl | rfl | rfl | rfl <;> rfl

/-- Where the engine takes every job for one that was submitted, the running record goes back, and
then the run stays as it is. -/
theorem refreshAll_settles_attempts : WellKept attempts ∧
    ∃ records w', (refreshAll obliging.services simpleGenerator "run").run
        ⟨Session.on attempts, ()⟩ = (.ok records, w') ∧
      records.map (fun r => (r.id, r.status)) = [(9, .failed), (2, .submitted), (1, .succeeded)] ∧
      ∃ answer, Steady obliging simpleGenerator answer ∧
        StaysAsItIs simpleGenerator "run" answer ["failed", "live", "other"]
          w'.session.committed := by
  have listed : reportsOfRun "run" attempts = ["failed", "live", "other"] := by
    simp [reportsOfRun, attempts, List.mergeSort, dropRepeats]
  have runs : (refreshAll obliging.services simpleGenerator "run").run ⟨Session.on attempts, ()⟩ =
      (refreshEach obliging.services simpleGenerator "run" ["failed", "live", "other"]).run
        ⟨Session.on attempts, ()⟩ := by
    rw [← listed]
    rfl
  have told : ((refreshEach obliging.services simpleGenerator "run" ["failed", "live", "other"]).run
      ⟨Session.on attempts, ()⟩).1.toOption.map (List.map fun r => (r.id, r.status)) =
        some [(9, .failed), (2, .submitted), (1, .succeeded)] := by decide +kernel
  rw [← runs] at told
  have settles := refreshAll_settles obliging simpleGenerator "run"
    (w := ⟨Session.on attempts, ()⟩) rfl attempts_wellKept
  rcases ended : (refreshAll obliging.services simpleGenerator "run").run
    ⟨Session.on attempts, ()⟩ with ⟨f | records, w'⟩
  · rw [ended] at told
    cases told
  · rw [ended] at told
    obtain ⟨reportIds, ⟨⟨w₀, lists, -⟩, -, -⟩, stays, -⟩ := settles.ok ended
    have same := lists.listed.unique (reportsOfRun_isListed "run" attempts)
    rw [same, listed] at stays
    have steady : Steady obliging simpleGenerator fun jobId =>
      ((simpleGenerator.engine.jobState obliging.exchange jobId).run ()).1 := fun _ _ => rfl
    exact ⟨attempts_wellKept, records, w', rfl, Option.some.inj told, _, steady, stays _ steady⟩

end RunReports.Report
