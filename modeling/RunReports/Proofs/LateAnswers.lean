import Mathlib.Logic.Relation
import RunReports.Proofs.Effects
import RunReports.Proofs.Refreshing
import RunReports.Proofs.Sharing
import RunReports.Proofs.Stages

/-!
# Late answers

Refreshes and creations of one report on one run, each with a session of its own, take their steps
in any order, and what the engine says to a refresh may come late. A refresh writes what it hears
to the row with the id that it has read. So a record that is finished stays as it is unless a
refresh was waiting for an answer about it when it was finished, and an answer is about the job of
the record that it is written to unless a creation has meanwhile given the id to a new record. Both
exceptions do happen.
-/
namespace RunReports.Report

open RunReports RunReports.Action RunReports.Calendar RunReports.Store RunReports.Store.Session

variable {ι σ : Type}

def OnlyDrops (cs : List Change) : Prop := ∀ c ∈ cs, ∃ ids, c = .dropRunReports ids

theorem OnlyDrops.append {cs ds : List Change} (h : OnlyDrops cs) (k : OnlyDrops ds) :
    OnlyDrops (cs ++ ds) := by
  intro c member
  rcases List.mem_append.mp member with first | second
  · exact h c first
  · exact k c second

theorem onlyDrops_nil : OnlyDrops [] := fun c no => by cases no

theorem onlyDrops_clearing (runId reportId : String) (t : Tables) :
    OnlyDrops (clearing runId reportId t) := by
  intro c member
  rw [clearing] at member
  split at member
  · cases member
  · exact ⟨_, List.mem_singleton.mp member⟩

/-- Deletions leave some of the records. -/
theorem OnlyDrops.sublist {cs : List Change} (drops : OnlyDrops cs) (t : Tables) :
    (cs.foldl Change.apply t).runReports.Sublist t.runReports := by
  induction cs generalizing t with
  | nil => exact List.Sublist.refl _
  | cons c rest ih =>
    obtain ⟨ids, rfl⟩ := drops c List.mem_cons_self
    have later : OnlyDrops rest := fun c member => drops c (List.mem_cons_of_mem _ member)
    exact (ih later _).trans List.filter_sublist

/-- What a step of a creation does: nothing that anybody else can see, except that at its end it
deletes records and adds one with a new id. -/
inductive Furthered (t : Tables) : Stage → Stage → Session → Prop
  | unseen (stage stage' : Stage) (s : Session) (committed : s.committed = t)
      (drops : OnlyDrops s.pending) : Furthered t stage stage' s
  | kept (jobId : String) (r : RunReport) (u : Tables) (s : Session)
      (fewer : u.runReports.Sublist t.runReports) (free : u.IdFree r.id)
      (committed : s.committed = u.withRecord r) (nothing : s.pending = []) :
      Furthered t (.keeping jobId) (.returned r) s

theorem creating_step (c : Call σ) (runId reportId : String) (stage : Stage) {w : World σ}
    (drops : OnlyDrops w.session.pending) :
    Furthered w.session.committed stage
      (c.step runId reportId Tables.nextId (stage, w)).1
      (c.step runId reportId Tables.nextId (stage, w)).2.session := by
  -- A failure rolls back, so it is enough that it has committed nothing.
  have enough : (c.next runId reportId Tables.nextId stage).Ensures w
      (fun stage' w' => Furthered w.session.committed stage stage' w'.session)
      (fun _ w' => w'.session.committed = w.session.committed) →
      Furthered w.session.committed stage
        (c.step runId reportId Tables.nextId (stage, w)).1
        (c.step runId reportId Tables.nextId (stage, w)).2.session := by
    intro acts
    rcases step_cases acts with ended | ⟨f, u, committed, raised⟩
    · exact ended
    · rw [raised]
      exact .unseen _ _ _ committed onlyDrops_nil
  have outside : stage.IsUnderWay → (∀ jobId, stage ≠ .keeping jobId) →
      (c.next runId reportId Tables.nextId stage).Ensures w
        (fun stage' w' => Furthered w.session.committed stage stage' w'.session)
        (fun _ w' => w'.session.committed = w.session.committed) := by
    intro underWay other
    obtain ⟨α, a, k, -, is⟩ := next_outside c runId reportId Tables.nextId underWay other
    rw [is]
    refine ((ensures_run a w.outside).within.mono (fun _ _ h => h) ?_).bind ?_
    · rintro f _ ⟨o, -, rfl⟩
      rfl
    · rintro x _ ⟨o, -, rfl⟩
      exact ensures_pure (.unseen _ _ _ rfl drops)
  refine enough ?_
  cases stage with
  | guarding =>
    refine ((prepare_ensures runId reportId c.deleteFailed _).within.mono
      (fun _ _ h => h) ?_).bind ?_
    · rintro f _ ⟨s, ⟨committed, -⟩, rfl⟩
      exact committed
    · rintro d _ ⟨s, ⟨-, -, room⟩, rfl⟩
      refine ensures_pure (.unseen _ _ _ room.committed ?_)
      rw [room.pending]
      exact drops.append (onlyDrops_clearing runId reportId _)
  | uploading d => exact outside trivial fun jobId no => by cases no
  | resolving inputs => exact outside trivial fun jobId no => by cases no
  | submitting inputs source => exact outside trivial fun jobId no => by cases no
  | keeping jobId =>
    refine ensures_get.bind ?_
    rintro w' _ ⟨rfl, rfl⟩
    refine ((keepAs_ensures Tables.nextId _ runId reportId jobId c.createdBy _
      (Tables.nextId_free _)).within.mono (fun _ _ h => h) ?_).bind ?_
    · rintro f _ ⟨s, ⟨committed, -⟩, rfl⟩
      exact committed
    · rintro r _ ⟨s, ⟨made, committed, pending, -, -⟩, rfl⟩
      refine ensures_pure (.kept jobId r _ s (drops.sublist _) ?_ committed pending)
      rw [made]
      exact Tables.nextId_free _
  | returned r => exact ensures_pure (.unseen _ _ _ rfl drops)
  | raised f => exact ensures_pure (.unseen _ _ _ rfl drops)

inductive Standing
  | refreshing (stage : Inquiry)
  | creating (stage : Stage)

def Standing.IsStart : Standing → Prop
  | .refreshing .finding => True
  | .creating .guarding => True
  | _ => False

def Standing.refreshes : Standing → Bool
  | .refreshing _ => true
  | .creating _ => false

def Standing.step (c : Call σ) (runId reportId : String) :
    Standing × World σ → Standing × World σ
  | (.refreshing stage, w) =>
    Prod.map .refreshing id (Inquiry.step c.services c.generator runId reportId (stage, w))
  | (.creating stage, w) =>
    Prod.map .creating id (c.step runId reportId Tables.nextId (stage, w))

theorem Standing.refreshes_step (c : Call σ) (runId reportId : String) (p : Standing × World σ) :
    (Standing.step c runId reportId p).1.refreshes = p.1.refreshes := by
  obtain ⟨standing, w⟩ := p
  cases standing <;> rfl

section Turns

variable [DecidableEq ι] (calls : ι → Call σ) (runId reportId : String)

/-- A step of one caller. The database may refuse its next commit and fail its next accesses. -/
def Shared.turn (S : Shared ι Standing σ) (i : ι) (refusal : Option String)
    (trouble : List (Option Fault)) : Shared ι Standing σ :=
  S.put i (Standing.step (calls i) runId reportId
    (S.state i, ⟨⟨S.committed, S.pending i, refusal, trouble⟩, S.outside⟩))

inductive Turn : Shared ι Standing σ → Shared ι Standing σ → Prop
  | turn (S : Shared ι Standing σ) (i : ι) (refusal : Option String)
      (trouble : List (Option Fault)) : Turn S (S.turn calls runId reportId i refusal trouble)

abbrev Turns : Shared ι Standing σ → Shared ι Standing σ → Prop :=
  Relation.ReflTransGen (Turn calls runId reportId)

end Turns

/-- Callers that have not done anything yet, on rows with distinct keys. -/
structure Shared.IsFresh (S : Shared ι Standing σ) : Prop where
  start : ∀ i, (S.state i).IsStart
  nothing : ∀ i, S.pending i = []
  keys : S.committed.KeysDistinct

/-- What is so after every run: keys are distinct, and only deletions are pending, of creations. -/
structure Shared.IsRegular (S : Shared ι Standing σ) : Prop where
  keys : S.committed.KeysDistinct
  drops : ∀ i, OnlyDrops (S.pending i)
  nothing : ∀ i, (S.state i).refreshes = true → S.pending i = []

theorem Shared.IsFresh.regular {S : Shared ι Standing σ} (fresh : S.IsFresh) : S.IsRegular where
  keys := fresh.keys
  drops i := by rw [fresh.nothing i]; exact onlyDrops_nil
  nothing i _ := fresh.nothing i

inductive TurnOf (i : ι) (S S' : Shared ι Standing σ) : Prop
  | idle (committed : S'.committed = S.committed)
      (awaits : ∀ q jobId, S'.state i ≠ .refreshing (.waiting q jobId))
  | asks (q : RunReport) (jobId : String) (committed : S'.committed = S.committed)
      (state : S'.state i = .refreshing (.waiting q jobId))
      (there : q ∈ S.committed.runReports) (asked : openJob? q = some jobId)
  | writes (q r : RunReport) (jobId : String) (p : Progress)
      (before : S.state i = .refreshing (.waiting q jobId))
      (after : S'.state i = .refreshing (.returned r)) (news : p.status ≠ q.status)
      (there : ∃ r ∈ S.committed.runReports, r.id = q.id)
      (committed : S'.committed = (Change.advance q.id p).apply S.committed)
  | creates (jobId : String) (r : RunReport) (u : Tables)
      (before : S.state i = .creating (.keeping jobId))
      (after : S'.state i = .creating (.returned r))
      (fewer : u.runReports.Sublist S.committed.runReports) (free : u.IdFree r.id)
      (committed : S'.committed = u.withRecord r)

section Steps

variable [DecidableEq ι] (calls : ι → Call σ) (runId reportId : String)
variable {S S' S₀ : Shared ι Standing σ} (i : ι) (refusal : Option String)
variable (trouble : List (Option Fault))

theorem turn_of_refreshing {stage : Inquiry} (at_ : S.state i = .refreshing stage) :
    S.turn calls runId reportId i refusal trouble =
      S.put i (Prod.map .refreshing id (Inquiry.step (calls i).surroundings.services
        (calls i).generator runId reportId
        (stage, ⟨⟨S.committed, S.pending i, refusal, trouble⟩, S.outside⟩))) := by
  rw [Shared.turn, at_]
  rfl

/-- What a refresh does with the answer that it was waiting for. -/
theorem turn_waiting {q : RunReport} {jobId : String}
    (at_ : S.state i = .refreshing (.waiting q jobId)) (nothing : S.pending i = []) :
    ∃ stage s, (S.turn calls runId reportId i refusal trouble).state i = .refreshing stage ∧
      (S.turn calls runId reportId i refusal trouble).committed = s.committed ∧
      (S.turn calls runId reportId i refusal trouble).pending i = s.pending ∧
      Answered S.committed q stage s := by
  rw [turn_of_refreshing calls runId reportId i refusal trouble at_]
  have answered := waiting_step (calls i).generator runId reportId (calls i).surroundings q jobId
    (w := ⟨⟨S.committed, S.pending i, refusal, trouble⟩, S.outside⟩) nothing
  exact ⟨_, _, Shared.put_state_self, rfl, Shared.put_pending_self, answered⟩

/-- What a step of a refresh does, for its caller. -/
theorem turn_refreshing {stage : Inquiry} (at_ : S.state i = .refreshing stage)
    (nothing : S.pending i = []) :
    TurnOf i S (S.turn calls runId reportId i refusal trouble) ∧
      (S.turn calls runId reportId i refusal trouble).pending i = [] := by
  have silent : ∀ {S' : Shared ι Standing σ} {stage' : Inquiry},
      S'.state i = .refreshing stage' → (∀ q jobId, stage' ≠ .waiting q jobId) →
      ∀ q jobId, S'.state i ≠ .refreshing (.waiting q jobId) := by
    intro S' stage' state ended q jobId no
    rw [state] at no
    exact ended q jobId (Standing.refreshing.inj no)
  cases stage with
  | finding =>
    rw [turn_of_refreshing calls runId reportId i refusal trouble at_, Shared.put_pending_self]
    have asked := finding_step (calls i).generator runId reportId (calls i).surroundings
      (w := ⟨⟨S.committed, S.pending i, refusal, trouble⟩, S.outside⟩) nothing
    refine ⟨?_, asked.pending⟩
    by_cases waits : ∃ q jobId, (Inquiry.step (calls i).surroundings.services (calls i).generator
        runId reportId (.finding, ⟨⟨S.committed, S.pending i, refusal, trouble⟩, S.outside⟩)).1 =
        .waiting q jobId
    · obtain ⟨q, jobId, waits⟩ := waits
      obtain ⟨there, about⟩ := asked.about q jobId waits
      refine .asks q jobId asked.committed ?_ there about
      rw [Shared.put_state_self, Prod.map_fst, waits]
    · exact .idle asked.committed
        (silent Shared.put_state_self fun q jobId same => waits ⟨q, jobId, same⟩)
  | waiting q jobId =>
    obtain ⟨stage, s, state, committed, pending, answered⟩ :=
      turn_waiting calls runId reportId i refusal trouble at_ nothing
    rw [pending]
    cases answered with
    | failed f _ nothing same =>
      exact ⟨.idle (committed.trans same) (silent state fun q' jobId' no => by cases no), nothing⟩
    | known _ nothing same =>
      exact ⟨.idle (committed.trans same) (silent state fun q' jobId' no => by cases no), nothing⟩
    | written r p _ nothing news there written =>
      exact ⟨.writes q r jobId p at_ state news there (committed.trans written), nothing⟩
  | returned r =>
    rw [turn_of_refreshing calls runId reportId i refusal trouble at_, Shared.put_pending_self]
    exact ⟨.idle rfl (silent Shared.put_state_self fun q jobId no => by cases no), nothing⟩
  | raised f =>
    rw [turn_of_refreshing calls runId reportId i refusal trouble at_, Shared.put_pending_self]
    exact ⟨.idle rfl (silent Shared.put_state_self fun q jobId no => by cases no), nothing⟩

/-- What a step of a creation does, for its caller. -/
theorem turn_creating {stage : Stage} (at_ : S.state i = .creating stage)
    (drops : OnlyDrops (S.pending i)) :
    TurnOf i S (S.turn calls runId reportId i refusal trouble) ∧
      OnlyDrops ((S.turn calls runId reportId i refusal trouble).pending i) := by
  rcases stepped : (calls i).step runId reportId Tables.nextId
    (stage, ⟨⟨S.committed, S.pending i, refusal, trouble⟩, S.outside⟩) with ⟨stage', s, o⟩
  have taken : S.turn calls runId reportId i refusal trouble =
      S.put i (.creating stage', ⟨s, o⟩) := by
    rw [Shared.turn, at_, Standing.step, stepped]
    rfl
  have state : (S.put i (.creating stage', ⟨s, o⟩)).state i = .creating stage' :=
    Shared.put_state_self
  have furthered := creating_step (calls i) runId reportId stage
    (w := ⟨⟨S.committed, S.pending i, refusal, trouble⟩, S.outside⟩) drops
  rw [stepped] at furthered
  rw [taken, Shared.put_pending_self]
  cases furthered with
  | unseen _ _ _ same drops =>
    refine ⟨.idle same ?_, drops⟩
    intro q jobId no
    rw [state] at no
    cases no
  | kept jobId r u _ fewer free added nothing =>
    refine ⟨.creates jobId r u at_ state fewer free added, ?_⟩
    rw [nothing]
    exact onlyDrops_nil

/-- A step does one of the things that it can do, and only deletions stay pending. -/
theorem turn_cases (regular : S.IsRegular) :
    TurnOf i S (S.turn calls runId reportId i refusal trouble) ∧
      OnlyDrops ((S.turn calls runId reportId i refusal trouble).pending i) ∧
      ((S.state i).refreshes = true →
        (S.turn calls runId reportId i refusal trouble).pending i = []) := by
  cases at_ : S.state i with
  | refreshing stage =>
    have before := regular.nothing i (by rw [at_]; rfl)
    obtain ⟨turn, nothing⟩ :=
      turn_refreshing calls runId reportId i refusal trouble at_ before
    refine ⟨turn, ?_, fun _ => nothing⟩
    rw [nothing]
    exact onlyDrops_nil
  | creating stage =>
    obtain ⟨turn, drops⟩ :=
      turn_creating calls runId reportId i refusal trouble at_ (regular.drops i)
    exact ⟨turn, drops, fun no => by cases no⟩

omit [DecidableEq ι] in
theorem TurnOf.keys {i : ι} (turn : TurnOf i S S') (keys : S.committed.KeysDistinct) :
    S'.committed.KeysDistinct := by
  cases turn with
  | idle committed _ => rwa [committed]
  | asks q jobId committed _ _ _ => rwa [committed]
  | writes q r jobId p _ _ _ _ committed =>
    rw [committed]
    exact keys.advance q.id p
  | creates jobId r u _ _ fewer free committed =>
    rw [committed]
    have fewerKeys : u.KeysDistinct := keys.sublist (fewer.map RunReport.id)
    exact fewerKeys.withRecord free

theorem refreshes_turn (S : Shared ι Standing σ) (j : ι) :
    ((S.turn calls runId reportId i refusal trouble).state j).refreshes =
      (S.state j).refreshes := by
  by_cases same : j = i
  · subst same
    rw [Shared.turn, Shared.put_state_self, Standing.refreshes_step]
  · rw [Shared.turn, Shared.put_state_other same]

theorem Shared.IsRegular.turn (regular : S.IsRegular) :
    (S.turn calls runId reportId i refusal trouble).IsRegular := by
  obtain ⟨turned, drops, nothing⟩ := turn_cases calls runId reportId i refusal trouble regular
  have others : ∀ j, j ≠ i →
      (S.turn calls runId reportId i refusal trouble).pending j = S.pending j :=
    fun j other => Shared.put_pending_other other
  constructor
  · exact turned.keys regular.keys
  · intro j
    by_cases same : j = i
    · rwa [same]
    · rw [others j same]
      exact regular.drops j
  · intro j refreshes
    rw [refreshes_turn] at refreshes
    by_cases same : j = i
    · subst same
      exact nothing refreshes
    · rw [others j same]
      exact regular.nothing j refreshes

variable {calls runId reportId}

theorem Shared.IsRegular.turns (regular : S.IsRegular) (runs : Turns calls runId reportId S S') :
    S'.IsRegular := by
  induction runs with
  | refl => exact regular
  | tail _ turn ih =>
    cases turn with
    | turn i refusal trouble => exact ih.turn calls runId reportId i refusal trouble

theorem refreshes_turns (runs : Turns calls runId reportId S S') (j : ι) :
    (S'.state j).refreshes = (S.state j).refreshes := by
  induction runs with
  | refl => rfl
  | tail _ turn ih =>
    cases turn with
    | turn i refusal trouble => rw [refreshes_turn, ih]

/-- A refresh is waiting for an answer that it would write to the row with an id. -/
def Awaited (S : Shared ι Standing σ) (id : Nat) : Prop :=
  ∃ i q jobId, S.state i = .refreshing (.waiting q jobId) ∧ q.id = id

/-- A finished record that no answer is awaited about stays as it is, and so it goes on. -/
theorem finished_turn (regular : S.IsRegular) (all : ∀ j, (S.state j).refreshes = true)
    {r : RunReport} (there : r ∈ S.committed.runReports) (finished : r.status.isTerminal = true)
    (unawaited : ¬ Awaited S r.id) :
    r ∈ (S.turn calls runId reportId i refusal trouble).committed.runReports ∧
      ¬ Awaited (S.turn calls runId reportId i refusal trouble) r.id := by
  have turned := (turn_cases calls runId reportId i refusal trouble regular).1
  have others : ∀ j, j ≠ i →
      (S.turn calls runId reportId i refusal trouble).state j = S.state j :=
    fun j other => Shared.put_state_other other
  generalize S.turn calls runId reportId i refusal trouble = S' at turned others
  -- Only the caller that has taken the step can have begun to wait.
  have unawaited' : (∀ q jobId, S'.state i = .refreshing (.waiting q jobId) → q.id ≠ r.id) →
      ¬ Awaited S' r.id := by
    rintro own ⟨j, q, jobId, state, same⟩
    by_cases other : j = i
    · subst other
      exact own q jobId state same
    · rw [others j other] at state
      exact unawaited ⟨j, q, jobId, state, same⟩
  cases turned with
  | idle committed awaits =>
    rw [committed]
    exact ⟨there, unawaited' fun q jobId state => False.elim (awaits q jobId state)⟩
  | asks q jobId committed state member asked =>
    rw [committed]
    refine ⟨there, unawaited' fun q' jobId' state' same => ?_⟩
    rw [state] at state'
    cases state'
    have open_ := isTerminal_of_openJob? asked
    rw [regular.keys.eq_of_id member there same, finished] at open_
    cases open_
  | writes q p jobId progress before after _ _ committed =>
    have other : r.id ≠ q.id := fun same => unawaited ⟨i, q, jobId, before, same.symm⟩
    rw [committed]
    refine ⟨Tables.mem_advance_of_ne there other, unawaited' fun q' jobId' state => ?_⟩
    rw [after] at state
    cases state
  | creates jobId p u before _ _ _ _ =>
    have refreshes := all i
    rw [before] at refreshes
    cases refreshes

/-- While a caller was waiting for an answer about a record, a creation has given the id of this
record to a new one. -/
def Reassigned (calls : ι → Call σ) (runId reportId : String) (S₀ S : Shared ι Standing σ) (i : ι)
    (q : RunReport) : Prop :=
  ∃ S₁ S₂ asked j jobId r, Turns calls runId reportId S₀ S₁ ∧ Turn calls runId reportId S₁ S₂ ∧
    Turns calls runId reportId S₂ S ∧ S₁.state i = .refreshing (.waiting q asked) ∧
    S₁.state j = .creating (.keeping jobId) ∧ S₂.state j = .creating (.returned r) ∧ r.id = q.id

theorem Reassigned.turn {i : ι} {q : RunReport}
    (reassigned : Reassigned calls runId reportId S₀ S i q)
    (turn : Turn calls runId reportId S S') : Reassigned calls runId reportId S₀ S' i q := by
  obtain ⟨S₁, S₂, asked, j, jobId, r, before, then_, after, rest⟩ := reassigned
  exact ⟨S₁, S₂, asked, j, jobId, r, before, then_, after.tail turn, rest⟩

/-- Whoever waits asks about the job of the record that it has read, and the row with its id is
about this job unless the id was given to a new record. -/
def Attributed (calls : ι → Call σ) (runId reportId : String) (S₀ S : Shared ι Standing σ) : Prop :=
  ∀ i q jobId, S.state i = .refreshing (.waiting q jobId) → q.jobId = some jobId ∧
    ((∀ r ∈ S.committed.runReports, r.id = q.id → r.jobId = some jobId) ∨
      Reassigned calls runId reportId S₀ S i q)

theorem Attributed.turn (attributed : Attributed calls runId reportId S₀ S)
    (runs : Turns calls runId reportId S₀ S) (regular : S.IsRegular) :
    Attributed calls runId reportId S₀ (S.turn calls runId reportId i refusal trouble) := by
  have turn : Turn calls runId reportId S (S.turn calls runId reportId i refusal trouble) :=
    .turn S i refusal trouble
  have turned := (turn_cases calls runId reportId i refusal trouble regular).1
  have others : ∀ j, j ≠ i →
      (S.turn calls runId reportId i refusal trouble).state j = S.state j :=
    fun j other => Shared.put_state_other other
  generalize S.turn calls runId reportId i refusal trouble = S' at turn turned others
  intro j q jobId waits
  by_cases own : j = i
  · subst own
    cases turned with
    | idle _ awaits => exact False.elim (awaits q jobId waits)
    | asks q' jobId' committed state there asked =>
      rw [state] at waits
      cases waits
      refine ⟨jobId_of_openJob? asked, Or.inl fun r member same => ?_⟩
      rw [committed] at member
      rw [regular.keys.eq_of_id member there same]
      exact jobId_of_openJob? asked
    | writes q' r jobId' p before after _ _ _ =>
      rw [after] at waits
      cases waits
    | creates jobId' r u before after _ _ _ =>
      rw [after] at waits
      cases waits
  · rw [others j own] at waits
    obtain ⟨job, rows | reassigned⟩ := attributed j q jobId waits
    · refine ⟨job, ?_⟩
      cases turned with
      | idle committed _ =>
        rw [committed]
        exact Or.inl rows
      | asks q' jobId' committed _ _ _ =>
        rw [committed]
        exact Or.inl rows
      | writes q' r jobId' p _ _ _ _ committed =>
        rw [committed]
        refine Or.inl fun r' member same => ?_
        obtain ⟨r₀, there, id, job⟩ := Tables.exists_of_mem_advance member
        rw [job]
        exact rows r₀ there (id.symm.trans same)
      | creates jobId' r u before after fewer _ committed =>
        by_cases again : r.id = q.id
        · exact Or.inr ⟨S, S', jobId, i, jobId', r, runs, turn, .refl, waits, before, after, again⟩
        · rw [committed]
          refine Or.inl fun r' member same => ?_
          rcases List.mem_append.mp member with old | new
          · exact rows r' (fewer.subset old) same
          · rw [List.mem_singleton.mp new] at same
            exact False.elim (again same)
    · exact ⟨job, Or.inr (reassigned.turn turn)⟩

theorem attributed_turns (fresh : S₀.IsFresh) (runs : Turns calls runId reportId S₀ S) :
    Attributed calls runId reportId S₀ S := by
  induction runs with
  | refl =>
    intro i q jobId waits
    have start := fresh.start i
    rw [waits] at start
    exact False.elim start
  | tail before turn ih =>
    cases turn with
    | turn i refusal trouble =>
      exact ih.turn i refusal trouble before (fresh.regular.turns before)

end Steps

section Schedules

variable [DecidableEq ι] (calls : ι → Call σ) (runId reportId : String)

/-- The callers after steps in a given order, with nothing amiss with the database. -/
def Shared.follow (S : Shared ι Standing σ) (order : List ι) : Shared ι Standing σ :=
  order.foldl (fun S i => S.turn calls runId reportId i none []) S

theorem turns_follow (S : Shared ι Standing σ) (order : List ι) :
    Turns calls runId reportId S (S.follow calls runId reportId order) := by
  induction order generalizing S with
  | nil => exact .refl
  | cons i rest ih => exact (ih _).head (.turn S i none [])

def Standing.asks? : Standing → Option String
  | .refreshing (.waiting _ jobId) => some jobId
  | _ => none

def Shared.rows (S : Shared ι Standing σ) : List (Nat × Option String × ReportStatus) :=
  S.committed.runReports.map fun r => (r.id, r.jobId, r.status)

def submittedOnce : Tables :=
  { failedOnce with
    runReports :=
      [⟨1, "run", "report", .submitted, some "job", .null, none, ⟨machineEpoch, none⟩, none⟩] }

/-- Surroundings where the engine says of every job that it has a status. -/
def saying (status : String) : Surroundings Unit :=
  let body : Json := .obj [("status", .str status), ("outputs", .obj [])]
  { obliging with exchange := fun _ => pure (Rehearsal.answer 200 body.compact) }

end Schedules

section Results

variable [DecidableEq ι]

/-- Refreshes at the same time: a record that is finished stays as it is, unless a refresh was
waiting for an answer about it when it was finished. -/
theorem finished_stays (calls : ι → Call σ) (runId reportId : String)
    {S₀ S S' : Shared ι Standing σ} (fresh : S₀.IsFresh)
    (all : ∀ i, (S₀.state i).refreshes = true) (before : Turns calls runId reportId S₀ S)
    (after : Turns calls runId reportId S S') {r : RunReport} (there : r ∈ S.committed.runReports)
    (finished : r.status.isTerminal = true) :
    r ∈ S'.committed.runReports ∨ Awaited S r.id := by
  by_cases awaited : Awaited S r.id
  · exact Or.inr awaited
  · left
    have regular := fresh.regular.turns before
    have allNow : ∀ i, (S.state i).refreshes = true := fun i => by
      rw [refreshes_turns before, all i]
    have stays : r ∈ S'.committed.runReports ∧ ¬ Awaited S' r.id := by
      induction after with
      | refl => exact ⟨there, awaited⟩
      | tail runs turn ih =>
        cases turn with
        | turn i refusal trouble =>
          refine finished_turn i refusal trouble (regular.turns runs) (fun j => ?_) ih.1 finished
            ih.2
          rw [refreshes_turns runs, allNow j]
    exact stays.1

/-- Two refreshes of a report that is under way. One is told that the job runs, the other one that
it has succeeded. -/
def told (late : Bool) : Call Unit :=
  ⟨saying (if late then "Running" else "Succeeded"), simpleGenerator, none, false⟩

def twoRefreshes : Shared Bool Standing Unit := Shared.start submittedOnce () (.refreshing .finding)

theorem twoRefreshes_fresh : twoRefreshes.IsFresh where
  start _ := trivial
  nothing _ := rfl
  keys := by unfold Tables.KeysDistinct; decide

theorem finished_stays_told :
    ∃ S S' : Shared Bool Standing Unit, Turns told "run" "report" twoRefreshes S ∧
      Turns told "run" "report" S S' ∧ ∃ r ∈ S.committed.runReports,
        r.status.isTerminal = true ∧ (r ∈ S'.committed.runReports ∨ Awaited S r.id) := by
  let S := twoRefreshes.follow told "run" "report" [false, false]
  have before : Turns told "run" "report" twoRefreshes S := turns_follow told "run" "report" _ _
  have after := turns_follow told "run" "report" S [true, true]
  have finished : S.committed.runReports.any (fun r => r.status.isTerminal) = true := by
    decide +kernel
  obtain ⟨r, there, terminal⟩ := List.any_eq_true.mp finished
  exact ⟨S, _, before, after, r, there, terminal, finished_stays told "run" "report"
    twoRefreshes_fresh (fun _ => rfl) before after there terminal⟩

/-- A refresh that was told that the job runs writes this over the record of a report that has
succeeded meanwhile. -/
theorem late_answer_reopens :
    ∃ S S' : Shared Bool Standing Unit, Turns told "run" "report" twoRefreshes S ∧
      Turn told "run" "report" S S' ∧ S.rows = [(1, some "job", .succeeded)] ∧
      S'.rows = [(1, some "job", .running)] := by
  refine ⟨twoRefreshes.follow told "run" "report" [true, false, false], _,
    turns_follow told "run" "report" _ _, .turn _ true none [], ?_, ?_⟩
  · decide +kernel
  · decide +kernel

/-- What may come of an answer about a job: the refresh fails and nothing is written, or it has
nothing new to write, or one record is written to, which is about this very job unless a creation
has given its id to a new record while the answer was awaited. -/
inductive Landed (calls : ι → Call σ) (runId reportId : String) (S₀ S S' : Shared ι Standing σ)
    (i : ι) (q : RunReport) (jobId : String) : Prop
  | failed (f : Failure) (ended : S'.state i = .refreshing (.raised f))
      (committed : S'.committed = S.committed)
  | known (ended : S'.state i = .refreshing (.returned q)) (committed : S'.committed = S.committed)
  | written (r r' : RunReport) (p : Progress) (ended : S'.state i = .refreshing (.returned r'))
      (there : r ∈ S.committed.runReports)
      (alone : ∀ r₁ ∈ S.committed.runReports, r₁.id = r.id → r₁ = r)
      (committed : S'.committed = (Change.advance r.id p).apply S.committed)
      (about : r.jobId = some jobId ∨ Reassigned calls runId reportId S₀ S i q)

/-- Among refreshes and creations in any order, an answer about a job goes to the record of this
job, if anywhere, unless the id of the record was given to a new one meanwhile. -/
theorem answer_reaches_its_job (calls : ι → Call σ) (runId reportId : String)
    {S₀ S : Shared ι Standing σ} (fresh : S₀.IsFresh) (runs : Turns calls runId reportId S₀ S)
    {i : ι} {q : RunReport} {jobId : String} (waits : S.state i = .refreshing (.waiting q jobId))
    (refusal : Option String) (trouble : List (Option Fault)) :
    Landed calls runId reportId S₀ S (S.turn calls runId reportId i refusal trouble) i q jobId := by
  have regular := fresh.regular.turns runs
  have nothing := regular.nothing i (by rw [waits]; rfl)
  obtain ⟨stage, s, ended, committed, -, answered⟩ :=
    turn_waiting calls runId reportId i refusal trouble waits nothing
  cases answered with
  | failed f _ _ same => exact .failed f ended (committed.trans same)
  | known _ _ same => exact .known ended (committed.trans same)
  | written r' p _ _ _ there written =>
    obtain ⟨r, member, id⟩ := there
    have alone : ∀ r₁ ∈ S.committed.runReports, r₁.id = r.id → r₁ = r :=
      fun r₁ member₁ same => regular.keys.eq_of_id member₁ member same
    have about : r.jobId = some jobId ∨ Reassigned calls runId reportId S₀ S i q := by
      rcases (attributed_turns fresh runs i q jobId waits).2 with rows | reassigned
      · exact Or.inl (rows r member id)
      · exact Or.inr reassigned
    rw [← id] at written
    exact .written r r' p ended member alone (committed.trans written) about

/-- Two refreshes of a report that is under way, which are both told that the job has failed, and a
creation that deletes failed records. -/
def retried (i : Fin 3) : Call Unit :=
  if i = 2 then ⟨providing, fetchingGenerator, none, true⟩
  else ⟨saying "Failed", simpleGenerator, none, false⟩

def retrying : Shared (Fin 3) Standing Unit where
  committed := submittedOnce
  outside := ()
  pending _ := []
  state i := if i = 2 then .creating .guarding else .refreshing .finding

theorem retrying_fresh : retrying.IsFresh where
  start i := by
    by_cases creates : i = 2
    · simp [retrying, creates, Standing.IsStart]
    · simp [retrying, creates, Standing.IsStart]
  nothing _ := rfl
  keys := twoRefreshes_fresh.keys

theorem answer_reaches_its_job_retried :
    ∃ S q jobId, Turns retried "run" "report" retrying S ∧
      S.state 0 = .refreshing (.waiting q jobId) ∧
      Landed retried "run" "report" retrying S (S.turn retried "run" "report" 0 none []) 0 q
        jobId := by
  let S := retrying.follow retried "run" "report" [0]
  have runs : Turns retried "run" "report" retrying S := turns_follow retried "run" "report" _ _
  have asks : (S.state 0).asks? = some "job" := by decide +kernel
  cases at_ : S.state 0 with
  | creating stage => rw [at_] at asks; cases asks
  | refreshing stage =>
    cases stage with
    | waiting q jobId =>
      exact ⟨S, q, jobId, runs, at_,
        answer_reaches_its_job retried "run" "report" retrying_fresh runs at_ none []⟩
    | _ => rw [at_] at asks; cases asks

/-- A refresh that was told that a job has failed writes this into the record of the next job, to
which a creation has given the id of the first one's record. -/
theorem late_answer_on_new_job :
    ∃ S : Shared (Fin 3) Standing Unit, Turns retried "run" "report" retrying S ∧
      (S.state 0).asks? = some "job" ∧ S.rows = [(1, some "job-1", .submitted)] ∧
      (S.turn retried "run" "report" 0 none []).rows = [(1, some "job-1", .failed)] := by
  refine ⟨retrying.follow retried "run" "report" [0, 1, 1, 2, 2, 2, 2, 2],
    turns_follow retried "run" "report" _ _, ?_⟩
  decide +kernel

end Results

end RunReports.Report
