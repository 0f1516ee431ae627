import RunReports.Proofs.Records

/-!
# What a creation reads

The notebook of a report on a run is made of stored rows alone. `draftOf` is what these rows
give, a draft or a failure; it does not depend on the records of run reports, and a creation that
passes its guard ends with it, unless the database fails.
-/
namespace RunReports.Report

open RunReports RunReports.Action RunReports.Store RunReports.Store.Session

variable {α β : Type} {s t : Session}

/-- The action leaves the rows alone and ends with `v`, unless the database fails. -/
def Reads (a : Action Session α) (s : Session) (v : Except Failure α) : Prop :=
  a.Ensures s (fun x t => v = .ok x ∧ Keeps s t)
    (fun f t => Keeps s t ∧ (s.Calm → v = .error f))

theorem reads_pure (x : α) (s : Session) : Reads (pure x) s (.ok x) :=
  ensures_pure ⟨rfl, Keeps.refl s⟩

theorem reads_throw (f : Failure) (s : Session) :
    Reads (throw f : Action Session α) s (.error f) :=
  ensures_throw ⟨Keeps.refl s, fun _ => rfl⟩

theorem Reads.bind {a : Action Session α} {k : α → Action Session β} {v : Except Failure α}
    {w : α → Except Failure β} (h : Reads a s v)
    (next : ∀ x t, t.view = s.view → Reads (k x) t (w x)) :
    Reads (a >>= k) s (v >>= w) := by
  refine (h.mono (fun _ _ h => h) ?_).bind ?_
  · rintro f t ⟨kept, failed⟩
    exact ⟨kept, fun calm => by rw [failed calm]; rfl⟩
  · rintro x t ⟨rfl, kept⟩
    refine (next x t kept.view).mono (fun y u h => ⟨h.1, kept.trans h.2⟩) ?_
    exact fun f u h => ⟨kept.trans h.1, fun calm => h.2 (kept.calm calm)⟩

theorem Reads.then {a : Action Session α} {k : α → Action Session β} {x : α}
    {w : Except Failure β} (h : Reads a s (.ok x))
    (next : ∀ t, t.view = s.view → Reads (k x) t w) : Reads (a >>= k) s w := by
  refine (h.mono (fun _ _ h => h) ?_).bind ?_
  · rintro f t ⟨kept, failed⟩
    exact ⟨kept, fun calm => by cases failed calm⟩
  · rintro y t ⟨same, kept⟩
    cases same
    refine (next t kept.view).mono (fun y u h => ⟨h.1, kept.trans h.2⟩) ?_
    exact fun f u h => ⟨kept.trans h.1, fun calm => h.2 (kept.calm calm)⟩

theorem reads_read (table : TableName) (subject : Subject) (f : Tables → α) (s : Session) :
    Reads (accessing subject (Session.read table f)) s (.ok (f s.view)) := by
  refine (accessing_ensures_same (read_ensures table f s)).mono ?_ ?_
  · rintro x t ⟨rfl, kept⟩
    exact ⟨rfl, kept⟩
  · exact fun _ _ h => ⟨h.1, fun calm => False.elim (h.2 calm)⟩

theorem reads_present (subject : Subject) (found : Option α) (s : Session) :
    Reads (Run.present subject found) s
      (found.elim (.error (.report (.notFound (.subject subject)))) .ok) := by
  cases found with
  | none => exact reads_throw _ s
  | some x => exact reads_pure x s

/-- The action leaves the rows alone, wherever it starts and however it ends. -/
def Quiet (a : Action Session α) : Prop :=
  ∀ s, a.Ensures s (fun _ t => Keeps s t) fun _ t => Keeps s t

theorem quiet_pure (x : α) : Quiet (pure x) := fun s => ensures_pure (Keeps.refl s)

theorem quiet_throw (f : Failure) : Quiet (throw f : Action Session α) :=
  fun s => ensures_throw (Keeps.refl s)

theorem Quiet.bind {a : Action Session α} {k : α → Action Session β} (h : Quiet a)
    (next : ∀ x, Quiet (k x)) : Quiet (a >>= k) := by
  intro s
  refine (h s).bind fun x t kept => ?_
  exact (next x t).mono (fun _ _ more => kept.trans more) fun _ _ more => kept.trans more

theorem Reads.quiet {a : Action Session α} (h : ∀ s, ∃ v, Reads a s v) : Quiet a := by
  intro s
  obtain ⟨v, reads⟩ := h s
  exact reads.mono (fun _ _ h => h.2) fun _ _ h => h.1

theorem quiet_read (table : TableName) (subject : Subject) (f : Tables → α) :
    Quiet (accessing subject (Session.read table f)) :=
  Reads.quiet fun s => ⟨_, reads_read table subject f s⟩

theorem quiet_present (subject : Subject) (found : Option α) :
    Quiet (Run.present subject found) :=
  Reads.quiet fun s => ⟨_, reads_present subject found s⟩

def runOf (runId : String) (t : Tables) : Except Failure Run.Snapshot := do
  let row ← (t.runs.find? fun r => r.id == runId).elim
    (.error (.report (.notFound (.subject (.run runId))))) .ok
  Run.snapshotOf row (Run.resultMembers runId t.results)

def definitionOf (reportId : String) (t : Tables) : Except Failure ReportRow :=
  (t.reports.find? fun r => r.id == reportId).elim
    (.error (.report (.notFound (.subject (.report reportId))))) .ok

def templateOf (reportId : String) (t : Tables) : Except Failure Template := do
  let row ← definitionOf reportId t
  pure ⟨row.id, row.name, row.notebook, row.config⟩

/-- The notebook of a stored report and a stored run, ready for upload. -/
def draftOf (runId reportId : String) (t : Tables) : Except Failure Draft := do
  let run ← runOf runId t
  let template ← templateOf reportId t
  draft run template

theorem reads_run (runId : String) (s : Session) :
    Reads (Run.load runId) s (runOf runId s.view) := by
  refine (reads_read _ _ _ s).then fun t seen => ?_
  refine (reads_present _ _ t).bind fun row u seen' => ?_
  refine (reads_read _ _ _ u).then fun v _ => ?_
  rw [seen', seen]
  cases Run.snapshotOf row (Run.resultMembers runId s.view.results) with
  | ok run => exact reads_pure run v
  | error f => exact reads_throw f v

theorem reads_definition (reportId : String) (s : Session) :
    Reads (findDefinition reportId) s (definitionOf reportId s.view) :=
  (reads_read _ _ _ s).then fun t _ => reads_present _ _ t

theorem reads_template (reportId : String) (s : Session) :
    Reads (loadTemplate reportId) s (templateOf reportId s.view) :=
  (reads_definition reportId s).bind fun _ t _ => reads_pure _ t

theorem reads_draft (runId reportId : String) (s : Session) :
    Reads (loadDraft runId reportId) s (draftOf runId reportId s.view) := by
  refine (reads_run runId s).bind fun run t seen => ?_
  rw [← seen]
  refine (reads_template reportId t).bind fun template u _ => ?_
  cases draft run template with
  | ok d => exact reads_pure d u
  | error f => exact reads_throw f u

variable {runId reportId : String} {d : Draft} {T : Tables}

theorem draftOf_eq {run : Run.Snapshot} {template : Template} {doc : Notebook.Document}
    {content : List UInt8} (ran : runOf runId T = .ok run)
    (found : templateOf reportId T = .ok template)
    (assembled : Notebook.assemble template.notebook run = .ok doc)
    (written : doc.serialize? = some content) : draftOf runId reportId T =
      .ok ⟨content, Storage.notebookPath run.name template.name, template.config⟩ := by
  simp only [draftOf, ran, found, bind, Except.bind, draft, assembled, written]

theorem any_of_find? {l : List α} {p : α → Bool} {x : α} (found : l.find? p = some x) :
    l.any p = true :=
  List.any_eq_true.mpr ⟨x, List.mem_of_find?_eq_some found, List.find?_some found⟩

/-- A draft is made of a run and a report that are there. -/
theorem draftOf_references (made : draftOf runId reportId T = .ok d) :
    (T.hasRun runId && T.hasReport reportId) = true := by
  have run : T.hasRun runId = true := by
    cases found : T.runs.find? fun r => r.id == runId with
    | none =>
      rw [draftOf, runOf, found] at made
      cases made
    | some row => exact any_of_find? found
  have report : T.hasReport reportId = true := by
    cases found : T.reports.find? fun r => r.id == reportId with
    | none =>
      rw [draftOf, templateOf, definitionOf, found] at made
      cases read : runOf runId T <;> rw [read] at made <;> cases made
    | some row => exact any_of_find? found
  rw [run, report, Bool.and_self]

theorem draftOf_clearing (runId reportId : String) (T : Tables) :
    draftOf runId reportId ((clearing runId reportId T).foldl Change.apply T) =
      draftOf runId reportId T := by
  rw [clearing]
  split <;> rfl

/-- A preparation succeeds with the draft of a creation that may begin, and has then made room
for the new record. -/
theorem prepare_ensures (runId reportId : String) (deleteFailed : Bool) (s : Session) :
    (prepare runId reportId deleteFailed).Ensures s
      (fun d t => MayCreate runId reportId deleteFailed s.view ∧
        draftOf runId reportId s.view = .ok d ∧ Extends (clearing runId reportId s.view) s t)
      (fun f t => t.committed = s.committed ∧ (s.Calm →
        (¬ MayCreate runId reportId deleteFailed s.view ∧
          f = .report (.prohibited (.exists runId reportId))) ∨
        (MayCreate runId reportId deleteFailed s.view ∧
          draftOf runId reportId s.view = .error f))) := by
  refine ((ensureMayCreate_ensures runId reportId deleteFailed s).mono (fun _ _ h => h) ?_).bind ?_
  · exact fun _ _ h => ⟨h.1.committed, fun calm => Or.inl (h.2 calm)⟩
  · rintro - t ⟨may, room⟩
    have made : draftOf runId reportId t.view = draftOf runId reportId s.view := by
      rw [room.view, draftOf_clearing]
    refine (reads_draft runId reportId t).mono ?_ ?_
    · rintro d u ⟨read, kept⟩
      exact ⟨may, made.symm.trans read, room.keeps kept⟩
    · rintro f u ⟨kept, failed⟩
      refine ⟨kept.committed.trans room.committed, fun calm => Or.inr ⟨may, ?_⟩⟩
      exact made.symm.trans (failed (room.calm calm))

end RunReports.Report
