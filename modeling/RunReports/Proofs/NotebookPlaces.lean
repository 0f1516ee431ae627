import RunReports.Proofs.BucketLocations
import RunReports.Proofs.Executed

/-! # Which notebooks share a place

The notebook of a report on a run is put at a place that is made of the two names alone, joined by a
slash; the slashes at the front are dropped. Names are free to hold slashes, so different names may
make one place: that a report is not made twice is left to the records. Here it is said which names
share a place, and that a notebook at another place is not touched. Reports that are renamed between
two creations are not excluded. -/
namespace RunReports.Storage

open RunReports.Action RunReports.Text

/-- What the place of a notebook is made of: the names joined by a slash, without the slashes at the
front. -/
def joinedNames (runName reportName : String) : List Char :=
  (runName ++ "/" ++ reportName).toList.dropWhile (· == '/')

theorem Bucket.key_inj {b : Bucket} {path path' : String} :
    b.key path = b.key path' ↔ stripChar '/' path = stripChar '/' path' := by
  simp only [Bucket.key]
  by_cases top : b.folder.isEmpty = true
  · rw [if_pos top, if_pos top]
  · rw [if_neg top, if_neg top, String.append_right_inj]

/-- Two notebooks share a place where their names, joined, are the same text. -/
theorem Bucket.place_eq_iff {b : Bucket} {runName reportName runName' reportName' : String} :
    b.place runName reportName = b.place runName' reportName' ↔
      joinedNames runName reportName = joinedNames runName' reportName' := by
  rw [Bucket.place, Bucket.place, Bucket.location, Bucket.location, String.append_right_inj,
    Bucket.key_inj, ← String.toList_inj, toList_stripChar_notebookPath,
    toList_stripChar_notebookPath, List.append_left_inj, dropWhile_append_eq_iff]
  rfl

section Names

variable {x y x' y' : String}

theorem joinedNames_of_head? (nonempty : x ≠ "") (front : x.toList.head? ≠ some '/') :
    joinedNames x y = x.toList ++ '/' :: y.toList := by
  have chars : x.toList ≠ [] := by simpa using nonempty
  have whole : (x ++ "/" ++ y).toList = x.toList ++ '/' :: y.toList := by
    simp [String.toList_append]
  have kept : (x.toList ++ '/' :: y.toList).head? ≠ some '/' := by
    rwa [List.head?_append_of_ne_nil _ chars]
  rw [joinedNames, whole, dropWhile_of_head? kept]

/-- The first slash ends the name of the run where that name holds none. -/
theorem names_eq_of_plainRuns (nonempty : x ≠ "") (nonempty' : x' ≠ "") (plain : '/' ∉ x.toList)
    (plain' : '/' ∉ x'.toList) (same : joinedNames x y = joinedNames x' y') :
    x = x' ∧ y = y' := by
  have front : x.toList.head? ≠ some '/' := fun there => plain (List.mem_of_head? there)
  have front' : x'.toList.head? ≠ some '/' := fun there => plain' (List.mem_of_head? there)
  rw [joinedNames_of_head? nonempty front, joinedNames_of_head? nonempty' front'] at same
  have cut := congrArg (cutAt '/') same
  rw [cutAt_append plain, cutAt_append plain'] at cut
  obtain ⟨runs, reports⟩ := Prod.mk.inj cut
  exact ⟨String.toList_inj.mp runs, String.toList_inj.mp (Option.some.inj reports)⟩

/-- The last slash begins the name of the report where that name holds none. -/
theorem names_eq_of_plainReports (nonempty : x ≠ "") (nonempty' : x' ≠ "")
    (front : x.toList.head? ≠ some '/') (front' : x'.toList.head? ≠ some '/')
    (plain : '/' ∉ y.toList) (plain' : '/' ∉ y'.toList)
    (same : joinedNames x y = joinedNames x' y') : x = x' ∧ y = y' := by
  rw [joinedNames_of_head? nonempty front, joinedNames_of_head? nonempty' front'] at same
  have cut := congrArg (fun s => cutAt '/' s.reverse) same
  simp only [List.reverse_append, List.reverse_cons, List.append_assoc,
    List.singleton_append] at cut
  rw [cutAt_append (by simpa using plain), cutAt_append (by simpa using plain')] at cut
  obtain ⟨reports, runs⟩ := Prod.mk.inj cut
  have runs := List.reverse_inj.mp (Option.some.inj runs)
  exact ⟨String.toList_inj.mp runs, String.toList_inj.mp (List.reverse_inj.mp reports)⟩

end Names

end RunReports.Storage

namespace RunReports.Report

open RunReports.Action RunReports.Calendar RunReports.Storage RunReports.Store

variable {σ : Type} {client : ObjectClient σ} {b : Bucket} {t : Tables} {run : RunRow}
variable {report : ReportRow} {d : Draft}

theorem snapshotOf_name {row : RunRow} {results : Json.Fields} {s : Run.Snapshot}
    (made : Run.snapshotOf row results = .ok s) : s.name = row.name := by
  simp only [Run.snapshotOf, bind, Except.bind] at made
  cases test : Run.storedPairs row.testInput with
  | error f =>
    rw [test] at made
    cases made
  | ok testPairs =>
    cases eval : Run.storedPairs row.evalInput with
    | error f =>
      rw [test, eval] at made
      cases made
    | ok evalPairs =>
      cases testRead : Run.pairMembers "test_input" testPairs <;>
      cases evalRead : Run.pairMembers "eval_input" evalPairs <;>
      simp only [test, eval, testRead, evalRead, Run.Checked.apply, reduceCtorEq] at made
      cases made
      rfl

theorem draft_path {snapshot : Run.Snapshot} {template : Template}
    (made : draft snapshot template = .ok d) :
    d.path = notebookPath snapshot.name template.name := by
  simp only [draft] at made
  split at made
  · cases made
  · cases made
  · split at made
    · cases made
    · cases made
      rfl

/-- A draft goes to the path of the names that the rows have. -/
theorem draftOf_path (keys : t.Keyed) (runThere : run ∈ t.runs) (reportThere : report ∈ t.reports)
    (made : draftOf run.id report.id t = .ok d) :
    d.path = notebookPath run.name report.name := by
  have runFound := Tables.find?_of_key RunRow.id keys.runs runThere
  have reportFound := Tables.find?_of_key ReportRow.id keys.reports reportThere
  simp only [draftOf, runOf, templateOf, definitionOf, runFound, reportFound, Option.elim, bind,
    Except.bind, pure, Except.pure] at made
  split at made
  · cases made
  · rename_i snapshot snapshotOf
    rw [draft_path made, snapshotOf_name snapshotOf]

def places (effects : List Effect) : List String :=
  effects.filterMap fun effect =>
    match effect with
    | .upload _ _ (.ok place) => some place
    | _ => none

def Surroundings.storing (e : Surroundings σ) (client : ObjectClient σ) (b : Bucket) :
    Surroundings σ :=
  { e with upload := b.upload client }

/-- Some creation of a report on a run has put its notebook at a place. -/
inductive PutAt (client : ObjectClient σ) (b : Bucket) (run : RunRow) (report : ReportRow)
    (place : String) : Prop
  | created (e : Surroundings σ) (g : Generator) (t : Tables) (createdBy : Option String)
      (deleteFailed : Bool) (refusal : Option String) (trouble : List (Option Store.Fault)) (o : σ)
      (keys : t.Keyed) (runThere : run ∈ t.runs) (reportThere : report ∈ t.reports)
      (there : place ∈ places ((create (e.storing client b).recorded.services g run.id report.id
        createdBy deleteFailed).run ⟨⟨t, [], refusal, trouble⟩, ⟨o, []⟩⟩).2.outside.effects)

theorem upload_place {content : List UInt8} {path place : String} {s : σ}
    (uploaded : ((b.upload client content path).run s).1 = .ok place) :
    place = b.location (b.key path) := by
  rw [Bucket.upload, run_bind, run_client] at uploaded
  rcases answered : (client.put ⟨b.name, b.key path, content, notebookContentType⟩).run s with
    ⟨fault | _, after⟩
  · rw [answered] at uploaded
    cases uploaded
  · rw [answered] at uploaded
    exact (Except.ok.inj uploaded).symm

/-- Whatever a creation uploads goes to the place of its draft. -/
theorem Delivered.place {e : Surroundings σ} {g : Generator} {o : σ} {effects : List Effect}
    (delivered : Delivered (e.storing client b) g d o effects) {place : String}
    (there : place ∈ places effects) : place = b.location (b.key d.path) := by
  cases delivered with
  | uploaded ended upload =>
    cases ended with
    | error f => simp [places] at there
    | ok location =>
      obtain rfl : place = location := by simpa [places] using there
      exact upload_place upload
  | submitted location _ _ _ _ _ _ upload _ _ _ _ =>
    obtain rfl : place = location := by simpa [places] using there
    exact upload_place (congrArg Prod.fst upload)

theorem PutAt.eq_place {place : String} (put : PutAt client b run report place) :
    place = b.place run.name report.name := by
  obtain ⟨e, g, t, createdBy, deleteFailed, refusal, trouble, o, keys, runThere, reportThere, there⟩ := put
  have ensured := create_all_or_nothing (e.storing client b) g run.id report.id createdBy
    deleteFailed t keys.runReports refusal trouble o
  have draft (d : Draft) (made : draftOf run.id report.id t = .ok d) {effects : List Effect}
      (delivered : Delivered (e.storing client b) g d o effects)
      (among : place ∈ places effects) : place = b.place run.name report.name := by
    rw [delivered.place among, draftOf_path keys runThere reportThere made]
    rfl
  rcases ended : (create (e.storing client b).recorded.services g run.id report.id createdBy
      deleteFailed).run ⟨⟨t, [], refusal, trouble⟩, ⟨o, []⟩⟩ with ⟨failure | record, w⟩
  · rw [ended] at there
    obtain ⟨-, -, nothing | ⟨-, d, made, delivered⟩⟩ := ensured.error ended
    · rw [nothing] at there
      cases there
    · exact draft d made delivered there
  · rw [ended] at there
    obtain ⟨d, -, -, -, -, -, -, made, delivered, -⟩ := ensured.ok ended
    exact draft d made delivered there

/-- Names that are told apart by the place of their notebook: no slash in the name of either run, or
none in the name of either report and none at the front of the names of the runs. -/
def ToldApart (run run' : RunRow) (report report' : ReportRow) : Prop :=
  ('/' ∉ run.name.toList ∧ '/' ∉ run'.name.toList) ∨
    (run.name.toList.head? ≠ some '/' ∧ run'.name.toList.head? ≠ some '/' ∧
      '/' ∉ report.name.toList ∧ '/' ∉ report'.name.toList)

/-- Two notebooks are put at one place exactly where the names of run and report, joined by a slash,
make the same text behind the slashes at its front. Names that are told apart never do so. Where
the places differ, one notebook is still fetched after any upload of the other. -/
theorem places_shared_iff {location : String} (at_ : Bucket.at location = .ok b)
    {run' : RunRow} {report' : ReportRow} {place place' : String}
    (put : PutAt client b run report place) (put' : PutAt client b run' report' place') :
    (place = place' ↔
      joinedNames run.name report.name = joinedNames run'.name report'.name) ∧
    ((run.name, report.name) ≠ (run'.name, report'.name) → run.name ≠ "" → run'.name ≠ "" →
      ToldApart run run' report report' → place ≠ place') ∧
    ∀ (reader : ObjectClient σ) (inService : σ → Prop)
      (held : σ → String → String → Option (List UInt8)),
      KeepsBytes client inService held → KeepsBytes reader inService held →
      ∀ (s : σ) (content content' : List UInt8), inService s →
      held s b.name (b.key (notebookPath run.name report.name)) = some content →
      place ≠ place' → ∃ after,
        (b.upload client content' (notebookPath run'.name report'.name)).run s =
          (.ok place', after) ∧
        ((download reader place).run after).1 = .ok content := by
  rw [put.eq_place, put'.eq_place]
  refine ⟨Bucket.place_eq_iff, ?_, ?_⟩
  · intro different nonempty nonempty' apart
    rw [Ne, Bucket.place_eq_iff]
    intro same
    rw [Ne, Prod.mk.injEq] at different
    rcases apart with ⟨plain, plain'⟩ | ⟨front, front', plain, plain'⟩
    · exact different (names_eq_of_plainRuns nonempty nonempty' plain plain' same)
    · exact different
        (names_eq_of_plainReports nonempty nonempty' front front' plain plain' same)
  · intro reader inService held keeps keepsToo s content content' up there different
    have split := Bucket.isSplit_of_at at_
    have found := split.splitLocation_location
      (split.notAround_notebookKey run.name report.name)
    obtain ⟨after, uploaded, still, -, others⟩ :=
      keeps.upload b content' (notebookPath run'.name report'.name) up
    refine ⟨after, uploaded, keepsToo.download still found ?_⟩
    rw [others _ _ fun same => different ?_, there]
    exact congrArg b.location (Prod.mk.inj same).2

/-! ## Names with slashes -/

def slashedRun : RunRow := { sampledRun with id := "first", name := "a/b" }

def shorterRun : RunRow := { sampledRun with id := "second", name := "a" }

def plainReport : ReportRow := { ownReport with id := "third", name := "c" }

def slashedReport : ReportRow := { ownReport with id := "fourth", name := "b/c" }

def slashedNames : Tables :=
  { Tables.empty with
    runs := [slashedRun, shorterRun]
    reports := [plainReport, slashedReport] }

theorem slashedNames_keyed : slashedNames.Keyed := by
  refine ⟨by decide, by decide, by decide, ?_⟩
  unfold Tables.KeysDistinct
  decide

/-- Surroundings that answer as a web and an engine in good order do. -/
def answering : Surroundings ObjectStore where
  upload _ path := pure path
  fetch _ := pure (Rehearsal.answer 200 ("workflow " ++ Workflow.workflowName ++ " \x7b"))
  exchange _ := pure Rehearsal.Server.fresh.accept.1
  now _ := ⟨machineEpoch, none⟩

theorem putAt_slashedNames : ∀ run ∈ slashedNames.runs, ∀ report ∈ slashedNames.reports,
    PutAt ObjectStore.client reportsBucket run report
      (reportsBucket.place run.name report.name) := by
  have evaluated : ∀ run ∈ slashedNames.runs, ∀ report ∈ slashedNames.reports,
      reportsBucket.place run.name report.name ∈
        places ((create (answering.storing ObjectStore.client reportsBucket).recorded.services
          fetchingGenerator run.id report.id none false).run
            ⟨⟨slashedNames, [], none, []⟩, ⟨ObjectStore.empty, []⟩⟩).2.outside.effects := by
    decide +kernel
  intro run runThere report reportThere
  exact .created answering fetchingGenerator slashedNames none false none [] ObjectStore.empty
    slashedNames_keyed runThere reportThere (evaluated run runThere report reportThere)

/-- With slashes in the names of runs and reports, different names may share a place. -/
theorem places_shared_slashedNames :
    Bucket.at "gs://bucket/reports/" = .ok reportsBucket ∧ slashedNames.Keyed ∧
      (slashedNames.runs.map RunRow.name).Nodup ∧ (slashedNames.reports.map ReportRow.name).Nodup ∧
      (∀ run ∈ slashedNames.runs, run.name ≠ "") ∧
      (∀ report ∈ slashedNames.reports, report.name ≠ "") ∧
      (slashedRun.name, plainReport.name) ≠ (shorterRun.name, slashedReport.name) ∧
      ∃ place, PutAt ObjectStore.client reportsBucket slashedRun plainReport place ∧
        PutAt ObjectStore.client reportsBucket shorterRun slashedReport place := by
  refine ⟨by decide, slashedNames_keyed, by decide, by decide, by decide, by decide, by decide,
    "gs://bucket/reports/a/b/c/report_template.ipynb", ?_, ?_⟩
  · exact putAt_slashedNames slashedRun (by simp [slashedNames]) plainReport
      (by simp [slashedNames])
  · exact putAt_slashedNames shorterRun (by simp [slashedNames]) slashedReport
      (by simp [slashedNames])

theorem places_shared_iff_shorterRun :
    Bucket.at "gs://bucket/reports/" = .ok reportsBucket ∧
      ∃ place place', PutAt ObjectStore.client reportsBucket slashedRun plainReport place ∧
        PutAt ObjectStore.client reportsBucket shorterRun plainReport place' ∧
        (place = place' ↔ joinedNames slashedRun.name plainReport.name =
          joinedNames shorterRun.name plainReport.name) ∧
        place ≠ place' ∧
        ∀ (s : ObjectStore) (content content' : List UInt8), s.outage = none →
          s.get? reportsBucket.name
            (reportsBucket.key (notebookPath slashedRun.name plainReport.name)) = some content →
          ∃ after, (reportsBucket.upload ObjectStore.client content'
              (notebookPath shorterRun.name plainReport.name)).run s = (.ok place', after) ∧
            ((download ObjectStore.client place).run after).1 = .ok content := by
  have at_ : Bucket.at "gs://bucket/reports/" = .ok reportsBucket := by decide
  have put := putAt_slashedNames slashedRun (by simp [slashedNames]) plainReport
    (by simp [slashedNames])
  have put' := putAt_slashedNames shorterRun (by simp [slashedNames]) plainReport
    (by simp [slashedNames])
  obtain ⟨shared, apart, kept⟩ := places_shared_iff at_ put put'
  have told : ToldApart slashedRun shorterRun plainReport plainReport :=
    .inr ⟨by decide, by decide, by decide, by decide⟩
  have different := apart (by decide) (by decide) (by decide) told
  refine ⟨at_, _, _, put, put', shared, different, ?_⟩
  intro s content content' up there
  exact kept ObjectStore.client _ _ keepsBytes_objectStore keepsBytes_objectStore s content content'
    up there different

end RunReports.Report
