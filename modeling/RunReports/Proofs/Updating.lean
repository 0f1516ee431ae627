import RunReports.Proofs.PrintedLines
import RunReports.Proofs.Revising
import RunReports.Rehearsal.Trial

/-!
# Updates of report definitions

An update does what its line tells: the report that is told as updated has what the options give
and what their files hold, and nothing has changed where a failure is told. One value in a file is
passed over: null stands for no file at all, and so an update is told as done that gave nothing.
-/
namespace RunReports.CommandLine

open RunReports RunReports.Action RunReports.Report RunReports.Store

variable {σ : Type}

/-! ## How a command ends -/

section Endings

variable {α : Type} {w : World σ}

theorem ending_ensures {a : Action (World σ) Json.Fields} {Q : Json.Fields → World σ → Prop}
    {E : Failure → World σ → Prop} (subject : Json.Fields) (h : a.Ensures w Q E) :
    (ending subject a).Ensures w
      (fun e u => (∃ fields, Q fields u ∧ e = succeededWith fields) ∨
        ∃ told, E (.report told) u ∧ e = failedWith subject told)
      (fun f u => E f u) := by
  refine (h.bind fun fields u q => ensures_pure (Or.inl ⟨fields, q, rfl⟩)).tryCatch ?_
  intro f u e
  cases f with
  | report told => exact ensures_pure (Or.inr ⟨told, e, rfl⟩)
  | _ => exact ensures_throw e

theorem run_closing (a : Action (World σ) α) (w : World σ) :
    (closing a).run w =
      ((a.run w).1, { (a.run w).2 with session := (a.run w).2.session.rollback }) := rfl

theorem closing_ensures {a : Action (World σ) α} {Q : α → World σ → Prop}
    {E : Failure → World σ → Prop} (h : a.Ensures w Q E) :
    (closing a).Ensures w
      (fun x v => ∃ u, Q x u ∧ v = { u with session := u.session.rollback })
      (fun f v => ∃ u, E f u ∧ v = { u with session := u.session.rollback }) := by
  rcases ended : a.run w with ⟨f | x, u⟩
  · exact ensures_of_error (by rw [run_closing, ended]) ⟨u, h.error ended, rfl⟩
  · exact ensures_of_ok (by rw [run_closing, ended]) ⟨u, h.ok ended, rfl⟩

end Endings

/-! ## What a command tells -/

structure Tells (e : Ending) (status : String) (fields : Json.Fields) : Prop where
  read : Json.read e.output = .ok (.obj fields)
  status : Json.Fields.get? "status" fields = some (.str status)

theorem Tells.of_line {e : Ending} {status : String} {fields told : Json.Fields}
    (tells : Tells e status told) (printed : e.output = line (.obj fields))
    (reads : Json.read (line (.obj fields)) = .ok (.obj fields)) :
    told = fields ∧ Json.Fields.get? "status" fields = some (.str status) := by
  have same := tells.read
  rw [printed, reads] at same
  cases same
  exact ⟨rfl, tells.status⟩

def updatedFields (row : ReportRow) : Json.Fields :=
  [("status", .str "updated"), ("report_id", .str row.id), ("name", .str row.name)]

def failedFields (reportId : String) (told : ReportError) : Json.Fields :=
  [("status", .str "failed"), ("report_id", .str reportId), ("error", errorJson told)]

theorem read_updated (row : ReportRow) :
    Json.read (line (.obj (updatedFields row))) = .ok (.obj (updatedFields row)) :=
  read_line (by simp [updatedFields, Json.WellFormed, Json.WellFormedFields])
    (by simp [updatedFields, Json.AllFinite, Json.AllFiniteFields])
    (by simp [updatedFields, Json.depth, Json.depthFields, Json.levelLimit])

theorem read_failed (reportId : String) (told : ReportError) :
    Json.read (line (.obj (failedFields reportId told))) =
      .ok (.obj (failedFields reportId told)) :=
  read_line (by simp [failedFields, errorJson, Json.WellFormed, Json.WellFormedFields])
    (by simp [failedFields, errorJson, Json.AllFinite, Json.AllFiniteFields])
    (by simp [failedFields, errorJson, Json.depth, Json.depthFields, Json.levelLimit])

theorem usageLines_starts (name : String) (usages : List Usage) :
    ∃ front others, usageLines name usages = ("usage: " ++ front) :: others := by
  simp only [usageLines]
  split
  · exact ⟨_, _, rfl⟩
  · exact ⟨_, _, by rw [String.append_assoc, String.append_assoc]⟩

/-- The help on a command is no JSON: no value starts with its first letter. -/
theorem read_help (c : Command) : ∃ fault, Json.read c.help = .error fault := by
  obtain ⟨front, others, lines⟩ := usageLines_starts c.name c.usages
  obtain ⟨rest, starts⟩ : ∃ rest, c.help.toList = 'u' :: rest := by
    simp only [Command.help, helpText, lines, String.toList_join, List.cons_append, List.map_cons,
      List.flatMap_cons, String.toList_append]
    exact ⟨_, rfl⟩
  rw [Json.read, starts]
  exact ⟨_, rfl⟩

/-! ## Files -/

def Still (fileReader : FileReader σ) : Prop := ∀ path w, ((fileReader path).run w).2 = w

/-- A file holds a value: its bytes decode to a text that reads as the value. -/
def Holds (fileReader : FileReader σ) (w : World σ) (path : String) (v : Json) : Prop :=
  ∃ bytes, ((fileReader path).run w).1 = .ok bytes ∧ (fileText bytes >>= Json.read) = .ok v

/-- What an option gives that names a file: the value in the file, and null without a name. -/
inductive Gives (fileReader : FileReader σ) (w : World σ) : String → Json → Prop
  | nothing : Gives fileReader w "" .null
  | file {path : String} {v : Json} (named : path ≠ "") (holds : Holds fileReader w path v) :
      Gives fileReader w path v

variable {fileReader : FileReader σ}

theorem readFile_ensures (still : Still fileReader) (path : String) (w : World σ) :
    (liftM (fileReader path) : Action (World σ) (Except String (List UInt8))).Ensures w
      (fun x w' => x = ((fileReader path).run w).1 ∧ w' = w) (fun _ _ => False) :=
  ensures_of_ok rfl ⟨rfl, still path w⟩

theorem readJsonFile_ensures (still : Still fileReader) (what path : String) (w : World σ) :
    (readJsonFile fileReader what path).Ensures w
      (fun v w' => Gives fileReader w path v ∧ w' = w) (fun _ w' => w' = w) := by
  rw [readJsonFile]
  split_ifs with empty null
  · rw [String.isEmpty_iff] at empty
    subst empty
    exact ensures_pure ⟨.nothing, rfl⟩
  · exact ensures_throw rfl
  · refine ((readFile_ensures still path w).mono (fun _ _ h => h) fun _ _ h => h.elim).bind ?_
    rintro read _ ⟨found, rfl⟩
    cases read with
    | error description => exact ensures_throw rfl
    | ok bytes =>
      have named : path ≠ "" := fun same => empty (by rw [same]; rfl)
      simp only
      cases value : fileText bytes >>= Json.read with
      | error fault => exact ensures_throw rfl
      | ok v => exact ensures_pure ⟨.file named ⟨bytes, found.symm, value⟩, rfl⟩

/-! ## Updates -/

def updating (fileReader : FileReader σ) (values : List (String × String)) :
    Action (World σ) Json.Fields := do
  let notebook ← readJsonFile fileReader "notebook file"
    ((values.lookup "--notebook-file").getD "")
  let config ← readJsonFile fileReader "config file" ((values.lookup "--config-file").getD "")
  let row ← onSession (revise (trimmed values "--report-id")
    ⟨trimmed? values "--name", values.lookup "--description", notebook, config⟩)
  pure (updatedFields row)

theorem runUpdate_eq (fileReader : FileReader σ) (values : List (String × String)) :
    runUpdate fileReader values =
      ending [("report_id", .str (trimmed values "--report-id"))] (updating fileReader values) :=
  rfl

/-- The options of an update, and the files that they name, give a revision, and it has changed the
definition with the id; `fields` tell of the changed definition. -/
structure Updated (fileReader : FileReader σ) (values : List (String × String)) (w : World σ)
    (notebook config : Json) (t : Tables) (fields : Json.Fields) : Prop where
  givesNotebook : Gives fileReader w ((values.lookup "--notebook-file").getD "") notebook
  givesConfig : Gives fileReader w ((values.lookup "--config-file").getD "") config
  changed : Changed (trimmed values "--report-id")
    ⟨trimmed? values "--name", values.lookup "--description", notebook, config⟩
    w.session.committed t
  told : ∃ row ∈ t.reports, row.id = trimmed values "--report-id" ∧ fields = updatedFields row

/-- An update has failed for an error, of which `fields` tell, and no row has changed. -/
structure UpdateFailed (fileReader : FileReader σ) (values : List (String × String)) (w : World σ)
    (error : ReportError) (t : Tables) (fields : Json.Fields) : Prop where
  failed : ((updating fileReader values).run w).1 = .error (.report error)
  unchanged : t = w.session.committed
  told : fields = failedFields (trimmed values "--report-id") error

theorem updating_ensures (still : Still fileReader) (values : List (String × String)) {w : World σ}
    (nothing : w.session.pending = [])
    (ids : (w.session.committed.reports.map ReportRow.id).Nodup) :
    (updating fileReader values).Ensures w
      (fun fields u => ∃ notebook config,
        Updated fileReader values w notebook config u.session.committed fields)
      (fun _ u => u.session.committed = w.session.committed) := by
  have same : ∀ {u : World σ}, u = w → u.session.committed = w.session.committed := by
    rintro _ rfl
    rfl
  refine ((readJsonFile_ensures still _ _ w).mono (fun _ _ h => h) fun _ _ => same).bind ?_
  rintro notebook _ ⟨givesNotebook, rfl⟩
  refine ((readJsonFile_ensures still _ _ _).mono (fun _ _ h => h) fun _ _ => same).bind ?_
  rintro config w ⟨givesConfig, rfl⟩
  refine (((revise_changes _ _ ids nothing).within).mono (fun _ _ h => h) ?_).bind ?_
  · rintro f _ ⟨s, unchanged, rfl⟩
    exact unchanged
  · rintro row _ ⟨s, ⟨changed, -, member, is⟩, rfl⟩
    exact ensures_pure ⟨notebook, config, givesNotebook, givesConfig, changed, row, member, is, rfl⟩

inductive Ended (fileReader : FileReader σ) (words : List String) (w : World σ) (t : Tables) :
    Ending → Prop
  | senseless : Ended fileReader words w t ⟨2, ""⟩
  | help : Ended fileReader words w t ⟨0, Command.update.help⟩
  | updated {values : List (String × String)} {notebook config : Json} {row : ReportRow}
      (parsed : parse Command.update.usages words = .values values)
      (done : Updated fileReader values w notebook config t (updatedFields row)) :
      Ended fileReader words w t (succeededWith (updatedFields row))
  | failed {values : List (String × String)} {error : ReportError}
      (parsed : parse Command.update.usages words = .values values)
      (done : UpdateFailed fileReader values w error t
        (failedFields (trimmed values "--report-id") error)) :
      Ended fileReader words w t
        (failedWith [("report_id", .str (trimmed values "--report-id"))] error)

theorem start_ensures (s : Services σ) (g : Generator) (words : List String) {w : World σ}
    (still : Still fileReader) (nothing : w.session.pending = [])
    (ids : (w.session.committed.reports.map ReportRow.id).Nodup) :
    (Command.update.start s fileReader g words).Ensures w
      (fun e u => Ended fileReader words w u.session.committed e)
      (fun _ u => u.session.committed = w.session.committed) := by
  rw [Command.start]
  cases parsed : parse Command.update.usages words with
  | invalid => exact ensures_pure .senseless
  | help => exact ensures_pure .help
  | values values =>
    simp only [Command.run, runUpdate_eq]
    refine (closing_ensures (ending_ensures [("report_id", .str (trimmed values "--report-id"))]
      (updating_ensures still values nothing ids).ran)).mono ?_ ?_
    · rintro e _ ⟨u, ended, rfl⟩
      rcases ended with ⟨fields, ⟨-, notebook, config, done⟩, rfl⟩ | ⟨error, ⟨ran, unchanged⟩, rfl⟩
      · obtain ⟨row, -, -, rfl⟩ := done.told
        exact .updated parsed done
      · exact .failed parsed ⟨by rw [ran], unchanged, rfl⟩
    · rintro f _ ⟨u, ⟨-, unchanged⟩, rfl⟩
      exact unchanged

/-- An update does what it tells. If it exits with zero and tells that a report is updated, the
definition of the report has been revised by what the options give and their files hold, where null
counts as nothing given. If it tells that it has failed, it exits with one, no row has changed, and
its one line carries the error that it met. If it does not get to tell anything, no row has changed
either. -/
theorem update_as_told (s : Services σ) (g : Generator) (words : List String) {w : World σ}
    (still : Still fileReader) (nothing : w.session.pending = [])
    (ids : (w.session.committed.reports.map ReportRow.id).Nodup) :
    (Command.update.start s fileReader g words).Ensures w
      (fun e u => ∀ fields,
        (e.code = 0 → Tells e "updated" fields →
          ∃ values notebook config, parse Command.update.usages words = .values values ∧
            Updated fileReader values w notebook config u.session.committed fields) ∧
        (Tells e "failed" fields → e.code = 1 ∧ IsOneLine e.output ∧
          ∃ values error, parse Command.update.usages words = .values values ∧
            UpdateFailed fileReader values w error u.session.committed fields))
      (fun _ u => u.session.committed = w.session.committed) := by
  refine (start_ensures s g words still nothing ids).mono ?_ fun _ _ h => h
  intro e u ended fields
  cases ended with
  | senseless =>
    refine ⟨fun zero => absurd zero (by decide), fun tells => ?_⟩
    cases tells.read
  | help =>
    have silent (status : String) : ¬ Tells ⟨0, Command.update.help⟩ status fields := by
      rintro ⟨read, -⟩
      obtain ⟨fault, unread⟩ := read_help .update
      simp only [unread, reduceCtorEq] at read
    exact ⟨fun _ tells => absurd tells (silent _), fun tells => absurd tells (silent _)⟩
  | updated parsed done =>
    refine ⟨fun _ tells => ?_, fun tells => ?_⟩
    · obtain ⟨rfl, -⟩ := tells.of_line rfl (read_updated _)
      exact ⟨_, _, _, parsed, done⟩
    · obtain ⟨-, status⟩ := tells.of_line rfl (read_updated _)
      exact absurd status (by simp [updatedFields, Json.Fields.get?])
  | failed parsed done =>
    refine ⟨fun zero => absurd zero Nat.one_ne_zero, fun tells => ?_⟩
    obtain ⟨rfl, -⟩ := tells.of_line rfl (read_failed _ _)
    exact ⟨rfl, isOneLine_line _, _, _, parsed, done⟩

theorem still_fileReader : Still Rehearsal.fileReader := by
  intro path w
  simp only [Rehearsal.fileReader, StateT.run]
  split <;> rfl

/-- A rehearsal on the rows of `counted`, with files in the working directory. -/
def withFiles (files : List (String × String)) : World Rehearsal.Outside :=
  ⟨Session.on counted, .fresh (Rehearsal.treeOf (files.map fun f => (f.1, Text.utf8 f.2)))
    Rehearsal.trialTime⟩

def rehearsedUpdate (words : List String) : Action (World Rehearsal.Outside) Ending :=
  Command.update.start (Rehearsal.services (.directory ⟨["root"], Rehearsal.callRoom⟩))
    Rehearsal.fileReader ⟨"image", none, false, Rehearsal.engine⟩ words

theorem update_as_told_rehearsed :
    let fitting := ["--report-id", "report", "--name", " new ", "--config-file", "c.json"]
    let unfit := ["--report-id", "report", "--notebook-file", "c.json"]
    let w := withFiles [("c.json", "\x7b\x7d")]
    Still Rehearsal.fileReader ∧ w.session.pending = [] ∧
      (w.session.committed.reports.map ReportRow.id).Nodup ∧
      (∃ e u fields, (rehearsedUpdate fitting).run w = (.ok e, u) ∧ e.code = 0 ∧
        Tells e "updated" fields ∧
        ∃ values notebook config, parse Command.update.usages fitting = .values values ∧
          Updated Rehearsal.fileReader values w notebook config u.session.committed fields) ∧
      ∃ e u fields, (rehearsedUpdate unfit).run w = (.ok e, u) ∧ Tells e "failed" fields ∧
        e.code = 1 ∧ IsOneLine e.output ∧
        ∃ values error, parse Command.update.usages unfit = .values values ∧
          UpdateFailed Rehearsal.fileReader values w error u.session.committed fields := by
  intro fitting unfit w
  have pending : w.session.pending = [] := rfl
  have ids : (w.session.committed.reports.map ReportRow.id).Nodup := by decide
  have told (words : List String) :=
    update_as_told (Rehearsal.services (.directory ⟨["root"], Rehearsal.callRoom⟩))
      ⟨"image", none, false, Rehearsal.engine⟩ words still_fileReader pending ids
  obtain ⟨row, u, ran⟩ : ∃ row u, (rehearsedUpdate fitting).run w =
      (.ok (succeededWith (updatedFields row)), u) := ⟨⟨"report", "new", _, _, _⟩, _, rfl⟩
  obtain ⟨error, v, failed⟩ : ∃ error v, (rehearsedUpdate unfit).run w =
      (.ok (failedWith [("report_id", .str "report")] error), v) := ⟨.notebook _, _, rfl⟩
  have updated : Tells (succeededWith (updatedFields row)) "updated" (updatedFields row) :=
    ⟨read_updated row, rfl⟩
  have unread : Tells (failedWith [("report_id", .str "report")] error) "failed"
      (failedFields "report" error) := ⟨read_failed "report" error, rfl⟩
  exact ⟨still_fileReader, pending, ids,
    ⟨_, u, _, ran, rfl, updated, ((told fitting).ok ran _).1 rfl updated⟩,
    _, v, _, failed, unread, ((told unfit).ok failed _).2 unread⟩

/-- No notebook can be read from null, and yet an update with a file that holds it is told as done;
nothing has changed. -/
theorem null_told_as_updated :
    let w := withFiles [("n.json", "null")]
    ∃ e u fields,
      (rehearsedUpdate ["--report-id", "report", "--notebook-file", "n.json"]).run w =
        (.ok e, u) ∧ e.code = 0 ∧ Tells e "updated" fields ∧
      Holds Rehearsal.fileReader w "n.json" .null ∧
      (∀ d, Notebook.Document.read .null ≠ .ok d) ∧
      u.session.committed = w.session.committed := by
  intro w
  obtain ⟨row, u, ran, same⟩ : ∃ row u,
      (rehearsedUpdate ["--report-id", "report", "--notebook-file", "n.json"]).run w =
        (.ok (succeededWith (updatedFields row)), u) ∧
      u.session.committed = w.session.committed := ⟨⟨"report", "name", _, _, _⟩, _, rfl, rfl⟩
  refine ⟨_, u, _, ran, rfl, ⟨read_updated row, rfl⟩, ⟨_, rfl, rfl⟩, ?_, same⟩
  rintro d ⟨⟩

end RunReports.CommandLine
