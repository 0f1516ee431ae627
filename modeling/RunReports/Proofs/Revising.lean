import RunReports.Proofs.Keys
import RunReports.Proofs.Lifecycle
import RunReports.Proofs.ShortNumbers
import RunReports.Proofs.Stable

/-!
# Revisions

A revision of a report definition is refused for the first of five reasons, and then no row has
changed, also where another of its fields is in order. Otherwise exactly the fields that it gives
have changed in exactly that definition. One value is not taken over: a configuration or a notebook
that the stored one equals in numbers, such as true where one is stored, is taken for no change, and
the stored one stays. All this is said of revisions whose values can be written as texts.
-/
namespace RunReports

/-- Values with the same data, spelled in the same way; only the order of members may differ. -/
inductive Json.Alike : Json → Json → Prop
  | refl (v : Json) : Alike v v
  | trans {u v w : Json} : Alike u v → Alike v w → Alike u w
  | members {fields gs : Fields} : fields.Perm gs → Alike (.obj fields) (.obj gs)
  | item {v w : Json} (before after : List Json) : Alike v w →
      Alike (.arr (before ++ v :: after)) (.arr (before ++ w :: after))
  | value {v w : Json} (name : String) (before after : Fields) : Alike v w →
      Alike (.obj (before ++ (name, v) :: after)) (.obj (before ++ (name, w) :: after))

namespace Report

open RunReports RunReports.Action RunReports.Store RunReports.Store.Session RunReports.Notebook

variable {reportId : String} {r : Revision} {t : Tables} {s : Session}

/-! ## Why a revision is refused -/

/-- The revision gives a notebook or a configuration, and a record of the report is live. -/
def Frozen (reportId : String) (r : Revision) (t : Tables) : Prop :=
  (r.notebook ≠ .null ∨ r.config ≠ .null) ∧
    ∃ q ∈ t.runReports, q.reportId = reportId ∧ q.isLive = true

def ConfigMalformed (r : Revision) : Prop := r.config ≠ .null ∧ ∀ fields, r.config ≠ .obj fields

def NameTaken (reportId : String) (r : Revision) (t : Tables) : Prop :=
  ∃ name ∈ r.name, ∃ q ∈ t.reports, q.name = name ∧ q.id ≠ reportId

/-- The reason for which a revision is refused, where earlier ones do not apply. -/
inductive Refused (reportId : String) (r : Revision) (t : Tables) : Failure → Prop
  | missing (absent : t.hasReport reportId = false) :
      Refused reportId r t (.report (.notFound (.subject (.report reportId))))
  | frozen (there : t.hasReport reportId = true) (frozen : Frozen reportId r t) :
      Refused reportId r t (.report (.prohibited (.frozen reportId)))
  | config (there : t.hasReport reportId = true) (thawed : ¬ Frozen reportId r t)
      (malformed : ConfigMalformed r) : Refused reportId r t (.report (.inputs .configForm))
  | notebook (there : t.hasReport reportId = true) (thawed : ¬ Frozen reportId r t)
      (formed : ¬ ConfigMalformed r) (given : r.notebook ≠ .null) (fault : Notebook.Fault)
      (unread : Document.read r.notebook = .error fault) :
      Refused reportId r t (.report (.notebook fault))
  | name (there : t.hasReport reportId = true) (thawed : ¬ Frozen reportId r t)
      (formed : ¬ ConfigMalformed r)
      (read : r.notebook ≠ .null → ∃ d, Document.read r.notebook = .ok d)
      (taken : NameTaken reportId r t) :
      Refused reportId r t
        (.report (.database (.report reportId) (.unique "reports" ["name"])))

/-- The values that a revision gives can be written: they nest no deeper than the limit, their whole
numbers are short, and no object holds a name twice. -/
structure Revision.IsWritable (r : Revision) : Prop where
  notebook : r.notebook.isShallow = true ∧ Json.WellFormed r.notebook
  config : r.config.isShallow = true ∧ Json.WellFormed r.config

/-! ## The parts that are executed -/

def GivesConfig (r : Revision) (config : Option Json) : Prop :=
  (r.config = .null ∧ config = none) ∨ ∃ fields, r.config = .obj fields ∧ config = some r.config

/-- The notebook that a revision gives, in the form in which it is stored. -/
def GivesNotebook (r : Revision) (notebook : Option Json) : Prop :=
  (r.notebook = .null ∧ notebook = none) ∨
    r.notebook ≠ .null ∧ ∃ d, Document.read r.notebook = .ok d ∧ notebook = some d.toJson

theorem GivesConfig.formed {config : Option Json} (gives : GivesConfig r config) :
    ¬ ConfigMalformed r := by
  rintro ⟨given, odd⟩
  rcases gives with ⟨null, -⟩ | ⟨fields, is, -⟩
  · exact given null
  · exact odd fields is

theorem newConfig_ensures (r : Revision) (s : Session) :
    (r.newConfig : Action Session (Option Json)).Ensures s
      (fun config t => GivesConfig r config ∧ t = s)
      (fun f t => (ConfigMalformed r ∧ f = .report (.inputs .configForm)) ∧ t = s) := by
  rw [Revision.newConfig]
  cases is : r.config with
  | null => exact ensures_pure ⟨Or.inl ⟨is, rfl⟩, rfl⟩
  | obj fields => exact ensures_pure ⟨Or.inr ⟨fields, is, by rw [is]⟩, rfl⟩
  | _ => exact ensures_throw ⟨⟨⟨by simp [is], by simp [is]⟩, rfl⟩, rfl⟩

/-- A notebook that is given is taken in the form in which it is stored. If it does not nest too
deep, nothing is wrong with one that is not taken but what the reader finds. -/
theorem newNotebook_ensures (r : Revision) (s : Session) :
    (r.newNotebook : Action Session (Option Json)).Ensures s
      (fun notebook t => GivesNotebook r notebook ∧ t = s)
      (fun f t => (r.notebook.isShallow = true → r.notebook ≠ .null ∧
        ∃ fault, Document.read r.notebook = .error fault ∧ f = .report (.notebook fault)) ∧
          t = s) := by
  rw [Revision.newNotebook]
  split
  · rename_i null
    exact ensures_pure ⟨Or.inl ⟨null, rfl⟩, rfl⟩
  · rename_i given
    cases read : Document.read r.notebook with
    | error fault => exact ensures_throw ⟨fun _ => ⟨given, fault, rfl, rfl⟩, rfl⟩
    | ok d =>
      simp only [Document.dump?]
      split_ifs with fits
      · exact ensures_pure ⟨Or.inr ⟨given, d, read, rfl⟩, rfl⟩
      · refine ensures_throw ⟨fun shallow => absurd ?_ fits, rfl⟩
        exact decide_eq_true ((Document.depth_of_read read).trans (of_decide_eq_true shallow))

theorem Revision.IsWritable.short (writable : r.IsWritable) {notebook config : Option Json}
    (givesNotebook : GivesNotebook r notebook) (givesConfig : GivesConfig r config) :
    (∀ v ∈ notebook, v.isShort = true) ∧ ∀ v ∈ config, v.isShort = true := by
  constructor
  · rintro v there
    rcases givesNotebook with ⟨-, rfl⟩ | ⟨-, d, read, rfl⟩
    · cases there
    · obtain rfl := Option.some.inj there
      have comes : d.ComesOf r.notebook := .read d read
      exact decide_eq_true (comes.wellFormed writable.notebook.2).digits_le
  · rintro v there
    rcases givesConfig with ⟨-, rfl⟩ | ⟨fields, -, rfl⟩
    · cases there
    · obtain rfl := Option.some.inj there
      exact decide_eq_true writable.config.2.digits_le

theorem isWritable_newPatch {notebook config : Option Json} (q : ReportRow)
    (short : (∀ v ∈ notebook, v.isShort = true) ∧ ∀ v ∈ config, v.isShort = true) :
    isWritable (newPatch q ⟨r.name, r.description, notebook, config⟩) = true := by
  obtain ⟨shortNotebook, shortConfig⟩ := short
  rw [isWritable, newPatch, Bool.and_eq_true, Option.all_eq_true, Option.all_eq_true]
  constructor
  · intro v there
    exact shortNotebook v (Option.filter_eq_some_iff.mp there).1
  · intro v there
    exact shortConfig v (Option.filter_eq_some_iff.mp there).1

theorem isNull_iff {v : Json} : v.isNull = true ↔ v = .null := by
  cases v <;> simp [Json.isNull]

/-- The parts that are executed are what the revision gives, and they are not frozen. In a calm
session they fail for the first reason that there is. -/
theorem executedParts_exact (reportId : String) (r : Revision) (s : Session) :
    (executedParts reportId r).Ensures s
      (fun parts t => (¬ Frozen reportId r s.view ∧ GivesNotebook r parts.1 ∧
        GivesConfig r parts.2) ∧ Keeps s t)
      (fun f t => Keeps s t ∧ (s.Calm → r.notebook.isShallow = true →
        s.view.hasReport reportId = true → Refused reportId r s.view f)) := by
  rw [executedParts]
  split
  · rename_i nothing
    rw [Bool.and_eq_true, isNull_iff, isNull_iff] at nothing
    refine ensures_pure ⟨⟨?_, Or.inl ⟨nothing.1, rfl⟩, Or.inl ⟨nothing.2, rfl⟩⟩, Keeps.refl s⟩
    rintro ⟨given | given, -⟩
    · exact given nothing.1
    · exact given nothing.2
  rename_i something
  have given : r.notebook ≠ .null ∨ r.config ≠ .null := by
    rw [Bool.and_eq_true, isNull_iff, isNull_iff, not_and_or] at something
    exact something
  refine ((reads_read .runReports (.runReportsOfReport reportId) _ s).mono (fun _ _ h => h)
    ?_).bind ?_
  · rintro f t ⟨kept, failed⟩
    exact ⟨kept, fun calm => by cases failed calm⟩
  rintro live t ⟨same, kept⟩
  obtain rfl := Except.ok.inj same
  have live_iff : (s.view.runReports.any fun q => q.reportId == reportId && q.isLive) = true ↔
      ∃ q ∈ s.view.runReports, q.reportId = reportId ∧ q.isLive = true := by simp
  split
  · rename_i live
    exact ensures_throw ⟨kept, fun _ _ there => .frozen there ⟨given, live_iff.mp live⟩⟩
  · rename_i dead
    have thawed : ¬ Frozen reportId r s.view := fun frozen => dead (live_iff.mpr frozen.2)
    refine ((newConfig_ensures r t).mono (fun _ _ h => h) ?_).bind ?_
    · rintro f _ ⟨⟨malformed, rfl⟩, rfl⟩
      exact ⟨kept, fun _ _ there => .config there thawed malformed⟩
    rintro config _ ⟨gives, rfl⟩
    refine ((newNotebook_ensures r _).mono (fun _ _ h => h) ?_).bind ?_
    · rintro f _ ⟨unreadable, rfl⟩
      refine ⟨kept, fun _ shallow there => ?_⟩
      obtain ⟨given', fault, unread, rfl⟩ := unreadable shallow
      exact .notebook there thawed gives.formed given' fault unread
    · rintro notebook _ ⟨gives', rfl⟩
      exact ensures_pure ⟨⟨thawed, gives', gives⟩, kept⟩

theorem executedParts_calm (reportId : String) (shallow : r.notebook.isShallow = true)
    (calm : s.Calm) (there : s.view.hasReport reportId = true) :
    (executedParts reportId r).Ensures s
      (fun parts t => (¬ Frozen reportId r s.view ∧ GivesNotebook r parts.1 ∧
        GivesConfig r parts.2) ∧ Keeps s t)
      (fun f t => Refused reportId r s.view f ∧ Keeps s t) :=
  (executedParts_exact reportId r s).mono (fun _ _ h => h)
    fun _ _ h => ⟨h.2 calm shallow there, h.1⟩

/-! ## Writing the definition -/

theorem patch_newPatch (q : ReportRow) (p : ReportPatch) :
    q.patch (newPatch q p) =
      { q with
        name := p.name.getD q.name
        description := p.description.or q.description
        notebook := (p.notebook.filter fun v => !q.notebook.same v).getD q.notebook
        config := (p.config.filter fun v => !q.config.same v).getD q.config } := by
  have name : (p.name.filter (· != q.name)).getD q.name = p.name.getD q.name := by
    cases p.name with
    | none => rfl
    | some name => by_cases same : name = q.name <;> simp [Option.filter, same]
  have description : (if (p.description.filter fun s => some s != q.description).isSome
      then p.description.filter fun s => some s != q.description else q.description) =
      p.description.or q.description := by
    cases p.description with
    | none => rfl
    | some d => by_cases same : some d = q.description <;> simp [Option.filter, same]
  rw [ReportRow.patch, newPatch, name, description]

/-- Where names are distinct, a patch is forbidden exactly by another report with its name. -/
theorem nameTaken_iff (names : (t.reports.map ReportRow.name).Nodup) {q : ReportRow}
    (member : q ∈ t.reports) (is : q.id = reportId) :
    (t.reports.any fun o => o.id != reportId && o.name == r.name.getD q.name) = true ↔
      NameTaken reportId r t := by
  simp only [List.any_eq_true, Bool.and_eq_true, bne_iff_ne, beq_iff_eq, NameTaken]
  cases given : r.name with
  | none =>
    simp only [Option.getD_none, Option.mem_def, reduceCtorEq, false_and, exists_false, iff_false]
    rintro ⟨o, there, other, same⟩
    obtain rfl : o = q := List.inj_on_of_nodup_map names there member same
    exact other is
  | some name =>
    simp only [Option.getD_some, Option.mem_def, Option.some_inj, exists_eq_left']
    exact exists_congr fun o => and_congr_right fun _ => and_comm

/-- The one rule that a revision of a definition can break is that names are distinct. -/
theorem refusal?_newPatch {notebook config : Option Json} {q : ReportRow}
    (ids : (t.reports.map ReportRow.id).Nodup) (names : (t.reports.map ReportRow.name).Nodup)
    (member : q ∈ t.reports) (is : q.id = reportId) {fault : Option Store.Fault} :
    t.refusal? (.patchReport reportId
      (newPatch q ⟨r.name, r.description, notebook, config⟩)) = fault ↔
      (NameTaken reportId r t ∧ fault = some (.unique "reports" ["name"])) ∨
        (¬ NameTaken reportId r t ∧ fault = none) := by
  have found : (t.reports.find? fun q => q.id == reportId) = some q := by
    rw [← is]
    exact Tables.find?_of_key ReportRow.id ids member
  simp only [Tables.refusal?, found, patch_newPatch, ← nameTaken_iff names member is]
  cases t.reports.any fun o => o.id != reportId && o.name == r.name.getD q.name <;>
    simp [duplicate?, TableName.text, eq_comm]

/-- A definition after a revision. What is given is taken over, and the rest stays. A given value
that equals the stored one in numbers has to be the stored one to count as taken over. -/
structure IsRevised (r : Revision) (q q' : ReportRow) : Prop where
  id : q'.id = q.id
  name : q'.name = r.name.getD q.name
  description : q'.description = r.description.or q.description
  config : r.config = .null → q'.config = q.config
  newConfig : r.config ≠ .null →
    (q.config.same r.config = true → Json.Alike q.config r.config) →
    Json.Alike q'.config r.config
  notebook : r.notebook = .null → q'.notebook = q.notebook
  newNotebook : r.notebook ≠ .null → ∃ d, Document.read r.notebook = .ok d ∧
    ((q.notebook.same d.toJson = true → Json.Alike q.notebook d.toJson) →
      Json.Alike q'.notebook d.toJson)

/-- The rows after a revision of a report: its definition is revised, and nothing else changes. -/
structure Changed (reportId : String) (r : Revision) (t t' : Tables) : Prop where
  reports : List.Forall₂ (fun q q' => if q.id = reportId then IsRevised r q q' else q' = q)
    t.reports t'.reports
  others : t' = { t with reports := t'.reports }

/-- A stored value stays where it counts as the given one. -/
theorem alike_filtered {stored given : Json}
    (told : stored.same given = true → Json.Alike stored given) :
    Json.Alike (((some given).filter fun v => !stored.same v).getD stored) given := by
  by_cases same : stored.same given = true
  · simpa [Option.filter, same] using told same
  · simpa [Option.filter, same] using Json.Alike.refl given

theorem isRevised_patch {notebook config : Option Json} (q : ReportRow)
    (givesNotebook : GivesNotebook r notebook) (givesConfig : GivesConfig r config) :
    IsRevised r q (q.patch (newPatch q ⟨r.name, r.description, notebook, config⟩)) := by
  rw [patch_newPatch]
  refine ⟨rfl, rfl, rfl, ?_, ?_, ?_, ?_⟩
  · rintro null
    rcases givesConfig with ⟨-, rfl⟩ | ⟨fields, is, -⟩
    · rfl
    · rw [is] at null
      cases null
  · intro given told
    rcases givesConfig with ⟨null, -⟩ | ⟨fields, -, rfl⟩
    · exact absurd null given
    · exact alike_filtered told
  · rintro null
    rcases givesNotebook with ⟨-, rfl⟩ | ⟨given, -⟩
    · rfl
    · exact absurd null given
  · intro given
    rcases givesNotebook with ⟨null, -⟩ | ⟨-, d, read, rfl⟩
    · exact absurd null given
    · exact ⟨d, read, alike_filtered⟩

theorem changed_patch {notebook config : Option Json} {q : ReportRow}
    (ids : (t.reports.map ReportRow.id).Nodup) (member : q ∈ t.reports) (is : q.id = reportId)
    (givesNotebook : GivesNotebook r notebook) (givesConfig : GivesConfig r config) :
    Changed reportId r t ((Change.patchReport reportId
      (newPatch q ⟨r.name, r.description, notebook, config⟩)).apply t) := by
  refine ⟨List.forall₂_map_right_iff.mpr (List.forall₂_same.mpr fun o there => ?_), rfl⟩
  by_cases same : o.id = reportId
  · obtain rfl : o = q := List.inj_on_of_nodup_map ids there member (same.trans is.symm)
    rw [if_pos same, if_pos same]
    exact isRevised_patch o givesNotebook givesConfig
  · rw [if_neg same, if_neg same]

theorem not_refused {notebook config : Option Json} (there : t.hasReport reportId = true)
    (thawed : ¬ Frozen reportId r t) (givesNotebook : GivesNotebook r notebook)
    (givesConfig : GivesConfig r config) (free : ¬ NameTaken reportId r t) (f : Failure) :
    ¬ Refused reportId r t f := by
  intro refused
  cases refused with
  | missing absent =>
    rw [there] at absent
    cases absent
  | frozen _ frozen => exact thawed frozen
  | config _ _ malformed => exact givesConfig.formed malformed
  | notebook _ _ _ given fault unread =>
    rcases givesNotebook with ⟨null, -⟩ | ⟨-, d, read, -⟩
    · exact given null
    · rw [read] at unread
      cases unread
  | name _ _ _ _ taken => exact free taken

theorem GivesNotebook.read {notebook : Option Json} (gives : GivesNotebook r notebook)
    (given : r.notebook ≠ .null) : ∃ d, Document.read r.notebook = .ok d := by
  rcases gives with ⟨null, -⟩ | ⟨-, d, read, -⟩
  · exact absurd null given
  · exact ⟨d, read⟩

theorem definitionOf_ok {q : ReportRow} (defined : definitionOf reportId t = .ok q) :
    q ∈ t.reports ∧ q.id = reportId ∧ t.hasReport reportId = true := by
  rw [definitionOf] at defined
  cases found : t.reports.find? fun q => q.id == reportId with
  | none =>
    rw [found] at defined
    cases defined
  | some q' =>
    rw [found] at defined
    cases defined
    exact ⟨List.mem_of_find?_eq_some found, by simpa using List.find?_some found,
      any_of_find? found⟩

theorem definitionOf_error {f : Failure} (failed : definitionOf reportId t = .error f) :
    Refused reportId r t f := by
  rw [definitionOf] at failed
  cases found : t.reports.find? fun q => q.id == reportId with
  | none =>
    rw [found] at failed
    cases failed
    exact .missing (List.any_eq_false.mpr fun q there => by
      simpa using List.find?_eq_none.mp found q there)
  | some q =>
    rw [found] at failed
    cases failed

/-- A name that another report has is not the stored one, and so it is to be written. -/
theorem givesAny_of_nameTaken {notebook config : Option Json} {q : ReportRow}
    (names : (t.reports.map ReportRow.name).Nodup) (member : q ∈ t.reports) (is : q.id = reportId)
    (taken : NameTaken reportId r t) :
    givesAny (newPatch q ⟨r.name, r.description, notebook, config⟩) = true := by
  obtain ⟨name, given, o, there, named, other⟩ := taken
  have differs : name ≠ q.name := by
    rintro rfl
    exact other (List.inj_on_of_nodup_map names there member named ▸ is)
  have given : r.name = some name := given
  simp [givesAny, newPatch, given, Option.filter, differs]

/-- The revised definition is among the rows. -/
theorem Changed.exists_revised {t' : Tables} (changed : Changed reportId r t t') {q : ReportRow}
    (member : q ∈ t.reports) (is : q.id = reportId) :
    ∃ q' ∈ t'.reports, q'.id = reportId := by
  obtain ⟨reports, -⟩ := changed
  generalize t'.reports = rows at reports
  generalize t.reports = stored at member reports
  induction reports with
  | nil => cases member
  | cons first _ ih =>
    rcases List.mem_cons.mp member with rfl | later
    · rw [if_pos is] at first
      exact ⟨_, List.mem_cons_self, first.id.trans is⟩
    · obtain ⟨q', there, same⟩ := ih later
      exact ⟨q', List.mem_cons_of_mem _ there, same⟩

/-- What is left to fail once the parts are known is a name that another report has. -/
theorem write_calm {notebook config : Option Json} {q : ReportRow}
    (ids : (t.reports.map ReportRow.id).Nodup) (names : (t.reports.map ReportRow.name).Nodup)
    (defined : definitionOf reportId t = .ok q) (thawed : ¬ Frozen reportId r t)
    (givesNotebook : GivesNotebook r notebook) (givesConfig : GivesConfig r config)
    (writable : r.IsWritable) (calm : s.Calm) (committed : s.committed = t) (view : s.view = t) :
    (accessing (.report reportId) (orRollback
      (commitPatch reportId (newPatch q ⟨r.name, r.description, notebook, config⟩)))).Ensures s
      (fun _ u => (∀ f, ¬ Refused reportId r t f) ∧ u.pending = [] ∧
        Changed reportId r t u.committed)
      (fun f u => Refused reportId r t f ∧ u.committed = t ∧ u.pending = []) := by
  obtain ⟨member, is, there⟩ := definitionOf_ok defined
  refine (accessing_ensures (orRollback_ensures (commitPatch_ensures reportId _ s)) ?_ ?_).mono
    ?_ fun _ _ h => h
  · rintro fault _ ⟨u, ⟨same, failed⟩, rfl⟩
    obtain ⟨-, ⟨long, -⟩ | ⟨fault', forbids, told⟩⟩ := failed calm
    · rw [isWritable_newPatch q (writable.short givesNotebook givesConfig)] at long
      cases long
    cases told
    rw [view] at forbids
    rcases (refusal?_newPatch ids names member is).mp forbids with ⟨taken, broken⟩ | ⟨-, none⟩
    · obtain rfl := Option.some.inj broken
      exact ⟨.name there thawed givesConfig.formed givesNotebook.read taken, same.trans committed,
        rfl⟩
    · cases none
  · rintro f _ other ⟨u, ⟨-, failed⟩, -⟩
    obtain ⟨-, ⟨-, told⟩ | ⟨fault, -, told⟩⟩ := failed calm
    · exact absurd told (other _)
    · exact absurd told (other fault)
  · rintro _ u ⟨pending, patched, allowed⟩
    rw [view] at patched allowed
    have free : ¬ NameTaken reportId r t := by
      intro taken
      have passed := allowed (givesAny_of_nameTaken names member is taken)
      rcases (refusal?_newPatch ids names member is).mp passed with ⟨-, broken⟩ | ⟨free, -⟩
      · cases broken
      · exact free taken
    refine ⟨not_refused there thawed givesNotebook givesConfig free, pending, ?_⟩
    rw [patched]
    exact changed_patch ids member is givesNotebook givesConfig

/-- With nothing amiss with the database, a revision whose values can be written is refused for the
first reason that there is and changes nothing then; without any reason it changes what it gives,
and nothing else. -/
theorem revise_exact (reportId : String) (r : Revision) (t : Tables)
    (ids : (t.reports.map ReportRow.id).Nodup) (names : (t.reports.map ReportRow.name).Nodup)
    (lost : t.lost = []) (writable : r.IsWritable) :
    (revise reportId r).Ensures (Session.on t)
      (fun row s => (∀ f, ¬ Refused reportId r t f) ∧ Changed reportId r t s.committed ∧
        s.pending = [] ∧ row ∈ s.committed.reports ∧ row.id = reportId)
      (fun f s => Refused reportId r t f ∧ s.committed = t ∧ s.pending = []) := by
  have calm : (Session.on t).Calm := ⟨rfl, rfl, lost⟩
  refine ((reads_definition reportId (Session.on t)).mono (fun _ _ h => h) ?_).bind ?_
  · rintro f s ⟨kept, failed⟩
    exact ⟨definitionOf_error (failed calm), kept.committed, kept.pending⟩
  rintro q s ⟨defined, kept⟩
  have view : s.view = t := kept.view
  obtain ⟨member, is, there⟩ := definitionOf_ok defined
  refine ((executedParts_calm reportId writable.notebook.1 (kept.calm calm) (by rwa [view])).mono
    (fun _ _ h => h) ?_).bind ?_
  · rintro f u ⟨refused, same⟩
    rw [view] at refused
    exact ⟨refused, same.committed.trans kept.committed, same.pending.trans kept.pending⟩
  rintro ⟨notebook, config⟩ u ⟨⟨thawed, givesNotebook, givesConfig⟩, same⟩
  rw [view] at thawed
  have kept' : Keeps (Session.on t) u := kept.trans same
  refine (write_calm ids names defined thawed givesNotebook givesConfig writable (kept'.calm calm)
    kept'.committed kept'.view).bind ?_
  rintro - v ⟨fits, pending, changed⟩
  refine ensures_get.bind ?_
  rintro x v' ⟨seen, here⟩
  rw [seen, here]
  have view' : v.view = v.committed := by rw [Session.view, pending, List.foldl_nil]
  obtain ⟨q', there', is'⟩ := changed.exists_revised member is
  cases found : v.committed.reports.find? fun o => o.id == reportId with
  | none =>
    have absent := List.find?_eq_none.mp found q' there'
    simp [is'] at absent
  | some row =>
    refine ensures_pure ⟨fits, changed, pending, ?_⟩
    rw [view', found, Option.getD_some]
    exact ⟨List.mem_of_find?_eq_some found, by simpa using List.find?_some found⟩

/-- Two reports, of which the first has one configured number, and a record of it that has failed.
-/
def counted : Tables :=
  let notebook : Json := .obj
    [("cells", .arr [.obj [("cell_type", .str "markdown"), ("source", .str "")]])]
  { Tables.empty with
    reports := [⟨"report", "name", none, notebook, .obj [("cpu", .int 1)]⟩,
      ⟨"other", "taken", none, notebook, .obj []⟩]
    runReports :=
      [⟨1, "run", "report", .failed, some "job", .null, none, ⟨Calendar.machineEpoch, none⟩,
        none⟩] }

theorem revise_exact_counted :
    let r : Revision := ⟨some "taken", some "text", .null, .obj [("cpu", .int 2)]⟩
    (counted.reports.map ReportRow.id).Nodup ∧ (counted.reports.map ReportRow.name).Nodup ∧
      counted.lost = [] ∧ r.IsWritable ∧
      (revise "report" r).Ensures (Session.on counted)
        (fun row s => (∀ f, ¬ Refused "report" r counted f) ∧
          Changed "report" r counted s.committed ∧ s.pending = [] ∧ row ∈ s.committed.reports ∧
          row.id = "report")
        (fun f s => Refused "report" r counted f ∧ s.committed = counted ∧ s.pending = []) :=
  have writable : Revision.IsWritable ⟨some "taken", some "text", .null, .obj [("cpu", .int 2)]⟩ :=
    ⟨⟨rfl, trivial⟩, rfl, by simp, short_of_lt 1 (by decide) (by decide) (by decide), trivial⟩
  ⟨by decide, by decide, rfl, writable,
    revise_exact "report" _ counted (by decide) (by decide) rfl writable⟩

/-- True equals one, and so it is not stored in its place. -/
theorem revise_keeps_equal :
    ∃ row s, (revise "report" ⟨none, none, .null, .obj [("cpu", .bool true)]⟩).run
        (Session.on counted) = (.ok row, s) ∧
      s.committed.reports.map ReportRow.config = [.obj [("cpu", .int 1)], .obj []] :=
  ⟨_, _, rfl, rfl⟩

/-- Whatever is amiss with the database, a revision that is not refused changes what it gives, and
nothing else, and one that is refused changes nothing. -/
theorem revise_changes (reportId : String) (r : Revision)
    (ids : (s.committed.reports.map ReportRow.id).Nodup) (nothing : s.pending = []) :
    (revise reportId r).Ensures s
      (fun row t => Changed reportId r s.committed t.committed ∧ t.pending = [] ∧
        row ∈ t.committed.reports ∧ row.id = reportId)
      (fun _ t => t.committed = s.committed) := by
  have view {t : Session} (kept : Keeps s t) : t.view = s.committed := by
    rw [kept.view, view_eq_committed nothing]
  refine ((reads_definition reportId s).mono (fun _ _ h => h) fun _ _ h => h.1.committed).bind ?_
  rintro q t ⟨defined, kept⟩
  rw [view_eq_committed nothing] at defined
  obtain ⟨member, is, -⟩ := definitionOf_ok defined
  refine ((executedParts_exact reportId r t).mono (fun _ _ h => h)
    fun _ _ h => (kept.trans h.1).committed).bind ?_
  rintro ⟨notebook, config⟩ u ⟨⟨-, givesNotebook, givesConfig⟩, more⟩
  refine (accessing_ensures_same (Q := fun _ v => v.pending = [] ∧
    Changed reportId r s.committed v.committed) (P := fun v => v.committed = s.committed)
    ((orRollback_ensures (commitPatch_ensures reportId _ u)).mono ?_ ?_)).bind ?_
  · rintro _ v ⟨pending, patched, -⟩
    rw [patched, view (kept.trans more)]
    exact ⟨pending, changed_patch ids member is givesNotebook givesConfig⟩
  · rintro f _ ⟨v, ⟨committed, -⟩, rfl⟩
    exact committed.trans (kept.trans more).committed
  · rintro _ v ⟨pending, changed⟩
    refine ensures_get.bind ?_
    rintro x v' ⟨seen, here⟩
    rw [seen, here]
    obtain ⟨q', there', is'⟩ := changed.exists_revised member is
    obtain ⟨row, found⟩ := Option.isSome_iff_exists.mp
      (List.find?_isSome (p := fun o => o.id == reportId) |>.mpr ⟨q', there', by simp [is']⟩)
    refine ensures_pure ⟨changed, pending, ?_⟩
    rw [view_eq_committed pending, found, Option.getD_some]
    exact ⟨List.mem_of_find?_eq_some found, by simpa using List.find?_some found⟩

end Report

end RunReports
