import RunReports.Notebook.Builtin
import RunReports.Proofs.Members

/-! # Cells keep what they were read from

A cell that is written has the members of the value it was read from, if its numbers are finite and
its execution count was given as a whole number; only their order may differ. -/
namespace RunReports.Notebook

open RunReports

variable {fields : Json.Fields} {cell : Cell}

structure Cell.IsReadFrom (fields : Json.Fields) (cell : Cell) : Prop where
  source : readSource (Json.Fields.get? "source" fields) = .ok cell.content.source
  kind : readKind (Json.Fields.get? "cell_type" fields) = .ok cell.kind
  metadata : readObject? (Json.Fields.get? "metadata" fields) = some cell.content.metadata
  extras : cell.content.extras = Json.Fields.without cell.kind.declared fields
  execution : ∀ content execution, cell = .code content execution →
    readCount (Json.Fields.get? "execution_count" fields) = .ok execution.count ∧
      readOutputs (Json.Fields.get? "outputs" fields) = .ok execution.outputs

theorem Cell.read_iff : Cell.read (.obj fields) = .ok cell ↔ cell.IsReadFrom fields := by
  constructor
  · intro read
    simp only [Cell.read, bind, Except.bind] at read
    split at read
    · cases read
    rename_i source sourceIs
    split at read
    · cases read
    rename_i kind kindIs
    split at read
    · cases read
    rename_i metadata metadataIs
    cases kind with
    | code =>
      dsimp only at read
      split at read
      · cases read
      rename_i count countIs
      split at read
      · cases read
      rename_i outputs outputsIs
      cases read
      refine ⟨sourceIs, kindIs, metadataIs, rfl, ?_⟩
      rintro content execution ⟨⟩
      exact ⟨countIs, outputsIs⟩
    | markdown =>
      cases read
      exact ⟨sourceIs, kindIs, metadataIs, rfl, fun _ _ other => nomatch other⟩
    | raw =>
      cases read
      exact ⟨sourceIs, kindIs, metadataIs, rfl, fun _ _ other => nomatch other⟩
  · rintro ⟨source, kind, metadata, extras, execution⟩
    simp only [Cell.read, source, kind, metadata, bind, Except.bind, ← extras]
    cases cell with
    | code content execution' =>
      obtain ⟨count, outputs⟩ := execution content execution' rfl
      simp only [Cell.kind, count, outputs]
      rfl
    | markdown content => rfl
    | raw content => rfl

theorem Cell.object_of_read {v : Json} (read : Cell.read v = .ok cell) :
    ∃ fields, v = .obj fields := by
  cases v with
  | obj fields => exact ⟨fields, rfl⟩
  | _ => cases read

/-! ## Members as they were given -/

theorem texts_given {items : List Json} {ls : List String} (h : readTexts? items = some ls) :
    ls.map Json.str = items := by
  induction items generalizing ls with
  | nil =>
    cases h
    rfl
  | cons v rest ih =>
    cases v with
    | str s =>
      obtain ⟨more, found, rfl⟩ := Option.map_eq_some_iff.mp h
      rw [List.map_cons, ih found]
    | _ => cases h

theorem texts_written (ls : List String) : readTexts? (ls.map Json.str) = some ls := by
  induction ls with
  | nil => rfl
  | cons s rest ih => rw [List.map_cons, readTexts?, ih, Option.map_some]

theorem source_given {o : Option Json} {source : Option Source} (h : readSource o = .ok source) :
    source.map Source.toJson = o := by
  match o, h with
  | none, h =>
    cases h
    rfl
  | some (.str s), h =>
    cases h
    rfl
  | some (.arr items), h =>
    rw [readSource] at h
    split at h
    · rename_i ls found
      cases h
      exact congrArg (fun items => some (Json.arr items)) (texts_given found)
    · cases h

theorem kind_given {o : Option Json} {kind : CellKind} (h : readKind o = .ok kind) :
    o = some (.str kind.name) := by
  match o, h with
  | some (.str s), h =>
    rw [readKind] at h
    split at h
    · rename_i found
      cases h
      have named := List.find?_some found
      rw [of_decide_eq_true named]
    · cases h

theorem object_given {o : Option Json} {m : Option Json.Fields} (h : readObject? o = some m) :
    m.map Json.obj = o := by
  match o, h with
  | none, h =>
    cases h
    rfl
  | some (.obj fields), h =>
    cases h
    rfl

theorem outputs_given {o : Option Json} {outputs : Option (List Json)}
    (h : readOutputs o = .ok outputs) : outputs.map Json.arr = o := by
  match o, h with
  | none, h =>
    cases h
    rfl
  | some (.arr items), h =>
    cases h
    rfl

section
variable (finite : Json.AllFinite (.obj fields))
include finite

/-- Undeclared members of finite numbers are plain. -/
theorem extras_plain {names : List String} {extras : Json.Fields}
    (h : extras = Json.Fields.without names fields) : Json.plainFields extras = extras := by
  rw [h]
  exact Json.plainFields_of_allFinite (Json.allFiniteFields_iff.mpr fun f there =>
    Json.allFiniteFields_iff.mp finite f (mem_without.mp there).1)

/-- Metadata of finite numbers are plain. -/
theorem metadata_plain {m : Option Json.Fields}
    (h : readObject? (Json.Fields.get? "metadata" fields) = some m) :
    m.map Json.plainFields = m := by
  cases m with
  | none => rfl
  | some m =>
    have there := Json.allFiniteFields_iff.mp finite _ (mem_of_get? (object_given h).symm)
    rw [Option.map_some, Json.plainFields_of_allFinite there]

/-- Outputs of finite numbers are plain. -/
theorem outputs_plain {outputs : Option (List Json)}
    (h : readOutputs (Json.Fields.get? "outputs" fields) = .ok outputs) :
    outputs.map Json.plainItems = outputs := by
  cases outputs with
  | none => rfl
  | some items =>
    have there := Json.allFiniteFields_iff.mp finite _ (mem_of_get? (outputs_given h).symm)
    rw [Option.map_some, Json.plainItems_of_allFinite there]

/-- Metadata of finite numbers are written as they were given. -/
theorem metadata_given {m : Option Json.Fields}
    (h : readObject? (Json.Fields.get? "metadata" fields) = some m) :
    (m.map fun fields => Json.obj (Json.plainFields fields)) =
      Json.Fields.get? "metadata" fields := by
  have plain : m.map (Json.obj ∘ Json.plainFields) = m.map Json.obj := by
    rw [← Option.map_map, metadata_plain finite h]
  exact plain.trans (object_given h)

end

/-- A count that is stored as a whole number or as null stays as it is. -/
theorem count_given {o : Option Json} {count : Option (Option Int)} (h : readCount o = .ok count)
    (whole : ∀ v, o = some v → v = .null ∨ ∃ n, v = .int n) : count.map ofInt? = o := by
  cases o with
  | none =>
    cases h
    rfl
  | some v =>
    rcases whole v rfl with rfl | ⟨n, rfl⟩
    · cases h
      rfl
    · cases h
      rfl

/-- What a code cell keeps of its execution is written as it was given. -/
theorem execution_given {execution : Execution} (finite : Json.AllFinite (.obj fields))
    (whole : ∀ v, Json.Fields.get? "execution_count" fields = some v →
      v = .null ∨ ∃ n, v = .int n)
    (read : readCount (Json.Fields.get? "execution_count" fields) = .ok execution.count ∧
      readOutputs (Json.Fields.get? "outputs" fields) = .ok execution.outputs) :
    execution.members =
      member "execution_count" (Json.Fields.get? "execution_count" fields) ++
        member "outputs" (Json.Fields.get? "outputs" fields) := by
  have plain : execution.outputs.map (Json.arr ∘ Json.plainItems) =
      execution.outputs.map Json.arr := by
    rw [← Option.map_map, outputs_plain finite read.2]
  have items : (execution.outputs.map fun items => Json.arr (Json.plainItems items)) =
      Json.Fields.get? "outputs" fields := plain.trans (outputs_given read.2)
  rw [Execution.members, items, count_given read.1 whole]

/-! ## Cells -/

/-- The member of a value with a name, if the value is an object that has one. -/
def valueOf (name : String) : Json → Option Json
  | .obj fields => Json.Fields.get? name fields
  | _ => none

/-- A value whose execution count is a whole number or null, if it is a code cell and has one. -/
def CountIsWhole (v : Json) : Prop :=
  valueOf "cell_type" v = some (.str CellKind.code.name) →
    ∀ count, valueOf "execution_count" v = some count → count = .null ∨ ∃ n, count = .int n

section
variable (read : Cell.read (.obj fields) = .ok cell) (finite : Json.AllFinite (.obj fields))
variable (whole : CountIsWhole (.obj fields))
include read finite whole

/-- A written cell names its declared members first, each as it was given. -/
theorem Cell.members_of_read : cell.members =
    declaredFirst cell.kind.declared (fun n => Json.Fields.get? n fields)
      (Json.Fields.without cell.kind.declared fields) := by
  obtain ⟨source, kind, metadata, extras, execution⟩ := Cell.read_iff.mp read
  have others := (extras_plain finite extras).trans extras
  have data := metadata_given finite metadata
  have common : cell.content.members cell.kind =
      member "metadata" (Json.Fields.get? "metadata" fields) ++
        member "source" (Json.Fields.get? "source" fields) ++
        member "cell_type" (Json.Fields.get? "cell_type" fields) := by
    rw [Content.members, data, source_given source, kind_given kind]
    rfl
  cases cell with
  | code content execution' =>
    have executed := execution_given finite
      (whole (kind_given kind)) (execution content execution' rfl)
    rw [Cell.members, common, others]
    simp [executed, declaredFirst, Cell.kind, CellKind.declared]
  | markdown content | raw content =>
    rw [Cell.members.eq_def, common, others]
    simp [declaredFirst, Cell.kind, CellKind.declared]

/-- A written cell has the members it was given. -/
theorem Cell.perm_members (distinct : (fields.map Prod.fst).Nodup) :
    fields.Perm cell.members := by
  have declared : cell.kind.declared.Nodup := by
    cases cell.kind <;> decide
  rw [Cell.members_of_read read finite whole]
  exact perm_declaredFirst declared distinct

end

/-- What is written of a cell of lines. -/
theorem Cell.members_ofLines (ls : List String) : (Cell.ofLines ls).members =
    [("metadata", .obj []), ("source", .arr (ls.map Json.str)), ("cell_type", .str "code"),
      ("execution_count", .null), ("outputs", .arr [])] := rfl

end RunReports.Notebook
