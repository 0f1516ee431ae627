import RunReports.Failure
import RunReports.Proofs.Members

/-!
# The inputs of a job

Of the configuration of a report only the listed attributes reach the inputs of its job, each with
its value as it is. Where attributes are named under the workflow, the image of the configuration
takes the place of the image that jobs run in. It does so unseen: the two locations are looked at
before the configuration is, so that a configured image that is no text, or an empty one, goes to
the engine. The location of the notebook is never replaced.
-/
namespace RunReports.Workflow

open RunReports RunReports.Notebook

variable {namespaced : Bool} {template image : String} {names : List String}
variable {config others inputs : Json.Fields}

/-! ## Copied attributes -/

/-- The inputs that a configuration sets: one for each of the given attributes that it has, in their
order, with the value that it gives. -/
def copiedInputs (namespaced : Bool) (config : Json.Fields) (names : List String) : Json.Fields :=
  names.filterMap fun name =>
    (Json.Fields.get? name config).map fun v => (attributeInput namespaced name, v)

theorem mem_copiedInputs {f : String × Json} : f ∈ copiedInputs namespaced config names ↔
    ∃ name ∈ names, f.1 = attributeInput namespaced name ∧
      Json.Fields.get? name config = some f.2 := by
  simp only [copiedInputs, List.mem_filterMap, Option.map_eq_some_iff]
  constructor
  · rintro ⟨name, listed, v, given, rfl⟩
    exact ⟨name, listed, rfl, given⟩
  · rintro ⟨name, listed, named, given⟩
    exact ⟨name, listed, f.2, given, Prod.ext named.symm rfl⟩

/-- Nothing but the given attributes of a configuration counts. -/
theorem copiedInputs_congr
    (agree : ∀ name ∈ names, Json.Fields.get? name config = Json.Fields.get? name others) :
    copiedInputs namespaced config names = copiedInputs namespaced others names :=
  List.filterMap_congr fun name listed => by rw [agree name listed]

theorem names_copiedInputs_sublist : ((copiedInputs namespaced config names).map Prod.fst).Sublist
    (names.map (attributeInput namespaced)) := by
  induction names with
  | nil => exact List.Sublist.refl []
  | cons name rest ih =>
    rw [copiedInputs, List.filterMap_cons]
    cases Json.Fields.get? name config with
    | none => exact ih.cons _
    | some v => exact ih.cons_cons _

/-- Attributes whose inputs are new are added behind the inputs that are there. -/
theorem foldl_copyAttribute (config : Json.Fields)
    (new : (inputs.map Prod.fst ++ names.map (attributeInput namespaced)).Nodup) :
    names.foldl (copyAttribute namespaced config) inputs =
      inputs ++ copiedInputs namespaced config names := by
  induction names generalizing inputs with
  | nil => exact (List.append_nil inputs).symm
  | cons name rest ih =>
    rw [List.map_cons] at new
    have absent : attributeInput namespaced name ∉ inputs.map Prod.fst := fun there =>
      List.disjoint_of_nodup_append new there List.mem_cons_self
    rw [List.foldl_cons, copyAttribute, copiedInputs, List.filterMap_cons]
    cases Json.Fields.get? name config with
    | none =>
      exact ih (new.sublist ((List.sublist_cons_self _ _).append_left _))
    | some v =>
      simp only [Option.map_some, Json.set_new v absent]
      rw [ih (by simpa using new), List.append_assoc]
      rfl

/-! ## All inputs -/

/-- The attributes that are added to the required inputs; under the workflow's name the image takes
the place of one that is there. -/
def addedAttributes (namespaced : Bool) : List String :=
  if namespaced then runtimeAttributes.erase "docker" else runtimeAttributes

def imageValue (namespaced : Bool) (image : String) (config : Json.Fields) : Json :=
  if namespaced then (Json.Fields.get? "docker" config).getD (.str image) else .str image

theorem nodup_inputNames (namespaced : Bool) :
    ([notebookInput, imageInput] ++
      (addedAttributes namespaced).map (attributeInput namespaced)).Nodup := by
  cases namespaced <;> decide

/-- The image is the last attribute on the list. Under the workflow's name its input is there
already, and so are no others. -/
theorem foldl_runtimeAttributes (namespaced : Bool) (template image : String)
    (config : Json.Fields) :
    runtimeAttributes.foldl (copyAttribute namespaced config) (requiredInputs template image) =
      (notebookInput, .str template) :: (imageInput, imageValue namespaced image config) ::
        copiedInputs namespaced config (addedAttributes namespaced) := by
  have front : (addedAttributes namespaced).foldl (copyAttribute namespaced config)
      (requiredInputs template image) = requiredInputs template image ++ _ :=
    foldl_copyAttribute config (nodup_inputNames namespaced)
  cases namespaced with
  | false => exact front
  | true =>
    have last : runtimeAttributes = addedAttributes true ++ ["docker"] := by decide
    have apart : notebookInput ≠ imageInput := by decide
    rw [last, List.foldl_append, front, List.foldl_cons, List.foldl_nil, copyAttribute, imageValue,
      if_pos rfl]
    cases Json.Fields.get? "docker" config with
    | none => rfl
    | some v =>
      show Json.Fields.set imageInput v ((notebookInput, .str template) ::
        (imageInput, .str image) :: copiedInputs true config (addedAttributes true)) = _
      simp only [Json.Fields.set, apart, if_false, if_true, Option.getD_some]

/-- The inputs under a configuration. Attributes stand behind the required inputs, bare or under the
workflow's name; there the image of the configuration takes the place of the other one. Names are
distinct, copied values are those of the configuration, and nothing else is there. -/
structure IsInputs (namespaced : Bool) (template image : String) (config inputs : Json.Fields) :
    Prop where
  bare : namespaced = false →
    inputs = (notebookInput, .str template) :: (imageInput, .str image) ::
      copiedInputs false config runtimeAttributes
  underWorkflow : namespaced = true →
    inputs = (notebookInput, .str template) ::
      (imageInput, (Json.Fields.get? "docker" config).getD (.str image)) ::
      copiedInputs true config (runtimeAttributes.erase "docker")
  distinct : (inputs.map Prod.fst).Nodup
  notebook : Json.Fields.get? notebookInput inputs = some (.str template)
  copied : ∀ name ∈ runtimeAttributes, ∀ v, Json.Fields.get? name config = some v →
    Json.Fields.get? (attributeInput namespaced name) inputs = some v
  nothingElse : ∀ f ∈ inputs, f = (notebookInput, .str template) ∨ f = (imageInput, .str image) ∨
    ∃ name ∈ runtimeAttributes, f.1 = attributeInput namespaced name ∧
      Json.Fields.get? name config = some f.2

/-- An attribute is added, or it is the image and takes the place of the required one. -/
theorem addedAttributes_or (namespaced : Bool) {name : String} (listed : name ∈ runtimeAttributes) :
    name ∈ addedAttributes namespaced ∨ namespaced = true ∧ name = "docker" := by
  cases namespaced with
  | false => exact Or.inl listed
  | true =>
    by_cases same : name = "docker"
    · exact Or.inr ⟨rfl, same⟩
    · exact Or.inl ((List.mem_erase_of_ne same).mpr listed)

theorem addedAttributes_subset : addedAttributes namespaced ⊆ runtimeAttributes := by
  cases namespaced with
  | false => exact List.Subset.refl _
  | true => exact List.erase_subset

theorem isInputs_runtimeAttributes (namespaced : Bool) (template image : String)
    (config : Json.Fields) :
    IsInputs namespaced template image config
      ((notebookInput, .str template) :: (imageInput, imageValue namespaced image config) ::
        copiedInputs namespaced config (addedAttributes namespaced)) := by
  have distinct : (((notebookInput, Json.str template) ::
      (imageInput, imageValue namespaced image config) ::
      copiedInputs namespaced config (addedAttributes namespaced)).map Prod.fst).Nodup :=
    (nodup_inputNames namespaced).sublist
      ((names_copiedInputs_sublist.cons_cons imageInput).cons_cons notebookInput)
  refine ⟨?_, ?_, distinct, ?_, ?_, ?_⟩
  · rintro rfl
    rfl
  · rintro rfl
    rfl
  · rw [Json.Fields.get?, if_pos rfl]
  · intro name listed v given
    refine (get?_eq_some_iff distinct).mpr ?_
    rcases addedAttributes_or namespaced listed with added | ⟨rfl, rfl⟩
    · refine List.mem_cons_of_mem _ (List.mem_cons_of_mem _ ?_)
      exact mem_copiedInputs.mpr ⟨name, added, rfl, given⟩
    · have replaced : imageValue true image config = v := by
        rw [imageValue, if_pos rfl, given, Option.getD_some]
      rw [replaced]
      exact List.mem_cons_of_mem _ List.mem_cons_self
  · intro f there
    rcases List.mem_cons.mp there with rfl | there
    · exact Or.inl rfl
    rcases List.mem_cons.mp there with rfl | there
    · rw [imageValue]
      cases namespaced with
      | false => exact Or.inr (Or.inl rfl)
      | true =>
        rw [if_pos rfl]
        cases given : Json.Fields.get? "docker" config with
        | none => exact Or.inr (Or.inl rfl)
        | some v => exact Or.inr (Or.inr ⟨"docker", by decide, rfl, given⟩)
    · obtain ⟨name, added, named, given⟩ := mem_copiedInputs.mp there
      exact Or.inr (Or.inr ⟨name, addedAttributes_subset added, named, given⟩)

/-! ## When inputs are made -/

inductive MembersOf : Json → Json.Fields → Prop
  | null : MembersOf .null []
  | obj (fields : Json.Fields) : MembersOf (.obj fields) fields

variable {c : Json} {fault : InputsFault}

theorem copyAttribute_nothing (names : List String) :
    names.foldl (copyAttribute namespaced []) inputs = inputs := by
  induction names with
  | nil => rfl
  | cons name rest ih => exact ih

theorem buildInputs_of_members (members : MembersOf c config) (located : template ≠ "")
    (imaged : image ≠ "") : buildInputs namespaced template image c =
      .ok ((notebookInput, .str template) :: (imageInput, imageValue namespaced image config) ::
        copiedInputs namespaced config (addedAttributes namespaced)) := by
  have template_given : ¬ template.isEmpty = true := by simpa using located
  have image_given : ¬ image.isEmpty = true := by simpa using imaged
  rw [← foldl_runtimeAttributes]
  cases members with
  | null =>
    rw [buildInputs, if_neg template_given, if_neg image_given, copyAttribute_nothing]
  | obj => rw [buildInputs, if_neg template_given, if_neg image_given]

/-- No inputs are made exactly where a location is empty or the configuration has no members; of
several reasons the first one counts. -/
theorem buildInputs_error_iff : buildInputs namespaced template image c = .error fault ↔
    (template = "" ∧ fault = .templateMissing) ∨
      (template ≠ "" ∧ image = "" ∧ fault = .imageMissing) ∨
      (template ≠ "" ∧ image ≠ "" ∧ (∀ fields, ¬ MembersOf c fields) ∧ fault = .configForm) := by
  by_cases located : template = ""
  · have missing : buildInputs namespaced template image c = .error .templateMissing := by
      simp [buildInputs.eq_def, located]
    rw [missing]
    simp [located, @eq_comm InputsFault _ fault]
  by_cases imaged : image = ""
  · have missing : buildInputs namespaced template image c = .error .imageMissing := by
      simp [buildInputs.eq_def, located, imaged]
    rw [missing]
    simp [located, imaged, @eq_comm InputsFault _ fault]
  by_cases members : ∃ fields, MembersOf c fields
  · obtain ⟨fields, members⟩ := members
    rw [buildInputs_of_members members located imaged]
    simp only [reduceCtorEq, located, imaged, false_and, and_false, false_or, ne_eq,
      not_false_eq_true, true_and, false_iff, not_and]
    exact fun none => absurd members (none fields)
  · rw [not_exists] at members
    have odd : buildInputs namespaced template image c = .error .configForm := by
      cases c with
      | null => exact absurd .null (members [])
      | obj fields => exact absurd (.obj fields) (members fields)
      | _ => simp [buildInputs, located, imaged]
    simp [odd, located, imaged, members, @eq_comm InputsFault _ fault]

theorem buildInputs_ok (built : buildInputs namespaced template image c = .ok inputs) :
    template ≠ "" ∧ image ≠ "" ∧ ∃ fields, MembersOf c fields ∧
      inputs = (notebookInput, .str template) :: (imageInput, imageValue namespaced image fields) ::
        copiedInputs namespaced fields (addedAttributes namespaced) := by
  have made (fault : InputsFault) : buildInputs namespaced template image c ≠ .error fault := by
    rw [built]
    exact nofun
  have located : template ≠ "" := fun empty =>
    made .templateMissing (buildInputs_error_iff.mpr (Or.inl ⟨empty, rfl⟩))
  have imaged : image ≠ "" := fun empty =>
    made .imageMissing (buildInputs_error_iff.mpr (Or.inr (Or.inl ⟨located, empty, rfl⟩)))
  by_cases members : ∃ fields, MembersOf c fields
  · obtain ⟨fields, members⟩ := members
    rw [buildInputs_of_members members located imaged] at built
    exact ⟨located, imaged, fields, members, (Except.ok.inj built).symm⟩
  · rw [not_exists] at members
    exact absurd (buildInputs_error_iff.mpr (Or.inr (Or.inr ⟨located, imaged, members, rfl⟩)))
      (made .configForm)

/-- Only the listed attributes of a configuration get into the inputs. A missing location is the
only reason for an inputs error, and a configuration that is neither null nor an object the only one
for a parse error; otherwise the inputs are made, and configurations that agree on the listed
attributes give the same ones in the same order, whatever else they hold. -/
theorem inputs_exact (namespaced : Bool) (template image : String) (c : Json) :
    ((∃ fault, buildInputs namespaced template image c = .error fault ∧
        (ReportError.inputs fault).kind = .inputs) ↔ template = "" ∨ image = "") ∧
    ((∃ fault, buildInputs namespaced template image c = .error fault ∧
        (ReportError.inputs fault).kind = .parse) ↔
      template ≠ "" ∧ image ≠ "" ∧ c ≠ .null ∧ ∀ fields, c ≠ .obj fields) ∧
    (template ≠ "" → image ≠ "" → ∀ config, MembersOf c config →
      ∃ inputs, buildInputs namespaced template image c = .ok inputs ∧
        IsInputs namespaced template image config inputs ∧
        ∀ others, (∀ name ∈ runtimeAttributes,
            Json.Fields.get? name config = Json.Fields.get? name others) →
          buildInputs namespaced template image (.obj others) = .ok inputs) := by
  refine ⟨?_, ?_, ?_⟩
  · simp only [buildInputs_error_iff]
    constructor
    · rintro ⟨fault, ⟨empty, -⟩ | ⟨-, empty, -⟩ | ⟨-, -, -, rfl⟩, kind⟩
      · exact Or.inl empty
      · exact Or.inr empty
      · cases kind
    · intro missing
      by_cases located : template = ""
      · exact ⟨.templateMissing, Or.inl ⟨located, rfl⟩, rfl⟩
      · exact ⟨.imageMissing, Or.inr (Or.inl ⟨located, missing.resolve_left located, rfl⟩), rfl⟩
  · simp only [buildInputs_error_iff]
    constructor
    · rintro ⟨fault, ⟨-, rfl⟩ | ⟨-, -, rfl⟩ | ⟨located, imaged, none, -⟩, kind⟩
      · cases kind
      · cases kind
      · refine ⟨located, imaged, ?_, ?_⟩
        · rintro rfl
          exact none [] .null
        · rintro fields rfl
          exact none fields (.obj fields)
    · rintro ⟨located, imaged, given, odd⟩
      refine ⟨.configForm, Or.inr (Or.inr ⟨located, imaged, ?_, rfl⟩), rfl⟩
      rintro fields (_ | fields)
      · exact given rfl
      · exact odd fields rfl
  · intro located imaged config members
    refine ⟨_, buildInputs_of_members members located imaged,
      isInputs_runtimeAttributes namespaced template image config, fun others agree => ?_⟩
    have image_same : imageValue namespaced image config = imageValue namespaced image others := by
      rw [imageValue, imageValue, agree "docker" (by decide)]
    rw [buildInputs_of_members (.obj others) located imaged, image_same,
      copiedInputs_congr fun name added => agree name (addedAttributes_subset added)]

/-- A configuration whose names look like inputs, with a null and an image on the list and something
else between them. -/
def tuned : Json.Fields :=
  [("generate_report_file_workflow.notebook_template", .str "other"), ("docker", .str "custom:1"),
    ("unlisted", .arr []), ("cpu", .null)]

def retuned : Json.Fields :=
  [("cpu", .null), ("generate_report_file_workflow.docker", .int 0), ("docker", .str "custom:1")]

theorem inputs_exact_tuned :
    buildInputs true "gs://b/n" "image:1" (.obj tuned) =
        .ok [(notebookInput, .str "gs://b/n"), (imageInput, .str "custom:1"),
          ("generate_report_file_workflow.cpu", .null)] ∧
      buildInputs true "gs://b/n" "image:1" (.obj retuned) =
        buildInputs true "gs://b/n" "image:1" (.obj tuned) ∧
      ∃ fault, buildInputs true "gs://b/n" "image:1" (.arr []) = .error fault ∧
        (ReportError.inputs fault).kind = .parse := by
  have exact := inputs_exact true "gs://b/n" "image:1" (.obj tuned)
  obtain ⟨inputs, built, is, told⟩ := exact.2.2 (by decide) (by decide) tuned (.obj tuned)
  refine ⟨?_, ?_, ?_⟩
  · rw [built, is.underWorkflow rfl]
    rfl
  · have agree : runtimeAttributes.map (Json.Fields.get? · tuned) =
        runtimeAttributes.map (Json.Fields.get? · retuned) := rfl
    rw [told retuned (List.map_inj_left.mp agree), built]
  · exact (inputs_exact true "gs://b/n" "image:1" (.arr [])).2.1.mpr
      ⟨by decide, by decide, nofun, nofun⟩

/-! ## Inputs that can be submitted -/

def IsFilled (v : Json) : Prop := ∃ s, s ≠ "" ∧ v = .str s

def Fills (name : String) (inputs : Json.Fields) : Prop :=
  ∃ v, Json.Fields.get? name inputs = some v ∧ IsFilled v

/-- The configuration puts something in the place of the image that is no text with something in
it. -/
def SpoilsImage (namespaced : Bool) (c : Json) : Prop :=
  namespaced = true ∧ ∃ config v, c = .obj config ∧
    Json.Fields.get? "docker" config = some v ∧ ¬ IsFilled v

theorem get?_imageInput {v : Json} {rest : Json.Fields} :
    Json.Fields.get? imageInput ((notebookInput, .str template) :: (imageInput, v) :: rest) =
      some v := by
  have apart : notebookInput ≠ imageInput := by decide
  rw [Json.Fields.get?, if_neg apart, Json.Fields.get?, if_pos rfl]

/-- The image is a text with something in it unless the configuration spoils it. -/
theorem isFilled_imageValue (imaged : image ≠ "") :
    IsFilled (imageValue namespaced image config) ↔
      ¬ (namespaced = true ∧ ∃ v, Json.Fields.get? "docker" config = some v ∧ ¬ IsFilled v) := by
  have given : IsFilled (.str image) := ⟨image, imaged, rfl⟩
  cases namespaced with
  | false => simp [imageValue, given]
  | true =>
    cases replacement : Json.Fields.get? "docker" config with
    | none => simp [imageValue, replacement, given]
    | some v => simp [imageValue, replacement]

/-- Inputs that are made hold both required entries. The location of the notebook is a text with
something in it whatever the configuration holds; so is the image, exactly if the configuration does
not put something else in its place. -/
theorem inputs_filled (built : buildInputs namespaced template image c = .ok inputs) :
    Fills notebookInput inputs ∧ (∃ v, Json.Fields.get? imageInput inputs = some v) ∧
      (¬ SpoilsImage namespaced c → Fills imageInput inputs) ∧
      (SpoilsImage namespaced c → ¬ Fills imageInput inputs) := by
  obtain ⟨located, imaged, config, members, rfl⟩ := buildInputs_ok built
  have spoils : SpoilsImage namespaced c ↔
      (namespaced = true ∧ ∃ v, Json.Fields.get? "docker" config = some v ∧ ¬ IsFilled v) := by
    cases members with
    | null => simp [SpoilsImage, Json.Fields.get?]
    | obj => simp [SpoilsImage]
  refine ⟨⟨.str template, if_pos rfl, template, located, rfl⟩, ⟨_, get?_imageInput⟩, ?_, ?_⟩
  · intro sound
    exact ⟨_, get?_imageInput, (isFilled_imageValue imaged).mpr (spoils.not.mp sound)⟩
  · rintro spoiled ⟨v, held, filled⟩
    rw [get?_imageInput] at held
    cases held
    exact (isFilled_imageValue imaged).mp filled (spoils.mp spoiled)

theorem inputs_filled_tuned : ∃ inputs,
    buildInputs true "gs://b/n" "image:1" (.obj tuned) = .ok inputs ∧
      ¬ SpoilsImage true (.obj tuned) ∧ Fills notebookInput inputs ∧ Fills imageInput inputs := by
  obtain ⟨inputs, built⟩ : ∃ inputs,
      buildInputs true "gs://b/n" "image:1" (.obj tuned) = .ok inputs := ⟨_, rfl⟩
  have sound : ¬ SpoilsImage true (.obj tuned) := by
    rintro ⟨-, config, v, is, given, unfilled⟩
    obtain rfl := Json.obj.inj is
    cases given
    exact unfilled ⟨"custom:1", by decide, rfl⟩
  have filled := inputs_filled built
  exact ⟨inputs, built, sound, filled.1, filled.2.2.1 sound⟩

/-- The two locations are in order, and yet the inputs that are made hold no image. -/
theorem image_emptied : ∃ inputs,
    buildInputs true "gs://b/n" "image:1" (.obj [("docker", .str "")]) = .ok inputs ∧
      Json.Fields.get? imageInput inputs = some (.str "") ∧ ¬ Fills imageInput inputs := by
  refine ⟨_, rfl, rfl, ?_⟩
  rintro ⟨v, held, s, filled, rfl⟩
  cases held
  exact filled rfl

end RunReports.Workflow
