import Mathlib.Data.List.Nodup
import Mathlib.Data.List.Perm.Basic
import RunReports.Notebook.Cell
import RunReports.Proofs.JsonValues

/-! # Members by name

An object with distinct names is known by the value of each name. What is written names the
declared members first, each in its place, and then the others as they were given; written like
this, an object keeps its members and only their order changes. -/
namespace RunReports.Notebook

open RunReports

variable {names : List String} {name : String} {v : Json} {fields others : Json.Fields}

/-! ## One member -/

theorem get?_of_absent (h : name ∉ fields.map Prod.fst) : Json.Fields.get? name fields = none := by
  induction fields with
  | nil => rfl
  | cons f rest ih =>
    simp only [List.map_cons, List.mem_cons, not_or] at h
    rw [Json.Fields.get?, if_neg (Ne.symm h.1), ih h.2]

theorem get?_append (xs ys : Json.Fields) : Json.Fields.get? name (xs ++ ys) =
    (Json.Fields.get? name xs).or (Json.Fields.get? name ys) := by
  induction xs with
  | nil => rfl
  | cons f rest ih =>
    rw [List.cons_append, Json.Fields.get?, Json.Fields.get?]
    split
    · rfl
    · exact ih

theorem mem_of_get? (h : Json.Fields.get? name fields = some v) : (name, v) ∈ fields := by
  induction fields with
  | nil => cases h
  | cons f rest ih =>
    rw [Json.Fields.get?] at h
    split at h
    case isTrue same =>
      cases h
      subst same
      exact List.mem_cons_self
    case isFalse => exact List.mem_cons_of_mem _ (ih h)

theorem get?_eq_some_iff (distinct : (fields.map Prod.fst).Nodup) :
    Json.Fields.get? name fields = some v ↔ (name, v) ∈ fields := by
  refine ⟨mem_of_get?, fun member => ?_⟩
  induction fields with
  | nil => cases member
  | cons f rest ih =>
    obtain ⟨absent, distinct⟩ := List.nodup_cons.mp distinct
    rw [Json.Fields.get?]
    rcases List.mem_cons.mp member with rfl | later
    · rw [if_pos rfl]
    · have other : f.1 ≠ name := by
        rintro rfl
        exact absent (List.mem_map.mpr ⟨_, later, rfl⟩)
      rw [if_neg other]
      exact ih distinct later

theorem mem_without {f : String × Json} :
    f ∈ Json.Fields.without names fields ↔ f ∈ fields ∧ f.1 ∉ names := by
  simp [Json.Fields.without]

theorem get?_without (kept : name ∉ names) :
    Json.Fields.get? name (Json.Fields.without names fields) = Json.Fields.get? name fields := by
  induction fields with
  | nil => rfl
  | cons f rest ih =>
    rw [Json.Fields.without] at ih ⊢
    rw [List.filter_cons, Json.Fields.get?]
    by_cases same : f.1 = name
    · have stays : (!names.contains f.1) = true := by simpa [same] using kept
      rw [if_pos same, if_pos stays, Json.Fields.get?, if_pos same]
    · rw [if_neg same, ← ih]
      split
      · rw [Json.Fields.get?, if_neg same]
      · rfl

theorem apart_without (names : List String) (fields : Json.Fields) :
    ∀ f ∈ Json.Fields.without names fields, f.1 ∉ names :=
  fun _ there => (mem_without.mp there).2

/-! ## Declared members -/

/-- The members with declared names, in the order of these, and then other members. -/
def declaredFirst (names : List String) (value : String → Option Json) (others : Json.Fields) :
    Json.Fields :=
  names.flatMap (fun n => member n (value n)) ++ others

section
variable {value : String → Option Json}

theorem mem_member {n : String} {o : Option Json} {f : String × Json} :
    f ∈ member n o ↔ f.1 = n ∧ o = some f.2 := by
  cases o with
  | none => simp [member]
  | some w =>
    rw [member, List.mem_singleton, Prod.ext_iff, Option.some_inj]
    exact and_congr_right' eq_comm

theorem mem_declaredFirst {f : String × Json} : f ∈ declaredFirst names value others ↔
    (f.1 ∈ names ∧ value f.1 = some f.2) ∨ f ∈ others := by
  rw [declaredFirst, List.mem_append, List.mem_flatMap]
  refine or_congr_left ⟨?_, ?_⟩
  · rintro ⟨n, declared, there⟩
    obtain ⟨rfl, given⟩ := mem_member.mp there
    exact ⟨declared, given⟩
  · rintro ⟨declared, given⟩
    exact ⟨f.1, declared, mem_member.mpr ⟨rfl, given⟩⟩

theorem get?_declaredFirst_other (undeclared : name ∉ names) :
    Json.Fields.get? name (declaredFirst names value others) = Json.Fields.get? name others := by
  rw [declaredFirst, get?_append, get?_of_absent, Option.none_or]
  intro there
  obtain ⟨f, found, named⟩ := List.mem_map.mp there
  obtain ⟨n, declared, given⟩ := List.mem_flatMap.mp found
  rw [← named, (mem_member.mp given).1] at undeclared
  exact undeclared declared

variable (apart : ∀ f ∈ others, f.1 ∉ names)
include apart

theorem get?_declaredFirst (declared : name ∈ names) :
    Json.Fields.get? name (declaredFirst names value others) = value name := by
  have none : Json.Fields.get? name others = none := by
    refine get?_of_absent fun there => ?_
    obtain ⟨f, member, rfl⟩ := List.mem_map.mp there
    exact apart f member declared
  clear apart
  rw [declaredFirst, get?_append, none, Option.or_none]
  induction names with
  | nil => cases declared
  | cons n rest ih =>
    rw [List.flatMap_cons, get?_append]
    by_cases same : n = name
    · subst same
      cases given : value n with
      | none =>
        rw [member, Json.Fields.get?, Option.none_or]
        by_cases again : n ∈ rest
        · rw [ih again, given]
        · refine get?_of_absent fun there => again ?_
          obtain ⟨f, member, named⟩ := List.mem_map.mp there
          obtain ⟨m, listed, found⟩ := List.mem_flatMap.mp member
          rwa [← named, (mem_member.mp found).1]
      | some w =>
        rw [member, Json.Fields.get?, if_pos rfl, Option.some_or]
    · have skipped : Json.Fields.get? name (member n (value n)) = Option.none := by
        refine get?_of_absent fun there => same ?_
        obtain ⟨f, member, rfl⟩ := List.mem_map.mp there
        exact (mem_member.mp member).1.symm
      rw [skipped, Option.none_or]
      exact ih ((List.mem_cons.mp declared).resolve_left (Ne.symm same))

theorem without_declaredFirst :
    Json.Fields.without names (declaredFirst names value others) = others := by
  have front : Json.Fields.without names (names.flatMap fun n => member n (value n)) = [] := by
    refine List.filter_eq_nil_iff.mpr fun f there => ?_
    obtain ⟨n, declared, found⟩ := List.mem_flatMap.mp there
    simpa [(mem_member.mp found).1] using declared
  have back : Json.Fields.without names others = others := by
    refine List.filter_eq_self.mpr fun f there => ?_
    simpa using apart f there
  have both := List.filter_append (names.flatMap fun n => member n (value n)) others
    (p := fun f => !names.contains f.1)
  rw [Json.Fields.without] at front back ⊢
  rw [declaredFirst, both, front, back, List.nil_append]

theorem nodup_declaredFirst (declared : names.Nodup) (distinct : (others.map Prod.fst).Nodup) :
    ((declaredFirst names value others).map Prod.fst).Nodup := by
  have front : ((names.flatMap fun n => member n (value n)).map Prod.fst).Sublist names := by
    clear apart declared
    induction names with
    | nil => exact List.Sublist.refl []
    | cons n rest ih =>
      rw [List.flatMap_cons, List.map_append]
      cases value n with
      | none => exact ih.cons n
      | some w => exact ih.cons_cons n
  rw [declaredFirst, List.map_append]
  refine List.nodup_append.mpr ⟨front.nodup declared, distinct, ?_⟩
  intro n early m late same
  obtain ⟨f, member, rfl⟩ := List.mem_map.mp late
  exact apart f member (same ▸ front.subset early)

end

/-- An object has the same members when its declared ones are put first. -/
theorem perm_declaredFirst (declared : names.Nodup) (distinct : (fields.map Prod.fst).Nodup) :
    fields.Perm (declaredFirst names (fun n => Json.Fields.get? n fields)
      (Json.Fields.without names fields)) := by
  have apart := apart_without names fields
  have kept : ((Json.Fields.without names fields).map Prod.fst).Nodup :=
    distinct.sublist (List.filter_sublist.map Prod.fst)
  refine (List.perm_ext_iff_of_nodup (List.Nodup.of_map _ distinct)
    (List.Nodup.of_map _ (nodup_declaredFirst apart declared kept))).mpr fun f => ?_
  rw [mem_declaredFirst, get?_eq_some_iff distinct, mem_without]
  by_cases listed : f.1 ∈ names
  · simp [listed]
  · simp [listed]

end RunReports.Notebook
