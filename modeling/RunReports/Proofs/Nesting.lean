import RunReports.Proofs.PlainNotebooks
import RunReports.Proofs.Surrounds

/-! # Written notebooks nest no deeper

A notebook that is read and written again nests no deeper than the value it was read from. So a
value within the limit can always be stored as a notebook, if it is one. A report that is assembled
from a notebook within the limit is within it as well. -/
namespace RunReports

namespace Json

mutual

theorem depth_plain_le (v : Json) : (plain v).depth ≤ v.depth := by
  cases v with
  | num x =>
    rw [plain]
    split <;> exact Nat.le_refl _
  | arr items => exact Nat.succ_le_succ (depth_plainItems_le items)
  | obj fields => exact Nat.succ_le_succ (depth_plainFields_le fields)
  | null => exact Nat.le_refl _
  | bool b => exact Nat.le_refl _
  | int n => exact Nat.le_refl _
  | str s => exact Nat.le_refl _

theorem depth_plainItems_le (items : List Json) :
    depthItems (plainItems items) ≤ depthItems items := by
  cases items with
  | nil => exact Nat.le_refl _
  | cons v rest =>
    have first := depth_plain_le v
    have others := depth_plainItems_le rest
    simp only [plainItems, depthItems]
    omega

theorem depth_plainFields_le (fields : List (String × Json)) :
    depthFields (plainFields fields) ≤ depthFields fields := by
  cases fields with
  | nil => exact Nat.le_refl _
  | cons f rest =>
    obtain ⟨n, v⟩ := f
    have first := depth_plain_le v
    have others := depth_plainFields_le rest
    simp only [plainFields, depthFields]
    omega

end

end Json

namespace Notebook

variable {fields : Json.Fields} {cell : Cell} {d : Document} {n : Nat}

section
variable (shallow : ∀ f ∈ fields, f.2.depth ≤ n)
include shallow

theorem depth_metadata {m : Option Json.Fields}
    (read : readObject? (Json.Fields.get? "metadata" fields) = some m) :
    ∀ fs ∈ m, (Json.obj (Json.plainFields fs)).depth ≤ n := by
  rintro fs rfl
  exact (Json.depth_plain_le (.obj fs)).trans (shallow _ (mem_of_get? (object_given read).symm))

theorem depth_extras {names : List String} {extras : Json.Fields}
    (h : extras = Json.Fields.without names fields) :
    ∀ f ∈ Json.plainFields extras, f.2.depth ≤ n := by
  have kept : Json.depthFields extras ≤ n := by
    refine Json.depthFields_le_iff.mpr fun f there => ?_
    rw [h] at there
    exact shallow f (mem_without.mp there).1
  exact Json.depthFields_le_iff.mp ((Json.depth_plainFields_le extras).trans kept)

theorem Cell.depth_members (read : Cell.read (.obj fields) = .ok cell) :
    ∀ f ∈ cell.members, f.2.depth ≤ n := by
  obtain ⟨source, -, metadata, extras, execution⟩ := Cell.read_iff.mp read
  refine Cell.forall_members (P := fun v => v.depth ≤ n) (depth_metadata shallow metadata) ?_
    (Nat.zero_le n) ?_ ?_ (depth_extras shallow extras)
  · intro s given
    have stored : Json.Fields.get? "source" fields = some s.toJson := by
      rw [← source_given source, given, Option.map_some]
    exact shallow _ (mem_of_get? stored)
  · rintro e - (_ | k) - <;> exact Nat.zero_le n
  · intro e code items put
    cases cell with
    | code content execution' =>
      cases code
      have given := outputs_given (execution content e rfl).2
      rw [put] at given
      exact (Json.depth_plain_le (.arr items)).trans (shallow _ (mem_of_get? given.symm))
    | _ => cases code

end

theorem Cell.depth_of_read {v : Json} (read : Cell.read v = .ok cell) :
    cell.toJson.depth ≤ v.depth := by
  obtain ⟨fields, rfl⟩ := Cell.object_of_read read
  refine Nat.succ_le_succ (Json.depthFields_le_iff.mpr (Cell.depth_members ?_ read))
  exact Json.depthFields_le_iff.mp (Nat.le_refl _)

/-- A notebook that was read nests no deeper when it is written. -/
theorem Document.depth_of_read {v : Json} (read : Document.read v = .ok d) :
    d.toJson.depth ≤ v.depth := by
  obtain ⟨fields, rfl⟩ := Document.object_of_read read
  have shallow := Json.depthFields_le_iff.mp (Nat.le_refl (Json.depthFields fields))
  obtain ⟨cells, metadata, -, -, extras⟩ := Document.read_iff.mp read
  obtain ⟨items, given, -, reads⟩ := readCellsMember_given cells
  refine Nat.succ_le_succ (Json.depthFields_le_iff.mpr (Document.forall_members
    (P := fun v => v.depth ≤ Json.depthFields fields) ?_ (depth_metadata shallow metadata)
    (fun _ _ => Nat.zero_le _) (fun _ _ => Nat.zero_le _) (depth_extras shallow extras)))
  refine Nat.le_trans (Nat.succ_le_succ ?_) (shallow _ (mem_of_get? given))
  refine Json.depthItems_le_iff.mpr (List.forall_mem_map.mpr (forall_cells reads ?_))
  intro fs cell there first
  exact (Cell.depth_of_read first).trans (Json.depthItems_le_iff.mp (Nat.le_refl _) _ there)

/-! ## Assembled reports -/

theorem Cell.depth_ofLines (ls : List String) : (Cell.ofLines ls).toJson.depth = 2 := by
  have flat : Json.depthItems (ls.map Json.str) = 0 := by
    refine Nat.le_zero.mp (Json.depthItems_le_iff.mpr ?_)
    simp [Json.depth]
  rw [Cell.toJson, Cell.members_ofLines]
  simp [Json.depth, Json.depthFields, Json.depthItems, flat]

/-- How deep a notebook nests, by its cells and what stands around them. -/
theorem Document.exists_depth (d : Document) : ∃ around, ∀ (cells : List Cell) (n : Nat),
    (Document.toJson { d with cells := cells }).depth ≤ n + 3 ↔
      (∀ cell ∈ cells, cell.toJson.depth ≤ n + 1) ∧ around ≤ n + 2 := by
  obtain ⟨others, members⟩ := d.exists_members_cells
  refine ⟨Json.depthFields others, fun cells n => ?_⟩
  rw [Document.toJson, members, Json.depth, Json.depthFields, Json.depth, Nat.succ_le_succ_iff,
    Nat.max_le, Nat.succ_le_succ_iff, Json.depthItems_le_iff, List.forall_mem_map]

/-- A notebook within the limit has a file. -/
theorem Document.serialize?_of_isShallow (shallow : d.toJson.isShallow = true) :
    d.serialize? = some (Text.utf8 (d.toJson.indented ++ "\n")) := by
  rw [serialize?, fileText?, dump?, if_pos shallow, Option.map_some, Option.map_some]

/-- A report can be written if its template can. -/
theorem assembled_isShallow {template : Json} {run : Run.Snapshot} {d doc : Document}
    (read : Document.read template = .ok d) (shallow : d.toJson.isShallow = true)
    (assembled : assemble template run = .ok doc) : doc.toJson.isShallow = true := by
  obtain ⟨d', hasControl, again, control, rfl⟩ := assemble_ok assembled
  obtain rfl : d = d' := Except.ok.inj (read.symm.trans again)
  obtain ⟨cells, is, surrounds⟩ := assembleWith_surrounds run.toJson control
  obtain ⟨around, depth⟩ := d.exists_depth
  obtain ⟨own, rest⟩ := (depth d.cells 252).mp (of_decide_eq_true shallow)
  -- a built-in cell nests less deep than the limit leaves for any cell, so only those of the
  -- template and what stands around them count
  have built : ∀ lines, (Cell.ofLines lines).toJson.depth ≤ 252 + 1 := by
    intro lines
    rw [Cell.depth_ofLines]
    decide
  rw [is]
  exact decide_eq_true ((depth cells 252).mpr ⟨surrounds.all built (built _) own, rest⟩)

end Notebook

end RunReports
