import RunReports.Proofs.Executed

/-! # Notebooks are written as authored

A notebook that is read and written again is the value it was read from, but for the order of the
members of the notebook and of its cells: no member is added, dropped or changed at any depth. This
does not hold of whole numbers that were given leniently, or of numbers that are not finite; they
are settled when a notebook is read or written for the first time. -/
namespace RunReports

namespace Json

/-- A value that leaves the typed layer as it is: a name stands at most once in each object, all
numbers are finite, and it nests no deeper than the limit. -/
structure IsPlain (v : Json) : Prop where
  names : DistinctNames v
  finite : AllFinite v
  shallow : v.isShallow = true

/-- An object with the members of another one, in some order. -/
inductive Rearranged : Json → Json → Prop
  | members (fields gs : Fields) (same : fields.Perm gs) : Rearranged (.obj fields) (.obj gs)

theorem depthFields_perm {fields gs : Fields} (same : fields.Perm gs) :
    depthFields fields = depthFields gs := by
  induction same with
  | nil => rfl
  | cons f _ ih =>
    obtain ⟨n, v⟩ := f
    rw [depthFields, depthFields, ih]
  | swap f g rest =>
    obtain ⟨n, v⟩ := f
    obtain ⟨m, w⟩ := g
    simp only [depthFields]
    exact Nat.max_left_comm _ _ _
  | trans _ _ early late => exact early.trans late

theorem Rearranged.depth_eq {v w : Json} (h : Rearranged v w) : depth v = depth w := by
  obtain ⟨fields, gs, same⟩ := h
  rw [depth, depth, depthFields_perm same]

theorem depthItems_rearranged {items written : List Json}
    (h : List.Forall₂ Rearranged items written) : depthItems items = depthItems written := by
  induction h with
  | nil => rfl
  | cons first _ ih => rw [depthItems, depthItems, first.depth_eq, ih]

end Json

namespace Notebook

/-- A notebook with the members that another one was authored with, in some order, and with its
cells in the same order, each of them with the members it was authored with in some order. -/
inductive AsAuthored : Json → Json → Prop
  | members (fields gs others : Json.Fields) (stored written : List Json)
    (authored : fields.Perm (("cells", .arr stored) :: others))
    (dumped : gs.Perm (("cells", .arr written) :: others))
    (cells : List.Forall₂ Json.Rearranged stored written) : AsAuthored (.obj fields) (.obj gs)

theorem AsAuthored.depth_eq {v w : Json} (h : AsAuthored v w) : v.depth = w.depth := by
  obtain ⟨fields, gs, others, stored, written, authored, dumped, cells⟩ := h
  have nested : (Json.arr stored).depth = (Json.arr written).depth := by
    rw [Json.depth, Json.depth, Json.depthItems_rearranged cells]
  rw [Json.depth, Json.depth, Json.depthFields_perm authored, Json.depthFields_perm dumped,
    Json.depthFields, Json.depthFields, nested]

theorem SameMembers.rearranged {v : Json} {cell : Cell} (same : SameMembers v cell) :
    Json.Rearranged v cell.toJson := by
  obtain ⟨fields, rfl, same⟩ := same
  exact .members fields cell.members same

/-- A notebook that was read is written as it was authored. -/
theorem Document.asAuthored_of_read {v : Json} {d : Document} (read : Document.read v = .ok d)
    (names : Json.DistinctNames v) (finite : Json.AllFinite v) (whole : FormatIsWhole v) :
    AsAuthored v d.toJson := by
  obtain ⟨fields, rfl⟩ := Document.object_of_read read
  obtain ⟨stored, given, same⟩ := cells_sameMembers read names finite whole
  have cells : List.Forall₂ Json.Rearranged stored (d.cells.map Cell.toJson) :=
    List.forall₂_map_right_iff.mpr (same.imp fun _ _ => SameMembers.rearranged)
  refine .members fields d.members
    (declaredFirst ["metadata", "nbformat", "nbformat_minor"]
      (fun name => Json.Fields.get? name fields)
      (Json.Fields.without Document.declared fields))
    stored (d.cells.map Cell.toJson) ?_ ?_ cells
  · have same : fields.Perm (declaredFirst Document.declared _ _) :=
      perm_declaredFirst (by decide) names.1
    have given : Json.Fields.get? "cells" fields = some (.arr stored) := given
    rwa [declaredFirst, Document.declared, List.flatMap_cons, given] at same
  · have written := Document.members_of_read read finite whole d.cells
    rw [written]
    exact .refl _

/-- A notebook that is read from a plain value with whole numbers is written as it was authored,
and a cell is too. -/
theorem dumped_as_authored :
    (∀ raw d, Document.read raw = .ok d → raw.IsPlain → FormatIsWhole raw →
      ∃ dumped, d.dump? = some dumped ∧ AsAuthored raw dumped) ∧
    (∀ raw cell, Cell.read raw = .ok cell → raw.IsPlain → CountIsWhole raw →
      ∃ dumped, cell.dump? = some dumped ∧ raw.Rearranged dumped) := by
  constructor
  · intro raw d read plain whole
    have same := Document.asAuthored_of_read read plain.names plain.finite whole
    have shallow : d.toJson.isShallow = true := by
      rw [Json.isShallow, ← same.depth_eq]
      exact plain.shallow
    exact ⟨d.toJson, if_pos shallow, same⟩
  · intro raw cell read plain whole
    obtain ⟨fields, rfl⟩ := Cell.object_of_read read
    have same : Json.Rearranged (.obj fields) cell.toJson :=
      .members _ _ (Cell.perm_members read plain.finite whole plain.names.1)
    have shallow : cell.toJson.isShallow = true := by
      rw [Json.isShallow, ← same.depth_eq]
      exact plain.shallow
    exact ⟨cell.toJson, if_pos shallow, same⟩

/-- A markdown cell with what a code cell would declare, behind a member that no cell declares. -/
def annotated : Json := .obj
  [("id", .str "a"), ("execution_count", .bool true), ("outputs", .num ⟨0x3ff8000000000000⟩),
    ("source", .str "# Result\n"), ("cell_type", .str "markdown")]

theorem dumped_as_authored_ownControl :
    (∃ d dumped, Document.read Report.ownControl = .ok d ∧ d.dump? = some dumped ∧
      AsAuthored Report.ownControl dumped) ∧
    ∃ cell dumped, Cell.read annotated = .ok cell ∧ cell.dump? = some dumped ∧
      annotated.Rearranged dumped := by
  constructor
  · obtain ⟨form, finite, whole⟩ := Report.ownControl_form
    obtain ⟨dumped, written, same⟩ :=
      dumped_as_authored.1 Report.ownControl _ rfl ⟨form.distinctNames, finite, rfl⟩ whole
    exact ⟨_, dumped, rfl, written, same⟩
  · have plain : annotated.IsPlain := by
      refine ⟨?_, ?_, rfl⟩
      · simp [annotated, Json.DistinctNames, Json.DistinctNamesFields]
      · simp [annotated, Json.AllFinite, Json.AllFiniteFields]
        rfl
    have whole : CountIsWhole annotated := by
      intro code
      simp [annotated, valueOf, Json.Fields.get?, CellKind.name] at code
    obtain ⟨dumped, written, same⟩ := dumped_as_authored.2 annotated _ rfl plain whole
    exact ⟨_, dumped, rfl, written, same⟩

end Notebook

end RunReports
