import RunReports.Proofs.Nesting
import RunReports.Run.Stored

/-! # Whole numbers in run data

The report data of a run hold the values of its rows, so its whole numbers are no longer than those
of the rows. What is read from a JSON text has none that is too long to be written. -/
namespace RunReports

namespace Json

mutual

theorem WellFormed.digits_le {v : Json} (form : WellFormed v) : v.digits ≤ digitLimit := by
  cases v with
  | int n => exact form
  | arr items => exact WellFormedItems.digits_le form
  | obj fields => exact WellFormedFields.digits_le form.2
  | _ => exact Nat.zero_le _

theorem WellFormedItems.digits_le {items : List Json} (form : WellFormedItems items) :
    digitsItems items ≤ digitLimit := by
  cases items with
  | nil => exact Nat.zero_le _
  | cons v rest => exact Nat.max_le.mpr ⟨form.1.digits_le, WellFormedItems.digits_le form.2⟩

theorem WellFormedFields.digits_le {fields : List (String × Json)}
    (form : WellFormedFields fields) : digitsFields fields ≤ digitLimit := by
  cases fields with
  | nil => exact Nat.zero_le _
  | cons f rest => exact Nat.max_le.mpr ⟨form.1.digits_le, WellFormedFields.digits_le form.2⟩

end

mutual

theorem digits_plain (v : Json) : (plain v).digits = v.digits := by
  cases v with
  | num x =>
    rw [plain]
    split <;> rfl
  | arr items => exact digits_plainItems items
  | obj fields => exact digits_plainFields fields
  | null => rfl
  | bool b => rfl
  | int n => rfl
  | str s => rfl

theorem digits_plainItems (items : List Json) :
    digitsItems (plainItems items) = digitsItems items := by
  cases items with
  | nil => rfl
  | cons v rest => rw [plainItems, digitsItems, digitsItems, digits_plain, digits_plainItems]

theorem digits_plainFields (fields : List (String × Json)) :
    digitsFields (plainFields fields) = digitsFields fields := by
  cases fields with
  | nil => rfl
  | cons f rest =>
    obtain ⟨n, v⟩ := f
    rw [plainFields, digitsFields, digitsFields, digits_plain, digits_plainFields]

end

end Json

namespace Notebook

variable {run : Run.Snapshot}

/-- The whole numbers among the values of a run have no more digits than can be written. -/
def HoldsShortNumbers (run : Run.Snapshot) : Prop :=
  ∀ fields ∈ [run.testInput, run.evalInput, run.results],
    (Json.obj fields).digits ≤ Json.digitLimit

theorem holdsShortNumbers_iff : HoldsShortNumbers run ↔ run.toJson.isShort = true := by
  have text (s : String) : (Json.str s).digits ≤ Json.digitLimit := Nat.zero_le _
  have given (o : Option String) : (Json.ofText? o).digits ≤ Json.digitLimit := by
    cases o <;> exact Nat.zero_le _
  have moment (o : Option Calendar.Moment) : (Run.ofMoment? o).digits ≤ Json.digitLimit := by
    cases o <;> exact Nat.zero_le _
  have whole : run.toJson.digits = Json.digitsFields run.members := Json.digits_plain _
  rw [Json.isShort, whole, decide_eq_true_iff, Json.digitsFields_le_iff]
  simp only [HoldsShortNumbers, Run.Snapshot.members, List.forall_mem_cons, text, given, moment,
    true_and]
  simp

end Notebook

namespace Run

open RunReports.Store

variable {n : Nat} {pairs : List (Json × Json)} {fields : Json.Fields}

/-! ## From the rows to the data -/

theorem readPair_digits {position : Nat} {v : Json} {p : Json × Json}
    (read : readPair position v = .ok p) : p.2.digits ≤ v.digits := by
  have named {k w : Json} (read : namedPair k w = .ok p) : p.2 = w := by
    revert read
    fun_cases namedPair k w
    · rintro ⟨⟩
    · rintro ⟨⟩
    · rintro ⟨⟩
      rfl
  revert read
  fun_cases readPair position v with
  | case1 k w =>
    intro read
    rw [named read]
    simp [Json.digits, Json.digitsItems]
  | case3 s a b | case5 a _ b _ =>
    rintro ⟨⟩
    exact Nat.zero_le _
  | _ => rintro ⟨⟩

theorem mem_setPair {k v : Json} {out : List (Json × Json)} {p : Json × Json}
    (there : p ∈ setPair k v out) : p.2 = v ∨ p ∈ out := by
  induction out with
  | nil =>
    obtain rfl := List.mem_singleton.mp there
    exact Or.inl rfl
  | cons q rest ih =>
    rw [setPair] at there
    split at there
    · rcases List.mem_cons.mp there with rfl | later
      · exact Or.inl rfl
      · exact Or.inr (List.mem_cons_of_mem _ later)
    · rcases List.mem_cons.mp there with rfl | later
      · exact Or.inr List.mem_cons_self
      · exact (ih later).imp_right (List.mem_cons_of_mem _)

theorem readPairs_digits {items : List Json} (short : ∀ v ∈ items, v.digits ≤ n) {position : Nat}
    {out : List (Json × Json)} (before : ∀ p ∈ out, p.2.digits ≤ n)
    (read : readPairs position out items = .ok pairs) : ∀ p ∈ pairs, p.2.digits ≤ n := by
  induction items generalizing position out with
  | nil =>
    cases read
    exact before
  | cons v rest ih =>
    obtain ⟨first, others⟩ := List.forall_mem_cons.mp short
    cases pair : readPair position v with
    | error f =>
      rw [readPairs, pair] at read
      cases read
    | ok q =>
      rw [readPairs, pair] at read
      refine ih others (fun p there => ?_) read
      rcases mem_setPair there with same | old
      · rw [same]
        exact (readPair_digits pair).trans first
      · exact before p old

theorem storedPairs_digits {v : Json} (read : storedPairs v = .ok pairs) :
    ∀ p ∈ pairs, p.2.digits ≤ v.digits := by
  have empty : ∀ p ∈ ([] : List (Json × Json)), p.2.digits ≤ v.digits := by simp
  unfold storedPairs at read
  split at read
  · cases read
    exact empty
  cases v with
  | obj fields =>
    cases read
    exact List.forall_mem_map.mpr (Json.digitsFields_le_iff.mp (Nat.le_refl _))
  | arr items => exact readPairs_digits (Json.digitsItems_le_iff.mp (Nat.le_refl _)) empty read
  | str s => exact readPairs_digits (List.forall_mem_map.mpr fun _ _ => Nat.zero_le _) empty read
  | _ => cases read

theorem pairMembers_digits {place : String} (short : ∀ p ∈ pairs, p.2.digits ≤ n)
    (read : pairMembers place pairs = .ok fields) : (Json.obj fields).digits ≤ n := by
  refine Json.digitsFields_le_iff.mpr ?_
  induction pairs generalizing fields with
  | nil =>
    cases read
    simp
  | cons p rest ih =>
    obtain ⟨first, others⟩ := List.forall_mem_cons.mp short
    obtain ⟨k, v⟩ := p
    cases k with
    | str name =>
      cases read' : pairMembers place rest with
      | ok fields' =>
        simp only [pairMembers, read', Except.ok.injEq] at read
        rw [← read]
        exact List.forall_mem_cons.mpr ⟨first, ih others read'⟩
      | error vs => simp [pairMembers, read'] at read
    | _ => cases read' : pairMembers place rest <;> simp [pairMembers, read'] at read

theorem resultMembers_digits {rows : List ResultRow} (short : ∀ r ∈ rows, r.value.digits ≤ n)
    (runId : String) : (Json.obj (resultMembers runId rows)).digits ≤ n := by
  refine Json.digitsFields_le_iff.mpr fun f there => ?_
  obtain ⟨r, own, rfl⟩ := List.mem_map.mp ((Json.ofMembers_spec _).2 f there)
  exact short r (List.mem_filter.mp (List.mem_mergeSort.mp own)).1

theorem snapshotOf_parts {row : RunRow} {results : Json.Fields} {run : Snapshot}
    (made : snapshotOf row results = .ok run) : ∃ testPairs evalPairs,
      storedPairs row.testInput = .ok testPairs ∧ storedPairs row.evalInput = .ok evalPairs ∧
      pairMembers "test_input" testPairs = .ok run.testInput ∧
      pairMembers "eval_input" evalPairs = .ok run.evalInput ∧ results = run.results := by
  cases testRead : storedPairs row.testInput with
  | error f => simp [snapshotOf, testRead, bind, Except.bind] at made
  | ok testPairs =>
    cases evalRead : storedPairs row.evalInput with
    | error f => simp [snapshotOf, testRead, evalRead, bind, Except.bind] at made
    | ok evalPairs =>
      cases testInput : pairMembers "test_input" testPairs <;>
        cases evalInput : pairMembers "eval_input" evalPairs <;>
        simp only [snapshotOf, testRead, evalRead, testInput, evalInput, bind, Except.bind,
          Checked.apply, reduceCtorEq, Except.ok.injEq] at made
      rw [← made]
      exact ⟨testPairs, evalPairs, rfl, rfl, testInput, evalInput, rfl⟩

/-- The numbers of a run are no longer than those of its rows. -/
theorem snapshotOf_short {row : RunRow} {results : Json.Fields} {run : Snapshot}
    (test : row.testInput.isShort = true) (eval : row.evalInput.isShort = true)
    (told : (Json.obj results).digits ≤ Json.digitLimit)
    (made : snapshotOf row results = .ok run) : Notebook.HoldsShortNumbers run := by
  obtain ⟨testPairs, evalPairs, testRead, evalRead, testInput, evalInput, rfl⟩ :=
    snapshotOf_parts made
  simp only [Notebook.HoldsShortNumbers, List.forall_mem_cons]
  refine ⟨pairMembers_digits ?_ testInput, pairMembers_digits ?_ evalInput, told, by simp⟩
  · exact fun p there => (storedPairs_digits testRead p there).trans (of_decide_eq_true test)
  · exact fun p there => (storedPairs_digits evalRead p there).trans (of_decide_eq_true eval)

end Run

end RunReports
