import Mathlib.Data.List.TakeWhile
import RunReports.Json.Reader
import RunReports.Proofs.Digits
import RunReports.Proofs.Plain

/-! # What JSON texts stand for

Not every value can come out of a reader. A value that was read has distinct names in each of its
objects, and none of its whole numbers has more digits than a reader takes. -/
namespace RunReports.Json

open RunReports.Decimal RunReports.Text

mutual

/-- Names are distinct in every object of a value, and its whole numbers are short enough to be
read. -/
def WellFormed : Json → Prop
  | .int n => (decimal n.natAbs).length ≤ digitLimit
  | .arr items => WellFormedItems items
  | .obj fields => (fields.map Prod.fst).Nodup ∧ WellFormedFields fields
  | _ => True

def WellFormedItems : List Json → Prop
  | [] => True
  | v :: rest => WellFormed v ∧ WellFormedItems rest

def WellFormedFields : List (String × Json) → Prop
  | [] => True
  | (_, v) :: rest => WellFormed v ∧ WellFormedFields rest

end

/-! ## Items and members -/

theorem wellFormedItems_iff {items : List Json} :
    WellFormedItems items ↔ ∀ v ∈ items, WellFormed v := by
  induction items with
  | nil => simp [WellFormedItems]
  | cons v rest ih => simp [WellFormedItems, ih]

theorem wellFormedFields_iff {fields : List (String × Json)} :
    WellFormedFields fields ↔ ∀ f ∈ fields, WellFormed f.2 := by
  induction fields with
  | nil => simp [WellFormedFields]
  | cons f rest ih => simp [WellFormedFields, ih]

theorem depthItems_le_iff {items : List Json} {n : Nat} :
    depthItems items ≤ n ↔ ∀ v ∈ items, v.depth ≤ n := by
  induction items with
  | nil => simp [depthItems]
  | cons v rest ih => simp [depthItems, ih]

theorem depthFields_le_iff {fields : Fields} {n : Nat} :
    depthFields fields ≤ n ↔ ∀ f ∈ fields, f.2.depth ≤ n := by
  induction fields with
  | nil => simp [depthFields]
  | cons f rest ih => simp [depthFields, ih]

theorem digitsItems_le_iff {items : List Json} {n : Nat} :
    digitsItems items ≤ n ↔ ∀ v ∈ items, v.digits ≤ n := by
  induction items with
  | nil => simp [digitsItems]
  | cons v rest ih => simp [digitsItems, ih]

theorem digitsFields_le_iff {fields : Fields} {n : Nat} :
    digitsFields fields ≤ n ↔ ∀ f ∈ fields, f.2.digits ≤ n := by
  induction fields with
  | nil => simp [digitsFields]
  | cons f rest ih => simp [digitsFields, ih]

theorem distinctNamesFields_iff {fields : List (String × Json)} :
    DistinctNamesFields fields ↔ ∀ f ∈ fields, DistinctNames f.2 := by
  induction fields with
  | nil => simp [DistinctNamesFields]
  | cons f rest ih => simp [DistinctNamesFields, ih]

theorem allFiniteItems_iff {items : List Json} :
    AllFiniteItems items ↔ ∀ v ∈ items, AllFinite v := by
  induction items with
  | nil => simp [AllFiniteItems]
  | cons v rest ih => simp [AllFiniteItems, ih]

theorem allFiniteFields_iff {fields : List (String × Json)} :
    AllFiniteFields fields ↔ ∀ f ∈ fields, AllFinite f.2 := by
  induction fields with
  | nil => simp [AllFiniteFields]
  | cons f rest ih => simp [AllFiniteFields, ih]

mutual

theorem WellFormed.distinctNames {v : Json} (h : WellFormed v) : DistinctNames v := by
  cases v with
  | arr items => exact WellFormedItems.distinctNames h
  | obj fields => exact ⟨h.1, WellFormedFields.distinctNames h.2⟩
  | null => trivial
  | bool b => trivial
  | int n => trivial
  | num x => trivial
  | str s => trivial

theorem WellFormedItems.distinctNames {items : List Json} (h : WellFormedItems items) :
    DistinctNamesItems items := by
  cases items with
  | nil => trivial
  | cons v rest => exact ⟨h.1.distinctNames, WellFormedItems.distinctNames h.2⟩

theorem WellFormedFields.distinctNames {fields : List (String × Json)}
    (h : WellFormedFields fields) : DistinctNamesFields fields := by
  cases fields with
  | nil => trivial
  | cons f rest => exact ⟨h.1.distinctNames, WellFormedFields.distinctNames h.2⟩

end

/-! ## Objects made of members -/

theorem mem_set {name : String} {value : Json} {fields : Fields} {f : String × Json}
    (h : f ∈ Fields.set name value fields) : f = (name, value) ∨ f ∈ fields := by
  induction fields with
  | nil => simpa [Fields.set] using h
  | cons g rest ih =>
    rw [Fields.set] at h
    split at h
    · rcases List.mem_cons.mp h with rfl | h
      · exact Or.inl (by simp_all)
      · exact Or.inr (List.mem_cons_of_mem _ h)
    · rcases List.mem_cons.mp h with rfl | h
      · exact Or.inr List.mem_cons_self
      · exact (ih h).imp_right (List.mem_cons_of_mem _)

theorem names_set (name : String) (value : Json) (fields : Fields) :
    (Fields.set name value fields).map Prod.fst =
      if name ∈ fields.map Prod.fst then fields.map Prod.fst
      else fields.map Prod.fst ++ [name] := by
  induction fields with
  | nil => rfl
  | cons f rest ih =>
    rw [Fields.set]
    by_cases same : f.1 = name
    · simp [same]
    · simp only [same, if_false, List.map_cons, ih, List.mem_cons, Ne.symm same, false_or]
      split <;> simp

theorem nodup_set (name : String) (value : Json) {fields : Fields}
    (h : (fields.map Prod.fst).Nodup) : ((Fields.set name value fields).map Prod.fst).Nodup := by
  rw [names_set]
  split
  case isTrue => exact h
  case isFalse absent =>
    refine List.nodup_append.mpr ⟨h, by simp, ?_⟩
    intro other there same isName
    rw [List.mem_singleton.mp isName]
    exact fun equal => absent (equal ▸ there)

/-- Whatever the members are, the object made of them has distinct names and no other values. -/
theorem ofMembers_spec (members : List (String × Json)) :
    ((ofMembers members).map Prod.fst).Nodup ∧ ∀ f ∈ ofMembers members, f ∈ members := by
  have front (fields : Fields) (nodup : (fields.map Prod.fst).Nodup) :
      ((members.foldl (fun fields m => Fields.set m.1 m.2 fields) fields).map Prod.fst).Nodup ∧
        ∀ f ∈ members.foldl (fun fields m => Fields.set m.1 m.2 fields) fields,
          f ∈ fields ∨ f ∈ members := by
    induction members generalizing fields with
    | nil => exact ⟨nodup, fun f formIs => Or.inl formIs⟩
    | cons m rest ih =>
      obtain ⟨names, from_⟩ := ih (Fields.set m.1 m.2 fields) (nodup_set m.1 m.2 nodup)
      refine ⟨names, fun f formIs => ?_⟩
      rcases from_ f formIs with set | later
      · rcases mem_set set with rfl | old
        · exact Or.inr List.mem_cons_self
        · exact Or.inl old
      · exact Or.inr (List.mem_cons_of_mem _ later)
  obtain ⟨names, from_⟩ := front [] List.nodup_nil
  exact ⟨names, fun f formIs => (from_ f formIs).resolve_left List.not_mem_nil⟩

theorem set_new {fields : Fields} {n : String} (v : Json) (h : n ∉ fields.map Prod.fst) :
    Fields.set n v fields = fields ++ [(n, v)] := by
  induction fields with
  | nil => rfl
  | cons f fields ih =>
    simp only [List.map_cons, List.mem_cons, not_or] at h
    simp only [Fields.set, if_neg (Ne.symm h.1), ih h.2, List.cons_append]

theorem foldl_set_distinct (front fields : Fields) (h : ((front ++ fields).map Prod.fst).Nodup) :
    fields.foldl (fun members m => Fields.set m.1 m.2 members) front = front ++ fields := by
  induction fields generalizing front with
  | nil => simp
  | cons f fields ih =>
    have isNew : f.1 ∉ front.map Prod.fst := by
      rw [List.map_append, List.nodup_append] at h
      intro member
      exact h.2.2 _ member _ List.mem_cons_self rfl
    rw [List.foldl_cons, set_new f.2 isNew, ih]
    · simp
    · simpa using h

/-- Members with distinct names are an object as they stand. -/
theorem ofMembers_distinct {fields : Fields} (h : (fields.map Prod.fst).Nodup) :
    ofMembers fields = fields :=
  foldl_set_distinct [] fields h

theorem wellFormed_ofMembers {members : List (String × Json)} (h : WellFormedFields members) :
    WellFormed (.obj (ofMembers members)) := by
  obtain ⟨names, from_⟩ := ofMembers_spec members
  exact ⟨names, wellFormedFields_iff.mpr fun f member =>
    wellFormedFields_iff.mp h f (from_ f member)⟩

/-! ## Numbers that were read -/

theorem readWhole_digits_of_some {s whole rest : List Char}
    (h : readWhole? s = some (whole, rest)) : AllDigits whole ∧ whole ≠ [] := by
  cases s with
  | nil => cases h
  | cons c tail =>
    rw [readWhole?] at h
    split_ifs at h with zero digit
    · cases h
      exact ⟨allDigits_zeros 1, List.cons_ne_nil _ _⟩
    · cases h
      refine ⟨fun d seen => List.mem_takeWhile_imp seen, ?_⟩
      rw [List.takeWhile_cons_of_pos digit]
      exact List.cons_ne_nil _ _

/-- A whole number with a sign is well formed if it has few digits. -/
theorem wellFormed_digits (negative : Bool) {ds : List Char} (digits : AllDigits ds) (ne : ds ≠ [])
    (few : ds.length ≤ digitLimit) :
    WellFormed (.int (if negative then -(readDecimal ds : Int) else (readDecimal ds : Int))) := by
  have short := length_decimal_readDecimal digits ne
  have abs : (if negative = true then -(readDecimal ds : Int)
      else (readDecimal ds : Int)).natAbs = readDecimal ds := by
    split <;> simp
  rw [WellFormed, abs]
  omega

theorem readMagnitude_wellFormed {negative : Bool} {start : Nat} {s rest : List Char} {v : Json}
    (h : readMagnitude negative start s = .ok (v, rest)) : WellFormed v := by
  simp only [readMagnitude] at h
  split at h
  · cases h
  · rename_i whole after read
    split at h
    · cases h
      trivial
    · split at h
      · split at h
        · cases h
        · cases h
          obtain ⟨digits, nonempty⟩ := readWhole_digits_of_some read
          exact wellFormed_digits negative digits nonempty (by omega)
      · cases h
        trivial

theorem readScalar_wellFormed {s rest : List Char} {v : Json}
    (h : readScalar s = .ok (v, rest)) : WellFormed v := by
  unfold readScalar at h
  split at h
  · rename_i found word
    cases h
    obtain ⟨w, listed, after⟩ := List.exists_of_findSome?_eq_some word
    obtain ⟨_, -, same⟩ := Option.map_eq_some_iff.mp after
    cases same
    simp only [words, List.mem_cons, List.not_mem_nil, or_false] at listed
    rcases listed with rfl | rfl | rfl | rfl | rfl | rfl <;> trivial
  · split at h
    · exact readMagnitude_wellFormed h
    · exact readMagnitude_wellFormed h

/-! ## Values that were read -/

mutual

/-- The induction is on the fuel, which every call of the reader takes one from. -/
theorem readValue_wellFormed (fuel levels : Nat) {s rest : List Char} {v : Json}
    (h : readValue fuel levels s = .ok (v, rest)) : WellFormed v := by
  cases fuel with
  | zero => cases h
  | succ fuel =>
    unfold readValue at h
    split at h
    · split at h
      · cases h
      · cases h
        trivial
    · split at h
      · cases h
      · cases h
        trivial
      · exact readItems_wellFormed fuel _ [] trivial h
    · split at h
      · cases h
      · cases h
        exact ⟨List.nodup_nil, trivial⟩
      · exact readMembers_wellFormed fuel _ [] trivial h
    · exact readScalar_wellFormed h

theorem readItems_wellFormed (fuel levels : Nat) (out : List Json) {s rest : List Char} {v : Json}
    (read : WellFormedItems out) (h : readItems fuel levels out s = .ok (v, rest)) :
    WellFormed v := by
  cases fuel with
  | zero => cases h
  | succ fuel =>
    unfold readItems at h
    split at h
    · cases h
    · rename_i first after item
      have more : WellFormedItems (first :: out) := ⟨readValue_wellFormed fuel levels item, read⟩
      split at h
      · cases h
        exact wellFormedItems_iff.mpr fun w digits_wide =>
          wellFormedItems_iff.mp more w (List.mem_reverse.mp digits_wide)
      · exact readItems_wellFormed fuel levels _ more h
      · cases h

theorem readMembers_wellFormed (fuel levels : Nat) (out : List (String × Json))
    {s rest : List Char} {v : Json} (read : WellFormedFields out)
    (h : readMembers fuel levels out s = .ok (v, rest)) : WellFormed v := by
  cases fuel with
  | zero => cases h
  | succ fuel =>
    unfold readMembers at h
    split at h
    · split at h
      · cases h
      · rename_i name _ _
        split at h
        · split at h
          · cases h
          · rename_i first after value
            have more : WellFormedFields ((String.ofList name, first) :: out) :=
              ⟨readValue_wellFormed fuel levels value, read⟩
            split at h
            · cases h
              refine wellFormed_ofMembers (wellFormedFields_iff.mpr fun f formIs => ?_)
              exact wellFormedFields_iff.mp more f (List.mem_reverse.mp formIs)
            · exact readMembers_wellFormed fuel levels _ more h
            · cases h
        · cases h
    · cases h

end

theorem readChars_wellFormed {s : List Char} {v : Json} (h : readChars s = .ok v) :
    WellFormed v := by
  rw [readChars] at h
  split at h
  · cases h
    rename_i read
    rw [readWholeText] at read
    split at read
    · cases read
    · rename_i value
      split at read
      · cases read
        exact readValue_wellFormed _ _ value
      · cases read
  · cases h

/-- A value that some text stands for, as every value in a JSON column is one. -/
def IsRead (v : Json) : Prop := ∃ text, Json.read text = .ok v

theorem IsRead.wellFormed {v : Json} (h : IsRead v) : WellFormed v := by
  obtain ⟨text, read⟩ := h
  rw [Json.read] at read
  split at read
  · cases read
  · exact readChars_wellFormed read

end RunReports.Json
