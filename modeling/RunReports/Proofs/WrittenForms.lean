import RunReports.Proofs.PlainNotebooks

/-! # Written notebooks are well formed

A notebook that is read from a well-formed value is written as one: names stay distinct, and a whole
number that was given leniently, as a text or as a floating point number, is short enough to be
written and read again. -/
namespace RunReports

open RunReports.Decimal RunReports.Text

namespace Json

mutual

theorem wellFormed_plain {v : Json} (h : WellFormed v) : WellFormed (plain v) := by
  cases v with
  | num x =>
    rw [plain]
    split <;> trivial
  | arr items => exact wellFormed_plainItems h
  | obj fields => exact ⟨by rw [names_plainFields]; exact h.1, wellFormed_plainFields h.2⟩
  | null => trivial
  | bool b => trivial
  | int n => exact h
  | str s => trivial

theorem wellFormed_plainItems {items : List Json} (h : WellFormedItems items) :
    WellFormedItems (plainItems items) := by
  cases items with
  | nil => trivial
  | cons v rest => exact ⟨wellFormed_plain h.1, wellFormed_plainItems h.2⟩

theorem wellFormed_plainFields {fields : List (String × Json)} (h : WellFormedFields fields) :
    WellFormedFields (plainFields fields) := by
  cases fields with
  | nil => trivial
  | cons f rest => exact ⟨wellFormed_plain h.1, wellFormed_plainFields h.2⟩

end

end Json

namespace Notebook

/-! ## Whole numbers that were read leniently -/

theorem short_of_lt {n : Int} (width : Nat) (positive : 0 < width) (h : n.natAbs < 10 ^ width)
    (fits : width ≤ Json.digitLimit) : Json.WellFormed (.int n) := by
  have short : (decimal n.natAbs).length ≤ width :=
    (Nat.length_toDigits_le_iff (by decide) positive).mpr h
  exact short.trans fits

theorem readPlainInteger_wellFormed {s : List Char} {n : Int} (h : readPlainInteger s = .ok n) :
    Json.WellFormed (.int n) := by
  obtain ⟨negative, ds, rest, digits, is⟩ :
      ∃ (negative : Bool) (ds rest : List Char), AllDigits ds ∧
      readPlainInteger s =
        if ds.head? = some '0' then
          if ds.length = 1 && rest.isEmpty then .ok 0 else .error .unreadable
        else if plainLimit < ds.length + (if negative then 1 else 0) then .error .tooLarge
        else if ds.isEmpty || !rest.isEmpty then .error .unreadable
        else .ok (if negative then -(readDecimal ds : Int) else (readDecimal ds : Int)) :=
    ⟨_, _, _, fun c there => List.mem_takeWhile_imp there, rfl⟩
  have ne : ¬ (ds.isEmpty || !rest.isEmpty) = true → ds ≠ [] := by
    rintro odd rfl
    exact odd rfl
  rw [is] at h
  split_ifs at h with zero alone minus long odd long odd
  · cases h
    exact short_of_lt 1 (by decide) (by decide) (by decide)
  · cases h
    have few : ds.length + 1 ≤ Json.digitLimit := Nat.le_of_not_lt long
    exact Json.wellFormed_digits true digits (ne odd) (by omega)
  · cases h
    exact Json.wellFormed_digits false digits (ne odd) (Nat.le_of_not_lt long)

theorem readIntegerText_wellFormed {s : List Char} {n : Int} (h : readIntegerText s = .ok n) :
    Json.WellFormed (.int n) := by
  rw [readIntegerText] at h
  split at h
  · split at h
    · rename_i m plain
      cases h
      obtain ⟨body, -, read⟩ := Option.map_eq_some_iff.mp plain
      exact readPlainInteger_wellFormed read
    · cases h
  · exact readPlainInteger_wellFormed h

/-- A whole number that is read from a well-formed value, in whatever form, can be written and read
again. -/
theorem readInteger_wellFormed {v : Json} (form : Json.WellFormed v) {n : Int}
    (h : readInteger v = .ok n) : Json.WellFormed (.int n) := by
  cases v with
  | bool b =>
    cases h
    refine short_of_lt 1 (by decide) ?_ (by decide)
    cases b <;> decide
  | int m =>
    cases h
    exact form
  | num x =>
    rw [readInteger, readIntegerNumber] at h
    split at h
    · split at h
      · split at h
        · rename_i word
          cases h
          simp only [fitsWord, Bool.and_eq_true, decide_eq_true_eq] at word
          exact short_of_lt 19 (by decide) (by omega) (by decide)
        · cases h
      · cases h
    · cases h
  | str s => exact readIntegerText_wellFormed h
  | _ => cases h

/-! ## What is written is well formed -/

variable {fields : Json.Fields} {cell : Cell} {d : Document}

section
variable (form : Json.WellFormed (.obj fields))
include form

theorem wellFormed_get? {name : String} {v : Json}
    (given : Json.Fields.get? name fields = some v) : Json.WellFormed v :=
  Json.wellFormedFields_iff.mp form.2 _ (mem_of_get? given)

theorem wellFormed_extras {names : List String} {extras : Json.Fields}
    (h : extras = Json.Fields.without names fields) :
    Json.WellFormed (.obj (Json.plainFields extras)) := by
  have kept : Json.WellFormed (.obj extras) := by
    subst h
    refine ⟨form.1.sublist (List.filter_sublist.map Prod.fst), ?_⟩
    exact Json.wellFormedFields_iff.mpr fun f there =>
      Json.wellFormedFields_iff.mp form.2 f (mem_without.mp there).1
  exact Json.wellFormed_plain kept

theorem wellFormed_metadata {m : Option Json.Fields}
    (read : readObject? (Json.Fields.get? "metadata" fields) = some m) :
    ∀ fs ∈ m, Json.WellFormed (.obj (Json.plainFields fs)) := by
  rintro fs rfl
  have given := wellFormed_get? form (object_given read).symm
  exact Json.wellFormed_plain given

theorem wellFormed_count {count : Option (Option Int)} {name : String}
    (read : readCount (Json.Fields.get? name fields) = .ok count) :
    ∀ n ∈ count, Json.WellFormed (ofInt? n) := by
  rintro n rfl
  unfold readCount at read
  split at read
  · cases read
  · cases read
    trivial
  · rename_i given
    split at read
    · rename_i whole
      cases read
      exact readInteger_wellFormed (wellFormed_get? form given) whole
    · cases read

theorem wellFormed_format {fault : IntegerFault → Fault} {format : Option Int} {name : String}
    (read : readFormat fault (Json.Fields.get? name fields) = .ok format) :
    ∀ n ∈ format, Json.WellFormed (.int n) := by
  rintro n rfl
  unfold readFormat at read
  split at read
  · cases read
  · rename_i given
    split at read
    · rename_i whole
      cases read
      exact readInteger_wellFormed (wellFormed_get? form given) whole
    · cases read

theorem Cell.wellFormed_of_read (read : Cell.read (.obj fields) = .ok cell) :
    Json.WellFormed cell.toJson := by
  have apart := Cell.apart_of_read read
  obtain ⟨source, kind, metadata, extras, execution⟩ := Cell.read_iff.mp read
  have others := wellFormed_extras form extras
  refine ⟨?_, Json.wellFormedFields_iff.mpr (Cell.forall_members ?_ ?_ trivial ?_ ?_ ?_)⟩
  · rw [Cell.members_eq]
    refine nodup_declaredFirst (apart_plainFields apart) ?_ others.1
    cases cell.kind <;> decide
  · exact wellFormed_metadata form metadata
  · intro s given
    have stored : Json.Fields.get? "source" fields = some s.toJson := by
      rw [← source_given source, given, Option.map_some]
    exact wellFormed_get? form stored
  · intro e code n counted
    cases cell with
    | code content execution' =>
      cases code
      exact wellFormed_count form (execution content e rfl).1 n counted
    | _ => cases code
  · intro e code items put
    cases cell with
    | code content execution' =>
      cases code
      have given := outputs_given (execution content e rfl).2
      rw [put] at given
      exact Json.wellFormed_plain (wellFormed_get? form given.symm)
    | _ => cases code
  · exact Json.wellFormedFields_iff.mp others.2

end

theorem Cell.wellFormed_ofLines (ls : List String) : Json.WellFormed (Cell.ofLines ls).toJson := by
  have lines : Json.WellFormed (.arr (ls.map Json.str)) :=
    Json.wellFormedItems_iff.mpr (by simp [Json.WellFormed])
  rw [Cell.toJson, Cell.members_ofLines]
  refine ⟨by simp, Json.wellFormedFields_iff.mpr ?_⟩
  simp only [List.forall_mem_cons, List.not_mem_nil, false_implies, implies_true, and_true]
  exact ⟨⟨List.nodup_nil, trivial⟩, lines, trivial, trivial, trivial⟩

/-- A notebook that was read is written as a well-formed value, also with other cells. -/
theorem Document.wellFormed_of_read (form : Json.WellFormed (.obj fields))
    (read : Document.read (.obj fields) = .ok d) {cells : List Cell}
    (own : ∀ cell ∈ cells, Json.WellFormed cell.toJson) :
    Json.WellFormed (Document.toJson { d with cells := cells }) := by
  have apart := (Document.apart_of_read read).extras
  obtain ⟨-, metadata, format, formatMinor, extras⟩ := Document.read_iff.mp read
  have others := wellFormed_extras form extras
  refine ⟨?_, Json.wellFormedFields_iff.mpr (Document.forall_members ?_ ?_ ?_ ?_ ?_)⟩
  · rw [Document.members_eq]
    exact nodup_declaredFirst (apart_plainFields apart) (by decide) others.1
  · refine Json.wellFormedItems_iff.mpr fun v written => ?_
    obtain ⟨cell, there, rfl⟩ := List.mem_map.mp written
    exact own cell there
  · exact wellFormed_metadata form metadata
  · exact wellFormed_format form format
  · exact wellFormed_format form formatMinor
  · exact Json.wellFormedFields_iff.mp others.2

end Notebook

end RunReports
