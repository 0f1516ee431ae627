import RunReports.Json.Plain

/-! # What plain values keep

A plain value holds finite numbers only, and the names of its objects are those of the value it
was made from. -/
namespace RunReports.Json

mutual

def AllFinite : Json → Prop
  | .num x => x.isFinite = true
  | .arr items => AllFiniteItems items
  | .obj fields => AllFiniteFields fields
  | _ => True

def AllFiniteItems : List Json → Prop
  | [] => True
  | v :: rest => AllFinite v ∧ AllFiniteItems rest

def AllFiniteFields : List (String × Json) → Prop
  | [] => True
  | (_, v) :: rest => AllFinite v ∧ AllFiniteFields rest

end

mutual

theorem allFinite_plain (v : Json) : AllFinite (plain v) := by
  cases v with
  | num x =>
    rw [plain]
    split
    case isTrue h => exact h
    case isFalse h => trivial
  | arr items => exact allFinite_plainItems items
  | obj fields => exact allFinite_plainFields fields
  | null => trivial
  | bool b => trivial
  | int n => trivial
  | str s => trivial

theorem allFinite_plainItems (items : List Json) : AllFiniteItems (plainItems items) := by
  cases items with
  | nil => trivial
  | cons v rest => exact ⟨allFinite_plain v, allFinite_plainItems rest⟩

theorem allFinite_plainFields (fields : List (String × Json)) :
    AllFiniteFields (plainFields fields) := by
  cases fields with
  | nil => trivial
  | cons f rest => exact ⟨allFinite_plain f.2, allFinite_plainFields rest⟩

end

theorem names_plainFields (fields : List (String × Json)) :
    (plainFields fields).map Prod.fst = fields.map Prod.fst := by
  induction fields with
  | nil => rfl
  | cons f rest ih => rw [plainFields, List.map_cons, List.map_cons, ih]

mutual

theorem distinctNames_plain {v : Json} (h : DistinctNames v) : DistinctNames (plain v) := by
  cases v with
  | num x =>
    rw [plain]
    split <;> trivial
  | arr items => exact distinctNames_plainItems h
  | obj fields => exact ⟨by rw [names_plainFields]; exact h.1, distinctNames_plainFields h.2⟩
  | null => trivial
  | bool b => trivial
  | int n => trivial
  | str s => trivial

theorem distinctNames_plainItems {items : List Json} (h : DistinctNamesItems items) :
    DistinctNamesItems (plainItems items) := by
  cases items with
  | nil => trivial
  | cons v rest => exact ⟨distinctNames_plain h.1, distinctNames_plainItems h.2⟩

theorem distinctNames_plainFields {fields : List (String × Json)}
    (h : DistinctNamesFields fields) : DistinctNamesFields (plainFields fields) := by
  cases fields with
  | nil => trivial
  | cons f rest => exact ⟨distinctNames_plain h.1, distinctNames_plainFields h.2⟩

end

mutual

/-- A value of finite numbers is its own plain form. -/
theorem plain_of_allFinite {v : Json} (h : AllFinite v) : plain v = v := by
  cases v with
  | num x => exact if_pos h
  | arr items => exact congrArg Json.arr (plainItems_of_allFinite h)
  | obj fields => exact congrArg Json.obj (plainFields_of_allFinite h)
  | null => rfl
  | bool b => rfl
  | int n => rfl
  | str s => rfl

theorem plainItems_of_allFinite {items : List Json} (h : AllFiniteItems items) :
    plainItems items = items := by
  cases items with
  | nil => rfl
  | cons v rest =>
    rw [plainItems, plain_of_allFinite h.1, plainItems_of_allFinite h.2]

theorem plainFields_of_allFinite {fields : List (String × Json)} (h : AllFiniteFields fields) :
    plainFields fields = fields := by
  cases fields with
  | nil => rfl
  | cons f rest =>
    rw [plainFields, plain_of_allFinite h.1, plainFields_of_allFinite h.2]

end

end RunReports.Json
