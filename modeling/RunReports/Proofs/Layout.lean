import RunReports.Literal.Layout
import RunReports.Proofs.Displays
import RunReports.Proofs.Plain
import RunReports.Proofs.SourceLines

/-! # Both layouts are literals

A value on one line and a value over several lines are literals of the same value, whatever the
column it starts at and the room that is left: breaking lines changes the gaps and the cuts of
long texts, and nothing else. -/
namespace RunReports.Literal

open RunReports.Text

/-! ## Long texts -/

theorem wordsFrom_flatten (part : List Char) (blank : Bool) (line : List Char) :
    (wordsFrom part blank line).flatten = part.reverse ++ line := by
  induction line generalizing part blank with
  | nil =>
    cases part with
    | nil => rfl
    | cons c part => simp [wordsFrom]
  | cons c rest ih =>
    rw [wordsFrom]
    split
    · rw [ih]
      simp
    · split
      · rw [List.flatten_cons, ih]
        simp
      · rw [ih]
        simp

def Pieces (s : List Char) (literals : List (List Char)) : Prop :=
  ∃ pieces : List (List Char), literals = pieces.map quoted ∧ pieces.flatten = s

theorem Pieces.cons {s rest : List Char} {literals : List (List Char)} (h : Pieces rest literals) :
    Pieces (s ++ rest) (quoted s :: literals) := by
  obtain ⟨pieces, rfl, rfl⟩ := h
  exact ⟨s :: pieces, rfl, rfl⟩

theorem Pieces.append {s t : List Char} {first second : List (List Char)} (startIs : Pieces s first)
    (tailIs : Pieces t second) : Pieces (s ++ t) (first ++ second) := by
  obtain ⟨pieces, rfl, rfl⟩ := startIs
  obtain ⟨others, rfl, rfl⟩ := tailIs
  exact ⟨pieces ++ others, by simp, by simp⟩

theorem pieces_nil : Pieces [] [] := ⟨[], rfl, rfl⟩

/-- Filling pieces loses no word. -/
theorem fillPieces_pieces (columns : Int) (allowance : Nat) (current : List Char)
    (words : List (List Char)) :
    Pieces (current ++ words.flatten) (fillPieces columns allowance current words) := by
  induction words generalizing current with
  | nil =>
    rw [fillPieces]
    split
    case isTrue h =>
      rw [List.isEmpty_iff.mp h]
      exact pieces_nil
    case isFalse h => exact pieces_nil.cons
  | cons word words ih =>
    simp only [fillPieces]
    generalize (if words.isEmpty = true then columns - (allowance : Int) else columns) = free
    split
    · have filled := ih (current ++ word)
      rwa [List.append_assoc] at filled
    · split
      case isTrue h =>
        rw [List.isEmpty_iff.mp h]
        exact ih word
      case isFalse h => exact (ih word).cons

theorem textPieces_pieces (columns : Int) (allowance : Nat) (lines : List (List Char)) :
    Pieces lines.flatten (textPieces columns allowance lines) := by
  induction lines with
  | nil => exact pieces_nil
  | cons line lines ih =>
    simp only [textPieces]
    generalize (if lines.isEmpty = true then columns - (allowance : Int) else columns) = free
    generalize (if lines.isEmpty = true then allowance else 0) = kept
    split
    · exact ih.cons
    · have filled := fillPieces_pieces columns kept [] (wordsOf line)
      rw [wordsOf, wordsFrom_flatten] at filled
      exact filled.append ih

/-- Literals on lines of their own are one text. -/
theorem joined_adjoined (indent : Nat) (piece : List Char) (pieces : List (List Char)) :
    Adjoined (piece :: pieces).flatten
      (joinWith (lineAt indent) ((piece :: pieces).map quoted)) := by
  induction pieces generalizing piece with
  | nil =>
    rw [List.flatten_cons, List.flatten_nil, List.append_nil]
    exact .single piece
  | cons next pieces ih =>
    have rest_eq := Adjoined.more piece (gap_lineAt indent) (List.cons_ne_nil _ _) (ih next)
    simpa [joinWith, lineAt] using rest_eq

theorem layoutText_adjoined (indent allowance : Nat) (s : List Char) :
    Adjoined s (layoutText indent allowance s) := by
  cases s with
  | nil => exact .single []
  | cons c s =>
    obtain ⟨pieces, made, joined⟩ :=
      textPieces_pieces (room indent 0) allowance (splitLines (c :: s))
    rw [(isLineSplit_splitLines (c :: s)).flatten_eq] at joined
    cases pieces with
    | nil => exact absurd joined (by simp)
    | cons piece pieces =>
      have joinedIs := joined_adjoined indent piece pieces
      rw [joined] at joinedIs
      rw [layoutText, made]
      · exact joinedIs
      · simp

/-! ## Values on one line -/

theorem gap_blank : Gap [' '] := gap_blanks 1

mutual

theorem inline_displays (v : Json) (finite : Json.AllFinite v) : Displays v (inline v) := by
  cases v with
  | null => exact .constant (by simp [constants, inline, scalar])
  | bool b => cases b <;> exact .constant (by simp [constants, inline, scalar])
  | int n => exact .int n
  | num x => exact .num x finite
  | str s => exact .str (.single s.toList)
  | arr items =>
    cases items with
    | nil => exact .nil
    | cons v items =>
      have elements := inlineItems_displays items finite.2 (inline_displays v finite.1)
      simpa [inline] using Displays.arr elements
  | obj fields =>
    cases fields with
    | nil => exact .empty
    | cons f fields =>
      have members := inlineFields_displays fields finite.2 f.1 (inline_displays f.2 finite.1)
      simpa [inline] using Displays.obj members

theorem inlineItems_displays (items : List Json) (finite : Json.AllFiniteItems items) {v : Json}
    {t : List Char} (h : Displays v t) :
    DisplaysItems (v :: items) (t ++ inlineItems items) := by
  cases items with
  | nil =>
    rw [inlineItems, List.append_nil]
    exact .single h
  | cons w items =>
    have follows := inlineItems_displays items finite.2 (inline_displays w finite.1)
    simpa [inlineItems] using DisplaysItems.more h gap_blank follows

theorem inlineFields_displays (fields : List (String × Json)) (finite : Json.AllFiniteFields fields)
    (n : String) {v : Json} {t : List Char} (h : Displays v t) :
    DisplaysFields ((n, v) :: fields)
      (quoted n.toList ++ ':' :: ' ' :: (t ++ inlineFields fields)) := by
  cases fields with
  | nil =>
    rw [inlineFields, List.append_nil]
    exact .single n h
  | cons f fields =>
    have follows := inlineFields_displays fields finite.2 f.1 (inline_displays f.2 finite.1)
    simpa [inlineFields] using DisplaysFields.more n h gap_blank follows

end

/-! ## Values over several lines -/

mutual

/-- A value laid out from any column is a literal of that value. -/
theorem layout_displays (v : Json) (finite : Json.AllFinite v) (indent allowance : Nat) :
    Displays v (layout indent allowance v) := by
  cases v with
  | null => exact inline_displays .null finite
  | bool b => exact inline_displays (.bool b) finite
  | int n => exact inline_displays (.int n) finite
  | num x => exact inline_displays (.num x) finite
  | str s =>
    simp only [layout]
    split
    · exact inline_displays (.str s) finite
    · exact .str (layoutText_adjoined indent allowance s.toList)
  | arr items =>
    simp only [layout]
    split
    · exact inline_displays (.arr items) finite
    · cases items with
      | nil => exact .nil
      | cons v items =>
        exact .arr (layoutItems_displays (v :: items) (by simp) finite (indent + 1) (allowance + 1))
  | obj fields =>
    simp only [layout]
    split
    · exact inline_displays (.obj fields) finite
    · cases fields with
      | nil => exact .empty
      | cons f fields =>
        exact .obj
          (layoutFields_displays (f :: fields) (by simp) finite (indent + 1) (allowance + 1))

theorem layoutItems_displays (items : List Json) (filledUp : items ≠ [])
    (finite : Json.AllFiniteItems items) (indent allowance : Nat) :
    DisplaysItems items (layoutItems indent allowance items) := by
  match items with
  | [] => exact absurd rfl filledUp
  | [v] => exact .single (layout_displays v finite.1 indent allowance)
  | v :: w :: items =>
    have follows := layoutItems_displays (w :: items) (by simp) finite.2 indent allowance
    have firstIs := layout_displays v finite.1 indent 1
    simpa [layoutItems, lineAt] using DisplaysItems.more firstIs (gap_lineAt indent) follows

theorem layoutFields_displays (fields : List (String × Json)) (filledUp : fields ≠ [])
    (finite : Json.AllFiniteFields fields) (indent allowance : Nat) :
    DisplaysFields fields (layoutFields indent allowance fields) := by
  match fields with
  | [] => exact absurd rfl filledUp
  | [(n, v)] =>
    exact .single n (layout_displays v finite.1 (indent + (quoted n.toList).length + 2) allowance)
  | (n, v) :: f :: fields =>
    have follows := layoutFields_displays (f :: fields) (by simp) finite.2 indent allowance
    have firstIs := layout_displays v finite.1 (indent + (quoted n.toList).length + 2) 1
    simpa [layoutFields, lineAt] using DisplaysFields.more n firstIs (gap_lineAt indent) follows

end

end RunReports.Literal
