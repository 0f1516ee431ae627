import Mathlib.Data.List.DropRight
import RunReports.Text.Blank

/-! # Texts cut at a character

Where a text is put together with a separator that its parts do not hold, cutting it gives the parts
back. What cutting gives never holds the separator. What is trimmed of a character does not have it
around it, and there is no more to trim. -/
namespace RunReports.Text

variable {c d : Char} {s w rest piece : List Char}

theorem afterStart?_eq_some : afterStart? w s = some rest ↔ s = w ++ rest := by
  induction w generalizing s with
  | nil => simp [afterStart?]
  | cons c w ih =>
    cases s with
    | nil => simp [afterStart?]
    | cons d s =>
      by_cases same : c = d
      · simp [afterStart?, same, ih]
      · simp [afterStart?, same, eq_comm]

theorem splitOn_of_absent (absent : c ∉ s) : splitOn c s = [s] := by
  induction s with
  | nil => rfl
  | cons d s ih =>
    have different : d ≠ c := Ne.symm (List.ne_of_not_mem_cons absent)
    rw [splitOn, if_neg different, ih (List.not_mem_of_not_mem_cons absent)]

theorem splitOn_append (absent : c ∉ piece) (rest : List Char) :
    splitOn c (piece ++ c :: rest) = piece :: splitOn c rest := by
  induction piece with
  | nil => rw [List.nil_append, splitOn, if_pos rfl]
  | cons d piece ih =>
    have different : d ≠ c := Ne.symm (List.ne_of_not_mem_cons absent)
    rw [List.cons_append, splitOn, if_neg different, ih (List.not_mem_of_not_mem_cons absent)]

/-- The pieces of a text are parts of it without the separator. -/
theorem of_mem_splitOn (there : piece ∈ splitOn c s) : c ∉ piece ∧ piece ⊆ s := by
  induction s generalizing piece with
  | nil =>
    rw [splitOn, List.mem_singleton] at there
    subst there
    exact ⟨List.not_mem_nil, List.Subset.refl _⟩
  | cons d s ih =>
    rw [splitOn] at there
    by_cases same : d = c
    · rw [if_pos same] at there
      rcases List.mem_cons.mp there with rfl | there
      · exact ⟨List.not_mem_nil, List.nil_subset _⟩
      · exact ⟨(ih there).1, fun _ h => List.mem_cons_of_mem d ((ih there).2 h)⟩
    · rw [if_neg same] at there
      split at there
      · rw [List.mem_singleton] at there
        subst there
        exact ⟨by simpa using Ne.symm same, by simp⟩
      · rename_i first pieces pieces_eq
        have known (p : List Char) (h : p ∈ first :: pieces) := ih (pieces_eq ▸ h)
        rcases List.mem_cons.mp there with rfl | there
        · have head := known first List.mem_cons_self
          constructor
          · rw [List.mem_cons, not_or]
            exact ⟨Ne.symm same, head.1⟩
          · exact List.cons_subset_cons d head.2
        · have later := known piece (List.mem_cons_of_mem _ there)
          exact ⟨later.1, fun _ h => List.mem_cons_of_mem d (later.2 h)⟩

theorem cutAt_of_absent (absent : c ∉ s) : cutAt c s = (s, none) := by
  induction s with
  | nil => rfl
  | cons d s ih =>
    have different : d ≠ c := Ne.symm (List.ne_of_not_mem_cons absent)
    rw [cutAt, if_neg different, ih (List.not_mem_of_not_mem_cons absent)]

theorem cutAt_append (absent : c ∉ piece) (rest : List Char) :
    cutAt c (piece ++ c :: rest) = (piece, some rest) := by
  induction piece with
  | nil => rw [List.nil_append, cutAt, if_pos rfl]
  | cons d piece ih =>
    have different : d ≠ c := Ne.symm (List.ne_of_not_mem_cons absent)
    rw [List.cons_append, cutAt, if_neg different, ih (List.not_mem_of_not_mem_cons absent)]

theorem cutAt_absent (c : Char) (s : List Char) : c ∉ (cutAt c s).1 := by
  induction s with
  | nil => exact List.not_mem_nil
  | cons d s ih =>
    rw [cutAt]
    by_cases same : d = c
    · rw [if_pos same]
      exact List.not_mem_nil
    · rw [if_neg same, List.mem_cons, not_or]
      exact ⟨Ne.symm same, ih⟩

/-! ## What is dropped from the front -/

theorem dropWhile_append_of_nil {α : Type} {p : α → Bool} {l : List α} (tail : List α)
    (all : l.dropWhile p = []) : (l ++ tail).dropWhile p = tail.dropWhile p :=
  List.dropWhile_append_of_pos (List.dropWhile_eq_nil_iff.mp all)

theorem dropWhile_append_of_ne_nil {α : Type} {p : α → Bool} {l : List α} (tail : List α)
    (some : l.dropWhile p ≠ []) : (l ++ tail).dropWhile p = l.dropWhile p ++ tail := by
  have kept : (l.dropWhile p).isEmpty = false := by simpa using some
  rw [List.dropWhile_append, kept]
  rfl

/-- What follows both of two texts plays no part in what is dropped from their fronts. -/
theorem dropWhile_append_eq_iff {α : Type} (p : α → Bool) (l l' tail : List α) :
    (l ++ tail).dropWhile p = (l' ++ tail).dropWhile p ↔ l.dropWhile p = l'.dropWhile p := by
  -- Where all of one text is dropped and some of the other stays, the lengths differ.
  have differ {l l' : List α} (all : l.dropWhile p = []) (some : l'.dropWhile p ≠ []) :
      (l ++ tail).dropWhile p ≠ (l' ++ tail).dropWhile p := by
    intro same
    rw [dropWhile_append_of_nil tail all, dropWhile_append_of_ne_nil tail some] at same
    have lengths := congrArg List.length same
    have shorter : (tail.dropWhile p).length ≤ tail.length := (List.dropWhile_suffix p).length_le
    have longer := List.length_pos_iff.mpr some
    rw [List.length_append] at lengths
    omega
  by_cases all : l.dropWhile p = []
  · by_cases all' : l'.dropWhile p = []
    · rw [dropWhile_append_of_nil tail all, dropWhile_append_of_nil tail all', all, all']
      simp
    · constructor
      · intro same
        exact absurd same (differ all all')
      · intro same
        exact absurd (same.symm.trans all) all'
  · by_cases all' : l'.dropWhile p = []
    · constructor
      · intro same
        exact absurd same.symm (differ all' all)
      · intro same
        exact absurd (same.trans all') all
    · rw [dropWhile_append_of_ne_nil tail all, dropWhile_append_of_ne_nil tail all',
        List.append_left_inj]

/-! ## Trimmed texts -/

structure NotAround (c : Char) (s : List Char) : Prop where
  front : s.head? ≠ some c
  back : s.getLast? ≠ some c

theorem head?_dropWhile_ne (c : Char) (s : List Char) :
    (s.dropWhile (· == c)).head? ≠ some c := by
  intro there
  have kept := List.head?_dropWhile_not (· == c) s
  rw [there] at kept
  simp at kept

/-- Dropping characters from the end puts no other one at the front. -/
theorem head?_dropEndWhile (p : Char → Bool) (front : s.head? ≠ some c) :
    (dropEndWhile p s).head? ≠ some c := by
  obtain ⟨rest, same⟩ : dropEndWhile p s <+: s := List.rdropWhile_prefix p s
  intro there
  rw [← same, List.head?_append, there] at front
  exact front rfl

theorem notAround_trimWhile (c : Char) (s : List Char) : NotAround c (trimWhile (· == c) s) := by
  constructor
  · exact head?_dropEndWhile _ (head?_dropWhile_ne c s)
  · rw [trimWhile, dropEndWhile, List.getLast?_reverse]
    exact head?_dropWhile_ne c _

theorem dropWhile_of_head? (front : s.head? ≠ some c) : s.dropWhile (· == c) = s := by
  cases s with
  | nil => rfl
  | cons d s =>
    have different : d ≠ c := by simpa using front
    exact List.dropWhile_cons_of_neg (by simpa using different)

/-- There is nothing to trim from a text without the character around it. -/
theorem NotAround.trimWhile_eq (h : NotAround c s) : trimWhile (· == c) s = s := by
  have back : s.reverse.head? ≠ some c := by
    rw [List.head?_reverse]
    exact h.back
  rw [trimWhile, dropWhile_of_head? h.front, dropEndWhile, dropWhile_of_head? back,
    List.reverse_reverse]

/-- A text that ends in a character that stays is trimmed at its front only. -/
theorem trimWhile_concat {p : Char → Bool} (stays : p d = false) (s : List Char) :
    trimWhile p (s ++ [d]) = s.dropWhile p ++ [d] := by
  have kept (rest : List Char) : (d :: rest).dropWhile p = d :: rest :=
    List.dropWhile_cons_of_neg (by simp [stays])
  have front : (s ++ [d]).dropWhile p = s.dropWhile p ++ [d] := by
    by_cases all : s.dropWhile p = []
    · rw [dropWhile_append_of_nil [d] all, kept, all, List.nil_append]
    · exact dropWhile_append_of_ne_nil [d] all
  rw [trimWhile, front, dropEndWhile, List.reverse_concat, kept, List.reverse_cons,
    List.reverse_reverse]

end RunReports.Text
