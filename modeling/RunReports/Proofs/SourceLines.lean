import Mathlib.Data.List.Chain
import Mathlib.Data.List.TakeWhile
import RunReports.Text.Lines

/-! # Source lines are a correct cut

`splitLines` cuts as `IsLineSplit` demands: nothing is lost, and a line ends at every boundary and
nowhere else. Where line feeds are the only boundaries of a text that does not end in one, every
line but the last is a body and one line feed. `IsCut` says of any pieces that boundaries stand at
their ends only and are not divided, and the lines of a text are the only pieces of this kind. -/
namespace RunReports.Text

theorem IsBody.reverse_cons {line : List Char} {c : Char} (h : IsBody line.reverse)
    (ends : isLineEnd c = false) : IsBody (c :: line).reverse := by
  intro d there
  rw [List.reverse_cons, List.mem_append, List.mem_singleton] at there
  rcases there with there | rfl
  · exact h d there
  · exact ends

theorem isBody_nil : IsBody [] := fun _ h => absurd h List.not_mem_nil

/-- The characters of the current line are a body throughout. -/
theorem isLineSplit_splitLinesFrom (line s : List Char) (soFar : IsBody line.reverse) :
    IsLineSplit (splitLinesFrom line s) (line.reverse ++ s) := by
  induction line, s using splitLinesFrom.induct with
  | case1 line empty =>
    obtain rfl := List.isEmpty_iff.mp empty
    exact .nil
  | case2 line filled =>
    have reversed : line.reverse ≠ [] := by simpa using filled
    rw [splitLinesFrom, if_neg filled, List.append_nil]
    exact .last _ soFar reversed
  | case3 line rest ih =>
    have ended : IsEndedLine ('\n' :: '\r' :: line).reverse :=
      ⟨line.reverse, ['\r', '\n'], soFar, .pair, by simp⟩
    have parts := IsLineSplit.cons _ _ rest ended (ih isBody_nil) (by simp)
    rw [splitLinesFrom]
    simpa using parts
  | case4 line c rest noPair stops ih =>
    have ended : IsEndedLine (c :: line).reverse :=
      ⟨line.reverse, [c], soFar, .single c stops, by simp⟩
    have undivided : ¬ ((c :: line).reverse.getLast? = some '\r' ∧ rest.head? = some '\n') := by
      rintro ⟨returns, feed⟩
      cases rest with
      | nil => exact absurd feed (by simp)
      | cons d rest => exact noPair rest (by simpa using returns) (by simpa using feed)
    have parts := IsLineSplit.cons _ _ rest ended (ih isBody_nil) undivided
    rw [splitLinesFrom, if_pos stops]
    · simpa using parts
    · exact noPair
  | case5 line c rest noPair stops ih =>
    have parts := ih (soFar.reverse_cons (by simpa using stops))
    rw [splitLinesFrom, if_neg stops]
    · simpa using parts
    · exact noPair

theorem isLineSplit_splitLines (s : List Char) : IsLineSplit (splitLines s) s :=
  isLineSplit_splitLinesFrom [] s isBody_nil

theorem IsLineSplit.flatten_eq {lines : List (List Char)} {s : List Char}
    (h : IsLineSplit lines s) : lines.flatten = s := by
  induction h with
  | nil => rfl
  | last body _ _ => simp
  | cons line lines rest _ _ _ ih => rw [List.flatten_cons, ih]

/-! ## Lines that end in line feeds -/

/-- A body is taken over into the current line. -/
theorem splitLinesFrom_body {body : List Char} (plain : IsBody body) (line s : List Char) :
    splitLinesFrom line (body ++ s) = splitLinesFrom (body.reverse ++ line) s := by
  induction body generalizing line with
  | nil => rfl
  | cons c body ih =>
    have ends : isLineEnd c = false := plain c List.mem_cons_self
    have noPair : ∀ rest, c = '\r' → body ++ s = '\n' :: rest → False := by
      rintro rest rfl -
      exact absurd ends (by decide)
    have plain' : IsBody body := fun d there => plain d (List.mem_cons_of_mem _ there)
    rw [List.cons_append, splitLinesFrom, if_neg (by simp [ends]), ih plain', List.reverse_cons,
      List.append_assoc, List.singleton_append]
    exact noPair

/-- A finished line is cut off first, unless it ends within a boundary. -/
theorem splitLines_ended {line rest : List Char} (ended : IsEndedLine line)
    (undivided : ¬ (line.getLast? = some '\r' ∧ rest.head? = some '\n')) :
    splitLines (line ++ rest) = line :: splitLines rest := by
  obtain ⟨body, stop, plain, boundary, rfl⟩ := ended
  rw [List.append_assoc, splitLines, splitLinesFrom_body plain, List.append_nil]
  cases boundary with
  | single c ends =>
    have noPair : ∀ tail, c = '\r' → rest = '\n' :: tail → False := by
      rintro tail rfl rfl
      exact undivided (by simp)
    rw [List.singleton_append, splitLinesFrom, if_pos ends]
    · simp [splitLines]
    · exact noPair
  | pair =>
    rw [List.cons_append, List.singleton_append, splitLinesFrom]
    simp [splitLines]

/-- There is no other correct cut. -/
theorem IsLineSplit.eq_splitLines {lines : List (List Char)} {s : List Char}
    (h : IsLineSplit lines s) : lines = splitLines s := by
  induction h with
  | nil => rfl
  | last body plain filled =>
    have plain' := splitLinesFrom_body plain [] []
    rw [List.append_nil, List.append_nil] at plain'
    rw [splitLines, plain', splitLinesFrom, if_neg (by simpa using filled), List.reverse_reverse]
  | cons line lines rest ended _ undivided ih => rw [splitLines_ended ended undivided, ih]

def boundaries : List (List Char) :=
  [['\r', '\n'], ['\n'], ['\r'], ['\x0b'], ['\x0c'], ['\x1c'], ['\x1d'], ['\x1e'], ['\u0085'],
    ['\u2028'], ['\u2029']]

theorem isLineEnd_iff {c : Char} : isLineEnd c = true ↔ [c] ∈ boundaries := by
  simp only [isLineEnd, boundaries, Bool.or_eq_true, Bool.and_eq_true, decide_eq_true_eq,
    beq_iff_eq, List.mem_cons, List.not_mem_nil, List.cons.injEq, and_true, and_false, or_false,
    false_or, reduceCtorEq, ← Char.toNat_inj, Char.reduceToNat]
  omega

theorem isBoundary_iff {stop : List Char} : IsBoundary stop ↔ stop ∈ boundaries := by
  constructor
  · rintro (⟨c, ends⟩ | _)
    · exact isLineEnd_iff.mp ends
    · exact List.mem_cons_self
  · intro boundary
    rcases List.mem_cons.mp boundary with rfl | single
    · exact .pair
    · have short : ∀ other ∈ boundaries.tail, ∃ c, other = [c] := by simp [boundaries]
      obtain ⟨c, rfl⟩ := short stop single
      exact .single c (isLineEnd_iff.mpr boundary)

def EndsInBoundary (piece : List Char) : Prop := ∃ body stop, IsBoundary stop ∧ piece = body ++ stop

structure IsCut (pieces : List (List Char)) (s : List Char) : Prop where
  /-- Nothing is lost. -/
  whole : pieces.flatten = s
  /-- No piece is empty. -/
  filled : ∀ piece ∈ pieces, piece ≠ []
  /-- A piece that another follows ends in a boundary. -/
  ended : pieces.IsChain fun piece _ => EndsInBoundary piece
  /-- A boundary within a piece is the one at its end, or the start of that one. -/
  inside : ∀ piece ∈ pieces, ∀ body stop rest, IsBoundary stop → piece = body ++ stop ++ rest →
    IsBoundary (stop ++ rest)
  /-- A carriage return is not divided from its line feed. -/
  together : pieces.IsChain fun piece next =>
    ¬ (piece.getLast? = some '\r' ∧ next.head? = some '\n')

theorem IsBoundary.exists_head {stop : List Char} (h : IsBoundary stop) :
    ∃ c rest, stop = c :: rest ∧ isLineEnd c = true := by
  cases h with
  | single c ends => exact ⟨c, [], rfl, ends⟩
  | pair => exact ⟨'\r', ['\n'], rfl, by decide⟩

theorem IsBoundary.of_suffix {stop rest : List Char} (h : IsBoundary stop) (suffix : rest <:+ stop)
    (filled : rest ≠ []) : IsBoundary rest := by
  cases h with
  | single c ends =>
    rcases List.suffix_cons_iff.mp suffix with rfl | none
    · exact .single c ends
    · exact absurd (List.suffix_nil.mp none) filled
  | pair =>
    rcases List.suffix_cons_iff.mp suffix with rfl | feed
    · exact .pair
    · rcases List.suffix_cons_iff.mp feed with rfl | none
      · exact .single '\n' (by decide)
      · exact absurd (List.suffix_nil.mp none) filled

/-- A boundary in an ended line is the one at the end, or the start of that one. -/
theorem isBoundary_of_inside {body stop front inner rest : List Char} (plain : IsBody body)
    (boundary : IsBoundary stop) (within : IsBoundary inner)
    (h : body ++ stop = front ++ (inner ++ rest)) : IsBoundary (inner ++ rest) := by
  obtain ⟨c, tail, rfl, ends⟩ := within.exists_head
  rcases List.append_eq_append_iff.mp h with ⟨early, -, remains⟩ | ⟨late, late_eq, remains⟩
  · exact boundary.of_suffix ⟨early, remains.symm⟩ (by simp)
  · cases late with
    | nil => exact remains ▸ boundary
    | cons d late =>
      -- a body holds no character that ends a line
      have same : c = d := (List.cons.inj remains).1
      have member : d ∈ body := late_eq ▸ List.mem_append_right front List.mem_cons_self
      rw [same, plain d member] at ends
      cases ends

/-- No boundary stands in a body. -/
theorem IsBody.no_boundary {body front stop rest : List Char} (plain : IsBody body)
    (parts : body = front ++ stop ++ rest) : ¬ IsBoundary stop := by
  intro boundary
  obtain ⟨c, tail, rfl, ends⟩ := boundary.exists_head
  rw [plain c (by simp [parts])] at ends
  cases ends

theorem IsBody.not_endsInBoundary {body : List Char} (plain : IsBody body) :
    ¬ EndsInBoundary body := by
  rintro ⟨front, stop, boundary, parts⟩
  rw [← List.append_nil (front ++ stop)] at parts
  exact plain.no_boundary parts boundary

/-- With boundaries at its end only, a piece has the form of a line. -/
theorem shape_of_inside {piece : List Char} (inside : ∀ body stop rest, IsBoundary stop →
    piece = body ++ stop ++ rest → IsBoundary (stop ++ rest)) :
    IsBody piece ∨ IsEndedLine piece := by
  have plain : IsBody (piece.takeWhile fun c => !isLineEnd c) := by
    intro c taken
    simpa using List.mem_takeWhile_imp taken
  have parts := List.takeWhile_append_dropWhile (p := fun c => !isLineEnd c) (l := piece)
  cases tail_eq : piece.dropWhile fun c => !isLineEnd c with
  | nil =>
    rw [tail_eq, List.append_nil] at parts
    exact Or.inl (parts ▸ plain)
  | cons c rest =>
    rw [tail_eq] at parts
    have ends : isLineEnd c = true := by
      have stopped :=
        List.head_dropWhile_not (fun c => !isLineEnd c) (l := piece) (by simp [tail_eq])
      simpa [tail_eq] using stopped
    refine Or.inr ⟨_, c :: rest, plain, ?_, parts.symm⟩
    exact inside _ [c] rest (.single c ends) (by simpa using parts.symm)

theorem head?_flatten_cons {piece : List Char} (filled : piece ≠ []) (pieces : List (List Char)) :
    (piece :: pieces).flatten.head? = piece.head? := by
  cases piece with
  | nil => exact absurd rfl filled
  | cons c piece => rfl

theorem IsCut.isLineSplit {pieces : List (List Char)} {s : List Char} (h : IsCut pieces s) :
    IsLineSplit pieces s := by
  induction pieces generalizing s with
  | nil => exact h.whole ▸ .nil
  | cons piece pieces ih =>
    obtain ⟨rfl, filled, ended, inside, together⟩ := h
    have filled' : ∀ next ∈ pieces, next ≠ [] := fun next follows =>
      filled next (List.mem_cons_of_mem piece follows)
    rw [List.isChain_cons] at ended together
    have remains : IsLineSplit pieces pieces.flatten := ih ⟨rfl, filled', ended.2,
      fun next follows => inside next (List.mem_cons_of_mem piece follows), together.2⟩
    rw [List.flatten_cons]
    rcases shape_of_inside (inside piece List.mem_cons_self) with plain | fed
    · cases pieces with
      | nil => simpa using IsLineSplit.last piece plain (filled piece List.mem_cons_self)
      | cons next pieces => exact absurd (ended.1 next rfl) plain.not_endsInBoundary
    · refine .cons piece pieces _ fed remains ?_
      rintro ⟨returns, feed⟩
      cases pieces with
      | nil => cases feed
      | cons next pieces =>
        rw [head?_flatten_cons (filled' next List.mem_cons_self)] at feed
        exact together.1 next rfl ⟨returns, feed⟩

theorem IsEndedLine.endsInBoundary {line : List Char} (h : IsEndedLine line) :
    EndsInBoundary line := by
  obtain ⟨body, stop, -, boundary, rfl⟩ := h
  exact ⟨body, stop, boundary, rfl⟩

theorem EndsInBoundary.ne_nil {piece : List Char} (h : EndsInBoundary piece) : piece ≠ [] := by
  obtain ⟨body, stop, boundary, rfl⟩ := h
  obtain ⟨c, rest, rfl, -⟩ := boundary.exists_head
  simp

theorem IsLineSplit.isCut {pieces : List (List Char)} {s : List Char} (h : IsLineSplit pieces s) :
    IsCut pieces s := by
  induction h with
  | nil => exact ⟨rfl, by simp, .nil, by simp, .nil⟩
  | last body plain filled =>
    refine ⟨by simp, by simpa using filled, .singleton _, ?_, .singleton _⟩
    intro piece only front stop rest boundary parts
    obtain rfl := List.mem_singleton.mp only
    exact absurd boundary (plain.no_boundary parts)
  | cons line lines rest ended _ undivided ih =>
    refine ⟨by rw [List.flatten_cons, ih.whole], ?_, ?_, ?_, ?_⟩
    · exact List.forall_mem_cons.mpr ⟨ended.endsInBoundary.ne_nil, ih.filled⟩
    · exact List.isChain_cons.mpr ⟨fun _ _ => ended.endsInBoundary, ih.ended⟩
    · refine List.forall_mem_cons.mpr ⟨?_, ih.inside⟩
      obtain ⟨body, stop, plain, boundary, rfl⟩ := ended
      intro front inner tail within parts
      exact isBoundary_of_inside plain boundary within (by rw [parts, List.append_assoc])
    · refine List.isChain_cons.mpr ⟨?_, ih.together⟩
      rintro next follows ⟨returns, feed⟩
      cases lines with
      | nil => cases follows
      | cons other lines =>
        obtain rfl := Option.some.inj follows
        rw [← head?_flatten_cons (ih.filled other List.mem_cons_self) lines, ih.whole] at feed
        exact undivided ⟨returns, feed⟩

theorem isCut_iff {pieces : List (List Char)} {s : List Char} :
    IsCut pieces s ↔ pieces = splitLines s := by
  constructor
  · exact fun h => h.isLineSplit.eq_splitLines
  · rintro rfl
    exact (isLineSplit_splitLines s).isCut

/-- A text can be cut at its line boundaries in one way only, and that is how it is cut. -/
theorem sourceLines_only_cut (s : String) :
    (∀ stop, IsBoundary stop ↔ stop ∈ boundaries) ∧
      ∀ pieces : List String,
        IsCut (pieces.map String.toList) s.toList ↔ pieces = sourceLines s := by
  refine ⟨fun stop => isBoundary_iff, fun pieces => ?_⟩
  rw [isCut_iff, sourceLines]
  constructor
  · intro h
    have back : (pieces.map String.toList).map String.ofList = pieces := by simp
    rw [← h, back]
  · rintro rfl
    simp

end RunReports.Text
