import RunReports.Proofs.Atoms
import RunReports.Proofs.JsonValues
import RunReports.Proofs.Quoting

/-! # The grammar of laid out literals

`Displays v t` says that the text `t` is a literal of the value `v`, however it is broken into
lines: blanks and line feeds may stand behind a comma, and a text may be cut into string literals
with blanks and line feeds between them. Every such text reads back as its value if this opens no
more brackets at once than may be open, and line feeds are the only characters in it that end a
line. -/
namespace RunReports.Literal

open RunReports.Decimal RunReports.Text

def Gap (g : List Char) : Prop := ∀ c ∈ g, isGap true c = true

/-- String literals that stand next to each other, with gaps between them: what they stand for
together, and how they are written. -/
inductive Adjoined : List Char → List Char → Prop
  | single (s : List Char) : Adjoined s (quoted s)
  | more (s : List Char) {g rest t : List Char} :
      Gap g → g ≠ [] → Adjoined rest t → Adjoined (s ++ rest) (quoted s ++ (g ++ t))

mutual

inductive Displays : Json → List Char → Prop
  | constant {word : List Char} {v : Json} : (word, v) ∈ constants → Displays v word
  | int (n : Int) : Displays (.int n) (signedDecimal n)
  | num (x : Binary64) : x.isFinite = true → Displays (.num x) (x.written displayNumbers)
  | str {s : String} {t : List Char} : Adjoined s.toList t → Displays (.str s) t
  | nil : Displays (.arr []) ['[', ']']
  | arr {items : List Json} {t : List Char} :
      DisplaysItems items t → Displays (.arr items) ('[' :: (t ++ [']']))
  | empty : Displays (.obj []) ['\x7b', '\x7d']
  | obj {fields : List (String × Json)} {t : List Char} :
      DisplaysFields fields t → Displays (.obj fields) ('\x7b' :: (t ++ ['\x7d']))

inductive DisplaysItems : List Json → List Char → Prop
  | single {v : Json} {t : List Char} : Displays v t → DisplaysItems [v] t
  | more {v : Json} {items : List Json} {t g u : List Char} :
      Displays v t → Gap g → DisplaysItems items u →
      DisplaysItems (v :: items) (t ++ ',' :: (g ++ u))

inductive DisplaysFields : List (String × Json) → List Char → Prop
  | single (n : String) {v : Json} {t : List Char} :
      Displays v t → DisplaysFields [(n, v)] (quoted n.toList ++ ':' :: ' ' :: t)
  | more (n : String) {v : Json} {fields : List (String × Json)} {t g u : List Char} :
      Displays v t → Gap g → DisplaysFields fields u →
      DisplaysFields ((n, v) :: fields) (quoted n.toList ++ ':' :: ' ' :: (t ++ ',' :: (g ++ u)))

end

/-! ## Gaps -/

theorem gap_blanks (n : Nat) : Gap (List.replicate n ' ') := by
  intro c known
  rw [List.eq_of_mem_replicate known]
  rfl

theorem gap_lineAt (n : Nat) : Gap ('\n' :: List.replicate n ' ') := by
  intro c known
  rcases List.mem_cons.mp known with rfl | known
  · rfl
  · exact gap_blanks n c known

def NoGap (rest : List Char) : Prop := ∀ c ∈ rest.head?, isGap true c = false

theorem skipGap_append {g rest : List Char} (gapIs : Gap g) (remains : NoGap rest) :
    skipGap true (g ++ rest) = rest := by
  rw [skipGap, List.dropWhile_append_of_pos gapIs]
  cases rest with
  | nil => rfl
  | cons c rest => rw [List.dropWhile_cons_of_neg (by simp [remains c rfl])]

theorem skipGap_self {rest : List Char} (remains : NoGap rest) : skipGap true rest = rest :=
  skipGap_append (g := []) (fun _ h => absurd h List.not_mem_nil) remains

theorem Follows.noGap {rest : List Char} (remains : Follows rest) : NoGap rest := by
  intro c known
  rcases remains c known with rfl | rfl | rfl | rfl <;> rfl

theorem Follows.noQuote {rest : List Char} (remains : Follows rest) : NoQuote rest := by
  intro c known
  rcases remains c known with rfl | rfl | rfl | rfl <;> rfl

theorem noGap_quote {quote : Char} (h : isQuote quote = true) (tail : List Char) :
    NoGap (quote :: tail) := by
  rintro c ⟨⟩
  rcases quote_cases h with rfl | rfl <;> rfl

theorem Gap.noQuote {g : List Char} (gapIs : Gap g) (filled : g ≠ []) (rest : List Char) :
    NoQuote (g ++ rest) := by
  obtain ⟨c, g, rfl⟩ := List.exists_cons_of_ne_nil filled
  rintro d ⟨⟩
  have known := gapIs c List.mem_cons_self
  simp only [isGap, Bool.true_and, Bool.or_eq_true, beq_iff_eq] at known
  rcases known with rfl | rfl <;> rfl

theorem Adjoined.starts {s t : List Char} (h : Adjoined s t) :
    ∃ quote tail, t = quote :: tail ∧ isQuote quote = true := by
  cases h with
  | single => exact ⟨_, _, rfl, isQuote_quoteFor _⟩
  | more s => exact ⟨_, _, rfl, isQuote_quoteFor s⟩

/-! ## Texts read back -/

theorem readTexts_adjoined {s t rest : List Char} (h : Adjoined s t) (remains : Follows rest)
    {fuel : Nat} (enough : t.length ≤ fuel) : readTexts true fuel (t ++ rest) = some (s, rest) := by
  induction h generalizing fuel with
  | single s =>
    obtain ⟨fuel, rfl⟩ : ∃ n, fuel = n + 1 := Nat.exists_eq_succ_of_ne_zero (by
      simp only [quoted, List.cons_append, List.length_cons] at enough
      omega)
    rw [readTexts, readText_quoted s remains.noQuote]
    simp only [skipGap_self remains.noGap]
    cases rest with
    | nil => rfl
    | cons c rest => simp [remains.noQuote c rfl]
  | @more s g text t gapIs filled tailIs ih =>
    obtain ⟨fuel, rfl⟩ : ∃ n, fuel = n + 1 := Nat.exists_eq_succ_of_ne_zero (by
      simp only [quoted, List.cons_append, List.length_cons] at enough
      omega)
    obtain ⟨quote, tail, rfl, marks⟩ := tailIs.starts
    have less : (quote :: tail).length ≤ fuel := by
      have piece : 0 < (quoted s).length := List.length_pos_of_ne_nil (List.cons_ne_nil _ _)
      simp only [List.length_append] at enough
      omega
    have readsBack := ih less
    rw [List.cons_append] at readsBack
    rw [List.append_assoc, List.append_assoc, List.cons_append, readTexts,
      readText_quoted s (gapIs.noQuote filled _)]
    simp only [skipGap_append gapIs (noGap_quote marks _), marks, if_true, readsBack,
      Option.map_some]

/-! ## Values read back -/

/-- No atom starts like a container or a text. -/
theorem readAtom_start {c : Char} {tail : List Char} {found : Json × List Char}
    (h : readAtom? (c :: tail) = some found) : c ≠ '[' ∧ c ≠ '\x7b' ∧ isQuote c = false := by
  have absent (d : Char) (seen : d = '[' ∨ d = '\x7b' ∨ d = '\x27' ∨ d = '"') :
      readAtom? (d :: tail) = none := by
    rcases seen with rfl | rfl | rfl | rfl <;> rfl
  refine ⟨?_, ?_, ?_⟩
  · rintro rfl
    rw [absent _ (Or.inl rfl)] at h
    exact absurd h (by simp)
  · rintro rfl
    rw [absent _ (Or.inr (Or.inl rfl))] at h
    exact absurd h (by simp)
  · cases marks : isQuote c with
    | false => rfl
    | true =>
      rw [absent c (Or.inr (Or.inr (quote_cases marks)))] at h
      exact absurd h (by simp)

theorem readValue_atom {s : List Char} {found : Json × List Char} (h : readAtom? s = some found)
    (fuel level : Nat) : readValue (fuel + 1) level s = some found := by
  cases s with
  | nil =>
    rw [show readAtom? [] = none from rfl] at h
    exact absurd h (by simp)
  | cons c tail =>
    obtain ⟨noList, noDict, marks⟩ := readAtom_start h
    have texts : readTexts (0 < level) (c :: tail).length (c :: tail) = none := by
      simp [readTexts, readText?, marks]
    unfold readValue
    split
    · next same => exact absurd (List.cons.inj same).1 noList
    · next same => exact absurd (List.cons.inj same).1 noDict
    · simp only [texts, h]

theorem readValue_text {s rest : List Char} {quote : Char} {tail : List Char}
    (marks : isQuote quote = true)
    (h : readTexts true (quote :: tail).length (quote :: tail) = some (s, rest))
    (fuel : Nat) {level : Nat} (inside : 0 < level) :
    readValue (fuel + 1) level (quote :: tail) = some (.str (String.ofList s), rest) := by
  have filled : quote ≠ '[' ∧ quote ≠ '\x7b' := by
    rcases quote_cases marks with rfl | rfl <;> decide
  unfold readValue
  split
  · next same => exact absurd (List.cons.inj same).1 filled.1
  · next same => exact absurd (List.cons.inj same).1 filled.2
  · simp only [inside, decide_true, h]

/-! ## What literals start with -/

/-- A text that starts neither with a gap nor with a closing bracket. -/
def Opens (t : List Char) : Prop :=
  ∃ c tail, t = c :: tail ∧ isGap true c = false ∧ c ≠ ']' ∧ c ≠ '\x7d'

theorem Opens.append {t : List Char} (opens : Opens t) (rest : List Char) : Opens (t ++ rest) := by
  obtain ⟨c, tail, rfl, gap, list, dictionary⟩ := opens
  exact ⟨c, tail ++ rest, rfl, gap, list, dictionary⟩

theorem Opens.noGap {t : List Char} (opens : Opens t) : NoGap t := by
  obtain ⟨c, tail, rfl, gap, -⟩ := opens
  rintro _ ⟨⟩
  exact gap

theorem opens_digits {ds : List Char} (digits : AllDigits ds) (ne : ds ≠ []) : Opens ds := by
  obtain ⟨c, tail, rfl⟩ := List.exists_cons_of_ne_nil ne
  have digit : isDigit c = true := digits c List.mem_cons_self
  have other (d : Char) (none : isDigit d = false) : c ≠ d := by
    rintro rfl
    rw [none] at digit
    cases digit
  refine ⟨c, tail, rfl, ?_, other _ rfl, other _ rfl⟩
  simp [isGap, other ' ' rfl, other '\n' rfl]

theorem opens_quoted (s : List Char) : Opens (quoted s) := by
  refine ⟨_, _, rfl, ?_⟩
  rcases quote_cases (isQuote_quoteFor s) with is | is <;> rw [is] <;> decide

theorem Adjoined.opens {s t : List Char} (h : Adjoined s t) : Opens t := by
  cases h with
  | single s => exact opens_quoted s
  | more s => exact (opens_quoted s).append _

theorem Displays.opens {v : Json} {t : List Char} (h : Displays v t) : Opens t := by
  cases h with
  | constant member =>
    simp only [constants, List.mem_cons, Prod.mk.injEq, List.not_mem_nil, or_false] at member
    rcases member with ⟨rfl, -⟩ | ⟨rfl, -⟩ | ⟨rfl, -⟩ <;> exact ⟨_, _, rfl, by decide⟩
  | int n =>
    cases n with
    | ofNat n => exact opens_digits (allDigits_decimal n) (decimal_ne_nil n)
    | negSucc n => exact ⟨_, _, rfl, by decide⟩
  | num x finite =>
    obtain ⟨s, floating, spelled, -⟩ := x.written_spelled displayNumbers finite
    rw [spelled]
    cases x.isNegative with
    | true => exact ⟨_, _, rfl, by decide⟩
    | false => exact (opens_digits floating.whole_digits floating.whole_ne_nil).append _
  | str spelled => exact spelled.opens
  | nil => exact ⟨_, _, rfl, by decide⟩
  | arr => exact ⟨_, _, rfl, by decide⟩
  | empty => exact ⟨_, _, rfl, by decide⟩
  | obj => exact ⟨_, _, rfl, by decide⟩

theorem DisplaysItems.opens {items : List Json} {t : List Char} (h : DisplaysItems items t) :
    Opens t := by
  cases h with
  | single value => exact value.opens
  | more value => exact value.opens.append _

theorem DisplaysFields.opens {fields : List (String × Json)} {t : List Char}
    (h : DisplaysFields fields t) : Opens t := by
  cases h with
  | single n => exact (opens_quoted n.toList).append _
  | more n => exact (opens_quoted n.toList).append _

/-! ## Brackets -/

section
variable {fuel level : Nat} {s : List Char}

theorem readValue_list (opens : Opens s) (room : level < bracketLimit) :
    readValue (fuel + 1) level ('[' :: s) = readItems fuel (level + 1) [] s := by
  obtain ⟨c, tail, rfl, gap, list, -⟩ := opens
  have start : skipGap true (c :: tail) = c :: tail := skipGap_self fun _ h => by cases h; exact gap
  rw [readValue, if_pos room, start]
  split
  · next same => exact absurd (List.cons.inj same).1 list
  · rfl

theorem readValue_dictionary (opens : Opens s) (room : level < bracketLimit) :
    readValue (fuel + 1) level ('\x7b' :: s) = readFields fuel (level + 1) [] s := by
  obtain ⟨c, tail, rfl, gap, -, dictionary⟩ := opens
  have start : skipGap true (c :: tail) = c :: tail := skipGap_self fun _ h => by cases h; exact gap
  rw [readValue, if_pos room, start]
  split
  · next same => exact absurd (List.cons.inj same).1 dictionary
  · rfl

/-- No further bracket opens behind too many open ones. -/
theorem readValue_bracket (full : ¬ level < bracketLimit) :
    readValue (fuel + 1) level ('[' :: s) = none ∧
      readValue (fuel + 1) level ('\x7b' :: s) = none := by
  rw [readValue, readValue, if_neg full, if_neg full]
  exact ⟨rfl, rfl⟩

end

/-! ## Every literal reads back -/

/-- What follows the last item of a list and the last entry of a dictionary. -/
theorem follows_bracket (rest : List Char) : Follows (']' :: rest) ∧ Follows ('\x7d' :: rest) := by
  constructor
  · rintro c ⟨⟩
    exact Or.inr (Or.inr (Or.inl rfl))
  · rintro c ⟨⟩
    exact Or.inr (Or.inr (Or.inr rfl))

/-- What follows any other item and any name. -/
theorem follows_separator (rest : List Char) : Follows (',' :: rest) ∧ Follows (':' :: rest) := by
  constructor
  · rintro c ⟨⟩
    exact Or.inl rfl
  · rintro c ⟨⟩
    exact Or.inr (Or.inl rfl)

section
variable {fuel level : Nat} {s rest g after : List Char} {v : Json}

theorem readItems_none (out : List Json) (h : readValue fuel level s = none) :
    readItems (fuel + 1) level out s = none := by
  rw [readItems, h]

theorem readItems_last (out : List Json) (h : readValue fuel level s = some (v, ']' :: rest)) :
    readItems (fuel + 1) level out s = some (.arr (v :: out).reverse, rest) := by
  rw [readItems, h]
  simp only [skipGap_self (follows_bracket rest).1.noGap]

theorem readItems_next (out : List Json)
    (h : readValue fuel level s = some (v, ',' :: (g ++ after))) (gapIs : Gap g)
    (opens : Opens after) :
    readItems (fuel + 1) level out s = readItems fuel level (v :: out) after := by
  rw [readItems, h]
  simp only [skipGap_self (follows_separator _).1.noGap, skipGap_append gapIs opens.noGap]

/-- A name is read up to its colon. -/
theorem readTexts_name (n : String) (s : List Char) :
    readTexts true (quoted n.toList ++ ':' :: ' ' :: s).length
      (quoted n.toList ++ ':' :: ' ' :: s) = some (n.toList, ':' :: ' ' :: s) := by
  have enough : (quoted n.toList).length ≤ (quoted n.toList ++ ':' :: ' ' :: s).length := by simp
  exact readTexts_adjoined (.single n.toList) (follows_separator (' ' :: s)).2 enough

theorem skipGap_blank (opens : Opens s) : skipGap true (' ' :: s) = s :=
  skipGap_append (g := [' ']) (gap_blanks 1) opens.noGap

section
variable (n : String) (out : List (String × Json)) (opens : Opens s)
include opens

theorem readFields_none (h : readValue fuel level s = none) :
    readFields (fuel + 1) level out (quoted n.toList ++ ':' :: ' ' :: s) = none := by
  rw [readFields, readTexts_name]
  simp only [skipGap_self (follows_separator _).2.noGap, skipGap_blank opens, h]

theorem readFields_last (h : readValue fuel level s = some (v, '\x7d' :: rest)) :
    readFields (fuel + 1) level out (quoted n.toList ++ ':' :: ' ' :: s) =
      some (.obj (Json.ofMembers ((n, v) :: out).reverse), rest) := by
  rw [readFields, readTexts_name]
  simp only [skipGap_self (follows_separator _).2.noGap, skipGap_blank opens, h,
    skipGap_self (follows_bracket rest).2.noGap, String.ofList_toList]

theorem readFields_next (h : readValue fuel level s = some (v, ',' :: (g ++ after))) (gapIs : Gap g)
    (next : Opens after) :
    readFields (fuel + 1) level out (quoted n.toList ++ ':' :: ' ' :: s) =
      readFields fuel level ((n, v) :: out) after := by
  rw [readFields, readTexts_name]
  simp only [skipGap_self (follows_separator _).2.noGap, skipGap_blank opens, h,
    skipGap_self (follows_separator _).1.noGap, skipGap_append gapIs next.noGap,
    String.ofList_toList]

end

end

/-- What the reader makes of a literal of a value that is `depth` containers deep, with `level`
brackets open around it. -/
def withinLimit (level depth : Nat) (v : Json) (rest : List Char) : Option (Json × List Char) :=
  if level + depth ≤ bracketLimit then some (v, rest) else none

section
variable {level depth : Nat} {v : Json} {rest : List Char}

theorem withinLimit_pos (fits : level + depth ≤ bracketLimit) :
    withinLimit level depth v rest = some (v, rest) := if_pos fits

theorem withinLimit_neg (deep : bracketLimit < level + depth) :
    withinLimit level depth v rest = none := if_neg (Nat.not_le.mpr deep)

theorem withinLimit_flat (flat : v.depth = 0) (room : level ≤ bracketLimit) :
    withinLimit level v.depth v rest = some (v, rest) := by
  rw [flat]
  exact withinLimit_pos room

theorem withinLimit_max (fits : level + depth ≤ bracketLimit) (other : Nat) :
    withinLimit level (max depth other) v rest = withinLimit level other v rest := by
  refine if_congr ?_ rfl rfl
  omega

/-- A bracket takes a level. -/
theorem withinLimit_succ (v : Json) (level depth : Nat) (rest : List Char) :
    withinLimit level (depth + 1) v rest = withinLimit (level + 1) depth v rest := by
  rw [withinLimit, withinLimit, Nat.add_right_comm]
  rfl

end

theorem depth_constant {word : List Char} {v : Json} (h : (word, v) ∈ constants) :
    v.depth = 0 := by
  simp only [constants, List.mem_cons, Prod.mk.injEq, List.not_mem_nil, or_false] at h
  rcases h with ⟨-, rfl⟩ | ⟨-, rfl⟩ | ⟨-, rfl⟩ <;> rfl

mutual

/-- A literal is read up to its end, unless it opens too many brackets. The induction is on the
fuel, which every call of the reader takes one from. -/
theorem readValue_displays (fuel : Nat) {level : Nat} {v : Json} {t rest : List Char}
    (h : Displays v t) (names : Json.DistinctNames v) (short : v.digits ≤ Json.digitLimit)
    (inside : 0 < level) (room : level ≤ bracketLimit) (follows : Follows rest)
    (enough : 2 * t.length < fuel) :
    readValue fuel level (t ++ rest) = withinLimit level v.depth v rest := by
  obtain ⟨fuel, rfl⟩ := Nat.exists_eq_succ_of_ne_zero (Nat.ne_zero_of_lt enough)
  cases h with
  | constant listed =>
    rw [withinLimit_flat (depth_constant listed) room]
    exact readValue_atom (readAtom_constant follows listed) fuel level
  | int n =>
    rw [withinLimit_flat rfl room]
    exact readValue_atom (readAtom_signedDecimal follows n (decide_eq_true short)) fuel level
  | num x finite =>
    rw [withinLimit_flat rfl room]
    exact readValue_atom (readAtom_written follows x finite) fuel level
  | @str s _ text =>
    obtain ⟨quote, tail, rfl, isQuote⟩ := text.starts
    have length : (quote :: tail).length ≤ (quote :: tail ++ rest).length := by simp
    have read := readValue_text isQuote (readTexts_adjoined text follows length) fuel inside
    rw [String.ofList_toList] at read
    rw [withinLimit_flat rfl room]
    exact read
  | nil => rfl
  | empty => rfl
  | @arr items u shown =>
    simp only [List.length_cons, List.length_append, List.length_nil] at enough
    rw [List.cons_append, List.append_assoc, Json.depth, withinLimit_succ]
    by_cases free : level < bracketLimit
    · rw [readValue_list (shown.opens.append _) free]
      exact readItems_displays fuel shown names short free (by omega) [] rest
    · rw [(readValue_bracket free).1, withinLimit_neg (by omega)]
  | @obj fields u shown =>
    simp only [List.length_cons, List.length_append, List.length_nil] at enough
    rw [List.cons_append, List.append_assoc, Json.depth, withinLimit_succ]
    by_cases free : level < bracketLimit
    · rw [readValue_dictionary (shown.opens.append _) free]
      have read := readFields_displays fuel shown names.2 short free (by omega) [] rest
      rwa [List.reverse_nil, List.nil_append, Json.ofMembers_distinct names.1] at read
    · rw [(readValue_bracket free).2, withinLimit_neg (by omega)]

theorem readItems_displays (fuel : Nat) {level : Nat} {items : List Json} {t : List Char}
    (h : DisplaysItems items t) (names : Json.DistinctNamesItems items)
    (short : Json.digitsItems items ≤ Json.digitLimit) (room : level < bracketLimit)
    (enough : 2 * t.length + 1 < fuel) (out : List Json) (rest : List Char) :
    readItems fuel (level + 1) out (t ++ ']' :: rest) =
      withinLimit (level + 1) (Json.depthItems items) (.arr (out.reverse ++ items)) rest := by
  obtain ⟨fuel, rfl⟩ := Nat.exists_eq_succ_of_ne_zero (Nat.ne_zero_of_lt enough)
  cases h with
  | @single v t value =>
    simp only [Json.digitsItems, Json.depthItems, Nat.max_zero] at short ⊢
    have read := readValue_displays fuel value names.1 short level.succ_pos room
      (follows_bracket rest).1 (by omega)
    by_cases fits : level + 1 + v.depth ≤ bracketLimit
    · rw [withinLimit_pos fits] at read ⊢
      rw [readItems_last out read, List.reverse_cons]
    · rw [withinLimit_neg (Nat.not_le.mp fits)] at read ⊢
      exact readItems_none out read
  | @more v items t g u value gap shown =>
    simp only [List.length_cons, List.length_append] at enough
    simp only [Json.digitsItems, Json.depthItems] at short ⊢
    have read := readValue_displays fuel value names.1 (by omega) level.succ_pos room
      (follows_separator (g ++ (u ++ ']' :: rest))).1 (by omega)
    have next := readItems_displays fuel shown names.2 (by omega) room (by omega) (v :: out) rest
    rw [List.append_assoc, List.cons_append, List.append_assoc]
    by_cases fits : level + 1 + v.depth ≤ bracketLimit
    · rw [withinLimit_pos fits] at read
      rw [readItems_next out read gap (shown.opens.append _), next, withinLimit_max fits,
        List.reverse_cons, List.append_assoc]
      rfl
    · rw [withinLimit_neg (Nat.not_le.mp fits)] at read
      rw [withinLimit_neg (by omega)]
      exact readItems_none out read

theorem readFields_displays (fuel : Nat) {level : Nat} {fields : List (String × Json)}
    {t : List Char} (h : DisplaysFields fields t) (names : Json.DistinctNamesFields fields)
    (short : Json.digitsFields fields ≤ Json.digitLimit) (room : level < bracketLimit)
    (enough : 2 * t.length + 1 < fuel) (out : List (String × Json)) (rest : List Char) :
    readFields fuel (level + 1) out (t ++ '\x7d' :: rest) =
      withinLimit (level + 1) (Json.depthFields fields)
        (.obj (Json.ofMembers (out.reverse ++ fields))) rest := by
  obtain ⟨fuel, rfl⟩ := Nat.exists_eq_succ_of_ne_zero (Nat.ne_zero_of_lt enough)
  cases h with
  | @single n v t value =>
    simp only [List.length_cons, List.length_append] at enough
    simp only [Json.digitsFields, Json.depthFields, Nat.max_zero] at short ⊢
    have read := readValue_displays fuel value names.1 short level.succ_pos room
      (follows_bracket rest).2 (by omega)
    rw [List.append_assoc, List.cons_append, List.cons_append]
    by_cases fits : level + 1 + v.depth ≤ bracketLimit
    · rw [withinLimit_pos fits] at read ⊢
      rw [readFields_last n out (value.opens.append _) read, List.reverse_cons]
    · rw [withinLimit_neg (Nat.not_le.mp fits)] at read ⊢
      exact readFields_none n out (value.opens.append _) read
  | @more n v fields t g u value gap shown =>
    simp only [List.length_cons, List.length_append] at enough
    simp only [Json.digitsFields, Json.depthFields] at short ⊢
    have read := readValue_displays fuel value names.1 (by omega) level.succ_pos room
      (follows_separator (g ++ (u ++ '\x7d' :: rest))).1 (by omega)
    have next := readFields_displays fuel shown names.2 (by omega) room (by omega)
      ((n, v) :: out) rest
    simp only [List.append_assoc, List.cons_append] at read ⊢
    by_cases fits : level + 1 + v.depth ≤ bracketLimit
    · rw [withinLimit_pos fits] at read
      rw [readFields_next n out (value.opens.append _) read gap (shown.opens.append _), next,
        withinLimit_max fits, List.reverse_cons, List.append_assoc]
      rfl
    · rw [withinLimit_neg (Nat.not_le.mp fits)] at read
      rw [withinLimit_neg (by omega)]
      exact readFields_none n out (value.opens.append _) read

end

/-! ## Line feeds alone end lines -/

def FeedsOnly (t : List Char) : Prop := ∀ c ∈ t, isLineEnd c = true → c = '\n'

theorem FeedsOnly.append {t u : List Char} (feedsFirst : FeedsOnly t) (feedsToo : FeedsOnly u) :
    FeedsOnly (t ++ u) := by
  intro c known stops
  rcases List.mem_append.mp known with h | h
  · exact feedsFirst c h stops
  · exact feedsToo c h stops

theorem FeedsOnly.cons {c : Char} {t : List Char} (known : isLineEnd c = false)
    (feedsFirst : FeedsOnly t) : FeedsOnly (c :: t) := by
  intro d seen stops
  rcases List.mem_cons.mp seen with rfl | h
  · rw [known] at stops
    exact absurd stops (by decide)
  · exact feedsFirst d h stops

theorem feedsOnly_nil : FeedsOnly [] := fun _ h => absurd h List.not_mem_nil

theorem feedsOnly_of_body {t : List Char} (h : IsBody t) : FeedsOnly t := by
  intro c known stops
  rw [h c known] at stops
  exact absurd stops (by decide)

theorem feedsOnly_of_all {t : List Char} (h : (t.all fun c => !isLineEnd c) = true) :
    FeedsOnly t := by
  refine feedsOnly_of_body fun c known => ?_
  simpa using List.all_eq_true.mp h c known

theorem Gap.feedsOnly {g : List Char} (gapIs : Gap g) : FeedsOnly g := by
  intro c known stops
  have noEnds := gapIs c known
  simp only [isGap, Bool.true_and, Bool.or_eq_true, beq_iff_eq] at noEnds
  rcases noEnds with rfl | rfl
  · exact absurd stops (by decide)
  · rfl

theorem digits_body {ds : List Char} (h : AllDigits ds) : IsBody ds := by
  intro c known
  have digitIs := h c known
  simp only [isDigit, Bool.and_eq_true, decide_eq_true_eq, Char.le_def, UInt32.le_iff_toNat_le]
    at digitIs
  have code : 48 ≤ c.toNat ∧ c.toNat ≤ 57 := digitIs
  simp only [isLineEnd, Bool.or_eq_false_iff, Bool.and_eq_false_iff, decide_eq_false_iff_not,
    beq_eq_false_iff_ne]
  omega

theorem feedsOnly_signedDecimal (n : Int) : FeedsOnly (signedDecimal n) := by
  cases n with
  | ofNat n => exact feedsOnly_of_body (digits_body (allDigits_decimal n))
  | negSucc n => exact .cons rfl (feedsOnly_of_body (digits_body (allDigits_decimal (n + 1))))

theorem feedsOnly_spelling {s : Spelling} (floating : s.IsFloating) : FeedsOnly s.text := by
  have fractionIs : FeedsOnly (Spelling.fractionText s.fraction) := by
    have numerals := feedsOnly_of_body (digits_body floating.fraction_digits)
    cases formIs : s.fraction with
    | nil => exact feedsOnly_nil
    | cons d ds =>
      rw [formIs] at numerals
      exact .cons rfl numerals
  have expRead : FeedsOnly (Spelling.exponentText s.exponent) := by
    cases exponentIs : s.exponent with
    | none => exact feedsOnly_nil
    | some e =>
      have sign : isLineEnd (if e.1 then '-' else '+') = false := by
        cases e.1 <;> rfl
      exact .cons rfl (.cons sign
        (feedsOnly_of_body (digits_body (floating.exponent_digits e exponentIs).1)))
  exact (feedsOnly_of_body (digits_body floating.whole_digits)).append (fractionIs.append expRead)

theorem feedsOnly_written {x : Binary64} (finite : x.isFinite = true) :
    FeedsOnly (x.written displayNumbers) := by
  obtain ⟨s, floating, spelled, -⟩ := x.written_spelled displayNumbers finite
  rw [spelled]
  cases x.isNegative with
  | true => exact .cons rfl (feedsOnly_spelling floating)
  | false => exact feedsOnly_spelling floating

theorem feedsOnly_quoted (s : List Char) : FeedsOnly (quoted s) :=
  feedsOnly_of_body fun _ h => not_lineEnd_of_mem_quoted h

theorem Adjoined.feedsOnly {s t : List Char} (h : Adjoined s t) : FeedsOnly t := by
  induction h with
  | single s => exact feedsOnly_quoted s
  | more s gapIs _ _ ih => exact (feedsOnly_quoted s).append (gapIs.feedsOnly.append ih)

mutual

theorem Displays.feedsOnly {v : Json} {t : List Char} (h : Displays v t) : FeedsOnly t := by
  cases h with
  | constant member =>
    simp only [constants, List.mem_cons, Prod.mk.injEq, List.not_mem_nil, or_false] at member
    rcases member with ⟨rfl, -⟩ | ⟨rfl, -⟩ | ⟨rfl, -⟩ <;> exact feedsOnly_of_all (by decide)
  | int n => exact feedsOnly_signedDecimal n
  | num x finite => exact feedsOnly_written finite
  | str spelled => exact spelled.feedsOnly
  | nil => exact .cons rfl (.cons rfl feedsOnly_nil)
  | empty => exact .cons rfl (.cons rfl feedsOnly_nil)
  | arr elements => exact .cons rfl (elements.feedsOnly.append (.cons rfl feedsOnly_nil))
  | obj members => exact .cons rfl (members.feedsOnly.append (.cons rfl feedsOnly_nil))

theorem DisplaysItems.feedsOnly {items : List Json} {t : List Char} (h : DisplaysItems items t) :
    FeedsOnly t := by
  cases h with
  | single shownValue => exact shownValue.feedsOnly
  | more shownValue gapIs elements =>
    exact shownValue.feedsOnly.append (.cons rfl (gapIs.feedsOnly.append elements.feedsOnly))

theorem DisplaysFields.feedsOnly {fields : List (String × Json)} {t : List Char}
    (h : DisplaysFields fields t) : FeedsOnly t := by
  cases h with
  | single n shownValue =>
    exact (feedsOnly_quoted _).append (.cons rfl (.cons rfl shownValue.feedsOnly))
  | more n shownValue gapIs members =>
    exact (feedsOnly_quoted _).append (.cons rfl (.cons rfl
      (shownValue.feedsOnly.append (.cons rfl (gapIs.feedsOnly.append members.feedsOnly)))))

end

end RunReports.Literal
