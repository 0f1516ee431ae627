import Mathlib.Data.List.Permutation
import RunReports.Proofs.Acceptance
import RunReports.Proofs.Assembled

/-! # The first line of code decides

A code cell of lines is a control block if its first line that holds code sets a control variable.
What stands before that line holds no code and what stands behind it is never looked at, so neither
has a say. No line both holds no code and sets a variable, so it does not matter for which of the
two a line is tested first. This does not say that the variable gets a value. -/
namespace RunReports.Notebook

open RunReports

variable {v w : Json} {fields : Json.Fields} {cell : Cell} {kind : CellKind} {name : String}
variable {ls before after other : List String} {line : String}

/-! ## Lines -/

def BeginsWithControl (line : String) : Prop :=
  "report_download_results".toList <+: line.toList ∨
    "report_download_inputs".toList <+: line.toList

/-- The line holds no code: nothing is left of it when it is trimmed, or it is a comment from column
zero on. -/
def HoldsNoCode (line : String) : Prop := Text.trim line.toList = [] ∨ ['#'] <+: line.toList

theorem setsControl_iff : setsControl line = true ↔ BeginsWithControl line := by
  simp [setsControl, controlVariables, startsWith, BeginsWithControl]

theorem trim_eq_nil_iff {s : List Char} : Text.trim s = [] ↔ ∀ c ∈ s, Text.isBlank c = true := by
  rw [Text.trim, Text.trimWhile, Text.dropEndWhile, List.reverse_eq_nil_iff,
    List.dropWhile_eq_nil_iff]
  constructor
  · intro blank
    -- a character that stopped the trimming from the left would be left over
    refine List.dropWhile_eq_nil_iff.mp (List.eq_nil_iff_forall_not_mem.mpr fun c there => ?_)
    have ne := List.ne_nil_of_mem there
    have stopped := List.head_dropWhile_not Text.isBlank ne
    rw [blank _ (List.mem_reverse.mpr (List.head_mem ne))] at stopped
    cases stopped
  · intro blank c there
    exact blank c ((List.dropWhile_suffix _).mem (List.mem_reverse.mp there))

theorem isSkipped_iff : isSkipped line = true ↔ HoldsNoCode line := by
  rw [isSkipped, Bool.or_eq_true, HoldsNoCode, trim_eq_nil_iff, startsWith,
    List.isPrefixOf_iff_prefix, Text.isBlankText, List.all_eq_true]

/-- A line that sets a control variable holds code. -/
theorem isSkipped_of_setsControl (sets : setsControl line = true) : isSkipped line = false := by
  have letter : ∃ rest, line.toList = 'r' :: rest := by
    rcases setsControl_iff.mp sets with ⟨rest, same⟩ | ⟨rest, same⟩
    · exact ⟨"eport_download_results".toList ++ rest, same.symm⟩
    · exact ⟨"eport_download_inputs".toList ++ rest, same.symm⟩
  obtain ⟨rest, same⟩ := letter
  have blank : Text.isBlank 'r' = false := by decide
  have comment : ['#'].isPrefixOf ('r' :: rest) = false := rfl
  rw [isSkipped, Text.isBlankText, startsWith, same, comment, List.all_cons, blank, Bool.false_and,
    Bool.false_or]

/-- The first line that holds code tells of all lines. -/
theorem setsControlFirst_eq (ls : List String) :
    setsControlFirst ls = (ls.find? fun line => !isSkipped line).any setsControl := by
  induction ls with
  | nil => rfl
  | cons line rest ih =>
    rw [setsControlFirst, ih]
    by_cases sets : setsControl line = true
    · simp [sets, isSkipped_of_setsControl sets]
    · by_cases skipped : isSkipped line = true
      · simp [sets, skipped]
      · simp [sets, skipped]

/-- Lines without code in front change nothing. -/
theorem setsControlFirst_append (silent : ∀ l ∈ before, isSkipped l = true) :
    setsControlFirst (before ++ ls) = setsControlFirst ls := by
  have none : (before.find? fun line => !isSkipped line) = none := by
    refine List.find?_eq_none.mpr fun l there => ?_
    simp [silent l there]
  rw [setsControlFirst_eq, setsControlFirst_eq, List.find?_append, none, Option.none_or]

/-- Behind a line that holds code nothing is looked at. -/
theorem setsControlFirst_decided (code : isSkipped line = false)
    (before after other : List String) :
    setsControlFirst (before ++ line :: after) = setsControlFirst (before ++ line :: other) := by
  have found (rest : List String) :
      ((line :: rest).find? fun l => !isSkipped l) = some line := by simp [code]
  rw [setsControlFirst_eq, setsControlFirst_eq, List.find?_append, List.find?_append, found, found]

/-! ## Either test first -/

inductive LineTest
  | control
  | silent
  deriving DecidableEq

def LineTest.passes : LineTest → String → Bool
  | .control => setsControl
  | .silent => isSkipped

/-- Judge lines by tests in an order. The first test that a line passes counts: one that sets a
control variable ends the search, and one that holds no code is left for the next. A line that
passes no test is other code, which ends the search as well. -/
def scanBy (order : List LineTest) : List String → Bool
  | [] => false
  | line :: rest =>
    match order.find? fun test => test.passes line with
    | some .control => true
    | some .silent => scanBy order rest
    | none => false

/-- It does not matter which test comes first. -/
theorem scanBy_eq {order : List LineTest} (both : order.Perm [.control, .silent])
    (ls : List String) : scanBy order ls = setsControlFirst ls := by
  induction ls with
  | nil => rfl
  | cons line rest ih =>
    rw [scanBy, setsControlFirst, ih]
    by_cases sets : setsControl line = true
    · have code := isSkipped_of_setsControl sets
      rcases List.perm_pair.mp both with rfl | rfl <;> simp [LineTest.passes, sets, code]
    · by_cases skipped : isSkipped line = true
      · rcases List.perm_pair.mp both with rfl | rfl <;> simp [LineTest.passes, sets, skipped]
      · rcases List.perm_pair.mp both with rfl | rfl <;> simp [LineTest.passes, sets, skipped]

/-! ## The source of a stored cell -/

def linesValue (ls : List String) : Json := .arr (ls.map Json.str)

/-- Give an object a source, in the place of the one that it has. -/
def withSource (w : Json) : Json → Json
  | .obj fields => .obj (Json.Fields.set "source" w fields)
  | v => v

theorem get?_set (name : String) (w : Json) (fields : Json.Fields) :
    Json.Fields.get? name (Json.Fields.set name w fields) = some w := by
  induction fields with
  | nil => simp [Json.Fields.set, Json.Fields.get?]
  | cons f rest ih =>
    rw [Json.Fields.set]
    split
    · rename_i same
      rw [Json.Fields.get?, if_pos same]
    · rename_i different
      rw [Json.Fields.get?, if_neg different, ih]

theorem get?_set_other {other : String} (different : other ≠ name) (w : Json)
    (fields : Json.Fields) :
    Json.Fields.get? other (Json.Fields.set name w fields) = Json.Fields.get? other fields := by
  induction fields with
  | nil => exact if_neg different.symm
  | cons f rest ih =>
    rw [Json.Fields.set]
    split
    · rename_i same
      have skipped : f.1 ≠ other := fun reached => different (reached.symm.trans same)
      rw [Json.Fields.get?, Json.Fields.get?, if_neg skipped, if_neg skipped]
    · rw [Json.Fields.get?, Json.Fields.get?, ih]

theorem set_given (given : Json.Fields.get? name fields = some w) :
    Json.Fields.set name w fields = fields := by
  induction fields with
  | nil => cases given
  | cons f rest ih =>
    rw [Json.Fields.get?] at given
    rw [Json.Fields.set]
    split at given
    · rename_i same
      cases given
      subst same
      rw [if_pos rfl]
    · rename_i different
      rw [if_neg different, ih given]

theorem withSource_given (given : valueOf "source" v = some w) : withSource w v = v := by
  obtain ⟨fields, rfl⟩ := object_of_valueOf given
  exact congrArg Json.obj (set_given given)

theorem valueOf_withSource {name : String} (other : name ≠ "source") (w v : Json) :
    valueOf name (withSource w v) = valueOf name v := by
  cases v with
  | obj fields => exact get?_set_other other w fields
  | _ => rfl

/-- A cell stays one of its kind with any source. -/
theorem IsCellOf.withSource (is : IsCellOf kind v) (form : IsSource w) :
    IsCellOf kind (withSource w v) := by
  obtain ⟨fields, rfl⟩ := is.object
  have others {name : String} (other : name ≠ "source") := valueOf_withSource other w (.obj fields)
  constructor
  · exact ⟨_, rfl⟩
  · rintro w' given
    cases (get?_set "source" w fields).symm.trans given
    exact form
  · rw [others (by decide)]
    exact is.named
  · rw [IfGiven, others (by decide)]
    exact is.metadata
  · rw [IfGiven, others (by decide)]
    exact is.count
  · rw [IfGiven, others (by decide)]
    exact is.outputs

/-- Of the lines of a cell only what they are judged as counts, whatever the cell is otherwise. -/
theorem exists_judge (v : Json) : ∃ judge : Bool → Except Fault Bool, ∀ ls,
    isControlBlock (withSource (linesValue ls) v) = judge (setsControlFirst ls) := by
  cases v with
  | obj fields =>
    have reads (ls : List String) : readSource (Json.Fields.get? "source"
        (Json.Fields.set "source" (linesValue ls) fields)) = .ok (some (.lines ls)) := by
      rw [get?_set]
      exact source_written (some (.lines ls))
    have others {name : String} (other : name ≠ "source") (ls : List String) :=
      get?_set_other other (linesValue ls) fields
    simp only [isControlBlock, withSource, Cell.read, reads, others (by decide : "cell_type" ≠ _),
      others (by decide : "metadata" ≠ _), others (by decide : "execution_count" ≠ _),
      others (by decide : "outputs" ≠ _), bind, Except.bind]
    cases readKind (Json.Fields.get? "cell_type" fields) with
    | error f => exact ⟨fun _ => .error (.cell f), fun ls => rfl⟩
    | ok kind =>
      cases readObject? (Json.Fields.get? "metadata" fields) with
      | none => exact ⟨fun _ => .error (.cell (.metadataForm kind)), fun ls => rfl⟩
      | some metadata =>
        cases kind with
        | code =>
          cases readCount (Json.Fields.get? "execution_count" fields) with
          | error f => exact ⟨fun _ => .error (.cell f), fun ls => rfl⟩
          | ok count =>
            cases readOutputs (Json.Fields.get? "outputs" fields) with
            | error f => exact ⟨fun _ => .error (.cell f), fun ls => rfl⟩
            | ok outputs => exact ⟨.ok, fun ls => rfl⟩
        | markdown | raw => exact ⟨fun _ => .ok false, fun ls => rfl⟩
  | _ => exact ⟨fun _ => .error (.cell .notObject), fun ls => rfl⟩

/-! ## What a cell is judged as -/

def IsJoined (v : Json) : Prop := IsCellOf .code v ∧ ∃ s, valueOf "source" v = some (.str s)

theorem source_of_read (read : Cell.read v = .ok cell) :
    valueOf "source" v = cell.content.source.map Source.toJson := by
  obtain ⟨fields, rfl⟩ := Cell.object_of_read read
  exact (source_given (Cell.read_iff.mp read).source).symm

theorem isControlBlock_of_read (read : Cell.read v = .ok cell) :
    isControlBlock v = cell.isControlBlock := by
  simp only [isControlBlock, read, Except.mapError, bind, Except.bind]

theorem isJoined_of_read (read : Cell.read v = .ok cell) :
    IsJoined v ↔ cell.kind = .code ∧ ∃ s, cell.content.source = some (.text s) := by
  rw [IsJoined, isCellOf_iff, source_of_read read]
  refine and_congr ?_ (exists_congr fun s => ?_)
  · constructor
    · rintro ⟨cell', again, is⟩
      cases read.symm.trans again
      exact is
    · exact fun is => ⟨cell, read, is⟩
  · rcases cell.content.source with _ | s' | ls <;> simp [Source.toJson]

/-- A cell cannot be judged if it is a code cell whose source is one text. -/
theorem Cell.isControlBlock_error_iff {fault : Fault} : cell.isControlBlock = .error fault ↔
    (cell.kind = .code ∧ ∃ s, cell.content.source = some (.text s)) ∧ fault = .joinedSource := by
  cases cell with
  | code content execution =>
    rw [Cell.isControlBlock, Cell.content]
    rcases content.source with _ | s | ls <;> simp [Cell.kind, eq_comm]
  | markdown content | raw content => simp [Cell.isControlBlock, Cell.kind]

/-- What cannot be judged is no cell, or it is a code cell whose source is one text. -/
theorem isControlBlock_error_iff {fault : Fault} : isControlBlock v = .error fault ↔
    (∃ f, Cell.Refused v f ∧ fault = .cell f) ∨ IsJoined v ∧ fault = .joinedSource := by
  cases read : Cell.read v with
  | error f =>
    have told : isControlBlock v = .error (.cell f) := by
      simp only [isControlBlock, read, Except.mapError, bind, Except.bind]
    have refused := Cell.refused_of_read read
    rw [told]
    constructor
    · rintro ⟨⟩
      exact Or.inl ⟨f, refused, rfl⟩
    · rintro (⟨g, again, rfl⟩ | ⟨⟨is, -⟩, -⟩)
      · cases read.symm.trans (Cell.read_of_refused again)
        rfl
      · exact absurd refused is.not_refused
  | ok cell =>
    rw [isControlBlock_of_read read, Cell.isControlBlock_error_iff, ← isJoined_of_read read]
    constructor
    · exact Or.inr
    · rintro (⟨f, refused, -⟩ | joined)
      · cases read.symm.trans (Cell.read_of_refused refused)
      · exact joined

theorem source_injective {source source' : Option Source}
    (same : source.map Source.toJson = source'.map Source.toJson) : source = source' := by
  have read := source_written source
  rw [same, source_written source'] at read
  exact (Except.ok.inj read).symm

/-- A code cell of lines is judged by its lines. -/
theorem isControlBlock_of_lines (is : IsCellOf .code v)
    (given : valueOf "source" v = some (linesValue ls)) :
    isControlBlock v = .ok (setsControlFirst ls) := by
  obtain ⟨cell, read, code⟩ := isCellOf_iff.mp is
  have lines : cell.content.source = some (.lines ls) :=
    source_injective ((source_of_read read).symm.trans given)
  rw [isControlBlock_of_read read]
  cases cell with
  | code content execution =>
    rw [Cell.content] at lines
    rw [Cell.isControlBlock, lines]
  | markdown content | raw content => cases code

/-- A control block is a code cell of lines, the first of which that holds code begins with a
control variable. -/
theorem isControlBlock_true_iff : isControlBlock v = .ok true ↔
    IsCellOf .code v ∧ ∃ before line after,
      valueOf "source" v = some (linesValue (before ++ line :: after)) ∧
        BeginsWithControl line ∧ ∀ l ∈ before, HoldsNoCode l := by
  constructor
  · intro judged
    cases read : Cell.read v with
    | error f =>
      simp only [isControlBlock, read, Except.mapError, bind, Except.bind] at judged
      cases judged
    | ok cell =>
      rw [isControlBlock_of_read read] at judged
      obtain ⟨content, execution, before, line, after, rfl, lines, sets, silent⟩ :=
        (Cell.isControlBlock_iff judged).mp rfl
      refine ⟨isCellOf_of_read read, before, line, after, ?_, setsControl_iff.mp sets,
        fun l there => isSkipped_iff.mp (silent l there)⟩
      rw [source_of_read read, Cell.content, lines]
      rfl
  · rintro ⟨is, before, line, after, given, begins, silent⟩
    rw [isControlBlock_of_lines is given]
    refine congrArg Except.ok (setsControlFirst_iff.mpr ⟨before, line, after, rfl, ?_, ?_⟩)
    · exact setsControl_iff.mpr begins
    · exact fun l there => isSkipped_iff.mpr (silent l there)

theorem Cell.isControlBlock_plain (cell : Cell) :
    cell.plain.isControlBlock = cell.isControlBlock := by
  cases cell <;> rfl

/-- What is written of a cell is judged as the cell. -/
theorem isControlBlock_toJson (read : Cell.read v = .ok cell) :
    isControlBlock cell.toJson = isControlBlock v := by
  obtain ⟨fields, rfl⟩ := Cell.object_of_read read
  have again := Cell.read_written (Cell.apart_of_read read)
  rw [isControlBlock_of_read read, isControlBlock_of_read again, Cell.isControlBlock_plain]

/-- The lines decide about a value with these lines by the first of them that holds code. -/
structure DecidedByFirst (v : Json) (ls : List String) : Prop where
  /-- The first line that holds code tells whether a code cell is a control block. -/
  first : IsCellOf .code v →
    isControlBlock v = .ok ((ls.find? fun line => !isSkipped line).any setsControl)
  /-- Lines without code may be put in front. -/
  added : ∀ front, (∀ l ∈ front, HoldsNoCode l) →
    isControlBlock (withSource (linesValue (front ++ ls)) v) = isControlBlock v
  /-- Lines without code may be taken away at the front. -/
  removed : ∀ front rest, ls = front ++ rest → (∀ l ∈ front, HoldsNoCode l) →
    isControlBlock (withSource (linesValue rest) v) = isControlBlock v
  /-- Behind a line that holds code there may be anything else. -/
  behind : ∀ before line after other, ls = before ++ line :: after → ¬ HoldsNoCode line →
    isControlBlock (withSource (linesValue (before ++ line :: other)) v) = isControlBlock v
  /-- The lines of a code cell may be tested in either order. -/
  tests : IsCellOf .code v → ∀ order, order.Perm [LineTest.control, .silent] →
    isControlBlock v = .ok (scanBy order ls)

theorem decidedByFirst (given : valueOf "source" v = some (linesValue ls)) :
    DecidedByFirst v ls := by
  obtain ⟨judge, judged⟩ := exists_judge v
  have own : isControlBlock v = judge (setsControlFirst ls) := by
    rw [← judged, withSource_given given]
  constructor
  · intro is
    rw [isControlBlock_of_lines is given, setsControlFirst_eq]
  · intro front silent
    rw [own, judged, setsControlFirst_append fun l there => isSkipped_iff.mpr (silent l there)]
  · rintro front rest rfl silent
    rw [own, judged, setsControlFirst_append fun l there => isSkipped_iff.mpr (silent l there)]
  · rintro before line after other rfl code
    have code : isSkipped line = false := Bool.eq_false_iff.mpr fun skipped =>
      code (isSkipped_iff.mp skipped)
    rw [own, judged, setsControlFirst_decided code before other after]
  · intro is order both
    rw [isControlBlock_of_lines is given, scanBy_eq both]

/-- Whether a value is a control block is decided by the first line that holds code. It cannot be
told of what is no cell and of a code cell whose source is one text, which both fail as what cannot
be parsed, and it is told of the value, of the cell that is read from it and of what is written of
that cell alike. -/
theorem control_decided (v : Json) :
    ((∃ fault, isControlBlock v = .error fault) ↔ ¬ IsCell v ∨ IsJoined v) ∧
      (∀ fault, isControlBlock v = .error fault ↔
        (∃ f, Cell.Refused v f ∧ fault = .cell f) ∨ IsJoined v ∧ fault = .joinedSource) ∧
      (∀ fault, (ReportError.notebook fault).kind = .parse) ∧
      (isControlBlock v = .ok true ↔ IsCellOf .code v ∧ ∃ before line after,
        valueOf "source" v = some (linesValue (before ++ line :: after)) ∧
          BeginsWithControl line ∧ ∀ l ∈ before, HoldsNoCode l) ∧
      (∀ ls, valueOf "source" v = some (linesValue ls) → DecidedByFirst v ls) ∧
      ∀ cell, Cell.read v = .ok cell →
        isControlBlock v = cell.isControlBlock ∧ isControlBlock cell.toJson = isControlBlock v := by
  refine ⟨?_, fun fault => isControlBlock_error_iff, fun fault => rfl, isControlBlock_true_iff,
    fun ls => decidedByFirst,
    fun cell read => ⟨isControlBlock_of_read read, isControlBlock_toJson read⟩⟩
  constructor
  · rintro ⟨fault, failed⟩
    rcases isControlBlock_error_iff.mp failed with ⟨f, refused, -⟩ | ⟨joined, -⟩
    · exact Or.inl fun ⟨kind, is⟩ => is.not_refused refused
    · exact Or.inr joined
  · rintro (odd | joined)
    · cases read : Cell.read v with
      | error f =>
        have refused := Cell.refused_of_read read
        exact ⟨_, isControlBlock_error_iff.mpr (Or.inl ⟨f, refused, rfl⟩)⟩
      | ok cell => exact absurd (isCell_iff.mpr ⟨cell, read⟩) odd
    · exact ⟨_, isControlBlock_error_iff.mpr (Or.inr ⟨joined, rfl⟩)⟩

end RunReports.Notebook
