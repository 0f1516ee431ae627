import Mathlib.Data.List.Induction
import Mathlib.Data.List.TakeWhile
import RunReports.Proofs.Cuts
import RunReports.Proofs.Surroundings
import RunReports.Workflow.Source

/-!
# Declarations that count

A source is accepted exactly if it can be taken apart into whole lines, blanks, the word, blanks,
the name, blanks, a brace and anything else. The search looks at every line once and goes forward
only: what follows blanks in a declaration is no blank itself, so that blanks are always skipped as
far as they go. What a server answers with is looked at in the same way before it is handed on.
-/
namespace RunReports.Workflow

open RunReports RunReports.Action RunReports.Report RunReports.Text

variable {s d rest w : List Char} {source : String}

def AllBlank (s : List Char) : Prop := ∀ c ∈ s, isBlank c = true

instance : DecidablePred AllBlank := fun s => List.decidableBAll (fun c => isBlank c = true) s

def IsWholeLines (s : List Char) : Prop := s = [] ∨ s.getLast? = some '\n'

def IsDeclaration (d : List Char) : Prop :=
  ∃ apart before rest, AllBlank apart ∧ apart ≠ [] ∧ AllBlank before ∧
    d = "workflow".toList ++ apart ++ "generate_report_file_workflow".toList ++ before ++
      '\x7b' :: rest

def Declares (s : List Char) : Prop :=
  ∃ lines indent d, s = lines ++ indent ++ d ∧ IsWholeLines lines ∧ AllBlank indent ∧
    IsDeclaration d

/-! ## Skipping -/

def IsSolid (s : List Char) : Prop := ∀ c ∈ s.head?, isBlank c = false

theorem skipBlanks_append (blank : AllBlank w) (solid : IsSolid rest) :
    skipBlanks (w ++ rest) = rest := by
  rw [skipBlanks, List.dropWhile_append_of_pos blank]
  cases rest with
  | nil => rfl
  | cons c rest => rw [List.dropWhile_cons_of_neg (by simp [solid c rfl])]

/-- Blanks are skipped as far as they go. -/
theorem skipBlanks_eq_iff : skipBlanks s = rest ↔
    ∃ w, AllBlank w ∧ s = w ++ rest ∧ IsSolid rest := by
  constructor
  · rintro rfl
    refine ⟨s.takeWhile isBlank, fun c there => List.mem_takeWhile_imp there,
      List.takeWhile_append_dropWhile.symm, ?_⟩
    intro c first
    have stopped := List.head?_dropWhile_not isBlank s
    rw [show (s.dropWhile isBlank).head? = some c from first] at stopped
    simpa using stopped
  · rintro ⟨w, blank, rfl, solid⟩
    exact skipBlanks_append blank solid

theorem skipSomeBlanks?_eq_some : skipSomeBlanks? s = some rest ↔
    ∃ w, AllBlank w ∧ w ≠ [] ∧ s = w ++ rest ∧ IsSolid rest := by
  constructor
  · intro skipped
    cases s with
    | nil => cases skipped
    | cons c s =>
      rw [skipSomeBlanks?, Option.ite_none_right_eq_some, Option.some.injEq,
        skipBlanks_eq_iff] at skipped
      obtain ⟨first, w, blank, rfl, solid⟩ := skipped
      exact ⟨c :: w, List.forall_mem_cons.mpr ⟨first, blank⟩, by simp, rfl, solid⟩
  · rintro ⟨w, blank, some, rfl, solid⟩
    cases w with
    | nil => exact absurd rfl some
    | cons c w =>
      obtain ⟨first, blank⟩ := List.forall_mem_cons.mp blank
      rw [List.cons_append, skipSomeBlanks?, if_pos first, skipBlanks_append blank solid]

theorem isSolid_word : IsSolid ("workflow".toList ++ rest) := by
  rintro _ ⟨⟩
  decide

theorem isSolid_name : IsSolid (workflowName.toList ++ rest) := by
  rintro _ ⟨⟩
  decide

theorem isSolid_brace : IsSolid ('\x7b' :: rest) := by
  rintro _ ⟨⟩
  decide

/-! ## One line -/

/-- The search at the front of a line finds a declaration exactly if there is one behind blanks. -/
theorem startsWithDeclaration_iff : startsWithDeclaration s = true ↔
    ∃ indent d, AllBlank indent ∧ s = indent ++ d ∧ IsDeclaration d := by
  simp only [startsWithDeclaration, Option.isSome_iff_exists, Option.bind_eq_bind,
    Option.bind_eq_some_iff, afterStart?_eq_some, skipSomeBlanks?_eq_some, skipBlanks_eq_iff]
  constructor
  · rintro ⟨rest, s₁, ⟨indent, blank, rfl, -⟩, s₂, ⟨apart, parted, some, rfl, -⟩, s₃, rfl, before,
      blank', rfl, -⟩
    exact ⟨indent, _, blank, rfl, apart, before, rest, parted, some, blank', by
      simp [workflowName]⟩
  · rintro ⟨indent, d, blank, rfl, apart, before, rest, parted, some, blank', rfl⟩
    refine ⟨rest, _, ⟨indent, blank, ?_, isSolid_word⟩, _, ⟨apart, parted, some, rfl, isSolid_name⟩,
      _, rfl, before, blank', rfl, isSolid_brace⟩
    simp [workflowName]

/-- The search in the lines after the first one looks at all that stands behind a line feed. -/
theorem declaresLater_iff : declaresLater s = true ↔
    ∃ front rest, s = front ++ '\n' :: rest ∧ startsWithDeclaration rest = true := by
  induction s with
  | nil => simp [declaresLater]
  | cons c s ih =>
    rw [declaresLater, Bool.or_eq_true, Bool.and_eq_true, beq_iff_eq, ih]
    constructor
    · rintro (⟨rfl, starts⟩ | ⟨front, rest, rfl, starts⟩)
      · exact ⟨[], s, rfl, starts⟩
      · exact ⟨c :: front, rest, rfl, starts⟩
    · rintro ⟨front, rest, same, starts⟩
      cases front with
      | nil =>
        obtain ⟨rfl, rfl⟩ := List.cons.inj same
        exact Or.inl ⟨rfl, starts⟩
      | cons e front =>
        obtain ⟨rfl, rfl⟩ := List.cons.inj same
        exact Or.inr ⟨front, rest, rfl, starts⟩

theorem declares_iff : declares s = true ↔ Declares s := by
  simp only [declares, Bool.or_eq_true, declaresLater_iff, startsWithDeclaration_iff]
  constructor
  · rintro (⟨indent, d, blank, rfl, is⟩ | ⟨front, _, rfl, indent, d, blank, rfl, is⟩)
    · exact ⟨[], indent, d, rfl, Or.inl rfl, blank, is⟩
    · exact ⟨front ++ ['\n'], indent, d, by simp, Or.inr (by simp), blank, is⟩
  · rintro ⟨lines, indent, d, rfl, rfl | fed, blank, is⟩
    · exact Or.inl ⟨indent, d, blank, rfl, is⟩
    · obtain ⟨front, rfl⟩ := List.getLast?_eq_some_iff.mp fed
      exact Or.inr ⟨front, indent ++ d, by simp, indent, d, blank, rfl, is⟩

/-! ## What counts -/

theorem IsDeclaration.append (is : IsDeclaration d) (more : List Char) :
    IsDeclaration (d ++ more) := by
  obtain ⟨apart, before, rest, parted, some, blank, rfl⟩ := is
  exact ⟨apart, before, rest ++ more, parted, some, blank, by simp⟩

theorem Declares.append (h : Declares s) (more : List Char) : Declares (s ++ more) := by
  obtain ⟨lines, indent, d, rfl, whole, blank, is⟩ := h
  exact ⟨lines, indent, d ++ more, by simp, whole, blank, is.append more⟩

theorem IsWholeLines.append {front lines : List Char} (first : IsWholeLines front)
    (second : IsWholeLines lines) : IsWholeLines (front ++ lines) := by
  rcases second with rfl | fed
  · rwa [List.append_nil]
  · exact Or.inr (by rw [List.getLast?_append, fed, Option.some_or])

theorem Declares.behind (h : Declares s) {front : List Char} (whole : IsWholeLines front) :
    Declares (front ++ s) := by
  obtain ⟨lines, indent, d, rfl, wholeLines, blank, is⟩ := h
  exact ⟨front ++ lines, indent, d, by simp, whole.append wholeLines, blank, is⟩

/-- A text is whole lines and what stands on a line that has not ended. -/
theorem exists_lines (s : List Char) :
    ∃ lines front, s = lines ++ front ∧ IsWholeLines lines ∧ '\n' ∉ front := by
  induction s using List.reverseRecOn with
  | nil => exact ⟨[], [], rfl, Or.inl rfl, List.not_mem_nil⟩
  | append_singleton s c ih =>
    by_cases feed : c = '\n'
    · subst feed
      exact ⟨s ++ ['\n'], [], by simp, Or.inr (by simp), List.not_mem_nil⟩
    · obtain ⟨lines, front, rfl, whole, open_⟩ := ih
      refine ⟨lines, front ++ [c], by simp, whole, ?_⟩
      simp [open_, eq_comm, feed]

/-- A declaration counts exactly if nothing but blanks stands in front of it on its line. -/
theorem declares_iff_line : Declares s ↔ ∃ lines front d, s = lines ++ front ++ d ∧
    IsWholeLines lines ∧ '\n' ∉ front ∧ AllBlank front ∧ IsDeclaration d := by
  constructor
  · rintro ⟨lines, indent, d, rfl, whole, blank, is⟩
    obtain ⟨skipped, front, rfl, wholeSkipped, open_⟩ := exists_lines indent
    exact ⟨lines ++ skipped, front, d, by simp, whole.append wholeSkipped, open_,
      fun c there => blank c (List.mem_append_right skipped there), is⟩
  · rintro ⟨lines, front, d, same, whole, -, blank, is⟩
    exact ⟨lines, front, d, same, whole, blank, is⟩

/-- A text that declares something is not blank. -/
theorem Declares.not_blank (h : Declares s) : ¬ AllBlank s := by
  obtain ⟨lines, indent, _, rfl, -, -, apart, before, rest, -, -, -, rfl⟩ := h
  intro blank
  have letter := blank 'w' (by simp)
  cases letter

theorem isBlankText_iff : isBlankText source = true ↔ AllBlank source.toList :=
  List.all_eq_true

theorem validate_declared (h : Declares source.toList) : validate source = .ok source := by
  rw [validate, if_neg (isBlankText_iff.not.mpr h.not_blank), if_pos (declares_iff.mpr h)]

theorem validate_undeclared (h : ¬ Declares source.toList) :
    ∃ fault, validate source = .error fault := by
  rw [validate]
  split
  · exact ⟨.empty, rfl⟩
  · rw [if_neg (declares_iff.not.mpr h)]
    exact ⟨.undeclared, rfl⟩

theorem validate_ok_iff {s : String} : validate source = .ok s ↔
    s = source ∧ Declares source.toList := by
  by_cases declared : Declares source.toList
  · rw [validate_declared declared, Except.ok.injEq]
    simp [declared, eq_comm]
  · obtain ⟨fault, refused⟩ := validate_undeclared declared
    rw [refused]
    simp [declared]

/-- A source is refused exactly if every declaration in it has something else in front of it on its
line. -/
theorem validate_error_iff : (∃ fault, validate source = .error fault) ↔
    ∀ lines front d, source.toList = lines ++ front ++ d → IsWholeLines lines → '\n' ∉ front →
      IsDeclaration d → ∃ c ∈ front, isBlank c = false := by
  constructor
  · rintro ⟨fault, refused⟩ lines front d same whole open_ is
    by_contra none
    have blank : AllBlank front := fun c there => by
      cases shown : isBlank c with
      | true => rfl
      | false => exact absurd ⟨c, there, shown⟩ none
    have declared := declares_iff_line.mpr ⟨lines, front, d, same, whole, open_, blank, is⟩
    cases refused.symm.trans (validate_declared declared)
  · intro covered
    refine validate_undeclared fun declared => ?_
    obtain ⟨lines, front, d, same, whole, open_, blank, is⟩ := declares_iff_line.mp declared
    obtain ⟨c, there, shown⟩ := covered lines front d same whole open_ is
    cases shown.symm.trans (blank c there)

/-! ## Sources that are handed on -/

def fed (ls : List String) : List Char := ls.flatMap fun line => line.toList ++ ['\n']

theorem isWholeLines_fed (ls : List String) : IsWholeLines (fed ls) := by
  rcases List.eq_nil_or_concat ls with rfl | ⟨front, line, rfl⟩
  · exact Or.inl rfl
  · exact Or.inr (by simp [fed])

theorem declares_fed {line : String} (is : IsDeclaration line.toList) (before after : List String) :
    Declares (fed (before ++ line :: after)) :=
  ⟨fed before, [], line.toList ++ '\n' :: fed after, by simp [fed], isWholeLines_fed before,
    by decide, is.append _⟩

/-- The packaged source declares the workflow in its fifth line. -/
theorem packagedSource_declares : Declares packagedSource.toList := by
  have text : packagedSource.toList = fed packagedLines := by
    simp only [packagedSource, fed, String.toList_join, List.flatMap_map, String.toList_append]
    rfl
  have is : IsDeclaration "workflow generate_report_file_workflow \x7b".toList :=
    ⟨[' '], [' '], [], by decide, by decide, by decide, by decide⟩
  rw [text]
  exact declares_fed is (packagedLines.take 4) (packagedLines.drop 5)

/-- Where no URL is set, the packaged source is handed on. -/
theorem resolve_packaged {σ : Type} (exchange : Engine.Exchange σ) (o : σ) :
    (resolve exchange none).run o = (.ok packagedSource, o) := by
  rw [resolve, checked, validate_declared packagedSource_declares]
  rfl

theorem checked_ensures {σ : Type} (source : String) (o : σ) :
    (checked source : Action σ String).Ensures o (fun s _ => Declares s.toList)
      fun _ _ => True := by
  rw [checked]
  cases validated : validate source with
  | error fault => exact ensures_throw trivial
  | ok s =>
    obtain ⟨rfl, declared⟩ := validate_ok_iff.mp validated
    exact ensures_pure declared

/-- Whatever is answered, a source that is handed on declares the workflow. -/
theorem resolve_declares {σ : Type} (exchange : Engine.Exchange σ) (url : Option String) (o : σ) :
    (resolve exchange url).Ensures o (fun s _ => Declares s.toList) fun _ _ => True := by
  cases url with
  | none => exact checked_ensures packagedSource o
  | some text =>
    rw [resolve]
    split
    · exact checked_ensures packagedSource o
    · have made := target_ensures (sourceUrl text) o
      refine (made.mono (fun _ _ h => h) fun _ _ _ => trivial).bind fun sent o₁ _ => ?_
      have answered := send_ensures exchange (.get sent) o₁
      refine (answered.mono (fun _ _ h => h) fun _ _ _ => trivial).bind fun outcome o₂ _ => ?_
      cases readSource text sent outcome with
      | error e => exact ensures_throw trivial
      | ok source => exact checked_ensures source o₂

/-- A source is accepted, as it is, exactly if it declares the workflow, and else it is refused by
the error for workflows. Whole lines in front and any text behind do not matter. A declaration
counts only where nothing but blanks stands in front of it on its line. No source that does not
declare the workflow is ever handed on, wherever it comes from. -/
theorem declared_exactly (source : String) :
    (∀ s, validate source = .ok s ↔ s = source ∧ Declares source.toList) ∧
      (¬ Declares source.toList → ∃ fault, validate source = .error fault ∧
        (ReportError.workflow fault).kind = .workflow) ∧
      (∀ lines rest : String, IsWholeLines lines.toList → Declares source.toList →
        validate (lines ++ source ++ rest) = .ok (lines ++ source ++ rest)) ∧
      ((∃ fault, validate source = .error fault) ↔
        ∀ lines front d, source.toList = lines ++ front ++ d → IsWholeLines lines →
          '\n' ∉ front → IsDeclaration d → ∃ c ∈ front, isBlank c = false) ∧
      ∀ (σ : Type) (exchange : Engine.Exchange σ) (url : Option String) (o o' : σ),
        (resolve exchange url).run o = (.ok source, o') → Declares source.toList := by
  refine ⟨fun s => validate_ok_iff, ?_, ?_, validate_error_iff, ?_⟩
  · intro undeclared
    obtain ⟨fault, refused⟩ := validate_undeclared undeclared
    exact ⟨fault, refused, rfl⟩
  · intro lines rest whole declared
    apply validate_declared
    rw [String.toList_append, String.toList_append]
    exact (declared.behind whole).append rest.toList
  · intro σ exchange url o o' returned
    exact (resolve_declares exchange url o).ok returned

def spreadSource : String := " \t\nworkflow\n  generate_report_file_workflow\n\x7b\x7d"

def unreachableServer : Engine.Exchange Unit := fun _ => pure (.failed "unreachable")

theorem declared_exactly_spread : IsWholeLines "version 1.0\n".toList ∧
    Declares spreadSource.toList ∧
    validate ("version 1.0\n" ++ spreadSource ++ "\n") =
      .ok ("version 1.0\n" ++ spreadSource ++ "\n") ∧
    (resolve unreachableServer none).run () = (.ok packagedSource, ()) ∧
    Declares packagedSource.toList := by
  have whole : IsWholeLines "version 1.0\n".toList := Or.inr rfl
  obtain ⟨accepted, -, surrounded, -, -⟩ := declared_exactly spreadSource
  obtain ⟨-, -, -, -, handedOn⟩ := declared_exactly packagedSource
  have declared : Declares spreadSource.toList := ((accepted spreadSource).mp rfl).2
  have resolved := resolve_packaged unreachableServer ()
  exact ⟨whole, declared, surrounded "version 1.0\n" "\n" whole declared, resolved,
    handedOn Unit unreachableServer none () () resolved⟩

example : validate "# workflow generate_report_file_workflow \x7b" = .error .undeclared := rfl

end RunReports.Workflow
