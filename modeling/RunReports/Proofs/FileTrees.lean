import Mathlib.Data.List.Basic
import RunReports.Storage.FileTree

/-! # What a file tree holds

`fileAt` gives the bytes of the file at a path. Making directories leaves all files as they are,
even if it is cut short; writing a file changes the file at its path and no other, and it is read
back from there. No link is followed anywhere: a tree has none. -/
namespace RunReports.Storage

/-- Leaving out one key changes nothing about the others. -/
theorem lookup_others {α β : Type} [BEq α] [LawfulBEq α] {key other : α} (different : other ≠ key)
    (entries : List (α × β)) :
    (entries.filter fun entry => entry.1 != key).lookup other = entries.lookup other := by
  induction entries with
  | nil => rfl
  | cons entry rest ih =>
    by_cases same : entry.1 = key
    · have skipped : (other == entry.1) = false := by simpa [same] using different
      rw [List.filter_cons_of_neg (by simpa using same), ih, List.lookup_cons, skipped]
    · rw [List.filter_cons_of_pos (by simpa using same), List.lookup_cons, List.lookup_cons, ih]

def Node.get? : Node → List String → Option Node
  | .directory entries, names => Entries.get? entries names
  | .file content, [] => some (.file content)
  | .file _, _ :: _ => none

def Node.content? : Node → Option (List UInt8)
  | .file content => some content
  | .directory _ => none

namespace Entries

variable {entries inner : Entries} {name : String} {parent q : List String} {node : Node}

theorem get?_cons (entries : Entries) (name : String) (rest : List String) :
    get? entries (name :: rest) = (entries.lookup name).bind (·.get? rest) := by
  rw [get?]
  cases found : entries.lookup name with
  | none => rfl
  | some node =>
    cases node with
    | directory inner => rfl
    | file content => cases rest <;> rfl

/-- What names lead to is found part by part. -/
theorem get?_append (entries : Entries) (p q : List String) :
    get? entries (p ++ q) = (get? entries p).bind (·.get? q) := by
  induction p generalizing entries with
  | nil => rfl
  | cons name p ih =>
    rw [List.cons_append, get?_cons, get?_cons]
    cases entries.lookup name with
    | none => rfl
    | some node =>
      cases node with
      | directory inner => exact ih inner
      | file content =>
        cases p with
        | nil => rfl
        | cons next p => rfl

/-- The node that is put in a place is found there, with all that it holds. -/
theorem get?_put (entries : Entries) (node : Node) (parent : List String) (name : String)
    (rest : List String) :
    get? (put entries node (parent ++ [name])) (parent ++ [name] ++ rest) = node.get? rest := by
  induction parent generalizing entries with
  | nil =>
    rw [List.nil_append, List.singleton_append, get?_cons, put, List.lookup_cons_self, if_pos rfl,
      Option.bind_some]
  | cons first parent ih =>
    rw [List.cons_append, List.cons_append, get?_cons, put, List.lookup_cons_self,
      if_neg (by simp), Option.bind_some, Node.get?, ih]

/-- Where a directory has an entry put in, the files elsewhere stay as they are. -/
theorem content_put (is : get? entries parent = some (.directory inner))
    (apart : ¬ parent ++ [name] <+: q) :
    (get? (put entries node (parent ++ [name])) q).bind Node.content? =
      (get? entries q).bind Node.content? := by
  induction parent generalizing entries q with
  | nil =>
    cases q with
    | nil => rfl
    | cons first q =>
      have different : first ≠ name := by
        rintro rfl
        exact apart ⟨q, rfl⟩
      have skipped : (first == name) = false := by simpa using different
      rw [get?_cons, get?_cons, List.nil_append, put, List.lookup_cons, skipped]
      simp only [lookup_others different]
  | cons first parent ih =>
    rw [get?_cons] at is
    obtain ⟨way, found, inside⟩ := Option.bind_eq_some_iff.mp is
    cases way with
    | file content => cases parent <;> cases inside
    | directory way =>
      cases q with
      | nil => rfl
      | cons next q =>
        simp only [get?_cons, List.cons_append, put, found]
        rw [if_neg (by simp)]
        by_cases same : next = first
        · subst same
          rw [List.lookup_cons_self, found]
          refine ih inside fun below => apart ?_
          exact List.cons_prefix_cons.mpr ⟨rfl, below⟩
        · have skipped : (next == first) = false := by simpa using same
          rw [List.lookup_cons, skipped]
          simp only [lookup_others same]

end Entries

namespace FileTree

variable {t t' u : FileTree} {p q parent names target : List String} {name : String}
variable {node : Node} {content : List UInt8}

def fileAt (t : FileTree) (p : List String) : Option (List UInt8) :=
  (t.get? p).bind Node.content?

theorem get?_append (t : FileTree) (p q : List String) :
    t.get? (p ++ q) = (t.get? p).bind (·.get? q) := Entries.get?_append t.entries p q

theorem isDirectory_iff :
    t.isDirectory p = true ↔ ∃ entries, t.get? p = some (.directory entries) := by
  rw [isDirectory]
  constructor
  · intro is
    split at is
    · rename_i entries found
      exact ⟨entries, found⟩
    · cases is
  · rintro ⟨entries, found⟩
    rw [found]

/-- Only directories hold anything. -/
theorem isDirectory_of_below (there : t.get? (p ++ name :: names) = some node) :
    t.isDirectory p = true := by
  rw [get?_append] at there
  obtain ⟨above, found, there⟩ := Option.bind_eq_some_iff.mp there
  cases above with
  | file content => cases there
  | directory entries => exact isDirectory_iff.mpr ⟨entries, found⟩

/-! ## The same files -/

def SameFiles (t u : FileTree) : Prop := ∀ p, u.fileAt p = t.fileAt p

theorem SameFiles.refl (t : FileTree) : SameFiles t t := fun _ => rfl

theorem SameFiles.trans (first : SameFiles t t') (second : SameFiles t' u) : SameFiles t u :=
  fun p => (second p).trans (first p)

theorem fileAt_put_apart (is : t.isDirectory parent = true) (apart : ¬ parent ++ [name] <+: q) :
    (t.put (parent ++ [name]) node).fileAt q = t.fileAt q := by
  obtain ⟨inner, found⟩ := isDirectory_iff.mp is
  exact Entries.content_put found apart

theorem get?_put (t : FileTree) (node : Node) (parent : List String) (name : String)
    (rest : List String) :
    (t.put (parent ++ [name]) node).get? (parent ++ [name] ++ rest) = node.get? rest :=
  Entries.get?_put t.entries node parent name rest

/-- A new directory changes no file. -/
theorem sameFiles_put (is : t.isDirectory parent = true) (free : t.get? (parent ++ [name]) = none) :
    SameFiles t (t.put (parent ++ [name]) (.directory [])) := by
  intro q
  by_cases below : parent ++ [name] <+: q
  · obtain ⟨rest, rfl⟩ := below
    rw [fileAt, fileAt, get?_put, get?_append, free]
    cases rest <;> rfl
  · exact fileAt_put_apart is below

/-- Making one directory in another changes no file, from an empty directory on. -/
theorem sameFiles_makeDirectories (empty : t.get? p = some (.directory [])) :
    SameFiles t (t.makeDirectories p names).2 := by
  induction names generalizing t p with
  | nil => exact SameFiles.refl t
  | cons name rest ih =>
    rw [makeDirectories]
    by_cases long : isLongName name = true
    · rw [if_pos long]
      exact SameFiles.refl t
    · rw [if_neg long]
      have free : t.get? (p ++ [name]) = none := by
        rw [get?_append, empty]
        rfl
      have made := get?_put t (.directory []) p name []
      rw [List.append_nil] at made
      exact (sameFiles_put (isDirectory_iff.mpr ⟨[], empty⟩) free).trans (ih made)

/-- The directories that are there are passed, and the first one that is not is made. -/
theorem sameFiles_ensureFrom (is : t.isDirectory p = true) :
    SameFiles t (t.ensureFrom p names).2 := by
  induction names generalizing p with
  | nil => exact SameFiles.refl t
  | cons name rest ih =>
    simp only [ensureFrom]
    by_cases long : isLongName name = true
    · rw [if_pos long]
      exact SameFiles.refl t
    · rw [if_neg long]
      cases found : t.get? (p ++ [name]) with
      | none =>
        have made := get?_put t (.directory []) p name []
        rw [List.append_nil] at made
        exact (sameFiles_put is found).trans (sameFiles_makeDirectories made)
      | some node =>
        cases node with
        | file content => exact SameFiles.refl t
        | directory entries => exact ih (isDirectory_iff.mpr ⟨entries, found⟩)

/-- Making directories changes no file, whether it succeeds or not. -/
theorem sameFiles_ensureDirectories (t : FileTree) (names : List String) :
    SameFiles t (t.ensureDirectories names).2 := by
  rw [ensureDirectories]
  by_cases long : isLongPath (absoluteText names) = true
  · rw [if_pos long]
    exact SameFiles.refl t
  · rw [if_neg long]
    exact sameFiles_ensureFrom (isDirectory_iff.mpr ⟨t.entries, rfl⟩)

/-! ## Walks -/

/-- A walk without steps up ends where its names say, and no name of it is too long. -/
theorem walk_ok (down : ∀ n ∈ names, n ≠ "..") (walked : t.walk p names = .ok q) :
    q = p ++ names ∧ ∀ n ∈ names, isLongName n = false := by
  induction names generalizing p with
  | nil =>
    cases walked
    exact ⟨(List.append_nil _).symm, by simp⟩
  | cons name rest ih =>
    obtain ⟨first, later⟩ := List.forall_mem_cons.mp down
    simp only [walk, step, if_neg first] at walked
    by_cases is : t.isDirectory p = true
    · by_cases long : isLongName name = true
      · simp [is, long] at walked
      · simp only [is, long, Bool.not_true, Bool.false_eq_true, if_false] at walked
        split at walked
        · cases walked
        · obtain ⟨same, short⟩ := ih later walked
          rw [List.append_assoc, List.singleton_append] at same
          exact ⟨same, List.forall_mem_cons.mpr ⟨Bool.eq_false_iff.mpr long, short⟩⟩
    · simp [is] at walked

/-- Names that lead to something, none of them too long, can be walked along. -/
theorem walk_of_get? (down : ∀ n ∈ names, n ≠ "..") (short : ∀ n ∈ names, isLongName n = false)
    (there : t.get? (p ++ names) = some node) : t.walk p names = .ok (p ++ names) := by
  induction names generalizing p with
  | nil => rw [walk, List.append_nil]
  | cons name rest ih =>
    obtain ⟨first, later⟩ := List.forall_mem_cons.mp down
    obtain ⟨fits, fit⟩ := List.forall_mem_cons.mp short
    have is := isDirectory_of_below there
    rw [← List.singleton_append, ← List.append_assoc] at there ⊢
    have next : ∃ above, t.get? (p ++ [name]) = some above := by
      rw [get?_append] at there
      obtain ⟨above, found, -⟩ := Option.bind_eq_some_iff.mp there
      exact ⟨above, found⟩
    obtain ⟨above, found⟩ := next
    rw [List.singleton_append, walk, step, is, if_neg first, fits]
    simp only [Bool.not_true, Bool.false_eq_true, if_false, found]
    exact ih later fit there

/-! ## Written files -/

/-- The file at the path holds the content, and all other files are as they were. -/
structure Overwrites (t : FileTree) (target : List String) (content : List UInt8)
    (u : FileTree) : Prop where
  written : u.fileAt target = some content
  others : ∀ p, p ≠ target → u.fileAt p = t.fileAt p

theorem SameFiles.overwrites (same : SameFiles t t') (h : Overwrites t' target content u) :
    Overwrites t target content u :=
  ⟨h.written, fun p other => (h.others p other).trans (same p)⟩

/-- A file that is put where no directory stands takes its place only. -/
theorem put_overwrites (is : t.isDirectory parent = true)
    (place : t.isDirectory (parent ++ [name]) = false) :
    Overwrites t (parent ++ [name]) content (t.put (parent ++ [name]) (.file content)) := by
  have found := get?_put t (.file content) parent name
  constructor
  · have here := found []
    rw [List.append_nil] at here
    rw [fileAt, here]
    rfl
  · intro q other
    by_cases below : parent ++ [name] <+: q
    · obtain ⟨rest, rfl⟩ := below
      cases rest with
      | nil => exact absurd (List.append_nil _) other
      | cons next rest =>
        -- Nothing stands below a file, and before nothing stood there either.
        rw [fileAt, fileAt, found]
        cases before : t.get? (parent ++ [name] ++ next :: rest) with
        | none => rfl
        | some node =>
          rw [isDirectory_of_below before] at place
          cases place
    · exact fileAt_put_apart is below

structure Writes (t : FileTree) (names : List String) (content : List UInt8)
    (u : FileTree) : Prop where
  fits : isLongPath (absoluteText names) = false
  short : ∀ n ∈ names, isLongName n = false
  place : ∃ parent name, names = parent ++ [name] ∧ t.isDirectory parent = true
  free : t.isDirectory names = false
  put : u = t.put names (.file content)

theorem write_ok (down : ∀ n ∈ names, n ≠ "..") (written : t.write names content = .ok u) :
    Writes t names content u := by
  rw [write] at written
  by_cases long : isLongPath (absoluteText names) = true
  · rw [if_pos long] at written
    cases written
  · rw [if_neg long] at written
    rcases List.eq_nil_or_concat names with rfl | ⟨parent, name, rfl⟩
    · simp [locate, isDirectory, FileTree.get?, Entries.get?] at written
    · rw [List.concat_eq_append] at *
      obtain ⟨above, last⟩ := List.forall_mem_append.mp down
      have last := last name List.mem_cons_self
      simp only [locate, List.getLast?_concat, List.dropLast_concat] at written
      cases walked : t.walk [] parent with
      | error fault =>
        rw [walked] at written
        cases written
      | ok p =>
        obtain ⟨same, short⟩ := walk_ok above walked
        rw [List.nil_append] at same
        subst p
        simp only [walked, step, if_neg last] at written
        by_cases is : t.isDirectory parent = true
        · by_cases longName : isLongName name = true
          · simp [is, longName] at written
          · simp only [is, longName, Bool.not_true, Bool.false_eq_true, if_false] at written
            by_cases there : t.isDirectory (parent ++ [name]) = true
            · rw [if_pos there] at written
              cases written
            · rw [if_neg there] at written
              cases written
              refine ⟨Bool.eq_false_iff.mpr long, ?_, ⟨parent, name, rfl, is⟩,
                Bool.eq_false_iff.mpr there, rfl⟩
              refine List.forall_mem_append.mpr ⟨short, ?_⟩
              simpa using longName
        · simp [is] at written

theorem Writes.overwrites (h : Writes t names content u) : Overwrites t names content u := by
  obtain ⟨-, -, ⟨parent, name, rfl, is⟩, free, rfl⟩ := h
  exact put_overwrites is free

/-- What was written is read back, by an absolute path. -/
theorem Writes.read (h : Writes t names content u) (down : ∀ n ∈ names, n ≠ "..")
    (working : List String) : u.read working ⟨1, names⟩ = .ok content := by
  obtain ⟨fits, short, ⟨parent, name, same, -⟩, -, put⟩ := h
  have found : u.get? names = some (.file content) := by
    have here := get?_put t (.file content) parent name []
    rw [List.append_nil, ← same, ← put] at here
    exact here
  have walked : u.walk [] names = .ok names := walk_of_get? down short found
  have long : isLongPath (Path.mk 1 names).text = false := fits
  simp only [FileTree.read, long, Bool.false_eq_true, if_false, Nat.one_ne_zero, walked, found]

end FileTree

end RunReports.Storage
