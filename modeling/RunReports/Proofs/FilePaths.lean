import RunReports.Proofs.Cuts
import RunReports.Proofs.PercentEncoding
import RunReports.Storage.Directory

/-! # Paths and where they lead

A path is put together of names and taken apart into them again, as a text and as a URI. `Leads`
says where the components of a path lead, whatever stands there; resolving the names of the path is
the same. A storage root and what is resolved against it are made of names that entries of a
directory may have. -/
namespace RunReports.Storage

open RunReports.Text

/-! ## Names -/

structure IsName (name : String) : Prop where
  nonempty : name ≠ ""
  notHere : name ≠ "."
  noSlash : '/' ∉ name.toList
  noNull : Char.ofNat 0 ∉ name.toList

structure IsEntryName (name : String) : Prop extends IsName name where
  notAbove : name ≠ ".."

/-- The components of a path, with those that are dropped when the path is read. -/
def components (path : String) : List String := (splitOn '/' path.toList).map String.ofList

theorem hasNull_eq_false {text : String} :
    hasNull text = false ↔ Char.ofNat 0 ∉ text.toList := by
  rw [hasNull, ← Bool.not_eq_true, List.contains_iff_mem]

theorem isName_of_mem_pathNames {text : String} (noNull : hasNull text = false) :
    ∀ name ∈ pathNames text.toList, IsName name := by
  intro name there
  obtain ⟨split, kept⟩ := List.mem_filter.mp there
  obtain ⟨piece, among, rfl⟩ := List.mem_map.mp split
  obtain ⟨noSlash, part⟩ := of_mem_splitOn among
  simp only [Bool.and_eq_true, bne_iff_ne, ne_eq] at kept
  constructor
  · exact kept.1
  · exact kept.2
  · rwa [String.toList_ofList]
  · rw [String.toList_ofList]
    exact fun null => hasNull_eq_false.mp noNull (part null)

/-! ## Resolved paths -/

/-- Where components lead from a directory. An empty one and a single dot lead nowhere else, a pair
of dots leads up, though not beyond the topmost directory, and every other one leads down. -/
inductive Leads : List String → List String → List String → Prop
  | here (p : List String) : Leads p [] p
  | stay {p rest q : List String} {name : String} : name = "" ∨ name = "." →
      Leads p rest q → Leads p (name :: rest) q
  | up {p rest q : List String} : Leads p.dropLast rest q → Leads p (".." :: rest) q
  | down {p rest q : List String} {name : String} : name ≠ "" → name ≠ "." → name ≠ ".." →
      Leads (p ++ [name]) rest q → Leads p (name :: rest) q

/-- Resolving the names that are not dropped is following the components one by one. -/
theorem leads_iff {p q names : List String} : Leads p names q ↔
    q = resolveNames p.reverse (names.filter fun name => name != "" && name != ".") := by
  induction names generalizing p with
  | nil =>
    rw [List.filter_nil, resolveNames, List.reverse_reverse]
    constructor
    · rintro ⟨⟩
      rfl
    · rintro rfl
      exact .here q
  | cons name rest ih =>
    by_cases dropped : name = "" ∨ name = "."
    · have skipped : (name != "" && name != ".") = false := by
        rcases dropped with rfl | rfl <;> rfl
      rw [List.filter_cons_of_neg (by simp [skipped]), ← ih]
      constructor
      · intro leads
        cases leads with
        | stay _ leads => exact leads
        | up leads => simp at dropped
        | down nonempty notHere _ _ => exact absurd dropped (by simp [nonempty, notHere])
      · exact .stay dropped
    · rw [not_or] at dropped
      rw [List.filter_cons_of_pos (by simp [dropped]), resolveNames]
      by_cases above : name = ".."
      · subst above
        rw [if_pos rfl, List.drop_one, List.tail_reverse, ← ih]
        constructor
        · intro leads
          cases leads with
          | stay odd _ => simp at odd
          | up leads => exact leads
          | down _ _ notAbove _ => exact absurd rfl notAbove
        · exact .up
      · rw [if_neg above, ← List.reverse_concat, ← ih]
        constructor
        · intro leads
          cases leads with
          | stay odd _ => exact absurd odd (by simp [dropped])
          | up _ => exact absurd rfl above
          | down _ _ _ leads => exact leads
        · exact .down dropped.1 dropped.2 above

/-- A destination stands for what its components lead to from the root. -/
theorem Directory.leads_iff_target {d : Directory} {destination : String} {q : List String} :
    Leads d.root (components destination) q ↔ q = d.target destination :=
  leads_iff

/-- Names without a pair of dots are resolved as they are. -/
theorem resolveNames_of_notAbove {out names : List String} (down : ∀ n ∈ names, n ≠ "..") :
    resolveNames out names = out.reverse ++ names := by
  induction names generalizing out with
  | nil => exact (List.append_nil _).symm
  | cons name rest ih =>
    obtain ⟨first, later⟩ := List.forall_mem_cons.mp down
    rw [resolveNames, if_neg first, ih later, List.reverse_cons, List.append_assoc,
      List.singleton_append]

/-- What holds of the names so far and of every name but a pair of dots holds of the result. -/
theorem forall_mem_resolveNames {P : String → Prop} {out names : List String}
    (before : ∀ n ∈ out, P n) (read : ∀ n ∈ names, n ≠ ".." → P n) :
    ∀ n ∈ resolveNames out names, P n := by
  induction names generalizing out with
  | nil =>
    intro n there
    exact before n (List.mem_reverse.mp there)
  | cons name rest ih =>
    obtain ⟨first, later⟩ := List.forall_mem_cons.mp read
    rw [resolveNames]
    by_cases above : name = ".."
    · rw [if_pos above]
      exact ih (fun n there => before n (List.mem_of_mem_drop there)) later
    · rw [if_neg above]
      exact ih (List.forall_mem_cons.mpr ⟨first above, before⟩) later

/-- Names that have been read resolve to names of entries. -/
theorem isEntryName_resolveNames {out names : List String} (before : ∀ n ∈ out, IsEntryName n)
    (read : ∀ n ∈ names, IsName n) : ∀ n ∈ resolveNames out names, IsEntryName n :=
  forall_mem_resolveNames before fun n there notAbove =>
    { toIsName := read n there, notAbove := notAbove }

/-- The working directory and the home directories are paths that have been read. -/
structure Standpoint.IsRead (s : Standpoint) : Prop where
  working : ∀ name ∈ s.working, IsName name
  homes : ∀ user home, s.homes.lookup user = some home → ∀ name ∈ home, IsName name

/-- A storage root is resolved from the names of a directory that is known and of its path. -/
theorem Directory.exists_of_at {s : Standpoint} {path : String} {d : Directory}
    (at_ : Directory.at s path = .ok d) : hasNull path = false ∧
      ∃ around names, d.root = resolveNames [] (around ++ names) ∧
        (around = [] ∨ around = s.working ∨ ∃ user, s.homes.lookup user = some around) ∧
        names ⊆ pathNames path.toList := by
  simp only [Directory.at] at at_
  by_cases null : hasNull path = true
  · rw [if_pos null] at at_
    cases at_
  · rw [if_neg null] at at_
    refine ⟨Bool.eq_false_iff.mpr null, ?_⟩
    split at at_
    · cases at_
      by_cases relative : (Path.read path).slashes = 0
      · refine ⟨s.working, (Path.read path).names, ?_, .inr (.inl rfl), List.Subset.refl _⟩
        simp only [namesIn, if_pos relative]
      · refine ⟨[], (Path.read path).names, ?_, .inl rfl, List.Subset.refl _⟩
        simp only [namesIn, if_neg relative, List.nil_append]
    · rename_i user _
      split at at_
      · rename_i home found
        cases at_
        exact ⟨home, (Path.read path).names.drop 1, rfl, .inr (.inr ⟨user, found⟩),
          List.drop_subset 1 _⟩
      · cases at_

theorem Directory.root_notAbove {s : Standpoint} {path : String} {d : Directory}
    (at_ : Directory.at s path = .ok d) : ∀ n ∈ d.root, n ≠ ".." := by
  obtain ⟨-, around, names, is, -⟩ := Directory.exists_of_at at_
  rw [is]
  exact forall_mem_resolveNames (by simp) fun _ _ notAbove => notAbove

theorem Directory.isEntryName_root {s : Standpoint} {path : String} {d : Directory}
    (known : s.IsRead) (at_ : Directory.at s path = .ok d) : ∀ n ∈ d.root, IsEntryName n := by
  obtain ⟨noNull, around, names, is, stands, part⟩ := Directory.exists_of_at at_
  rw [is]
  refine isEntryName_resolveNames (by simp) (List.forall_mem_append.mpr ⟨?_, ?_⟩)
  · rcases stands with rfl | rfl | ⟨user, found⟩
    · simp
    · exact known.working
    · exact known.homes user around found
  · exact fun n there => isName_of_mem_pathNames noNull n (part there)

/-- Below a resolved root no destination stands for a path with a step up. -/
theorem Directory.target_notAbove {d : Directory} (root : ∀ n ∈ d.root, n ≠ "..")
    (destination : String) : ∀ n ∈ d.target destination, n ≠ ".." :=
  forall_mem_resolveNames (fun n there => root n (List.mem_reverse.mp there))
    fun _ _ notAbove => notAbove

/-- What a destination stands for below a resolved root is resolved. -/
theorem Directory.isEntryName_target {d : Directory} {destination : String}
    (root : ∀ n ∈ d.root, IsEntryName n) (noNull : hasNull destination = false) :
    ∀ n ∈ d.target destination, IsEntryName n := by
  refine isEntryName_resolveNames ?_ (isName_of_mem_pathNames noNull)
  intro n there
  exact root n (List.mem_reverse.mp there)

/-! ## Paths as texts -/

variable {names : List String}

theorem toList_absoluteText (names : List String) : (absoluteText names).toList =
    '/' :: ['/'].intercalate (names.map String.toList) := by
  simp [absoluteText, Path.text, String.toList_intercalate]

/-- A path is as long as its names, each with its slash. -/
theorem length_absoluteText_le (names : List String) :
    (utf8 (absoluteText names)).length ≤ (names.map fun n => (utf8 n).length + 1).sum + 1 := by
  have joined : (encodeUtf8 (['/'].intercalate (names.map String.toList))).length ≤
      (names.map fun n => (utf8 n).length + 1).sum := by
    induction names with
    | nil => exact Nat.le_refl _
    | cons name rest ih =>
      cases rest with
      | nil => simp [utf8]
      | cons next rest =>
        have slash : (encodeChar '/').length = 1 := by decide
        rw [List.map_cons, List.map_cons, List.intercalate_cons_cons, ← List.map_cons, encodeUtf8,
          List.flatMap_append, List.flatMap_append, List.flatMap_singleton, List.length_append,
          List.length_append, slash]
        exact Nat.add_le_add (Nat.le_refl _) ih
  have slash : (encodeChar '/').length = 1 := by decide
  rw [utf8, toList_absoluteText, encodeUtf8, List.flatMap_cons, List.length_append, slash,
    Nat.add_comm]
  exact Nat.succ_le_succ joined

theorem splitOn_joined {name : String} {rest : List String}
    (noSlash : ∀ n ∈ name :: rest, '/' ∉ n.toList) :
    splitOn '/' (['/'].intercalate ((name :: rest).map String.toList)) =
      (name :: rest).map String.toList := by
  induction rest generalizing name with
  | nil =>
    rw [List.map_singleton, List.intercalate_singleton]
    exact splitOn_of_absent (noSlash name List.mem_cons_self)
  | cons next rest ih =>
    obtain ⟨first, later⟩ := List.forall_mem_cons.mp noSlash
    rw [List.map_cons, List.map_cons, List.intercalate_cons_cons, List.append_assoc,
      List.singleton_append, splitOn_append first, ← List.map_cons, ih later, List.map_cons]

/-- The names of an absolute path are read from its text. -/
theorem pathNames_absoluteText (are : ∀ n ∈ names, IsName n) :
    pathNames (absoluteText names).toList = names := by
  have kept : names.filter (fun name => name != "" && name != ".") = names := by
    refine List.filter_eq_self.mpr fun n there => ?_
    simp [(are n there).nonempty, (are n there).notHere]
  cases names with
  | nil => rw [toList_absoluteText]; decide
  | cons name rest =>
    rw [pathNames, toList_absoluteText, splitOn, if_pos rfl,
      splitOn_joined fun n there => (are n there).noSlash, List.map_cons, List.map_map]
    have same : String.ofList ∘ String.toList = id := funext fun s => String.ofList_toList
    rw [same, List.map_id, List.filter_cons_of_neg (by decide), kept]

theorem read_absoluteText (are : ∀ n ∈ names, IsName n) :
    Path.read (absoluteText names) = ⟨1, names⟩ := by
  have once : ((absoluteText names).toList.takeWhile (· == '/')).length = 1 := by
    rw [toList_absoluteText, List.takeWhile_cons_of_pos (by decide), List.length_cons]
    cases names with
    | nil => rfl
    | cons name rest =>
      obtain ⟨first, -⟩ := List.forall_mem_cons.mp are
      obtain ⟨c, tail, chars⟩ := List.exists_cons_of_ne_nil
        (fun empty => first.nonempty (String.toList_eq_nil_iff.mp empty))
      have letter : c ≠ '/' := by
        intro same
        exact first.noSlash (by rw [chars, same]; exact List.mem_cons_self)
      have start : ∃ more, ['/'].intercalate ((name :: rest).map String.toList) = c :: more := by
        cases rest with
        | nil => exact ⟨tail, by simpa using chars⟩
        | cons next rest =>
          rw [List.map_cons, List.map_cons, List.intercalate_cons_cons, chars]
          exact ⟨_, rfl⟩
      obtain ⟨more, start⟩ := start
      rw [start, List.takeWhile_cons_of_neg (by simpa using letter)]
      rfl
  simp only [Path.read, once, pathNames_absoluteText are]
  rfl

theorem hasNull_absoluteText (are : ∀ n ∈ names, IsName n) :
    hasNull (absoluteText names) = false := by
  have joined : Char.ofNat 0 ∉ ['/'].intercalate (names.map String.toList) := by
    induction names with
    | nil => exact List.not_mem_nil
    | cons name rest ih =>
      obtain ⟨first, later⟩ := List.forall_mem_cons.mp are
      cases rest with
      | nil =>
        rw [List.map_singleton, List.intercalate_singleton]
        exact first.noNull
      | cons next rest =>
        rw [List.map_cons, List.map_cons, List.intercalate_cons_cons, List.append_assoc,
          List.mem_append, not_or, List.singleton_append, List.mem_cons, not_or]
        exact ⟨first.noNull, by decide, ih later⟩
  rw [hasNull_eq_false, toList_absoluteText, List.mem_cons, not_or]
  exact ⟨by decide, joined⟩

/-! ## URIs -/

theorem staysPlain_slash : StaysPlain (· == '/') := by
  intro c safe
  have slash : c = '/' := by simpa using safe
  subst slash
  exact ⟨by decide, by decide⟩

/-- The characters of a file URI behind its scheme. -/
theorem of_mem_uri {c : Char} {s : List Char} (there : c ∈ percentEncode (· == '/') s) :
    c ≠ '#' ∧ c ≠ '?' ∧ c ≠ '\t' ∧ c ≠ '\r' ∧ c ≠ '\n' := by
  rcases mem_percentEncode there with free | slash | rfl
  · refine ⟨?_, ?_, ?_, ?_, ?_⟩ <;>
    · rintro rfl
      cases free
  · have slash : c = '/' := by simpa using slash
    subst slash
    decide
  · decide

theorem exists_uri (names : List String) : ∃ path,
    percentEncode (· == '/') (absoluteText names).toList = '/' :: path := by
  rw [toList_absoluteText]
  exact ⟨_, rfl⟩

theorem toList_fileUri {path : List Char}
    (same : percentEncode (· == '/') (absoluteText names).toList = '/' :: path) :
    (fileUri names).toList = 'f' :: 'i' :: 'l' :: 'e' :: ':' :: '/' :: '/' :: '/' :: path := by
  rw [fileUri, String.toList_append, same]
  simp only [String.toList_ofList]
  rfl

/-- Nothing of a file URI is dropped before it is taken apart. -/
theorem cleanLocation_fileUri (names : List String) :
    cleanLocation (fileUri names) = (fileUri names).toList := by
  obtain ⟨path, same⟩ := exists_uri names
  have path_tame : ∀ c ∈ '/' :: path, (c != '\t' && c != '\r' && c != '\n') = true := by
    intro c there
    obtain ⟨-, -, tab, feed, line⟩ := of_mem_uri (same ▸ there)
    simp [tab, feed, line]
  rw [cleanLocation, toList_fileUri same, List.dropWhile_cons_of_neg (by decide)]
  refine List.filter_eq_self.mpr ?_
  simp only [List.forall_mem_cons] at path_tame ⊢
  exact ⟨by decide, by decide, by decide, by decide, by decide, by decide, by decide, path_tame⟩

/-- A file URI stands for the path that it was made of. -/
theorem locationPath_fileUri (names : List String) :
    locationPath (fileUri names) = .ok (absoluteText names) := by
  obtain ⟨path, same⟩ := exists_uri names
  have noFragment : '#' ∉ '/' :: path := fun there => (of_mem_uri (same ▸ there)).1 rfl
  have noQuery : '?' ∉ '/' :: path := fun there => (of_mem_uri (same ▸ there)).2.1 rfl
  have scheme : cutScheme (fileUri names).toList = ("file".toList, '/' :: '/' :: '/' :: path) := by
    rw [toList_fileUri same]
    rfl
  have authority : Http.cutAuthority ('/' :: '/' :: '/' :: path) = ([], '/' :: path) := rfl
  simp only [locationPath, cleanLocation_fileUri, scheme, authority, cutAt_of_absent noFragment,
    cutAt_of_absent noQuery]
  rw [← same, unquote_percentEncode staysPlain_slash, String.ofList_toList]
  rfl

end RunReports.Storage
