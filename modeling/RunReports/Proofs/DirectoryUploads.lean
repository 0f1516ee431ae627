import RunReports.Proofs.Action
import RunReports.Proofs.FilePaths
import RunReports.Proofs.FileTrees

/-! # Uploads stay below the root

An upload to a directory either writes the one file that its destination stands for, and that file
stands below the root part by part, or it fails and every file is as it was. Directories may have
been made before a fault is met, but not where the destination leads out of the root: then nothing
is touched. What a fault is called on the way is not described here. Where more directories are
missing than can be made at once, the failure is none of storage. -/
namespace RunReports.Storage

open RunReports.Action RunReports.Text

variable {d : Directory} {t after : FileTree} {content : List UInt8} {destination : String}

structure Directory.Stored (d : Directory) (t : FileTree) (content : List UInt8)
    (destination location : String) (after : FileTree) : Prop where
  noNull : hasNull destination = false
  inside : d.root <+: d.target destination
  location_eq : location = fileUri (d.target destination)
  written : ∃ made, FileTree.SameFiles t made ∧
    made.write (d.target destination) content = .ok after

inductive Directory.Failed (d : Directory) (t : FileTree) (destination : String) :
    Failure → FileTree → Prop
  | null (isNull : hasNull destination = true) : Failed d t destination nullCharacter t
  | escapes (noNull : hasNull destination = false)
      (outside : ¬ d.root <+: d.target destination) :
      Failed d t destination (.report (.storage (.escapesRoot destination))) t
  | crowded (noNull : hasNull destination = false) (inside : d.root <+: d.target destination)
      (many : d.levels < t.missingDirectories (d.target destination).dropLast) :
      Failed d t destination .tooManyDirectories t
  | faulted (cause : String) (after : FileTree) (inside : d.root <+: d.target destination)
      (same : FileTree.SameFiles t after) :
      Failed d t destination
        (.report (.storage (.failed (absoluteText (d.target destination)) cause))) after

/-- A file is placed where nothing is in the way, and otherwise no file changes. -/
theorem placeFile_ensures (t : FileTree) (content : List UInt8) (target : List String)
    (s : FileTree) : (placeFile t content target).Ensures s
      (fun location after => location = fileUri target ∧
        ∃ made, FileTree.SameFiles t made ∧ made.write target content = .ok after)
      (fun failure after => FileTree.SameFiles t after ∧
        ∃ cause, failure = .report (.storage (.failed (absoluteText target) cause))) := by
  rw [placeFile]
  have same := FileTree.sameFiles_ensureDirectories t target.dropLast
  rcases ensured : t.ensureDirectories target.dropLast with ⟨fault, made⟩
  rw [ensured] at same
  cases fault with
  | some fault =>
    refine ensures_set.bind fun _ u is => ?_
    rw [is]
    exact ensures_throw ⟨same, _, rfl⟩
  | none =>
    refine ensures_set.bind fun _ u is => ?_
    rw [is]
    cases written : made.write target content with
    | error fault => exact ensures_throw ⟨same, _, rfl⟩
    | ok after =>
      refine ensures_set.bind fun _ u is => ?_
      rw [is]
      exact ensures_pure ⟨rfl, made, same, written⟩

theorem Directory.upload_ensures (d : Directory) (content : List UInt8) (destination : String)
    (t : FileTree) : (d.upload content destination).Ensures t
      (fun location after => d.Stored t content destination location after)
      (fun failure after => d.Failed t destination failure after) := by
  rw [Directory.upload]
  by_cases isNull : hasNull destination = true
  · rw [if_pos isNull]
    exact ensures_throw (.null isNull)
  have noNull : hasNull destination = false := Bool.eq_false_iff.mpr isNull
  rw [if_neg isNull]
  by_cases inside : d.root <+: d.target destination
  · have within : d.root.isPrefixOf (d.target destination) = true :=
      List.isPrefixOf_iff_prefix.mpr inside
    rw [if_neg (by simp [within])]
    refine ensures_get.bind fun x u is => ?_
    rw [is.1, is.2]
    by_cases many : d.levels < t.missingDirectories (d.target destination).dropLast
    · rw [if_pos many]
      exact ensures_throw (.crowded noNull inside many)
    · rw [if_neg many]
      refine (placeFile_ensures t content (d.target destination) t).mono ?_ ?_
      · rintro location after ⟨uri, written⟩
        exact ⟨noNull, inside, uri, written⟩
      · rintro failure after ⟨same, cause, rfl⟩
        exact .faulted cause after inside same
  · have escapes : d.root.isPrefixOf (d.target destination) = false := by
      rw [← Bool.not_eq_true, List.isPrefixOf_iff_prefix]
      exact inside
    rw [if_pos (by simp [escapes])]
    exact ensures_throw (.escapes noNull inside)

theorem Directory.Stored.writes {location : String}
    (h : d.Stored t content destination location after) (root : ∀ n ∈ d.root, n ≠ "..") :
    ∃ made, FileTree.SameFiles t made ∧
      FileTree.Writes made (d.target destination) content after := by
  obtain ⟨made, same, written⟩ := h.written
  exact ⟨made, same, FileTree.write_ok (d.target_notAbove root destination) written⟩

/-- Storing changes no other file, though it may make directories first. -/
theorem Directory.Stored.overwrites {location : String}
    (h : d.Stored t content destination location after) (root : ∀ n ∈ d.root, n ≠ "..") :
    FileTree.Overwrites t (d.target destination) content after := by
  obtain ⟨made, same, writes⟩ := h.writes root
  exact same.overwrites writes.overwrites

/-- A fault on the way is not told in the words of a refusal. -/
theorem failed_message_ne (location cause destination : String) :
    (Failure.report (.storage (.failed location cause))).message ≠
      "Destination escapes storage root: " ++ destination := by
  intro same
  change "Storage operation on " ++ location ++ " failed: " ++ cause = _ at same
  have first := congrArg (fun text => text.toList.head?) same
  simp [String.toList_append] at first

theorem crowded_message_ne (destination : String) :
    Failure.tooManyDirectories.message ≠ "Destination escapes storage root: " ++ destination := by
  intro same
  have first := congrArg (fun text => text.toList.head?) same
  simp [Failure.message, String.toList_append] at first

/-- A destination is refused where following its components from the root ends outside of it. -/
theorem Directory.refused_iff (noNull : hasNull destination = false) :
    (∃ failure after, (d.upload content destination).run t = (.error failure, after) ∧
      failure.message = "Destination escapes storage root: " ++ destination) ↔
    ¬ d.root <+: d.target destination := by
  have ensured := d.upload_ensures content destination t
  constructor
  · rintro ⟨failure, after, ended, message⟩
    cases ensured.error ended with
    | null isNull => exact absurd isNull (by simp [noNull])
    | escapes _ outside => exact outside
    | crowded => exact absurd message (crowded_message_ne destination)
    | faulted cause => exact absurd message (failed_message_ne _ cause destination)
  · intro outside
    rcases ended : (d.upload content destination).run t with ⟨failure | location, after⟩
    · cases ensured.error ended with
      | null isNull => exact absurd isNull (by simp [noNull])
      | escapes => exact ⟨_, _, rfl, rfl⟩
      | crowded _ inside => exact absurd inside outside
      | faulted _ _ inside => exact absurd inside outside
    · exact absurd (ensured.ok ended).inside outside

/-- Whatever a destination is made of, its upload writes one file below the root, or fails and
writes none; the failure is one of storage unless there are too many directories to make. It is
refused, and nothing is touched, exactly where it leads out of the root. -/
theorem Directory.upload_confined {s : Standpoint} {path destination : String} {d : Directory}
    (at_ : Directory.at s path = .ok d) (noNull : hasNull destination = false) (t : FileTree)
    (content : List UInt8) :
    ∃ target, (∀ q, Leads d.root (components destination) q ↔ q = target) ∧
      (d.upload content destination).Ensures t
        (fun _ after => d.root <+: target ∧ FileTree.Overwrites t target content after)
        (fun failure after => FileTree.SameFiles t after ∧
          (t.missingDirectories target.dropLast ≤ d.levels →
            ∃ fault, failure = .report (.storage fault))) ∧
      ((∃ failure after, (d.upload content destination).run t = (.error failure, after) ∧
          failure.message = "Destination escapes storage root: " ++ destination) ↔
        ¬ d.root <+: target) ∧
      (¬ d.root <+: target → ((d.upload content destination).run t).2 = t) := by
  have ensured := d.upload_ensures content destination t
  refine ⟨d.target destination, fun q => Directory.leads_iff_target, ?_,
    Directory.refused_iff noNull, ?_⟩
  · refine ensured.mono ?_ ?_
    · intro location after stored
      exact ⟨stored.inside, stored.overwrites (Directory.root_notAbove at_)⟩
    · intro failure after failed
      cases failed with
      | null isNull => exact absurd isNull (by simp [noNull])
      | escapes => exact ⟨FileTree.SameFiles.refl t, fun _ => ⟨_, rfl⟩⟩
      | crowded _ _ many =>
        exact ⟨FileTree.SameFiles.refl t, fun room => absurd room (Nat.not_le_of_lt many)⟩
      | faulted _ _ _ same => exact ⟨same, fun _ => ⟨_, rfl⟩⟩
  · intro outside
    rcases ended : (d.upload content destination).run t with ⟨failure | location, after⟩
    · cases ensured.error ended with
      | null => rfl
      | escapes => rfl
      | crowded => rfl
      | faulted _ _ inside => exact absurd inside outside
    · exact absurd (ensured.ok ended).inside outside

/-- The directory next to the root is not in the root, though its name starts with that of the
root. A destination that leads into the root again is stored there. -/
theorem Directory.upload_confined_sibling :
    let d : Directory := ⟨["a", "b"], 975⟩
    Directory.at ⟨["srv"], [], 975⟩ "/a/./b/" = .ok d ∧
      hasNull "x/../../bc//x" = false ∧ hasNull "../b//c/./d" = false ∧
      (∃ failure, (d.upload [1] "x/../../bc//x").run FileTree.empty =
          (.error failure, FileTree.empty) ∧
        failure.message = "Destination escapes storage root: x/../../bc//x") ∧
      ∃ location after, (d.upload [1] "../b//c/./d").run FileTree.empty = (.ok location, after) ∧
        FileTree.Overwrites FileTree.empty ["a", "b", "c", "d"] [1] after := by
  intro d
  have at_ : Directory.at ⟨["srv"], [], 975⟩ "/a/./b/" = .ok d := by decide
  have refused : hasNull "x/../../bc//x" = false := by decide
  have stored : hasNull "../b//c/./d" = false := by decide
  refine ⟨at_, refused, stored, ?_, ?_⟩
  · obtain ⟨target, leads, -, escapes, untouched⟩ :=
      Directory.upload_confined at_ refused FileTree.empty [1]
    obtain rfl : d.target "x/../../bc//x" = target :=
      (leads _).mp (Directory.leads_iff_target.mpr rfl)
    have outside : ¬ d.root <+: d.target "x/../../bc//x" := by decide
    obtain ⟨failure, after, ended, message⟩ := escapes.mpr outside
    obtain rfl : after = FileTree.empty := by rw [← untouched outside, ended]
    exact ⟨failure, ended, message⟩
  · obtain ⟨target, leads, ends, -, -⟩ := Directory.upload_confined at_ stored FileTree.empty [1]
    obtain rfl : d.target "../b//c/./d" = target :=
      (leads _).mp (Directory.leads_iff_target.mpr rfl)
    have succeeds : ((d.upload [1] "../b//c/./d").run FileTree.empty).1.toOption.isSome = true := by
      decide +kernel
    rcases ended : (d.upload [1] "../b//c/./d").run FileTree.empty with ⟨failure | location, after⟩
    · rw [ended] at succeeds
      cases succeeds
    · have names : d.target "../b//c/./d" = ["a", "b", "c", "d"] := by decide
      exact ⟨location, after, rfl, names ▸ (ends.ok ended).2⟩

theorem Directory.upload_of_crowded (noNull : hasNull destination = false)
    (inside : d.root <+: d.target destination)
    (many : d.levels < t.missingDirectories (d.target destination).dropLast) :
    (d.upload content destination).run t = (.error .tooManyDirectories, t) := by
  have within : d.root.isPrefixOf (d.target destination) = true :=
    List.isPrefixOf_iff_prefix.mpr inside
  rw [Directory.upload, if_neg (by simp [noNull]), if_neg (by simp [within]), run_bind, run_get]
  dsimp only
  rw [if_pos many]
  rfl

/-- Where there is nothing, all directories are missing. -/
theorem FileTree.missingDirectories_empty {name : String} {rest : List String}
    (fits : isLongPath (absoluteText (name :: rest)) = false) (short : isLongName name = false) :
    FileTree.empty.missingDirectories (name :: rest) = rest.length + 1 := by
  rw [missingDirectories, if_neg (by simp [fits]), missingFrom, if_neg (by simp [short])]
  rfl

def farDestination (n : Nat) : String :=
  String.ofList ((List.replicate n ['a', '/']).flatten ++ ['x'])

theorem target_farDestination (d : Directory) (n : Nat) :
    d.target (farDestination n) = d.root ++ (List.replicate n "a" ++ ["x"]) := by
  have pieces : splitOn '/' ((List.replicate n ['a', '/']).flatten ++ ['x']) =
      List.replicate n ['a'] ++ [['x']] := by
    induction n with
    | zero => rfl
    | succ n ih =>
      rw [List.replicate_succ, List.flatten_cons, List.append_assoc, List.replicate_succ]
      have first : '/' ∉ ['a'] := by decide
      exact (splitOn_append first _).trans (congrArg _ ih)
  have plain : ∀ name ∈ List.replicate n "a" ++ ["x"], name = "a" ∨ name = "x" := by
    intro name there
    rcases List.mem_append.mp there with first | last
    · exact Or.inl (List.eq_of_mem_replicate first)
    · exact Or.inr (List.mem_singleton.mp last)
  have names : pathNames (farDestination n).toList = List.replicate n "a" ++ ["x"] := by
    rw [pathNames, farDestination, String.toList_ofList, pieces, List.map_append,
      List.map_replicate]
    refine List.filter_eq_self.mpr fun name there => ?_
    rcases plain name there with rfl | rfl <;> decide
  rw [Directory.target, names, resolveNames_of_notAbove, List.reverse_reverse]
  intro name there
  rcases plain name there with rfl | rfl <;> decide

theorem hasNull_farDestination (n : Nat) : hasNull (farDestination n) = false := by
  rw [hasNull_eq_false, farDestination, String.toList_ofList]
  simp

theorem length_farDirectory (n : Nat) :
    (utf8 (absoluteText ("data" :: List.replicate n "a"))).length ≤ 2 * n + 6 := by
  have letters : (utf8 "data").length = 4 ∧ (utf8 "a").length = 1 := by decide
  have length := length_absoluteText_le ("data" :: List.replicate n "a")
  rw [List.map_cons, List.map_replicate, List.sum_cons, List.sum_replicate, letters.1,
    letters.2] at length
  exact length.trans (by simp; omega)

/-- A destination below a thousand directories that are not there is not stored, and the failure is
none of storage. -/
theorem Directory.upload_crowded :
    let d : Directory := ⟨["data"], 975⟩
    Directory.at ⟨["srv"], [], 975⟩ "/data" = .ok d ∧ hasNull (farDestination 1000) = false ∧
      d.root <+: d.target (farDestination 1000) ∧
      (d.upload [1] (farDestination 1000)).run FileTree.empty =
        (.error .tooManyDirectories, FileTree.empty) ∧
      ∀ fault, Failure.tooManyDirectories ≠ .report (.storage fault) := by
  intro d
  have noNull := hasNull_farDestination 1000
  have target := target_farDestination d 1000
  have inside : d.root <+: d.target (farDestination 1000) := target ▸ List.prefix_append _ _
  refine ⟨by decide, noNull, inside, Directory.upload_of_crowded noNull inside ?_,
    fun fault same => by cases same⟩
  have above : (d.target (farDestination 1000)).dropLast = "data" :: List.replicate 1000 "a" := by
    rw [target, ← List.append_assoc, List.dropLast_concat]
    rfl
  have fits : isLongPath (absoluteText ("data" :: List.replicate 1000 "a")) = false :=
    decide_eq_false (Nat.not_lt_of_le ((length_farDirectory 1000).trans (by decide)))
  have short : isLongName "data" = false := by decide
  rw [above, FileTree.missingDirectories_empty fits short, List.length_replicate]
  decide

end RunReports.Storage
