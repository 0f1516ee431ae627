import RunReports.Proofs.BucketLocations
import RunReports.Proofs.DirectoryUploads

/-! # What is uploaded is read back

The location that an upload gives leads back to the bytes that were uploaded: as an object, through
whatever client of the same store, and as a file, from whatever working directory. One object or one
file has changed by then. -/
namespace RunReports.Storage

open RunReports.Action RunReports.Text

section Objects

variable {σ : Type} {client reader : ObjectClient σ} {inService : σ → Prop}
variable {held : σ → String → String → Option (List UInt8)} {location : String} {b : Bucket}

/-- Notebooks are read back from a bucket. -/
theorem Bucket.readBack (keeps : KeepsBytes client inService held)
    (keepsToo : KeepsBytes reader inService held) (at_ : Bucket.at location = .ok b)
    (runName reportName : String) (content : List UInt8) {s : σ} (up : inService s) :
    ∃ after, (b.upload client content (notebookPath runName reportName)).run s =
        (.ok (b.place runName reportName), after) ∧
      ((download reader (b.place runName reportName)).run after).1 = .ok content ∧
      ∀ bucket key, (bucket, key) ≠ (b.name, b.key (notebookPath runName reportName)) →
        held after bucket key = held s bucket key := by
  have split := Bucket.isSplit_of_at at_
  obtain ⟨after, uploaded, still, there, others⟩ :=
    keeps.upload b content (notebookPath runName reportName) up
  have found := split.splitLocation_location (split.notAround_notebookKey runName reportName)
  exact ⟨after, uploaded, keepsToo.download still found there, others⟩

theorem Bucket.place_scheme (b : Bucket) (runName reportName : String) :
    "gs://".toList <+: (b.place runName reportName).toList := by
  simp only [Bucket.place, Bucket.location, String.toList_append, List.append_assoc]
  exact List.prefix_append _ _

end Objects

section Files

variable {standpoint : Standpoint} {path destination location : String} {d : Directory}
variable {t after : FileTree} {content : List UInt8}

/-- Files are read back from below a directory, by their URIs. -/
theorem Directory.readBack (known : standpoint.IsRead) (at_ : Directory.at standpoint path = .ok d)
    (uploaded : (d.upload content destination).run t = (.ok location, after))
    (working : List String) : (fetchFile working location).run after = (.ok content, after) := by
  have stored := (d.upload_ensures content destination t).ok uploaded
  have entries := Directory.isEntryName_target (Directory.isEntryName_root known at_) stored.noNull
  have names : ∀ n ∈ d.target destination, IsName n := fun n there => (entries n there).toIsName
  obtain ⟨made, -, writes⟩ := stored.writes (Directory.root_notAbove at_)
  have read := writes.read (d.target_notAbove (Directory.root_notAbove at_) destination) working
  rw [stored.location_eq, fetchFile, locationPath_fileUri]
  dsimp only
  rw [hasNull_absoluteText names, read_absoluteText names, if_neg (by simp), run_bind, run_get]
  dsimp only
  rw [read]
  rfl

theorem fileUri_scheme (names : List String) : "file://".toList <+: (fileUri names).toList := by
  rw [fileUri, String.toList_append]
  exact List.prefix_append _ _

end Files

/-- What is uploaded is read back from the location that the upload gives, and nothing else has
changed: notebooks in a bucket, and files below a directory. -/
theorem uploads_readBack :
    (∀ {σ : Type} (client reader : ObjectClient σ) (inService : σ → Prop)
        (held : σ → String → String → Option (List UInt8)),
      KeepsBytes client inService held → KeepsBytes reader inService held →
      ∀ (location : String) (b : Bucket), Bucket.at location = .ok b →
      ∀ (runName reportName : String) (content : List UInt8) (s : σ), inService s →
      ∃ place after,
        (b.upload client content (notebookPath runName reportName)).run s = (.ok place, after) ∧
        "gs://".toList <+: place.toList ∧
        ((download reader place).run after).1 = .ok content ∧
        ∀ bucket key, (bucket, key) ≠ (b.name, b.key (notebookPath runName reportName)) →
          held after bucket key = held s bucket key) ∧
    (∀ (standpoint : Standpoint) (root : String) (d : Directory), standpoint.IsRead →
      Directory.at standpoint root = .ok d →
      ∀ (content : List UInt8) (destination place : String) (t after : FileTree),
      (d.upload content destination).run t = (.ok place, after) →
      "file://".toList <+: place.toList ∧
        (∀ working, (fetchFile working place).run after = (.ok content, after)) ∧
        ∀ p, p ≠ d.target destination → after.fileAt p = t.fileAt p) := by
  constructor
  · intro σ client reader inService held keeps keepsToo location b at_ runName reportName content
      s up
    obtain ⟨after, uploaded, back⟩ :=
      Bucket.readBack keeps keepsToo at_ runName reportName content up
    exact ⟨_, after, uploaded, b.place_scheme runName reportName, back⟩
  · intro standpoint root d known at_ content destination place t after uploaded
    have stored := (d.upload_ensures content destination t).ok uploaded
    refine ⟨?_, Directory.readBack known at_ uploaded, ?_⟩
    · rw [stored.location_eq]
      exact fileUri_scheme (d.target destination)
    · exact (stored.overwrites (Directory.root_notAbove at_)).others

/-- A location with slashes all around, and a destination of characters that a URI escapes. -/
theorem uploads_readBack_reserved :
    (Bucket.at "gs://bucket//reports/" = .ok reportsBucket ∧ ObjectStore.empty.outage = none ∧
      ∃ place after,
        (reportsBucket.upload ObjectStore.client [1] (notebookPath "/a" "b c/")).run
          ObjectStore.empty = (.ok place, after) ∧
        "gs://".toList <+: place.toList ∧
        ((download ObjectStore.client place).run after).1 = .ok [1] ∧
        ∀ bucket key,
          (bucket, key) ≠ (reportsBucket.name, reportsBucket.key (notebookPath "/a" "b c/")) →
          after.get? bucket key = ObjectStore.empty.get? bucket key) ∧
    ((Standpoint.mk ["srv"] [] 975).IsRead ∧
      Directory.at ⟨["srv"], [], 975⟩ "data" = .ok ⟨["srv", "data"], 975⟩ ∧
      ∃ place after, ((Directory.mk ["srv", "data"] 975).upload [1] "a b/100%/#?;ü😀").run
          FileTree.empty = (.ok place, after) ∧
        "file://".toList <+: place.toList ∧
        (∀ working, (fetchFile working place).run after = (.ok [1], after)) ∧
        ∀ p, p ≠ (Directory.mk ["srv", "data"] 975).target "a b/100%/#?;ü😀" →
          after.fileAt p = FileTree.empty.fileAt p) := by
  constructor
  · have at_ : Bucket.at "gs://bucket//reports/" = .ok reportsBucket := by decide
    exact ⟨at_, rfl, uploads_readBack.1 ObjectStore.client ObjectStore.client _ _
      keepsBytes_objectStore keepsBytes_objectStore "gs://bucket//reports/" _ at_ "/a" "b c/" [1]
      ObjectStore.empty rfl⟩
  · have known : (Standpoint.mk ["srv"] [] 975).IsRead := by
      constructor
      · intro name there
        obtain rfl : name = "srv" := by simpa using there
        constructor <;> decide
      · intro user home found
        cases found
    have at_ : Directory.at ⟨["srv"], [], 975⟩ "data" = .ok ⟨["srv", "data"], 975⟩ := by decide
    have succeeds : (((Directory.mk ["srv", "data"] 975).upload [1] "a b/100%/#?;ü😀").run
        FileTree.empty).1.toOption.isSome = true := by decide +kernel
    rcases uploaded : ((Directory.mk ["srv", "data"] 975).upload [1] "a b/100%/#?;ü😀").run
        FileTree.empty with ⟨failure | place, after⟩
    · rw [uploaded] at succeeds
      cases succeeds
    · exact ⟨known, at_, place, after, rfl, uploads_readBack.2 _ "data" _ known at_ [1] _ place _
        after uploaded⟩

end RunReports.Storage
