import RunReports.Proofs.Action
import RunReports.Proofs.Cuts
import RunReports.Proofs.FileTrees
import RunReports.Storage.ObjectStore

/-! # Locations of stored objects

The location of an object is put together of a bucket, a folder and a path, and taken apart into
bucket and key when the object is fetched. The two agree because the bucket holds no slash and the
key has none at its ends. Of the client nothing is assumed but `KeepsBytes`; how it fails, and what
it makes of keys that a store would not take, is left open. -/
namespace RunReports.Storage

open RunReports.Action RunReports.Text

variable {σ : Type}

/-! ## Taking locations apart -/

structure Bucket.IsSplit (b : Bucket) : Prop where
  named : b.name ≠ ""
  noSlash : '/' ∉ b.name.toList
  folder : NotAround '/' b.folder.toList

theorem Bucket.isSplit_of_at {location : String} {b : Bucket} (at_ : Bucket.at location = .ok b) :
    b.IsSplit := by
  simp only [Bucket.at, splitLocation] at at_
  split at at_
  · cases at_
  · rename_i rest _
    have noSlash := cutAt_absent '/' rest
    rcases cut : cutAt '/' rest with ⟨name, key⟩
    rw [cut] at noSlash at_
    by_cases missing : name.isEmpty = true
    · simp [missing, bind, Except.bind] at at_
    · simp only [missing, Bool.false_eq_true, if_false, bind, Except.bind] at at_
      cases at_
      constructor
      · simpa using missing
      · simpa using noSlash
      · simpa using notAround_trimWhile '/' (key.getD [])

/-- A key without slashes around it is found again in its location, with its bucket. -/
theorem Bucket.IsSplit.splitLocation_location {b : Bucket} (h : b.IsSplit) {key : String}
    (inner : NotAround '/' key.toList) : splitLocation (b.location key) = .ok (b.name, key) := by
  have chars : (b.location key).toList =
      bucketScheme.toList ++ (b.name.toList ++ '/' :: key.toList) := by
    simp [Bucket.location, String.toList_append]
  have named : b.name.toList.isEmpty = false := by
    simpa using h.named
  rw [splitLocation, chars, afterStart?_eq_some.mpr rfl]
  simp only [cutAt_append h.noSlash, named, Option.getD_some, inner.trimWhile_eq,
    String.ofList_toList]
  rfl

/-- The key of a path is made of the folder and of what is left of the path. -/
theorem Bucket.IsSplit.notAround_key {b : Bucket} (h : b.IsSplit) {path : String}
    (whole : stripChar '/' path ≠ "") : NotAround '/' (b.key path).toList := by
  have inner : NotAround '/' (stripChar '/' path).toList := by
    rw [stripChar, String.toList_ofList]
    exact notAround_trimWhile '/' path.toList
  simp only [Bucket.key]
  by_cases top : b.folder.isEmpty = true
  · rwa [if_pos top]
  · rw [if_neg top]
    have nonempty : b.folder.toList ≠ [] := by simpa using top
    have rest : (stripChar '/' path).toList ≠ [] := by simpa using whole
    constructor
    · rw [String.toList_append, String.toList_append, List.append_assoc,
        List.head?_append_of_ne_nil _ nonempty]
      exact h.folder.front
    · rw [String.toList_append, List.getLast?_append_of_ne_nil _ rest]
      exact inner.back

/-! ## The path of a notebook -/

/-- A notebook's path, without the slashes at its front. -/
theorem toList_stripChar_notebookPath (runName reportName : String) :
    (stripChar '/' (notebookPath runName reportName)).toList =
      ((runName ++ "/" ++ reportName).toList ++ "/report_template.ipyn".toList).dropWhile
        (· == '/') ++ ['b'] := by
  have chars : (notebookPath runName reportName).toList =
      ((runName ++ "/" ++ reportName).toList ++ "/report_template.ipyn".toList) ++ ['b'] := by
    simp [notebookPath, notebookFileName, String.toList_append]
  rw [stripChar, String.toList_ofList, chars, trimWhile_concat (by decide)]

theorem Bucket.IsSplit.notAround_notebookKey {b : Bucket} (h : b.IsSplit)
    (runName reportName : String) :
    NotAround '/' (b.key (notebookPath runName reportName)).toList := by
  refine h.notAround_key fun empty => ?_
  have chars := congrArg String.toList empty
  rw [toList_stripChar_notebookPath] at chars
  simp at chars

def Bucket.place (b : Bucket) (runName reportName : String) : String :=
  b.location (b.key (notebookPath runName reportName))

def reportsBucket : Bucket := ⟨"bucket", "reports"⟩

/-! ## Stores that keep bytes -/

/-- A client of a store that keeps bytes by bucket and key, as long as it is in service. -/
structure KeepsBytes (client : ObjectClient σ) (inService : σ → Prop)
    (held : σ → String → String → Option (List UInt8)) : Prop where
  put (u : Upload) (s : σ) (up : inService s) : ∃ after,
    (client.put u).run s = (.ok (), after) ∧ inService after ∧
      held after u.bucket u.key = some u.content ∧
      ∀ bucket key, (bucket, key) ≠ (u.bucket, u.key) → held after bucket key = held s bucket key
  get (bucket key : String) (content : List UInt8) (s : σ) (up : inService s)
    (there : held s bucket key = some content) :
      ((client.get bucket key).run s).1 = .ok content

theorem keepsBytes_objectStore :
    KeepsBytes ObjectStore.client (fun s => s.outage = none) ObjectStore.get? := by
  constructor
  · intro u s up
    refine ⟨{ s with uploads := s.uploads ++ [u] }.put u.bucket u.key u.content, ?_, up, ?_, ?_⟩
    · simp only [ObjectStore.client, ObjectStore.store, StateT.run_bind, StateT.run_modify,
        StateT.run_get, pure_bind, up]
      rfl
    · exact List.lookup_cons_self
    · intro bucket key other
      have skipped : ((bucket, key) == (u.bucket, u.key)) = false := by simpa using other
      simp only [ObjectStore.get?, ObjectStore.put, List.lookup_cons, skipped]
      exact lookup_others other s.objects
  · intro bucket key content s up there
    simp only [ObjectStore.client, ObjectStore.fetch, StateT.run_bind, StateT.run_get, pure_bind,
      up, there]
    rfl

/-- What a client answers is no failure of the action that called it. -/
theorem run_client {α : Type} (call : StateM σ (Except ClientFault α)) (s : σ) :
    (call : Action σ (Except ClientFault α)).run s = (.ok (call.run s).1, (call.run s).2) := rfl

section Keeping

variable {client reader : ObjectClient σ} {inService : σ → Prop}
variable {held : σ → String → String → Option (List UInt8)} {s : σ}

/-- While the store is in service an upload puts one object, and gives its location. -/
theorem KeepsBytes.upload (keeps : KeepsBytes client inService held) (b : Bucket)
    (content : List UInt8) (path : String) (up : inService s) : ∃ after,
      (b.upload client content path).run s = (.ok (b.location (b.key path)), after) ∧
      inService after ∧ held after b.name (b.key path) = some content ∧
      ∀ bucket key, (bucket, key) ≠ (b.name, b.key path) →
        held after bucket key = held s bucket key := by
  obtain ⟨after, put, kept⟩ := keeps.put ⟨b.name, b.key path, content, notebookContentType⟩ s up
  refine ⟨after, ?_, kept⟩
  rw [Bucket.upload, run_bind, run_client, put]
  rfl

/-- While the store is in service an object is fetched from its location. -/
theorem KeepsBytes.download (keeps : KeepsBytes reader inService held) (up : inService s)
    {location bucket key : String} {content : List UInt8}
    (split : splitLocation location = .ok (bucket, key))
    (there : held s bucket key = some content) :
    ((download reader location).run s).1 = .ok content := by
  have got := keeps.get bucket key content s up there
  rw [Storage.download, split]
  dsimp only
  rw [run_bind, run_client, got]
  rfl

end Keeping

end RunReports.Storage
