import RunReports.Failure
import RunReports.Storage.Location

/-! # Object storage

Notebooks are stored as objects of a bucket, under a common folder. Failures of the client that
reaches the object store become storage faults; a failure that is none of the client's own
stays what it is. -/
namespace RunReports.Storage

open RunReports RunReports.Text

inductive ClientFault
  | refused (operation code message : String)
  | unreachable (url : String)
  | other (message : String)
  deriving Repr, DecidableEq

def ClientFault.message : ClientFault → String
  | .refused operation code message =>
    "An error occurred (" ++ code ++ ") when calling the " ++ operation ++ " operation: " ++ message
  | .unreachable url => "Could not connect to the endpoint URL: \"" ++ url ++ "\""
  | .other message => message

structure Upload where
  bucket : String
  key : String
  content : List UInt8
  contentType : String
  deriving Repr, DecidableEq

/-- The client of an object store: store an object, fetch one by bucket and key. -/
structure ObjectClient (σ : Type) where
  put : Upload → StateM σ (Except ClientFault Unit)
  get : String → String → StateM σ (Except ClientFault (List UInt8))

/-- A bucket, and the folder in it that holds the notebooks; the folder may be empty. -/
structure Bucket where
  name : String
  folder : String
  deriving Repr, DecidableEq

def Bucket.at (location : String) : Except Fault Bucket := do
  let (name, folder) ← splitLocation location
  .ok ⟨name, folder⟩

def Bucket.key (b : Bucket) (path : String) : String :=
  let path := stripChar '/' path
  if b.folder.isEmpty then path else b.folder ++ "/" ++ path

def Bucket.location (b : Bucket) (key : String) : String := bucketScheme ++ b.name ++ "/" ++ key

def ClientFault.failure (location : String) : ClientFault → Failure
  | .other message => .badValue message
  | fault => .report (.storage (.failed location fault.message))

def notebookContentType : String := "application/x-ipynb+json"

/-- Store bytes below the folder; the location they are stored at is returned. -/
def Bucket.upload {σ : Type} (client : ObjectClient σ) (b : Bucket) (content : List UInt8)
    (path : String) : Action σ String := do
  let key := b.key path
  let location := b.location key
  match ← client.put ⟨b.name, key, content, notebookContentType⟩ with
  | .error fault => throw (fault.failure location)
  | .ok () => pure location

def download {σ : Type} (client : ObjectClient σ) (location : String) : Action σ (List UInt8) := do
  match splitLocation location with
  | .error fault => throw (.report (.storage fault))
  | .ok (bucket, key) =>
    match ← client.get bucket key with
    | .error fault => throw (fault.failure location)
    | .ok content => pure content

end RunReports.Storage
