import RunReports.Storage.Bucket

/-! # Object stores

An object store in memory: bytes by bucket and key. It keeps a record of the uploads it was
asked for, and while it has an outage it refuses everything. -/
namespace RunReports.Storage

inductive Outage
  | refusing (code message : String)
  | unreachable (url : String)
  | other (message : String)
  deriving Repr, DecidableEq

/-- What the client of a store with an outage says about an operation. -/
def Outage.fault (operation : String) : Outage → ClientFault
  | .refusing code message => .refused operation code message
  | .unreachable url => .unreachable url
  | .other message => .other message

/-- The objects by bucket and key, the outage if there is one, and the uploads asked for, oldest
first. -/
structure ObjectStore where
  objects : List ((String × String) × List UInt8)
  outage : Option Outage
  uploads : List Upload
  deriving Repr

namespace ObjectStore

def empty : ObjectStore := ⟨[], none, []⟩

def get? (s : ObjectStore) (bucket key : String) : Option (List UInt8) :=
  s.objects.lookup (bucket, key)

def put (s : ObjectStore) (bucket key : String) (content : List UInt8) : ObjectStore :=
  { s with
    objects := ((bucket, key), content) :: s.objects.filter fun o => o.1 != (bucket, key) }

def store (u : Upload) : StateM ObjectStore (Except ClientFault Unit) := do
  modify fun s => { s with uploads := s.uploads ++ [u] }
  let s ← get
  match s.outage with
  | some outage => pure (.error (outage.fault "PutObject"))
  | none =>
    set (s.put u.bucket u.key u.content)
    pure (.ok ())

/-- Fetch an object. -/
def fetch (bucket key : String) : StateM ObjectStore (Except ClientFault (List UInt8)) := do
  let s ← get
  match s.outage, s.get? bucket key with
  | some outage, _ => pure (.error (outage.fault "GetObject"))
  | none, some content => pure (.ok content)
  | none, none => pure (.error (.refused "GetObject" "NoSuchKey" "missing"))

def client : ObjectClient ObjectStore := ⟨store, fetch⟩

end ObjectStore

end RunReports.Storage
