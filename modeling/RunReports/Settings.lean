import RunReports.Decimal.Written
import RunReports.Report.Creation
import RunReports.Storage.Bucket
import RunReports.Storage.Directory

/-! # Settings

The settings of a deployment, read from named texts such as those of an environment. Names are
compared exactly, empty texts count as not given, and what is not given has its default. From
the settings follow where notebooks are stored and how reports are generated. -/
namespace RunReports

open RunReports.Decimal RunReports.Text

structure Settings where
  logLevel : String
  databaseUrl : String
  image : String
  storageBackend : String
  location : String
  localDirectory : String
  storageEndpoint : String
  accessKeyId : String
  secretKey : String
  engineAddress : String
  engineApiVersion : String
  engineTimeout : Binary64
  workflowUrl : String
  namespaced : Bool
  deriving Repr

namespace Settings

def readTruth? (s : String) : Option Bool :=
  let word := String.ofList (s.toList.map Char.toLower)
  if ["1", "true", "t", "yes", "y", "on"].contains word then some true
  else if ["0", "false", "f", "no", "n", "off"].contains word then some false
  else none

/-- The text that is given for a name; an empty text is not given. -/
def given? (texts : List (String × String)) (name : String) : Option String :=
  (texts.lookup name).filter fun s => !s.isEmpty

def number (texts : List (String × String)) (name : String) (default : Binary64) :
    Run.Checked Binary64 :=
  match given? texts name with
  | none => .ok default
  | some s =>
    match readSetting? s.toList with
    | some x => .ok x
    | none => .error [⟨[name], .number⟩]

def truth (texts : List (String × String)) (name : String) (default : Bool) : Run.Checked Bool :=
  match given? texts name with
  | none => .ok default
  | some s =>
    match readTruth? s with
    | some b => .ok b
    | none => .error [⟨[name], .truthValue⟩]

/-- The seconds that the engine has for an answer, if nothing else is set. -/
def defaultTimeout : Binary64 := .ofDecimal false 30 0

def read (texts : List (String × String)) : Run.Checked Settings :=
  let text (name default : String) : String := (given? texts name).getD default
  let build (timeout : Binary64) (namespaced : Bool) : Settings :=
    { logLevel := text "LOG_LEVEL" "info"
      databaseUrl := text "DATABASE_URL" "postgresql://localhost:5432/reportgen"
      image := text "REPORT_DOCKER_LOCATION" "reportgen/jupyter-report:latest"
      storageBackend := text "REPORT_STORAGE_BACKEND" "gcs"
      location := text "REPORT_LOCATION" "gs://reportgen-reports/reports"
      localDirectory := text "REPORT_LOCAL_STORAGE_DIR" "output/report_templates"
      storageEndpoint := text "GCS_INTEROP_ENDPOINT" "https://storage.googleapis.com"
      accessKeyId := text "GCS_HMAC_ACCESS_KEY_ID" ""
      secretKey := text "GCS_HMAC_SECRET" ""
      engineAddress := text "JOB_ENGINE_ADDRESS" "http://localhost:8000"
      engineApiVersion := text "JOB_ENGINE_API_VERSION" "v1"
      engineTimeout := timeout
      workflowUrl := text "REPORT_GENERATOR_WDL_URL" ""
      namespaced := namespaced }
  let start : Run.Checked (Binary64 → Bool → Settings) := .ok build
  (start.apply (number texts "JOB_ENGINE_TIMEOUT_SECONDS" defaultTimeout)).apply
    (truth texts "REPORT_NAMESPACE_RUNTIME_ATTRS" false)

def members (s : Settings) : Json.Fields :=
  [("LOG_LEVEL", .str s.logLevel),
    ("DATABASE_URL", .str s.databaseUrl),
    ("REPORT_DOCKER_LOCATION", .str s.image),
    ("REPORT_STORAGE_BACKEND", .str s.storageBackend),
    ("REPORT_LOCATION", .str s.location),
    ("REPORT_LOCAL_STORAGE_DIR", .str s.localDirectory),
    ("GCS_INTEROP_ENDPOINT", .str s.storageEndpoint),
    ("GCS_HMAC_ACCESS_KEY_ID", .str s.accessKeyId),
    ("GCS_HMAC_SECRET", .str s.secretKey),
    ("JOB_ENGINE_ADDRESS", .str s.engineAddress),
    ("JOB_ENGINE_API_VERSION", .str s.engineApiVersion),
    ("JOB_ENGINE_TIMEOUT_SECONDS", .num s.engineTimeout),
    ("REPORT_GENERATOR_WDL_URL", .str s.workflowUrl),
    ("REPORT_NAMESPACE_RUNTIME_ATTRS", .bool s.namespaced)]

def toJson (s : Settings) : Json := .obj s.members

def names : List String :=
  match read [] with
  | .ok s => s.members.map Prod.fst
  | .error _ => []

/-- How an object store is reached: its endpoint and the keys, where they are set. -/
structure Credentials where
  endpoint : String
  accessKeyId : Option String
  secretKey : Option String
  deriving Repr

inductive Backend
  | bucket (bucket : Storage.Bucket) (credentials : Credentials)
  | directory (directory : Storage.Directory)
  deriving Repr

def nonEmpty? (s : String) : Option String := if s.isEmpty then none else some s

def backend (place : Storage.Standpoint) (s : Settings) : Except Failure Backend :=
  let name := String.ofList ((trim s.storageBackend.toList).map Char.toLower)
  if name = "local" then (Storage.Directory.at place s.localDirectory).map .directory
  else if name = "gcs" then
    match Storage.Bucket.at s.location with
    | .ok bucket =>
      .ok (.bucket bucket ⟨s.storageEndpoint, nonEmpty? s.accessKeyId, nonEmpty? s.secretKey⟩)
    | .error fault => .error (.report (.storage fault))
  else .error (.badValue ("Unsupported REPORT_STORAGE_BACKEND: " ++ s.storageBackend))

def generator (s : Settings) : Except Failure Report.Generator := do
  let engine ← Engine.Endpoint.at s.engineAddress s.engineApiVersion
  .ok ⟨s.image, nonEmpty? s.workflowUrl, s.namespaced, engine⟩

end Settings

/-- How connections to a database server are pooled: the seconds to connect, the size of the
pool and how far it may overflow, the seconds to wait for a connection, and whether connections
are tried before they are used. -/
structure Pooling where
  connectTimeout : Nat
  size : Nat
  overflow : Nat
  timeout : Nat
  tryFirst : Bool
  deriving Repr, DecidableEq

/-- The pooling for a database URL; only servers of one kind are pooled. -/
def pooling? (databaseUrl : String) : Option Pooling :=
  if "postgresql://".toList.isPrefixOf databaseUrl.toList ||
      "postgres://".toList.isPrefixOf databaseUrl.toList then
    some ⟨5, 5, 10, 30, true⟩
  else none

end RunReports
