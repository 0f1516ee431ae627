import RunReports.CommandLine.Commands
import RunReports.Rehearsal.Server
import RunReports.Storage.Directory
import RunReports.Storage.ObjectStore

/-! # Rehearsals

A whole deployment in memory: the session, an object store or a file tree for notebooks, a
scripted job engine, a web with one answer, and a clock that stands still. A rival may be told to
create a record of its own while the next submission is under way. -/
namespace RunReports.Rehearsal

open RunReports RunReports.Calendar RunReports.Report RunReports.Storage RunReports.Store

structure Rival where
  runId : String
  reportId : String
  status : String
  jobId : Option String
  deriving Repr

/-- What is outside of the session. What the web answers is the same for every request. -/
structure Outside where
  objects : ObjectStore
  files : FileTree
  server : Server
  web : Http.Outcome
  clock : Moment
  rival : Option Rival
  deriving Repr

/-- A rehearsal that nothing has happened in yet, on a file tree. -/
def Outside.fresh (files : FileTree) (clock : Moment) : Outside :=
  ⟨ObjectStore.empty, files, Server.fresh, answer 200 "", clock, none⟩

inductive Backend
  | bucket (bucket : Bucket)
  | directory (directory : Directory)
  deriving Repr

def rivalName : String := "race"

/-- Let the rival create its record and commit, on the same connection. -/
def letRivalIn (now : Moment) (r : Rival) : Action Session Unit := do
  let status ← supportedStatus r.status
  let _ ← insert now r.runId r.reportId status r.jobId (some rivalName) .null
  Session.commit

def changeOutside (change : Outside → Outside) : Action (World Outside) Unit :=
  modify fun w => { w with outside := change w.outside }

/-- Exchange a request with the scripted engine. A rival comes in during a submission, before it
is answered. -/
def exchange : Engine.Exchange (World Outside) := fun request => do
  changeOutside fun o => { o with server := o.server.note request }
  let o := (← get).outside
  match request, o.rival with
  | .post _ _, some rival =>
    changeOutside fun o => { o with rival := none }
    onSession (letRivalIn o.clock rival)
  | _, _ => pure ()
  let (outcome, server) := (← get).outside.server.reply request
  changeOutside fun o => { o with server := server }
  pure outcome

/-- Exchange a request with the web. -/
def fetch : Engine.Exchange (World Outside) := fun _ => do pure (← get).outside.web

def onObjects {α : Type} (a : Action ObjectStore α) : Action Outside α :=
  within Outside.objects (fun objects o => { o with objects := objects }) a

def onFiles {α : Type} (a : Action FileTree α) : Action Outside α :=
  within Outside.files (fun files o => { o with files := files }) a

def Backend.upload (b : Backend) (content : List UInt8) (path : String) : Action Outside String :=
  match b with
  | .bucket place => onObjects (place.upload ObjectStore.client content path)
  | .directory place => onFiles (place.upload content path)

def workingDirectory : List String := ["work"]

/-- The home directory of a rehearsal, where there is only one user. -/
def homeDirectory : List String := ["home"]

/-- How many calls within calls there is room for. -/
def callRoom : Nat := 975

def standpoint : Standpoint := ⟨workingDirectory, [("", homeDirectory)], callRoom⟩

def Backend.download (b : Backend) (location : String) : Action Outside (List UInt8) :=
  match b with
  | .bucket _ => onObjects (Storage.download ObjectStore.client location)
  | .directory _ => onFiles (fetchFile workingDirectory location)

def services (b : Backend) : Services Outside where
  upload content path := onOutside (b.upload content path)
  fetch := fetch
  exchange := exchange
  now w := w.outside.clock

def fileReader : CommandLine.FileReader Outside := fun text w =>
  let path := Path.read text
  match w.outside.files.read workingDirectory path with
  | .ok bytes => (.ok bytes, w)
  | .error fault => (.error (describeFault fault path.text), w)

end RunReports.Rehearsal
