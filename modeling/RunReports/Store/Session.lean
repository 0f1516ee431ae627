import RunReports.Failure
import RunReports.Store.Tables

/-! # Sessions

A session works on the committed rows together with its own pending statements, which nobody
else sees. A commit makes them part of the committed rows, a rollback drops them. Statements
are checked when they are made, against what the session sees then. The database may also fail
for reasons of its own: `trouble` tells what the next accesses meet. -/
namespace RunReports.Store

open RunReports

/-- The committed rows, the pending statements, oldest first, the text with which the next
commit will be refused, if it will be, and the faults that the next accesses meet, in order, none
where an access goes well. -/
structure Session where
  committed : Tables
  pending : List Change
  commitRefusal : Option String
  trouble : List (Option Fault)
  deriving Repr

namespace Session

def on (t : Tables) : Session := ⟨t, [], none, []⟩

def view (s : Session) : Tables := s.pending.foldl Change.apply s.committed

/-- Reach the database, which fails if trouble is due. -/
def access : Action Session Unit := do
  let s ← get
  set { s with trouble := s.trouble.tail }
  match s.trouble with
  | some fault :: _ => throw (.store fault)
  | _ => pure ()

def read {α : Type} (table : TableName) (f : Tables → α) : Action Session α := do
  access
  let t := (← get).view
  if t.lost.contains table then throw (.store (.noTable table.text))
  else pure (f t)

def execute (change : Change) : Action Session Unit := do
  access
  let s ← get
  let t := s.view
  match (t.lostFault? change).or (t.refusal? change) with
  | some fault => throw (.store fault)
  | none => set { s with pending := s.pending ++ [change] }

/-- Commit the pending statements. A refused commit leaves them pending. -/
def commit : Action Session Unit := do
  access
  let s ← get
  match s.commitRefusal with
  | some text =>
    set { s with commitRefusal := none }
    throw (.store (.reported text))
  | none => set { s with committed := s.view, pending := [] }

def rollback (s : Session) : Session := { s with pending := [] }

/-- Check references no more. Between statements and their commit this has no effect. -/
def uncheck (s : Session) : Session :=
  if s.pending.isEmpty then { s with committed := { s.committed with unchecked := true } } else s

/-- Commit, and take the table with a name away, with references unchecked where possible. -/
def dropTable (name : String) : Action Session Unit := do
  modify uncheck
  commit
  let s ← get
  match TableName.ofText? name with
  | none => throw (.store (.noTable name))
  | some table =>
    match s.committed.drop table with
    | .error fault => throw (.store fault)
    | .ok t => set { s with committed := t }

end Session

/-- Say what a database access was about, if the database refuses it. -/
def accessing {σ α : Type} (subject : Subject) (a : Action σ α) : Action σ α :=
  tryCatch a fun failure =>
    match failure with
    | .store fault => throw (.report (.database subject fault))
    | failure => throw failure

/-- What an action does, with the session rolled back if it fails. -/
def orRollback {α : Type} (a : Action Session α) : Action Session α :=
  tryCatch a fun failure => do
    modify Session.rollback
    throw failure

end RunReports.Store
