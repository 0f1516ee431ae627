import RunReports.Engine.Client

/-! # Scripted servers

Servers that answer requests as they were told to: a queue of outcomes that are given in order,
and a job engine that accepts submissions unless told otherwise and answers questions about jobs
with what was set for them. Both keep a record of the requests they got. -/
namespace RunReports.Rehearsal

open RunReports RunReports.Http RunReports.Text

def answer (status : Int) (body : String) : Outcome :=
  .answered ⟨status, utf8 body, none, .ok body⟩

/-- Outcomes to give in order, and the requests so far, oldest first. -/
structure Queue where
  outcomes : List Outcome
  requests : List Request
  deriving Repr

def Queue.exchange : Engine.Exchange Queue := fun request => do
  let q ← get
  match q.outcomes with
  | [] =>
    set { q with requests := q.requests ++ [request] }
    pure (answer 599 "no response scripted")
  | outcome :: rest =>
    set (Queue.mk rest (q.requests ++ [request]))
    pure outcome

/-- A job engine: what it says to questions about jobs, the outcomes of the next submissions (none
stands for acceptance), the number of accepted ones, and the requests so far, oldest first. -/
structure Server where
  answers : List ((String × String) × Outcome)
  submissions : List (Option Outcome)
  accepted : Nat
  requests : List Request
  deriving Repr

def Server.fresh : Server := ⟨[], [], 0, []⟩

def serverAddress : String := "http://engine:8000"

def serverVersion : String := "v1"

def engine : Engine.Endpoint := ⟨serverAddress, serverVersion⟩

def Server.accept (s : Server) : Outcome × Server :=
  let n := s.accepted + 1
  let body : Json := .obj [("id", .str ("job-" ++ toString n)), ("status", .str "Submitted")]
  (answer 201 body.compact, { s with accepted := n })

def Server.submit (s : Server) : Outcome × Server :=
  match s.submissions with
  | [] => s.accept
  | none :: rest => Server.accept { s with submissions := rest }
  | some outcome :: rest => (outcome, { s with submissions := rest })

def readQuestion (path : List Char) : String × String :=
  match (splitOn '/' path).reverse with
  | question :: jobId :: _ => (String.ofList jobId, String.ofList question)
  | pieces => ("", String.ofList pieces.flatten)

def Server.ask (s : Server) (jobId question : String) : Outcome :=
  (s.answers.lookup (jobId, question)).getD (answer 404 ("no " ++ question ++ " for " ++ jobId))

def Server.tell (s : Server) (jobId question : String) (outcome : Outcome) : Server :=
  { s with answers := ((jobId, question), outcome) :: s.answers }

def Server.note (s : Server) (request : Request) : Server :=
  { s with requests := s.requests ++ [request] }

def Server.reply (s : Server) : Request → Outcome × Server
  | .post _ _ => s.submit
  | .get url =>
    let (jobId, question) := readQuestion (unquote url.path)
    (s.ask jobId question, s)

end RunReports.Rehearsal
