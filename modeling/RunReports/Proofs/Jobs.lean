import Mathlib.Data.List.DropRight
import RunReports.Proofs.Surroundings
import RunReports.Report.Refresh

/-!
# What the job engine says

A job has an id that is neither empty nor surrounded by blanks, and its outputs are there exactly
if it has succeeded. Only a job that has succeeded makes a report succeed.
-/
namespace RunReports.Text

theorem trimWhile_trimWhile (p : Char → Bool) (s : List Char) :
    trimWhile p (trimWhile p s) = trimWhile p s := by
  have ends : ∀ l, dropEndWhile p l = l.rdropWhile p := fun _ => rfl
  have whole := List.dropWhile_eq_self_iff.mp (List.dropWhile_idempotent p s)
  have before := List.rdropWhile_prefix p (s.dropWhile p)
  have start : ((s.dropWhile p).rdropWhile p).dropWhile p = (s.dropWhile p).rdropWhile p := by
    refine List.dropWhile_eq_self_iff.mpr fun nonempty => ?_
    rw [before.getElem nonempty]
    exact whole (Nat.lt_of_lt_of_le nonempty before.length_le)
  simp only [trimWhile, ends, start, List.rdropWhile_idempotent]

theorem trimText_trimText (s : String) : trimText (trimText s) = trimText s := by
  simp only [trimText, String.toList_ofList, trim, trimWhile_trimWhile]

end RunReports.Text

namespace RunReports.Engine

open RunReports RunReports.Action

variable {σ : Type}

def IsJobId (jobId : String) : Prop := jobId ≠ "" ∧ Text.trimText jobId = jobId

theorem readSubmission_isJobId {fields : Json.Fields} {submission : Submission}
    (read : readSubmission fields = .ok submission) : IsJobId submission.jobId := by
  rw [readSubmission] at read
  split at read
  · cases read
  · rename_i given
    cases read
    refine ⟨fun empty => given ?_, Text.trimText_trimText _⟩
    simp only at empty
    rw [empty]
    rfl

theorem submit_isJobId (x : Exchange σ) (e : Endpoint) (source : String) (inputs : Json.Fields)
    (o : σ) :
    (e.submit x source inputs).Ensures o (fun submission _ => IsJobId submission.jobId)
      fun _ _ => True := by
  refine (Report.submit_ensures x e source inputs o).mono ?_ fun _ _ _ => trivial
  rintro submission o' ⟨url, outcome, fields, -, -, -, read⟩
  exact readSubmission_isJobId read

/-- The outputs of a job are there exactly if it has succeeded. -/
theorem jobState_outputs (x : Exchange σ) (e : Endpoint) (jobId : String) (o : σ) :
    (e.jobState x jobId).Ensures o
      (fun state _ => state.outputs.isSome = true ↔ state.status = succeeded)
      fun _ _ => True := by
  have called : ∀ path request o, (e.call x path request).Ensures o (fun _ _ => True)
      fun _ _ => True := fun path request o =>
    (Report.call_ensures x e path request o).mono (fun _ _ _ => trivial) fun _ _ _ => trivial
  refine (called _ _ o).bind ?_
  intro fields o' _
  generalize readStatus jobId fields = read
  cases read with
  | error fault => exact ensures_throw trivial
  | ok status =>
    simp only
    split
    · rename_i done
      refine (called _ _ o').bind ?_
      intro outputs o'' _
      exact ensures_pure (by simp [done])
    · rename_i open_
      exact ensures_pure (by simp [open_])

end RunReports.Engine

namespace RunReports.Report

open RunReports RunReports.Action RunReports.Store

variable {σ : Type}

theorem lookup_succeeded {status : String} {s : ReportStatus}
    (found : jobStatuses.lookup status = some s) : s = .succeeded ↔ status = Engine.succeeded := by
  obtain ⟨before, after, split, -⟩ := List.lookup_eq_some_iff.mp found
  have member : (status, s) ∈ jobStatuses := by
    rw [split]
    exact List.mem_append_right _ List.mem_cons_self
  simp only [jobStatuses, List.mem_cons, List.not_mem_nil, Prod.mk.injEq, or_false] at member
  rcases member with h | h | h | h | h | h | h <;> obtain ⟨rfl, rfl⟩ := h <;> decide

theorem launch_isJobId (e : Surroundings σ) (g : Generator) (d : Draft) (o : σ) :
    (e.launch g d).Ensures o (fun submission _ => Engine.IsJobId submission.jobId)
      fun _ _ => True := by
  refine ((ensures_run (e.sendUp g d) o).mono (fun _ _ h => h) fun _ _ _ => trivial).bind ?_
  intro inputs o' _
  refine ((ensures_run (Workflow.resolve e.fetch g.workflowUrl) o').mono (fun _ _ h => h)
    fun _ _ _ => trivial).bind ?_
  intro source o'' _
  exact Engine.submit_isJobId e.exchange g.engine source inputs o''

end RunReports.Report
