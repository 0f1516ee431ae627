import Mathlib.Logic.Function.Basic
import RunReports.Report.Creation

/-!
# Callers that share a database

Each caller has a session of its own: it sees the committed rows and its own pending statements.
What is outside is shared. While one caller takes a step no other one does, and nothing is amiss
with the database.
-/
namespace RunReports.Report

open RunReports RunReports.Store

variable {ι α σ : Type}

/-- The committed rows and what is outside, and the pending statements and the state of each
caller. -/
structure Shared (ι α σ : Type) where
  committed : Tables
  outside : σ
  pending : ι → List Change
  state : ι → α

namespace Shared

def start (t : Tables) (o : σ) (a : α) : Shared ι α σ := ⟨t, o, fun _ => [], fun _ => a⟩

def world (S : Shared ι α σ) (i : ι) : World σ := ⟨⟨S.committed, S.pending i, none, []⟩, S.outside⟩

variable [DecidableEq ι]

def put (S : Shared ι α σ) (i : ι) (p : α × World σ) : Shared ι α σ where
  committed := p.2.session.committed
  outside := p.2.outside
  pending := Function.update S.pending i p.2.session.pending
  state := Function.update S.state i p.1

variable {S : Shared ι α σ} {i j : ι} {p : α × World σ}

@[simp] theorem put_committed : (S.put i p).committed = p.2.session.committed := rfl

@[simp] theorem put_state_self : (S.put i p).state i = p.1 := Function.update_self ..

theorem put_state_other (other : j ≠ i) : (S.put i p).state j = S.state j :=
  Function.update_of_ne other ..

@[simp] theorem put_pending_self : (S.put i p).pending i = p.2.session.pending :=
  Function.update_self ..

theorem put_pending_other (other : j ≠ i) : (S.put i p).pending j = S.pending j :=
  Function.update_of_ne other ..

/-- What holds of each caller still does after a step if it holds of the one that took it. -/
theorem forall_put {P : ι → α → List Change → Prop} (own : P i p.1 p.2.session.pending)
    (others : ∀ j, j ≠ i → P j (S.state j) (S.pending j)) (j : ι) :
    P j ((S.put i p).state j) ((S.put i p).pending j) := by
  by_cases same : j = i
  · subst same
    rw [put_state_self, put_pending_self]
    exact own
  · rw [put_state_other same, put_pending_other same]
    exact others j same

end Shared

end RunReports.Report
