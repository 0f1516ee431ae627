import RunReports.Proofs.Action
import RunReports.Store.Session

/-!
# What a session does to the rows

Reading leaves the rows alone, a statement is added to the pending ones, and a commit turns what
the session sees into the committed rows. A session is calm if nothing is amiss with the
database: no trouble is due, no commit will be refused and no table is gone. In a calm session
reading and committing do not fail, and a statement fails only if a rule forbids it.
-/
namespace RunReports.Store

open RunReports RunReports.Action

theorem Change.apply_lost (t : Tables) (c : Change) : (c.apply t).lost = t.lost := by
  cases c <;> rfl

theorem Tables.lostFault?_eq_none {t : Tables} (there : t.lost = []) (c : Change) :
    t.lostFault? c = none := by
  simp [Tables.lostFault?, there]

namespace Session

theorem view_lost (s : Session) : s.view.lost = s.committed.lost := by
  rw [view]
  generalize s.committed = t
  induction s.pending generalizing t with
  | nil => rfl
  | cons c cs ih => exact (ih (c.apply t)).trans (c.apply_lost t)

def Calm (s : Session) : Prop :=
  s.trouble = [] ∧ s.commitRefusal = none ∧ s.committed.lost = []

/-- A session has the committed rows of an earlier one, and more pending statements. -/
structure Extends (cs : List Change) (s t : Session) : Prop where
  committed : t.committed = s.committed
  pending : t.pending = s.pending ++ cs
  calm : s.Calm → t.Calm

abbrev Keeps (s t : Session) : Prop := Extends [] s t

variable {s t u : Session} {c : Change} {cs ds : List Change}

theorem Keeps.refl (s : Session) : Keeps s s := ⟨rfl, (List.append_nil _).symm, id⟩

theorem Extends.trans (h : Extends cs s t) (k : Extends ds t u) : Extends (cs ++ ds) s u :=
  ⟨k.committed.trans h.committed, by rw [k.pending, h.pending, List.append_assoc],
    fun calm => k.calm (h.calm calm)⟩

theorem Extends.keeps (h : Extends cs s t) (k : Keeps t u) : Extends cs s u := by
  simpa only [List.append_nil] using h.trans k

theorem Extends.view (h : Extends cs s t) : t.view = cs.foldl Change.apply s.view := by
  simp only [Session.view, h.committed, h.pending, List.foldl_append]

theorem Keeps.view (h : Keeps s t) : t.view = s.view := Extends.view h

theorem Keeps.pending (h : Keeps s t) : t.pending = s.pending :=
  (Extends.pending h).trans (List.append_nil _)

/-- With nothing pending, a session sees the committed rows. -/
theorem view_eq_committed (nothing : s.pending = []) : s.view = s.committed := by
  rw [view, nothing, List.foldl_nil]

theorem access_ensures (s : Session) :
    access.Ensures s (fun _ t => Keeps s t)
      (fun f t => Keeps s t ∧ ¬ s.Calm ∧ ∃ fault, f = .store fault) := by
  have kept : Keeps s { s with trouble := s.trouble.tail } :=
    ⟨rfl, (List.append_nil _).symm, fun calm => ⟨by simp [calm.1], calm.2⟩⟩
  rcases due : s.trouble with _ | ⟨_ | fault, rest⟩
  · exact ensures_of_ok (by simp [access, run_bind, due]; rfl) kept
  · exact ensures_of_ok (by simp [access, run_bind, due]; rfl) kept
  · refine ensures_of_error (f := .store fault) (by simp [access, run_bind, due])
      ⟨kept, fun calm => ?_, fault, rfl⟩
    rw [calm.1] at due
    cases due

theorem read_ensures {α : Type} (table : TableName) (f : Tables → α) (s : Session) :
    (read table f).Ensures s (fun x t => x = f s.view ∧ Keeps s t)
      (fun _ t => Keeps s t ∧ ¬ s.Calm) := by
  refine ((access_ensures s).mono (fun _ _ h => h) fun _ _ h => ⟨h.1, h.2.1⟩).bind ?_
  intro _ t kept
  simp only [Ensures, run_bind, run_get, kept.view]
  by_cases gone : s.view.lost.contains table
  · have upset : ¬ s.Calm := by
      intro calm
      simp [view_lost, calm.2.2] at gone
    rw [if_pos gone]
    exact ⟨kept, upset⟩
  · rw [if_neg gone]
    exact ⟨rfl, kept⟩

/-- A statement is added unless a rule forbids it or the database fails. -/
theorem execute_ensures (c : Change) (s : Session) :
    (execute c).Ensures s (fun _ t => Extends [c] s t ∧ s.view.refusal? c = none)
      (fun f t => Keeps s t ∧ (∃ fault, f = .store fault) ∧
        (s.Calm → ∃ fault, s.view.refusal? c = some fault ∧ f = .store fault)) := by
  refine ((access_ensures s).mono (fun _ _ h => h)
    fun _ _ h => ⟨h.1, h.2.2, fun calm => False.elim (h.2.1 calm)⟩).bind ?_
  intro _ t kept
  simp only [Ensures, run_bind, run_get, kept.view]
  cases lost : s.view.lostFault? c with
  | some fault =>
    refine ⟨kept, ⟨fault, rfl⟩, fun calm => ?_⟩
    rw [Tables.lostFault?_eq_none (s.view_lost.trans calm.2.2)] at lost
    cases lost
  | none =>
    cases refused : s.view.refusal? c with
    | some fault => exact ⟨kept, ⟨fault, rfl⟩, fun _ => ⟨fault, rfl, rfl⟩⟩
    | none => exact ⟨⟨kept.committed, congrArg (· ++ [c]) (Keeps.pending kept), kept.calm⟩, rfl⟩

/-- A commit that fails leaves everything as it was. -/
theorem commit_ensures (s : Session) :
    commit.Ensures s
      (fun _ t => t.committed = s.view ∧ t.pending = [] ∧ (s.Calm → t.Calm))
      (fun f t => Keeps s t ∧ ¬ s.Calm ∧ ∃ fault, f = .store fault) := by
  refine ((access_ensures s).mono (fun _ _ h => h) fun _ _ h => h).bind ?_
  intro _ t kept
  simp only [Ensures, run_bind, run_get]
  cases refusal : t.commitRefusal with
  | some text =>
    have upset : ¬ s.Calm := by
      intro calm
      rw [(kept.calm calm).2.1] at refusal
      cases refusal
    have pending : t.pending = s.pending ++ [] := Extends.pending kept
    exact ⟨⟨kept.committed, pending, fun calm => False.elim (upset calm)⟩, upset, _, rfl⟩
  | none =>
    refine ⟨kept.view, rfl, fun calm => ?_⟩
    exact ⟨(kept.calm calm).1, rfl, t.view_lost.trans (kept.calm calm).2.2⟩

/-- A commit that is to be refused does not succeed. -/
theorem commit_refused {text : String} (refusal : s.commitRefusal = some text) :
    commit.Ensures s (fun _ _ => False) fun _ t => t.committed = s.committed := by
  rcases due : s.trouble with _ | ⟨_ | fault, rest⟩
  · refine ensures_of_error (by simp [commit, access, run_bind, due, refusal]; rfl) ?_
    rfl
  · refine ensures_of_error (by simp [commit, access, run_bind, due, refusal]; rfl) ?_
    rfl
  · refine ensures_of_error (f := .store fault) (by simp [commit, access, run_bind, due]; rfl) ?_
    rfl

end Session

section Wrapped

variable {σ α : Type} {s : σ} {Q : α → σ → Prop} {E E' : Failure → σ → Prop}

/-- Only refusals of the database are told in other words. -/
theorem accessing_ensures {subject : Subject} {a : Action σ α} (h : a.Ensures s Q E)
    (told : ∀ fault t, E (.store fault) t → E' (.report (.database subject fault)) t)
    (other : ∀ f t, (∀ fault, f ≠ .store fault) → E f t → E' f t) :
    (accessing subject a).Ensures s Q E' := by
  refine h.tryCatch ?_
  intro f t e
  cases f with
  | store fault => exact ensures_throw (told fault t e)
  | _ => exact ensures_throw (other _ t (fun fault same => by cases same) e)

theorem accessing_ensures_same {subject : Subject} {a : Action σ α} {P : σ → Prop}
    (h : a.Ensures s Q fun _ t => P t) : (accessing subject a).Ensures s Q fun _ t => P t :=
  accessing_ensures h (fun _ _ p => p) fun _ _ _ p => p

theorem orRollback_ensures {a : Action Session α} {s : Session} {Q : α → Session → Prop}
    {E : Failure → Session → Prop} (h : a.Ensures s Q E) :
    (orRollback a).Ensures s Q fun f t => ∃ u, E f u ∧ t = u.rollback := by
  refine h.tryCatch ?_
  intro f t e
  simpa only [Ensures, run_bind, run_modify, run_throw] using ⟨t, e, rfl⟩

end Wrapped

end RunReports.Store
