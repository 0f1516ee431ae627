import RunReports.Failure

/-!
# Actions, step by step

An action ends in a state, with a value or with a failure. `Ensures` says what is so at the end:
one relation describes a value and the state it comes with, another one a failure. It is derived
along the action, by one rule for each way in which actions are built. An action on a part of
the state touches nothing else and may be built part by part.
-/
namespace RunReports.Action

variable {σ τ α β : Type}

@[simp] theorem run_pure (x : α) (s : σ) : (pure x : Action σ α).run s = (.ok x, s) := rfl

@[simp] theorem run_throw (f : Failure) (s : σ) :
    (throw f : Action σ α).run s = (.error f, s) := rfl

@[simp] theorem run_get (s : σ) : (get : Action σ σ).run s = (.ok s, s) := rfl

@[simp] theorem run_set (s t : σ) : (set t : Action σ PUnit).run s = (.ok ⟨⟩, t) := rfl

@[simp] theorem run_modify (change : σ → σ) (s : σ) :
    (modify change : Action σ PUnit).run s = (.ok ⟨⟩, change s) := rfl

theorem run_bind (a : Action σ α) (k : α → Action σ β) (s : σ) :
    (a >>= k).run s =
      match a.run s with
      | (.ok x, t) => (k x).run t
      | (.error f, t) => (.error f, t) := by
  change (ExceptT.bindCont k (a.run s).1 : StateM σ _) (a.run s).2 = _
  rcases a.run s with ⟨_ | _, _⟩ <;> rfl

theorem run_tryCatch (a : Action σ α) (handle : Failure → Action σ α) (s : σ) :
    (tryCatch a handle).run s =
      match a.run s with
      | (.ok x, t) => (.ok x, t)
      | (.error f, t) => (handle f).run t := by
  simp only [tryCatch, tryCatchThe, MonadExceptOf.tryCatch, ExceptT.tryCatch, ExceptT.run_mk]
  rcases ended : a.run s with ⟨_ | _, t⟩ <;>
  · have ended : a s = _ := ended
    simp only [bind, StateT.bind, ended]
    rfl

/-- From a state, the action ends with a value as `Q` says, or with a failure as `E` says. -/
def Ensures (a : Action σ α) (s : σ) (Q : α → σ → Prop) (E : Failure → σ → Prop) : Prop :=
  match a.run s with
  | (.ok x, t) => Q x t
  | (.error f, t) => E f t

section Rules

variable {a : Action σ α} {k : α → Action σ β} {s t : σ} {x : α} {f : Failure}
variable {Q Q' : α → σ → Prop} {R : β → σ → Prop} {E E' : Failure → σ → Prop}

theorem ensures_of_ok (h : a.run s = (.ok x, t)) (q : Q x t) : a.Ensures s Q E := by
  rw [Ensures, h]
  exact q

theorem ensures_of_error (h : a.run s = (.error f, t)) (e : E f t) : a.Ensures s Q E := by
  rw [Ensures, h]
  exact e

theorem Ensures.ok (h : a.Ensures s Q E) (ended : a.run s = (.ok x, t)) : Q x t := by
  rw [Ensures, ended] at h
  exact h

theorem Ensures.error (h : a.Ensures s Q E) (ended : a.run s = (.error f, t)) : E f t := by
  rw [Ensures, ended] at h
  exact h

theorem Ensures.succeeds (h : a.Ensures s Q fun _ _ => False) :
    ∃ x t, a.run s = (.ok x, t) ∧ Q x t := by
  rcases ended : a.run s with ⟨f | x, t⟩
  · exact False.elim (h.error ended)
  · exact ⟨x, t, rfl, h.ok ended⟩

theorem exists_ok (ends : (a.run s).1.toOption.isSome = true) : ∃ x t, a.run s = (.ok x, t) := by
  rcases ended : a.run s with ⟨f | x, t⟩
  · rw [ended] at ends
    cases ends
  · exact ⟨x, t, rfl⟩

theorem Ensures.state {P : σ → Prop} (h : a.Ensures s (fun _ t => P t) fun _ t => P t) :
    P (a.run s).2 := by
  rcases ended : a.run s with ⟨f | x, t⟩
  · exact h.error ended
  · exact h.ok ended

theorem ensures_run (a : Action σ α) (s : σ) :
    a.Ensures s (fun y t => a.run s = (.ok y, t)) (fun f t => a.run s = (.error f, t)) := by
  cases ended : a.run s with
  | mk r t =>
    cases r with
    | ok y => exact ensures_of_ok ended rfl
    | error f => exact ensures_of_error ended rfl

theorem Ensures.mono (h : a.Ensures s Q E) (value : ∀ x t, Q x t → Q' x t)
    (failure : ∀ f t, E f t → E' f t) : a.Ensures s Q' E' := by
  cases ended : a.run s with
  | mk r t =>
    cases r with
    | ok x => exact ensures_of_ok ended (value x t (h.ok ended))
    | error f => exact ensures_of_error ended (failure f t (h.error ended))

/-- What is so at the end is so of this very end. -/
theorem Ensures.ran (h : a.Ensures s Q E) :
    a.Ensures s (fun y t => a.run s = (.ok y, t) ∧ Q y t)
      (fun g t => a.run s = (.error g, t) ∧ E g t) := by
  rcases ended : a.run s with ⟨g | y, t⟩
  · exact ensures_of_error ended ⟨rfl, h.error ended⟩
  · exact ensures_of_ok ended ⟨rfl, h.ok ended⟩

theorem ensures_pure (q : Q x s) : (pure x : Action σ α).Ensures s Q E := q

theorem ensures_throw (e : E f s) : (throw f : Action σ α).Ensures s Q E := e

theorem ensures_get : (get : Action σ σ).Ensures s (fun x t => x = s ∧ t = s) E := ⟨rfl, rfl⟩

theorem ensures_set : (set t : Action σ PUnit).Ensures s (fun _ u => u = t) E := rfl

/-- The second action starts where the first one ends with a value. -/
theorem Ensures.bind (h : a.Ensures s Q E) (next : ∀ x t, Q x t → (k x).Ensures t R E) :
    (a >>= k).Ensures s R E := by
  unfold Ensures at *
  rw [run_bind]
  cases ended : a.run s with
  | mk r t =>
    rw [ended] at h
    cases r with
    | ok x => exact next x t h
    | error f => exact h

/-- A failure is handed to the handler, in the state that the action left. -/
theorem Ensures.tryCatch {handle : Failure → Action σ α} (h : a.Ensures s Q E)
    (handled : ∀ f t, E f t → (handle f).Ensures t Q E') :
    (tryCatch a handle).Ensures s Q E' := by
  unfold Ensures at *
  rw [run_tryCatch]
  cases ended : a.run s with
  | mk r t =>
    rw [ended] at h
    cases r with
    | ok x => exact h
    | error f => exact handled f t h

end Rules

-- What an action ensures is derived by the rules, not by running it.
attribute [irreducible] Ensures

section Parts

variable {part : σ → τ} {put : τ → σ → σ}

theorem run_within (a : Action τ α) (s : σ) :
    (within part put a).run s = ((a.run (part s)).1, put (a.run (part s)).2 s) := rfl

theorem Ensures.within {a : Action τ α} {s : σ} {Q : α → τ → Prop} {E : Failure → τ → Prop}
    (h : a.Ensures (part s) Q E) :
    (within part put a).Ensures s (fun x t => ∃ u, Q x u ∧ t = put u s)
      (fun f t => ∃ u, E f u ∧ t = put u s) := by
  cases ended : a.run (part s) with
  | mk r u =>
    have run : (RunReports.within part put a).run s = (r, put u s) := by rw [run_within, ended]
    cases r with
    | ok x => exact ensures_of_ok run ⟨u, h.ok ended, rfl⟩
    | error f => exact ensures_of_error run ⟨u, h.error ended, rfl⟩

theorem within_pure (unchanged : ∀ s, put (part s) s = s) (x : α) :
    within part put (pure x) = pure x := by
  funext s
  exact congrArg (Except.ok x, ·) (unchanged s)

theorem within_throw (unchanged : ∀ s, put (part s) s = s) (f : Failure) :
    within part put (throw f : Action τ α) = throw f := by
  funext s
  exact congrArg (Except.error f, ·) (unchanged s)

/-- Actions on a part may follow each other inside of it or outside. -/
theorem within_bind (part_put : ∀ t s, part (put t s) = t)
    (put_put : ∀ t u s, put t (put u s) = put t s) (a : Action τ α) (k : α → Action τ β) :
    within part put (a >>= k) = within part put a >>= fun x => within part put (k x) := by
  funext s
  change (within part put (a >>= k)).run s = _
  rw [run_within, run_bind]
  change _ = (within part put a >>= fun x => within part put (k x)).run s
  rw [run_bind, run_within]
  cases ended : a.run (part s) with
  | mk r t =>
    cases r with
    | ok x => simp only [run_within, part_put, put_put]
    | error f => rfl

end Parts

end RunReports.Action
