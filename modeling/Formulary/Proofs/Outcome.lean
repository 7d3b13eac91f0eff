/-!
# Steps that may fail

How a success or a failure of joined steps is taken apart, what a run of steps keeps when every step
keeps it, and where a run fails.
-/

namespace Formulary

variable {ε α β σ : Type}

/-- Joined steps succeed if the first one does and the second one does with what it gave. -/
theorem bind_eq_ok_iff {x : Except ε α} {f : α → Except ε β} {b : β} :
    x >>= f = .ok b ↔ ∃ a, x = .ok a ∧ f a = .ok b := by
  cases x <;> simp [bind, Except.bind]

theorem map_eq_ok_iff {x : Except ε α} {f : α → β} {b : β} :
    x.map f = .ok b ↔ ∃ a, x = .ok a ∧ f a = b := by
  cases x <;> simp [Except.map]

/-- Joined steps fail if the first one does, or the second one with what the first one gave. -/
theorem bind_eq_error_iff {x : Except ε α} {f : α → Except ε β} {e : ε} :
    x >>= f = .error e ↔ x = .error e ∨ ∃ a, x = .ok a ∧ f a = .error e := by
  cases x <;> simp [bind, Except.bind]

/-- What every step keeps, a run of steps keeps. -/
theorem foldlM_keeps {P : σ → Prop} {step : σ → α → Except ε σ}
    (hstep : ∀ {s a s'}, P s → step s a = .ok s' → P s') {as : List α} {s s' : σ} (hs : P s)
    (h : as.foldlM step s = .ok s') : P s' := by
  induction as generalizing s with
  | nil =>
    cases h
    exact hs
  | cons a as ih =>
    rw [List.foldlM_cons, bind_eq_ok_iff] at h
    obtain ⟨t, ht, h⟩ := h
    exact ih (hstep hs ht) h

/-- A run of steps that fails has a step that fails, with the same failure. -/
theorem exists_of_foldlM_eq_error {step : σ → α → Except ε σ} {as : List α} {s : σ} {e : ε}
    (h : as.foldlM step s = .error e) : ∃ t, ∃ a ∈ as, step t a = .error e := by
  induction as generalizing s with
  | nil => cases h
  | cons a as ih =>
    rw [List.foldlM_cons, bind_eq_error_iff] at h
    rcases h with h | ⟨t, -, h⟩
    · exact ⟨s, a, List.mem_cons_self, h⟩
    · obtain ⟨u, b, hb, h⟩ := ih h
      exact ⟨u, b, List.mem_cons_of_mem _ hb, h⟩

end Formulary
