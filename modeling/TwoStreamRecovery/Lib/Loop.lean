import Mathlib.Data.Nat.Basic

/-!
# Loops

A loop repeats `step` until it returns a result.

* `loopFor`: at most `n` iterations.
* `loopFor_isSome`: the loop ends where a measure decreases.
* `loopFor_rule`: what every iteration preserves holds when the loop returns.
* `Returns`: the loop returns a result, after however many iterations.
-/

variable {S B : Type}

/-- The loop that repeats `step`; `n` bounds its length. -/
def loopFor (step : S → B ⊕ S) : ℕ → S → Option B
  | 0, _ => none
  | n + 1, s =>
    match step s with
    | .inl b => some b
    | .inr s' => loopFor step n s'

/-- The loop returns `b` from `s`. -/
inductive Returns (step : S → B ⊕ S) : S → B → Prop
  | done {s : S} {b : B} (h : step s = .inl b) : Returns step s b
  | next {s s' : S} {b : B} (h : step s = .inr s') (rest : Returns step s' b) : Returns step s b

variable {step : S → B ⊕ S} {I : S → Prop} {s s' : S} {b : B} {n : ℕ}

theorem returns_of_loopFor (h : loopFor step n s = some b) : Returns step s b := by
  induction n generalizing s with
  | zero => cases h
  | succ n ih =>
    simp only [loopFor] at h
    cases hstep : step s with
    | inl b' =>
      rw [hstep] at h
      obtain rfl := Option.some.inj h
      exact .done hstep
    | inr s' =>
      rw [hstep] at h
      exact .next hstep (ih h)

theorem Returns.of_inl {b' : B} (h : Returns step s b) (hstep : step s = .inl b') : b = b' := by
  cases h with
  | done h => exact Sum.inl.inj (h.symm.trans hstep)
  | next h _ => cases h.symm.trans hstep

theorem Returns.of_inr (h : Returns step s b) (hstep : step s = .inr s') : Returns step s' b := by
  cases h with
  | done h => cases h.symm.trans hstep
  | next h rest =>
    obtain rfl := Sum.inr.inj (h.symm.trans hstep)
    exact rest

/-- **Invariants.** What every iteration preserves holds when the loop returns. -/
theorem Returns.rule (hstep : ∀ s s', I s → step s = .inr s' → I s') (h : Returns step s b)
    (hs : I s) : ∃ s', I s' ∧ step s' = .inl b := by
  induction h with
  | done h => exact ⟨_, hs, h⟩
  | next h _ ih => exact ih (hstep _ _ hs h)

/-- **Termination.** A measure that every iteration decreases bounds the length of the loop. -/
theorem loopFor_isSome (μ : S → ℕ) (hstep : ∀ s s', I s → step s = .inr s' → I s' ∧ μ s' < μ s)
    (hs : I s) (hn : μ s < n) : ∃ b, loopFor step n s = some b := by
  induction n generalizing s with
  | zero => omega
  | succ n ih =>
    simp only [loopFor]
    cases h : step s with
    | inl b => exact ⟨b, rfl⟩
    | inr s' =>
      obtain ⟨hs', hlt⟩ := hstep s s' hs h
      exact ih hs' (by omega)
