import Mathlib.Tactic.Common

/-!
# Loops that may not end

A loop is a function `step` that either goes on with a new state or ends with a result. `run` gives
it a number of steps to take.

* `run_eq_none_of_reaches`: a loop that comes to a state from which it does not end does not end.
* `halts_iff`: if every step that does not stand still decreases a measure, the loop ends exactly if
  it comes to no state where it stands still.
-/

namespace Loop

variable {σ β : Type*} (step : σ → σ ⊕ β)

/-- The result after at most `fuel` steps. -/
def run : ℕ → σ → Option β
  | 0, _ => none
  | fuel + 1, s =>
    match step s with
    | .inl s' => run fuel s'
    | .inr b => some b

/-- The loop comes from the first state to the second. -/
inductive Reaches : σ → σ → Prop
  | refl (s : σ) : Reaches s s
  | step {s s' t : σ} (h : step s = .inl s') (ht : Reaches s' t) : Reaches s t

def Halts (s : σ) : Prop := ∃ fuel b, run step fuel s = some b

variable {step} {s s' t : σ} {b : β}

theorem run_succ_of_inl (h : step s = .inl s') (fuel : ℕ) :
    run step (fuel + 1) s = run step fuel s' := by
  rw [run, h]

theorem run_succ_of_inr (h : step s = .inr b) (fuel : ℕ) : run step (fuel + 1) s = some b := by
  rw [run, h]

theorem run_eq_none_of_fixed (h : step s = .inl s) (fuel : ℕ) : run step fuel s = none := by
  induction fuel with
  | zero => rfl
  | succ fuel ih => rw [run_succ_of_inl h, ih]

theorem run_eq_none_of_reaches (h : Reaches step s t) (ht : ∀ fuel, run step fuel t = none)
    (fuel : ℕ) : run step fuel s = none := by
  induction h generalizing fuel with
  | refl => exact ht fuel
  | step hs _ ih =>
    cases fuel with
    | zero => rfl
    | succ fuel => rw [run_succ_of_inl hs, ih ht]

theorem Reaches.snoc (h : Reaches step s t) (ht : step t = .inl s') : Reaches step s s' := by
  induction h with
  | refl => exact .step ht (.refl _)
  | step hs _ ih => exact .step hs (ih ht)

theorem exists_of_run {fuel : ℕ} (h : run step fuel s = some b) :
    ∃ t, Reaches step s t ∧ step t = .inr b := by
  induction fuel generalizing s with
  | zero => cases h
  | succ fuel ih =>
    cases hstep : step s with
    | inr b' =>
      rw [run_succ_of_inr hstep, Option.some.injEq] at h
      exact ⟨s, .refl s, h ▸ hstep⟩
    | inl s' =>
      rw [run_succ_of_inl hstep] at h
      obtain ⟨t, ht, hb⟩ := ih h
      exact ⟨t, .step hstep ht, hb⟩

/-- There is one result: that of a state that the loop comes to and where it ends. -/
theorem eq_of_run {b' : β} {fuel : ℕ} (h : Reaches step s t) (ht : step t = .inr b)
    (hrun : run step fuel s = some b') : b' = b := by
  induction h generalizing fuel with
  | refl =>
    cases fuel with
    | zero => cases hrun
    | succ fuel =>
      rw [run_succ_of_inr ht] at hrun
      exact (Option.some.inj hrun).symm
  | step hs _ ih =>
    cases fuel with
    | zero => cases hrun
    | succ fuel =>
      rw [run_succ_of_inl hs] at hrun
      exact ih ht hrun

theorem halts_of_decreasing {μ : σ → ℕ}
    (hμ : ∀ t t', Reaches step s t → step t = .inl t' → μ t' < μ t) : Halts step s := by
  have key : ∀ n s, μ s < n → (∀ t t', Reaches step s t → step t = .inl t' → μ t' < μ t) →
      ∃ b, run step n s = some b := by
    intro n
    induction n with
    | zero => exact fun s hs => absurd hs (Nat.not_lt_zero _)
    | succ n ih =>
      intro s hs hμ
      cases hstep : step s with
      | inr b => exact ⟨b, run_succ_of_inr hstep n⟩
      | inl s' =>
        have hlt := hμ s s' (.refl s) hstep
        obtain ⟨b, hb⟩ := ih s' (by omega) fun t t' ht => hμ t t' (.step hstep ht)
        exact ⟨b, (run_succ_of_inl hstep n).trans hb⟩
  obtain ⟨b, hb⟩ := key (μ s + 1) s (Nat.lt_succ_self _) hμ
  exact ⟨_, b, hb⟩

/-- **Standing still.** A loop whose steps stand still or decrease a measure ends exactly if it
comes to no state where it stands still. -/
theorem halts_iff {μ : σ → ℕ} (hμ : ∀ t t', step t = .inl t' → t' = t ∨ μ t' < μ t) :
    Halts step s ↔ ∀ t, Reaches step s t → step t ≠ .inl t := by
  constructor
  · rintro ⟨fuel, b, hb⟩ t ht hfix
    rw [run_eq_none_of_reaches ht (run_eq_none_of_fixed hfix)] at hb
    cases hb
  · intro h
    refine halts_of_decreasing (μ := μ) fun t t' ht hstep => ?_
    rcases hμ t t' hstep with rfl | hlt
    · exact absurd hstep (h _ ht)
    · exact hlt

end Loop
