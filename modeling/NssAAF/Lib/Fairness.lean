import NssAAF.Lib.Transducer
import Mathlib.Order.Filter.AtTopBot.Basic

/-!
# Endless runs

An endless run of a machine is a sequence of inputs. That something is scheduled again and again is
said with `∃ᶠ k in atTop`.

* `inv_stateAt` lifts a step-invariant to endless runs.
* `exists_meets` is the rule for what stays until a helpful input comes, and `leads_of_helpful` the
  one for what such an input brings about.
-/

namespace Transducer

open Filter

variable {σ ι ω : Type*}

/-- The state before the input `k` of an endless run. -/
def stateAt (step : σ → ι → ω × σ) (s : σ) (run : ℕ → ι) : ℕ → σ
  | 0 => s
  | k + 1 => (step (stateAt step s run k) (run k)).2

/-- Whenever `P` holds, `Q` holds then or later. -/
def Leads (states : ℕ → σ) (P Q : σ → Prop) : Prop := ∀ k, P (states k) → ∃ j ≥ k, Q (states j)

theorem inv_stateAt {step : σ → ι → ω × σ} {I : σ → Prop} {C : σ → ι → Prop}
    (hstep : ∀ s i, I s → C s i → I (step s i).2) {s : σ} (h0 : I s) {run : ℕ → ι}
    (hC : ∀ k, C (stateAt step s run k) (run k)) (k : ℕ) : I (stateAt step s run k) := by
  induction k with
  | zero => exact h0
  | succ k ih => exact hstep _ _ ih (hC k)

section Leads

variable {states : ℕ → σ} {run : ℕ → ι} {P Q R : σ → Prop} {H : ι → Prop}

theorem Leads.of_imp (h : ∀ s, P s → Q s) : Leads states P Q :=
  fun k hk => ⟨k, le_refl k, h _ hk⟩

theorem Leads.trans (hPQ : Leads states P Q) (hQR : Leads states Q R) : Leads states P R := by
  intro k hk
  obtain ⟨j, hkj, hj⟩ := hPQ k hk
  obtain ⟨i, hji, hi⟩ := hQR j hj
  exact ⟨i, le_trans hkj hji, hi⟩

theorem Leads.or (hPR : Leads states P R) (hQR : Leads states Q R) :
    Leads states (fun s => P s ∨ Q s) R := by
  intro k hk
  rcases hk with hk | hk
  · exact hPR k hk
  · exact hQR k hk

theorem Leads.exists {α : Type*} {P : α → σ → Prop} (h : ∀ a, Leads states (P a) R) :
    Leads states (fun s => ∃ a, P a s) R := by
  rintro k ⟨a, hk⟩
  exact h a k hk

/-- What stays until `Q` or a helpful input comes meets one of them, if helpful inputs come again
and again. -/
theorem exists_meets
    (hstay : ∀ k, P (states k) → ¬ H (run k) → P (states (k + 1)) ∨ Q (states (k + 1)))
    (hoften : ∃ᶠ k in atTop, H (run k)) {k : ℕ} (hk : P (states k)) :
    ∃ j ≥ k, Q (states j) ∨ P (states j) ∧ H (run j) := by
  obtain ⟨i, hi, hH⟩ := frequently_atTop.mp hoften k
  obtain ⟨d, rfl⟩ := Nat.exists_eq_add_of_le hi
  -- the induction is on the distance to a helpful input
  induction d generalizing k with
  | zero => exact ⟨k, le_refl k, Or.inr ⟨hk, hH⟩⟩
  | succ d ih =>
    by_cases hnow : H (run k)
    · exact ⟨k, le_refl k, Or.inr ⟨hk, hnow⟩⟩
    · rcases hstay k hk hnow with hP | hQ
      · have hH' : H (run (k + 1 + d)) := by
          rw [show k + 1 + d = k + (d + 1) by omega]
          exact hH
        obtain ⟨j, hkj, hj⟩ := ih hP (by omega) hH'
        exact ⟨j, by omega, hj⟩
      · exact ⟨k + 1, by omega, Or.inl hQ⟩

/-- **Helpful inputs.** What stays until `Q` comes, and comes to `Q` with a helpful input, leads to
`Q` if helpful inputs come again and again. -/
theorem leads_of_helpful
    (hstay : ∀ k, P (states k) → ¬ H (run k) → P (states (k + 1)) ∨ Q (states (k + 1)))
    (hhelp : ∀ k, P (states k) → H (run k) → Q (states (k + 1)))
    (hoften : ∃ᶠ k in atTop, H (run k)) : Leads states P Q := by
  intro k hk
  obtain ⟨j, hkj, hQ | ⟨hP, hH⟩⟩ := exists_meets hstay hoften hk
  · exact ⟨j, hkj, hQ⟩
  · exact ⟨j + 1, by omega, hhelp j hP hH⟩

end Leads

end Transducer
