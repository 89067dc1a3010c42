import NssAAF.Lib.Transducer

/-!
# Two machines on the same inputs

Two machines are run on the same inputs and compared by what is observed of their outputs. While
they are related, the observations of a step are the same exactly if a condition holds, and then
they stay related. `observations_eq_iff` is the rule: the observations of two runs are the same
exactly if the condition holds all along.
-/

namespace Lockstep

open Transducer

variable {σ τ ι ω ω' α : Type*} (step : σ → ι → ω × σ) (step' : τ → ι → ω' × τ)

/-- The condition holds before every step of the two runs. -/
def Throughout (C : σ → τ → ι → Prop) : σ → τ → List ι → Prop
  | _, _, [] => True
  | s, t, i :: is => C s t i ∧ Throughout C (step s i).2 (step' t i).2 is

instance decidableThroughout {C : σ → τ → ι → Prop} [∀ s t i, Decidable (C s t i)] :
    ∀ (s : σ) (t : τ) (is : List ι), Decidable (Throughout step step' C s t is)
  | _, _, [] => .isTrue trivial
  | s, t, i :: is =>
    have : Decidable (Throughout step step' C (step s i).2 (step' t i).2 is) :=
      decidableThroughout (step s i).2 (step' t i).2 is
    inferInstanceAs (Decidable (_ ∧ _))

def observations (step : σ → ι → ω × σ) (f : ω → α) (s : σ) (is : List ι) : List α :=
  (trace step s is).map fun r => f r.output

theorem observations_cons (f : ω → α) (s : σ) (i : ι) (is : List ι) :
    observations step f s (i :: is) = f (step s i).1 :: observations step f (step s i).2 is := rfl

variable {step step'}

/-- **Lockstep rule.** -/
theorem observations_eq_iff {f : ω → α} {f' : ω' → α} {R : σ → τ → Prop} {P : ι → Prop}
    {C : σ → τ → ι → Prop}
    (hsame : ∀ s t i, R s t → P i → C s t i →
      f (step s i).1 = f' (step' t i).1 ∧ R (step s i).2 (step' t i).2)
    (hdiffer : ∀ s t i, R s t → P i → ¬ C s t i → f (step s i).1 ≠ f' (step' t i).1)
    {s : σ} {t : τ} (hR : R s t) {is : List ι} (hP : ∀ i ∈ is, P i) :
    observations step f s is = observations step' f' t is ↔ Throughout step step' C s t is := by
  induction is generalizing s t with
  | nil => exact iff_of_true rfl trivial
  | cons i is ih =>
    have hPi := hP i (List.mem_cons_self ..)
    rw [observations_cons, observations_cons, List.cons.injEq]
    show _ ↔ C s t i ∧ Throughout step step' C (step s i).2 (step' t i).2 is
    by_cases hC : C s t i
    · obtain ⟨hout, hpost⟩ := hsame s t i hR hPi hC
      rw [ih hpost fun j hj => hP j (List.mem_cons_of_mem _ hj), and_iff_right hout,
        and_iff_right hC]
    · exact iff_of_false (fun h => hdiffer s t i hR hPi hC h.1) fun h => hC h.1

end Lockstep
