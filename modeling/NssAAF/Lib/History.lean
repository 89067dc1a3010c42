import NssAAF.Lib.Transducer
import Mathlib.Data.List.DropRight

/-!
# What a history says

A history is a list, oldest element first. `since p h` is what came after the last element with
`p`, `countSince` counts in it, and `latest f h` is the last value that `f` takes. The lemmas say
how each of them changes with another element.

`Along step s P is` says that every step of a run meets `P` together with the steps before it, and
`along_of_inv` derives it from an invariant that relates the state to the history.
-/

namespace History

open Transducer

section Lists

variable {α β : Type*} {p q : α → Prop} [DecidablePred p] [DecidablePred q]

/-- What came after the last element with `p`. -/
def since (p : α → Prop) [DecidablePred p] (h : List α) : List α := h.rtakeWhile fun x => ¬ p x

theorem since_concat_of {x : α} (hx : p x) (h : List α) : since p (h ++ [x]) = [] := by
  unfold since
  rw [List.rtakeWhile_concat, if_neg (by simpa using hx)]

theorem since_concat {x : α} (hx : ¬ p x) (h : List α) :
    since p (h ++ [x]) = since p h ++ [x] := by
  unfold since
  rw [List.rtakeWhile_concat, if_pos (by simpa using hx)]

/-- How many elements with `q` came after the last one with `p`. -/
def countSince (q p : α → Prop) [DecidablePred q] [DecidablePred p] (h : List α) : ℕ :=
  (since p h).countP fun x => q x

@[simp] theorem countSince_nil : countSince q p [] = 0 := rfl

theorem countSince_concat_of {x : α} (hx : p x) (h : List α) : countSince q p (h ++ [x]) = 0 := by
  unfold countSince
  rw [since_concat_of hx, List.countP_nil]

theorem countSince_concat {x : α} (hx : ¬ p x) (h : List α) :
    countSince q p (h ++ [x]) = countSince q p h + if q x then 1 else 0 := by
  unfold countSince
  rw [since_concat hx, List.countP_append, List.countP_singleton]
  simp only [decide_eq_true_eq]

/-- The last value of `f`. -/
def latest (f : α → Option β) (h : List α) : Option β := (h.filterMap f).getLast?

theorem latest_concat (f : α → Option β) (h : List α) (x : α) :
    latest f (h ++ [x]) = (f x).or (latest f h) := by
  unfold latest
  rw [List.filterMap_append, List.getLast?_append]
  congr 1
  cases hx : f x with
  | none => simp [hx]
  | some b => simp [hx]

theorem exists_mem_concat {P : α → Prop} {h : List α} {x : α} (hP : ∃ y ∈ h, P y) :
    ∃ y ∈ h ++ [x], P y := by
  obtain ⟨y, hmem, hy⟩ := hP
  exact ⟨y, List.mem_append_left _ hmem, hy⟩

end Lists

section Runs

variable {σ ι ω : Type*} (step : σ → ι → ω × σ) (s : σ)

/-- Every step of a run meets `P` together with the steps before it. -/
def Along (P : List (Record σ ι ω) → Record σ ι ω → Prop) (is : List ι) : Prop :=
  ∀ is₁ i is₂, is = is₁ ++ i :: is₂ → P (trace step s is₁) (record step (final step s is₁) i)

variable {step s} {J : List (Record σ ι ω) → σ → Prop}
  {C P : List (Record σ ι ω) → Record σ ι ω → Prop} {is : List ι}

theorem Along.of_append {js : List ι} (h : Along step s P (is ++ js)) : Along step s P is := by
  rintro is₁ i is₂ rfl
  exact h is₁ i (is₂ ++ js) (by rw [List.append_assoc, List.cons_append])

theorem map_input_trace (step : σ → ι → ω × σ) (s : σ) (is : List ι) :
    (trace step s is).map Record.input = is := by
  induction is generalizing s with
  | nil => rfl
  | cons i is ih => exact congrArg (i :: ·) (ih _)

/-- **History rule, with a condition on the history.** -/
theorem inv_of_along
    (hstep : ∀ h s i, J h s → C h (record step s i) → J (h ++ [record step s i]) (step s i).2)
    (h0 : J [] s) (hC : Along step s C is) : J (trace step s is) (final step s is) := by
  induction is using List.reverseRecOn with
  | nil => exact h0
  | append_singleton is i ih =>
    rw [trace_append, final_append]
    exact hstep _ _ _ (ih hC.of_append) (hC is i [] rfl)

theorem along_of_inv
    (hstep : ∀ h s i, J h s → C h (record step s i) → J (h ++ [record step s i]) (step s i).2)
    (hout : ∀ h s i, J h s → C h (record step s i) → P h (record step s i))
    (h0 : J [] s) (hC : Along step s C is) : Along step s P is := by
  intro is₁ i is₂ his
  have hJ := inv_of_along hstep h0 (Along.of_append (his ▸ hC))
  exact hout _ _ _ hJ (hC is₁ i is₂ his)

/-- Two conditions on runs are the same if each step that meets the first one leads to a state with
`J`, and they agree on the steps from such states. -/
theorem along_congr (h0 : J [] s)
    (hJ : ∀ h s i, P h (record step s i) → J (h ++ [record step s i]) (step s i).2)
    (hiff : ∀ h s i, J h s → (P h (record step s i) ↔ C h (record step s i))) :
    Along step s P is ↔ Along step s C is := by
  constructor
  · intro hP
    refine along_of_inv (J := J) (C := P) (fun h s i _ => hJ h s i) ?_ h0 hP
    exact fun h s i hs => (hiff h s i hs).mp
  · intro hC
    refine along_of_inv (J := J) (C := C) ?_ (fun h s i hs => (hiff h s i hs).mpr) h0 hC
    exact fun h s i hs hc => hJ h s i ((hiff h s i hs).mpr hc)

/-- `Along`, step by step, after the steps `h`. -/
def AlongFrom (step : σ → ι → ω × σ) (P : List (Record σ ι ω) → Record σ ι ω → Prop) :
    List (Record σ ι ω) → σ → List ι → Prop
  | _, _, [] => True
  | h, s, i :: is =>
    P h (record step s i) ∧ AlongFrom step P (h ++ [record step s i]) (step s i).2 is

theorem along_of_alongFrom (h : AlongFrom step P [] s is) : Along step s P is := by
  -- generalised over the steps already taken
  have key : ∀ (is : List ι) (h : List (Record σ ι ω)) (s : σ), AlongFrom step P h s is →
      ∀ is₁ i is₂, is = is₁ ++ i :: is₂ →
        P (h ++ trace step s is₁) (record step (final step s is₁) i) := by
    intro is
    induction is with
    | nil => rintro h s - is₁ i is₂ his; simp at his
    | cons j is ih =>
      rintro h s ⟨hj, htail⟩ is₁ i is₂ his
      cases is₁ with
      | nil =>
        obtain ⟨rfl, -⟩ := List.cons.inj his
        rw [trace_nil, List.append_nil]
        exact hj
      | cons k is₁ =>
        obtain ⟨rfl, hrest⟩ := List.cons.inj his
        have := ih _ _ htail is₁ i is₂ hrest
        rwa [List.append_assoc] at this
  intro is₁ i is₂ his
  exact key is [] s h is₁ i is₂ his

/-- Two conditions that agree on the steps from states with `J` agree on the runs that keep `J`. -/
theorem alongFrom_congr
    (hstep : ∀ h s i, i ∈ is → J h s → J (h ++ [record step s i]) (step s i).2)
    (hiff : ∀ h s i, i ∈ is → J h s → (P h (record step s i) ↔ C h (record step s i)))
    {h : List (Record σ ι ω)} {s : σ} (h0 : J h s) :
    AlongFrom step P h s is ↔ AlongFrom step C h s is := by
  induction is generalizing h s with
  | nil => exact Iff.rfl
  | cons i is ih =>
    have hmem : i ∈ i :: is := List.mem_cons_self ..
    exact and_congr (hiff h s i hmem h0)
      (ih (fun h s j hj => hstep h s j (List.mem_cons_of_mem _ hj))
        (fun h s j hj => hiff h s j (List.mem_cons_of_mem _ hj)) (hstep h s i hmem h0))

instance decidableAlongFrom [∀ h r, Decidable (P h r)] :
    ∀ (h : List (Record σ ι ω)) (s : σ) (is : List ι), Decidable (AlongFrom step P h s is)
  | _, _, [] => .isTrue trivial
  | h, s, i :: is =>
    have := decidableAlongFrom (h ++ [record step s i]) (step s i).2 is
    inferInstanceAs (Decidable (_ ∧ _))

end Runs

end History
