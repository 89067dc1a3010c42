import Mathlib.Tactic.Common
import Mathlib.Data.List.Basic

/-!
# Runs of deterministic machines with inputs and outputs

A machine is a function `step : σ → ι → ω × σ`. Everything its environment chooses (the messages
that arrive, the scheduler's choice, the clock, the faults) is part of the input, so a run is a
list of inputs and `trace` is the list of its steps.

* `final` is the state after a run, `trace` its steps.
* `inv_final` and `inv_of_mem_trace` lift a step-invariant to runs.
* `history_inv` lifts an invariant that relates the state to the steps taken so far.
-/

namespace Transducer

variable {σ ι ω : Type*}

/-- One step of a run: the state before, the input, the output and the state after. -/
structure Record (σ ι ω : Type*) where
  pre : σ
  input : ι
  output : ω
  post : σ

variable (step : σ → ι → ω × σ)

/-- The step the machine takes in state `s` on input `i`. -/
def record (s : σ) (i : ι) : Record σ ι ω := ⟨s, i, (step s i).1, (step s i).2⟩

@[simp] theorem record_pre (s : σ) (i : ι) : (record step s i).pre = s := rfl
@[simp] theorem record_input (s : σ) (i : ι) : (record step s i).input = i := rfl
@[simp] theorem record_output (s : σ) (i : ι) : (record step s i).output = (step s i).1 := rfl
@[simp] theorem record_post (s : σ) (i : ι) : (record step s i).post = (step s i).2 := rfl

/-- The state after the inputs `is`. -/
def final : σ → List ι → σ
  | s, [] => s
  | s, i :: is => final (step s i).2 is

/-- The steps taken on the inputs `is`, oldest first. -/
def trace : σ → List ι → List (Record σ ι ω)
  | _, [] => []
  | s, i :: is => record step s i :: trace (step s i).2 is

@[simp] theorem final_nil (s : σ) : final step s [] = s := rfl
@[simp] theorem trace_nil (s : σ) : trace step s [] = [] := rfl

@[simp] theorem final_cons (s : σ) (i : ι) (is : List ι) :
    final step s (i :: is) = final step (step s i).2 is := rfl

@[simp] theorem trace_cons (s : σ) (i : ι) (is : List ι) :
    trace step s (i :: is) = record step s i :: trace step (step s i).2 is := rfl

theorem final_append (s : σ) (is js : List ι) :
    final step s (is ++ js) = final step (final step s is) js := by
  induction is generalizing s with
  | nil => rfl
  | cons i is ih => exact ih _

theorem trace_append (s : σ) (is js : List ι) :
    trace step s (is ++ js) = trace step s is ++ trace step (final step s is) js := by
  induction is generalizing s with
  | nil => rfl
  | cons i is ih =>
    rw [List.cons_append, trace_cons, ih, trace_cons, final_cons, List.cons_append]

/-- A step of a run is the step taken after some prefix of its inputs. -/
theorem mem_trace {s : σ} {is : List ι} {r : Record σ ι ω} :
    r ∈ trace step s is ↔
      ∃ is₁ i is₂, is = is₁ ++ i :: is₂ ∧ r = record step (final step s is₁) i := by
  induction is generalizing s with
  | nil => simp
  | cons i is ih =>
    rw [trace_cons, List.mem_cons, ih]
    constructor
    · rintro (rfl | ⟨is₁, j, is₂, rfl, rfl⟩)
      · exact ⟨[], i, is, rfl, rfl⟩
      · exact ⟨i :: is₁, j, is₂, rfl, rfl⟩
    · rintro ⟨is₁, j, is₂, h, rfl⟩
      cases is₁ with
      | nil =>
        obtain ⟨rfl, rfl⟩ := List.cons.inj h
        exact Or.inl rfl
      | cons k is₁ =>
        obtain ⟨rfl, rfl⟩ := List.cons.inj h
        exact Or.inr ⟨is₁, j, is₂, rfl, rfl⟩

section Rules

variable {step}

theorem input_mem_of_mem_trace {s : σ} {is : List ι} {r : Record σ ι ω}
    (hr : r ∈ trace step s is) : r.input ∈ is := by
  obtain ⟨is₁, i, is₂, rfl, rfl⟩ := (mem_trace step).mp hr
  exact List.mem_append_right _ (List.mem_cons_self ..)

theorem eq_record_of_mem_trace {s : σ} {is : List ι} {r : Record σ ι ω}
    (hr : r ∈ trace step s is) : r = record step r.pre r.input := by
  obtain ⟨is₁, i, is₂, rfl, rfl⟩ := (mem_trace step).mp hr
  rfl

theorem output_of_mem_trace {s : σ} {is : List ι} {r : Record σ ι ω}
    (hr : r ∈ trace step s is) : r.output = (step r.pre r.input).1 :=
  congrArg Record.output (eq_record_of_mem_trace hr)

/-- **History rule.** A relation between the steps taken so far and the state holds after every
run if it holds at the start and every step that meets `C` carries it over. -/
theorem history_inv {J : List (Record σ ι ω) → σ → Prop} {C : Record σ ι ω → Prop}
    (hstep : ∀ h s i, J h s → C (record step s i) → J (h ++ [record step s i]) (step s i).2)
    {s : σ} (h0 : J [] s) {is : List ι} (hC : ∀ r ∈ trace step s is, C r) :
    J (trace step s is) (final step s is) := by
  -- generalised over the steps already taken, since the induction moves the start of the run
  have key : ∀ (is : List ι) (h : List (Record σ ι ω)) (s : σ), J h s →
      (∀ r ∈ trace step s is, C r) → J (h ++ trace step s is) (final step s is) := by
    intro is
    induction is with
    | nil => intro h s hJ _; simpa using hJ
    | cons i is ih =>
      intro h s hJ hC
      have h1 := hstep h s i hJ (hC _ (List.mem_cons_self ..))
      have h2 := ih _ _ h1 (fun r hr => hC r (List.mem_cons_of_mem _ hr))
      rwa [List.append_assoc] at h2
  exact key is [] s h0 hC

/-- **Invariant rule.** What every step that meets `C` preserves holds after a run of such
steps. -/
theorem inv_final {I : σ → Prop} {C : Record σ ι ω → Prop}
    (hstep : ∀ s i, I s → C (record step s i) → I (step s i).2)
    {s : σ} (h0 : I s) {is : List ι} (hC : ∀ r ∈ trace step s is, C r) : I (final step s is) :=
  history_inv (J := fun _ s => I s) (fun _ s i hI hc => hstep s i hI hc) h0 hC

/-- The states a run passes through are those reached by its prefixes. -/
theorem inv_of_mem_trace {I : σ → Prop} {C : Record σ ι ω → Prop}
    (hstep : ∀ s i, I s → C (record step s i) → I (step s i).2)
    {s : σ} (h0 : I s) {is : List ι} (hC : ∀ r ∈ trace step s is, C r)
    {r : Record σ ι ω} (hr : r ∈ trace step s is) : I r.pre := by
  obtain ⟨is₁, i, is₂, rfl, rfl⟩ := (mem_trace step).mp hr
  refine inv_final hstep h0 fun r' hr' => hC r' ?_
  rw [trace_append]
  exact List.mem_append_left _ hr'

theorem inv_post_of_mem_trace {I : σ → Prop} {C : Record σ ι ω → Prop}
    (hstep : ∀ s i, I s → C (record step s i) → I (step s i).2)
    {s : σ} (h0 : I s) {is : List ι} (hC : ∀ r ∈ trace step s is, C r)
    {r : Record σ ι ω} (hr : r ∈ trace step s is) : I r.post := by
  have hpre := inv_of_mem_trace hstep h0 hC hr
  have hc := hC r hr
  rw [eq_record_of_mem_trace hr] at hc ⊢
  exact hstep _ _ hpre hc

/-- What holds at the start and after every step holds before every step. -/
theorem pre_of_mem_trace {I : σ → Prop} {s : σ} (h0 : I s) {is : List ι}
    (hpost : ∀ r ∈ trace step s is, I r.post) {r : Record σ ι ω} (hr : r ∈ trace step s is) :
    I r.pre :=
  inv_of_mem_trace (C := fun r => I r.post) (fun _ _ _ hc => hc) h0 hpost hr

/-- Two conditions that agree on the steps from states with `I` agree on the runs from there, if
`I` is kept by the steps that meet them. -/
theorem forall_trace_congr {I : σ → Prop} {P C : Record σ ι ω → Prop}
    (hstep : ∀ s i, I s → C (record step s i) → I (step s i).2)
    (hiff : ∀ s i, I s → (P (record step s i) ↔ C (record step s i)))
    {s : σ} (h0 : I s) (is : List ι) :
    (∀ r ∈ trace step s is, P r) ↔ ∀ r ∈ trace step s is, C r := by
  induction is generalizing s with
  | nil => exact iff_of_true (List.forall_mem_nil _) (List.forall_mem_nil _)
  | cons i is ih =>
    rw [trace_cons, List.forall_mem_cons, List.forall_mem_cons]
    rw [hiff s i h0]
    exact and_congr_right fun hC => ih (hstep s i h0 hC)

end Rules

end Transducer
