import NssAAF.Lib.Interleaving

/-!
# A lock over the shared state

Threads over a shared state with a lock. A thread says whether it holds the lock, and the shared
state whether it is taken. `Guards` is what the threads have to respect: while the lock is taken,
only its holder changes the shared state.

* `Held`: the lock is taken exactly if a thread holds it, and one thread at most does.
* `fits_run` is the rule for what a thread knows while it holds the lock.
-/

namespace Mutex

open Interleaving

variable {σ θ ι : Type*}

structure Lock (σ θ : Type*) where
  Taken : σ → Prop
  Holds : θ → Prop

/-- A thread that does not get the lock waits or does something of its own. A thread that has or
gets the lock keeps it exactly if the lock is taken after its action. -/
structure Guards (L : Lock σ θ) (next : ι → σ → θ → σ × θ) : Prop where
  blocked : ∀ i s t, L.Taken s → ¬ L.Holds t → (next i s t).1 = s ∧ ¬ L.Holds (next i s t).2
  taken_iff : ∀ i s t, (L.Taken s ↔ L.Holds t) →
    (L.Taken (next i s t).1 ↔ L.Holds (next i s t).2)

structure Held (L : Lock σ θ) (s : System σ θ) : Prop where
  one : ∀ (n n' : ℕ) (t t' : θ), s.threads[n]? = some t → s.threads[n']? = some t' →
    L.Holds t → L.Holds t' → n = n'
  taken_iff : L.Taken s.shared ↔ ∃ t ∈ s.threads, L.Holds t

variable {L : Lock σ θ} {next : ι → σ → θ → σ × θ} {s : System σ θ} {n : ℕ} {t : θ}

namespace Held

/-- A thread that has or gets the lock is the only one to hold it. -/
theorem others (h : Held L s) (ht : s.threads[n]? = some t) (hfree : L.Holds t ∨ ¬ L.Taken s.shared)
    {j : ℕ} {u : θ} (hne : n ≠ j) (hu : s.threads[j]? = some u) : ¬ L.Holds u := by
  intro hholds
  rcases hfree with hholds' | hfree
  · exact hne (h.one n j t u ht hu hholds' hholds)
  · exact hfree (h.taken_iff.mpr ⟨u, List.mem_of_getElem? hu, hholds⟩)

theorem taken_iff_holds (h : Held L s) (ht : s.threads[n]? = some t)
    (hfree : L.Holds t ∨ ¬ L.Taken s.shared) : L.Taken s.shared ↔ L.Holds t :=
  ⟨fun htaken => hfree.resolve_right (not_not.mpr htaken),
    fun hholds => h.taken_iff.mpr ⟨t, List.mem_of_getElem? ht, hholds⟩⟩

theorem start (h : Held L s) (ht : ¬ L.Holds t) : Held L ⟨s.shared, s.threads ++ [t]⟩ := by
  have hold : ∀ (j : ℕ) (u : θ), (s.threads ++ [t])[j]? = some u → L.Holds u →
      s.threads[j]? = some u := by
    intro j u hu hholds
    rw [List.getElem?_append] at hu
    split at hu
    · exact hu
    · obtain rfl := List.mem_singleton.mp (List.mem_of_getElem? hu)
      exact absurd hholds ht
  constructor
  · intro j j' u u' hu hu' hholds hholds'
    exact h.one j j' u u' (hold j u hu hholds) (hold j' u' hu' hholds') hholds hholds'
  · rw [h.taken_iff]
    simp [ht]

/-- The holder acts, or the lock is free: only the thread that acts can hold it then. -/
theorem run_of_free (h : Held L s) (hg : Guards L next) (ht : s.threads[n]? = some t)
    (hfree : L.Holds t ∨ ¬ L.Taken s.shared) (i : ι) :
    Held L ⟨(next i s.shared t).1, s.threads.set n (next i s.shared t).2⟩ := by
  have hself : ∀ (j : ℕ) (u : θ), (s.threads.set n (next i s.shared t).2)[j]? = some u →
      L.Holds u → n = j ∧ u = (next i s.shared t).2 := by
    intro j u hu hholds
    rcases getElem?_set_cases hu with hsame | ⟨hne, hu⟩
    · exact hsame
    · exact absurd hholds (h.others ht hfree hne hu)
  constructor
  · intro j j' u u' hu hu' hholds hholds'
    exact (hself j u hu hholds).1.symm.trans (hself j' u' hu' hholds').1
  · rw [hg.taken_iff i s.shared t (h.taken_iff_holds ht hfree)]
    constructor
    · intro hholds
      exact ⟨_, List.mem_set (List.getElem?_eq_some_iff.mp ht).1 _, hholds⟩
    · rintro ⟨u, hu, hholds⟩
      obtain ⟨j, hj⟩ := List.mem_iff_getElem?.mp hu
      rw [← (hself j u hj hholds).2]
      exact hholds

theorem run_of_blocked (h : Held L s) (hg : Guards L next) (ht : s.threads[n]? = some t)
    (hnot : ¬ L.Holds t) (htaken : L.Taken s.shared) (i : ι) :
    Held L ⟨(next i s.shared t).1, s.threads.set n (next i s.shared t).2⟩ := by
  obtain ⟨hsame, hnot'⟩ := hg.blocked i s.shared t htaken hnot
  constructor
  · intro j j' u u' hu hu' hholds hholds'
    rcases getElem?_set_cases hu with ⟨-, rfl⟩ | ⟨-, hu⟩
    · exact absurd hholds hnot'
    · rcases getElem?_set_cases hu' with ⟨-, rfl⟩ | ⟨-, hu'⟩
      · exact absurd hholds' hnot'
      · exact h.one j j' u u' hu hu' hholds hholds'
  · show L.Taken (next i s.shared t).1 ↔ _
    rw [hsame, h.taken_iff]
    constructor
    · rintro ⟨u, hu, hholds⟩
      refine ⟨u, mem_set_of_mem hu ht ?_, hholds⟩
      rintro rfl
      exact absurd hholds hnot
    · rintro ⟨u, hu, hholds⟩
      rcases List.mem_or_eq_of_mem_set hu with hu | rfl
      · exact ⟨u, hu, hholds⟩
      · exact absurd hholds hnot'

theorem run (h : Held L s) (hg : Guards L next) (ht : s.threads[n]? = some t) (i : ι) :
    Held L ⟨(next i s.shared t).1, s.threads.set n (next i s.shared t).2⟩ := by
  by_cases hfree : L.Holds t ∨ ¬ L.Taken s.shared
  · exact h.run_of_free hg ht hfree i
  · obtain ⟨hnot, htaken⟩ := not_or.mp hfree
    exact h.run_of_blocked hg ht hnot (not_not.mp htaken) i

end Held

/-- **Holder rule.** What the holder of the lock knows about the shared state is not changed by the
others, so it has to be shown for the thread that acts only. -/
theorem fits_run {F : σ → θ → Prop} (hrest : ∀ s t, ¬ L.Holds t → F s t) (h : Held L s)
    (hg : Guards L next) (hF : ∀ t ∈ s.threads, F s.shared t) (ht : s.threads[n]? = some t) (i : ι)
    (hact : L.Holds t ∨ ¬ L.Taken s.shared → F (next i s.shared t).1 (next i s.shared t).2) :
    ∀ u ∈ s.threads.set n (next i s.shared t).2, F (next i s.shared t).1 u := by
  intro u hu
  obtain ⟨j, hj⟩ := List.mem_iff_getElem?.mp hu
  by_cases hfree : L.Holds t ∨ ¬ L.Taken s.shared
  · rcases getElem?_set_cases hj with ⟨-, rfl⟩ | ⟨hne, hj⟩
    · exact hact hfree
    · exact hrest _ _ (h.others ht hfree hne hj)
  · obtain ⟨hnot, htaken⟩ := not_or.mp hfree
    obtain ⟨hsame, hnot'⟩ := hg.blocked i s.shared t (not_not.mp htaken) hnot
    rcases getElem?_set_cases hj with ⟨-, rfl⟩ | ⟨-, hj⟩
    · exact hrest _ _ hnot'
    · rw [hsame]
      exact hF u (List.mem_of_getElem? hj)

end Mutex
