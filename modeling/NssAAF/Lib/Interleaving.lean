import NssAAF.Lib.Transducer

/-!
# Interleavings of threads over a shared state

A thread is a value that says what it does next: `next i s t` is the atomic action of the thread
`t` on the shared state `s`, where `i` is what the environment chooses for it. A schedule is a list
of events: a thread is started, or the thread with a given number takes its next action. Every
interleaving of any number of threads is a schedule.

* `shared_inv` is the rule for what the actions keep about the shared state.
* `Known.step` is the rule for what the steps so far say about the shared state and the threads.
* `final_solo` is a thread that runs alone.
-/

namespace Interleaving

variable {σ θ ι : Type*}

structure System (σ θ : Type*) where
  shared : σ
  threads : List θ

inductive Event (θ ι : Type*)
  | start (t : θ)
  | run (n : ℕ) (i : ι)

/-- The thread that an event runs, and what the environment chooses for it. -/
def ran (s : System σ θ) : Event θ ι → Option (ι × θ)
  | .start _ => none
  | .run n i => (s.threads[n]?).map fun t => (i, t)

def chosen : Event θ ι → Option ι
  | .start _ => none
  | .run _ i => some i

/-- The events of requests, each of which starts a thread. -/
def mapStart {α : Type*} (thread : α → θ) : Event α ι → Event θ ι
  | .start a => .start (thread a)
  | .run n i => .run n i

theorem filterMap_chosen_mapStart {α : Type*} (thread : α → θ) (es : List (Event α ι)) :
    (es.map (mapStart thread)).filterMap chosen = es.filterMap chosen := by
  rw [List.filterMap_map]
  congr 1
  funext e
  cases e <;> rfl

theorem chosen_of_ran {s : System σ θ} {e : Event θ ι} {i : ι} {t : θ} (h : ran s e = some (i, t)) :
    chosen e = some i := by
  cases e with
  | start t => cases h
  | run n j =>
    obtain ⟨u, -, hp⟩ := Option.map_eq_some_iff.mp h
    cases hp
    rfl

variable (next : ι → σ → θ → σ × θ)

/-- One event. The output is the thread that acted, as it was before, with its input. -/
def step (s : System σ θ) (e : Event θ ι) : Option (ι × θ) × System σ θ :=
  (ran s e,
    match e with
    | .start t => { s with threads := s.threads ++ [t] }
    | .run n i =>
      match s.threads[n]? with
      | none => s
      | some t => ⟨(next i s.shared t).1, s.threads.set n (next i s.shared t).2⟩)

theorem getElem?_set_cases {ts : List θ} {n j : ℕ} {t u : θ} (h : (ts.set n t)[j]? = some u) :
    (n = j ∧ u = t) ∨ (n ≠ j ∧ ts[j]? = some u) := by
  rw [List.getElem?_set] at h
  split_ifs at h with hnj hlt
  · exact Or.inl ⟨hnj, (Option.some.inj h).symm⟩
  · exact Or.inr ⟨hnj, h⟩

theorem mem_set_of_mem {ts : List θ} {n : ℕ} {t t' u : θ} (hu : u ∈ ts) (ht : ts[n]? = some t)
    (h : u = t → t' = u) : u ∈ ts.set n t' := by
  obtain ⟨j, hj⟩ := List.mem_iff_getElem?.mp hu
  by_cases hnj : n = j
  · subst hnj
    obtain rfl : u = t := Option.some.inj (hj.symm.trans ht)
    rw [h rfl]
    exact List.mem_iff_getElem?.mpr ⟨n, List.getElem?_set_self (List.getElem?_eq_some_iff.mp hj).1⟩
  · exact List.mem_iff_getElem?.mpr ⟨j, (List.getElem?_set_ne hnj).trans hj⟩

theorem step_run {s : System σ θ} {n : ℕ} {t : θ} (h : s.threads[n]? = some t) (i : ι) :
    step next s (.run n i) =
      (some (i, t), ⟨(next i s.shared t).1, s.threads.set n (next i s.shared t).2⟩) := by
  unfold step ran
  dsimp only
  rw [h]
  rfl

theorem step_run_of_none {s : System σ θ} {n : ℕ} (h : s.threads[n]? = none) (i : ι) :
    step next s (.run n i) = (none, s) := by
  unfold step ran
  dsimp only
  rw [h]
  rfl

theorem shared_step_of_idle {s : System σ θ} {e : Event θ ι} (h : ran s e = none) :
    (step next s e).2.shared = s.shared := by
  cases e with
  | start t => rfl
  | run n i =>
    unfold ran at h
    unfold step
    rw [Option.map_eq_none_iff] at h
    dsimp only
    rw [h]

theorem shared_step {s : System σ θ} {e : Event θ ι} {i : ι} {t : θ} (h : ran s e = some (i, t)) :
    (step next s e).2.shared = (next i s.shared t).1 := by
  cases e with
  | start t => cases h
  | run n j =>
    unfold ran at h
    obtain ⟨u, hu, hp⟩ := Option.map_eq_some_iff.mp h
    cases hp
    unfold step
    dsimp only
    rw [hu]

section Rules

variable {next}

open Transducer

/-- What an event does to the shared state, whether a thread acts or not. -/
theorem shared_step_cases {P : Option (ι × θ) → σ → Prop} {s : System σ θ} {e : Event θ ι}
    (hidle : P none s.shared)
    (hact : ∀ i t, ran s e = some (i, t) → P (some (i, t)) (next i s.shared t).1) :
    P (ran s e) (step next s e).2.shared := by
  cases h : ran s e with
  | none =>
    rw [shared_step_of_idle next h]
    exact hidle
  | some p =>
    rw [shared_step next h]
    exact hact p.1 p.2 h

/-- **Shared-state rule.** What the action of every thread that meets `C` keeps holds at every
point of a schedule in which only such threads act. -/
theorem shared_inv {I : σ → Prop} {C : σ → ι → θ → Prop}
    (hact : ∀ i s t, I s → C s i t → I (next i s t).1) {s : System σ θ} (h0 : I s.shared)
    {es : List (Event θ ι)}
    (hC : ∀ r ∈ trace (step next) s es, ∀ i t, r.output = some (i, t) → C r.pre.shared i t)
    {r : Record (System σ θ) (Event θ ι) (Option (ι × θ))} (hr : r ∈ trace (step next) s es) :
    I r.post.shared := by
  refine inv_post_of_mem_trace (I := fun s => I s.shared)
    (C := fun r => ∀ i t, r.output = some (i, t) → C r.pre.shared i t) ?_ h0 hC hr
  intro s e hI hc
  exact shared_step_cases (P := fun _ s => I s) hI fun i t h => hact i s.shared t hI (hc i t h)

/-- The threads of a schedule of requests are those that the requests start. -/
theorem exists_of_start_mem_map {α : Type*} {f : Event α ι → Event θ ι} {thread : α → θ}
    {es : List (Event α ι)} {t : θ} (h : Event.start t ∈ es.map f)
    (hstart : ∀ a, f (.start a) = .start (thread a)) (hrun : ∀ n i, f (.run n i) = .run n i) :
    ∃ a, t = thread a := by
  obtain ⟨e, -, he⟩ := List.mem_map.mp h
  cases e with
  | start a =>
    rw [hstart] at he
    exact ⟨a, (Event.start.inj he).symm⟩
  | run n i =>
    rw [hrun] at he
    cases he

/-- A step of a schedule. -/
abbrev StepOf (σ θ ι : Type*) : Type _ := Record (System σ θ) (Event θ ι) (Option (ι × θ))

/-- The number of the thread that acts in a step, its input, and the thread before it acts. -/
def actor (r : StepOf σ θ ι) : Option (ℕ × ι × θ) :=
  match r.input, r.output with
  | .run n _, some (i, t) => some (n, i, t)
  | _, _ => none

theorem actor_record_iff {s : System σ θ} {e : Event θ ι} {n : ℕ} {i : ι} {t : θ} :
    actor (record (step next) s e) = some (n, i, t) ↔ e = .run n i ∧ s.threads[n]? = some t := by
  cases e with
  | start t' => simp [actor]
  | run n' i' =>
    cases ht : s.threads[n']? with
    | none =>
      simp only [actor, record_input, record_output, step_run_of_none _ ht, reduceCtorEq,
        Event.run.injEq, false_iff, not_and]
      rintro ⟨rfl, -⟩
      simp [ht]
    | some t' =>
      simp only [actor, record_input, record_output, step_run _ ht, Option.some.injEq,
        Prod.mk.injEq, Event.run.injEq]
      constructor
      · rintro ⟨rfl, rfl, rfl⟩
        exact ⟨⟨rfl, rfl⟩, ht⟩
      · rintro ⟨⟨rfl, rfl⟩, ht'⟩
        rw [ht, Option.some.injEq] at ht'
        exact ⟨rfl, rfl, ht'⟩

/-- What the steps `h` say about the shared state and about the threads. -/
structure Known (S : List (StepOf σ θ ι) → σ → Prop) (T : List (StepOf σ θ ι) → ℕ → θ → Prop)
    (h : List (StepOf σ θ ι)) (s : System σ θ) : Prop where
  shared : S h s.shared
  thread : ∀ n t, s.threads[n]? = some t → T h n t

/-- **Knowledge rule.** What is known stays known, and the thread that acts knows what it does. -/
theorem Known.step {S : List (StepOf σ θ ι) → σ → Prop} {T : List (StepOf σ θ ι) → ℕ → θ → Prop}
    {h : List (StepOf σ θ ι)} {s : System σ θ} {e : Event θ ι}
    (hs : Known S T h s) (hS : ∀ r s, S h s → S (h ++ [r]) s)
    (hT : ∀ r n t, T h n t → T (h ++ [r]) n t)
    (hstart : ∀ t, e = .start t → ∀ h n, T h n t)
    (hact : ∀ n i t, actor (record (Interleaving.step next) s e) = some (n, i, t) → T h n t →
      S (h ++ [record (Interleaving.step next) s e]) (next i s.shared t).1 ∧
        T (h ++ [record (Interleaving.step next) s e]) n (next i s.shared t).2) :
    Known S T (h ++ [record (Interleaving.step next) s e]) (Interleaving.step next s e).2 := by
  cases e with
  | start t =>
    refine ⟨hS _ _ hs.shared, fun n u hu => ?_⟩
    have hu' : (s.threads ++ [t])[n]? = some u := hu
    rw [List.getElem?_append] at hu'
    split at hu'
    · exact hT _ _ _ (hs.thread n u hu')
    · obtain rfl := List.mem_singleton.mp (List.mem_of_getElem? hu')
      exact hstart u rfl _ _
  | run n i =>
    cases ht : s.threads[n]? with
    | none =>
      rw [step_run_of_none next ht]
      exact ⟨hS _ _ hs.shared, fun m u hu => hT _ _ _ (hs.thread m u hu)⟩
    | some t =>
      obtain ⟨hshared, hthread⟩ := hact n i t (actor_record_iff.mpr ⟨rfl, ht⟩) (hs.thread n t ht)
      rw [step_run next ht]
      refine ⟨hshared, fun m u hu => ?_⟩
      rcases getElem?_set_cases hu with ⟨rfl, rfl⟩ | ⟨-, hu⟩
      · exact hthread
      · exact hT _ _ _ (hs.thread m u hu)

/-- The label of a thread that is started. -/
def label {α : Type*} (f : θ → Option α) : Event θ ι → Option α
  | .start t => f t
  | .run _ _ => none

theorem filterMap_set {α : Type*} {f : θ → Option α} {ts : List θ} {n : ℕ} {t t' : θ}
    (ht : ts[n]? = some t) (hf : f t' = f t) : (ts.set n t').filterMap f = ts.filterMap f := by
  induction ts generalizing n with
  | nil => simp at ht
  | cons u ts ih =>
    cases n with
    | zero =>
      obtain rfl : u = t := by simpa using ht
      rw [List.set_cons_zero, List.filterMap_cons, List.filterMap_cons, hf]
    | succ n =>
      rw [List.set_cons_succ, List.filterMap_cons, List.filterMap_cons, ih (by simpa using ht)]

theorem labels_final {α : Type*} {f : θ → Option α} (hf : ∀ i s t, f (next i s t).2 = f t)
    (s : System σ θ) (es : List (Event θ ι)) :
    (final (step next) s es).threads.filterMap f =
      s.threads.filterMap f ++ es.filterMap (label f) := by
  induction es generalizing s with
  | nil => simp
  | cons e es ih =>
    rw [final_cons, ih, List.filterMap_cons]
    cases e with
    | start t =>
      show (s.threads ++ [t]).filterMap f ++ _ = _
      rw [List.filterMap_append, List.append_assoc]
      congr 1
      show ([t].filterMap f ++ _ : List α) = match f t with | none => _ | some b => _
      cases h : f t <;> simp [h]
    | run n i =>
      show _ = s.threads.filterMap f ++ es.filterMap (label f)
      congr 1
      cases h : s.threads[n]? with
      | none => rw [step_run_of_none next h]
      | some t =>
        rw [step_run next h]
        exact filterMap_set h (hf i s.shared t)

/-- The actions of one thread, one after the other. -/
def alone (next : ι → σ → θ → σ × θ) : List ι → σ × θ → σ × θ
  | [], p => p
  | i :: is, p => alone next is (next i p.1 p.2)

variable (next) in
/-- A thread that runs alone changes nothing but the shared state and itself. -/
theorem final_solo {n : ℕ} {s : System σ θ} {t : θ} (ht : s.threads[n]? = some t) (is : List ι) :
    final (step next) s (is.map (Event.run n)) =
      ⟨(alone next is (s.shared, t)).1, s.threads.set n (alone next is (s.shared, t)).2⟩ := by
  induction is generalizing s t with
  | nil =>
    obtain ⟨hn, rfl⟩ := List.getElem?_eq_some_iff.mp ht
    simp [alone]
  | cons i is ih =>
    obtain ⟨hn, -⟩ := List.getElem?_eq_some_iff.mp ht
    have ht' : (s.threads.set n (next i s.shared t).2)[n]? = some (next i s.shared t).2 :=
      List.getElem?_set_self hn
    rw [List.map_cons, final_cons, step_run next ht, ih ht', List.set_set]
    rfl

end Rules

end Interleaving
