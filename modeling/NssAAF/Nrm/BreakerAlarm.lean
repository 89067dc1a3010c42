import NssAAF.Nrm.AlarmManager
import NssAAF.Lib.History

/-!
# The alarm of a circuit breaker

`Evaluate` records a breaker as open before it looks for its alarm, and raises the alarm later. If
the breaker is closed in between, the alarm is raised for a breaker that is not open.
`breaker_alarm_iff` says that this is the only way in which the alarm and the recorded state come
to disagree: a call that found no alarm comes to its `Save`, and the breaker is recorded as closed.
-/

namespace NssAAF.Nrm

open Interleaving Transducer History Mutex

/-- The call has found no alarm of the target, and comes to raise one. -/
def Evaluation.Raises (target : String) : Evaluation → Prop
  | .listed (.breakerOpen target') snapshot =>
    target' = target ∧ ¬ (Notice.breakerOpen target').Raised snapshot
  | _ => False

instance (target : String) : (t : Evaluation) → Decidable (t.Raises target)
  | .listed (.breakerOpen _) _ => inferInstanceAs (Decidable (_ ∧ ¬ _))
  | .listed (.failureRate _ _) _ | .waiting _ | .listing _ | .raising _ | .selecting _
  | .clearing _ _ | .done => .isFalse id

theorem Evaluation.pending_raising_iff {save : Save} {target : String}
    (h : ∀ alarm id, save ≠ .returned alarm id) :
    (Evaluation.raising save).Pending target ↔ save.alarm.key = breakerKey target := by
  cases save with
  | returned alarm id => exact absurd rfl (h alarm id)
  | looking | looked | saving => exact Iff.rfl

theorem Evaluation.pending_start_iff {alarm : Alarm} {target : String} :
    (Evaluation.raising (.start alarm)).Pending target ↔ alarm.key = breakerKey target := by
  unfold Save.start
  split <;> exact Iff.rfl

namespace Evaluation.Moves

variable {uuid : UUIDs} {clock : Clock} {m m' : AlarmManager} {t t' : Evaluation}
  {target : String}

/-- An alarm of a target goes only when it is cleared. -/
theorem active (h : Moves uuid clock m t m' t') (hs : m.Sound uuid) (hf : t.Fits uuid m)
    (hactive : m.Active target) : m'.Active target ∨ t.Closes target := by
  cases h with
  | waits | rests | counts | opens | closes | lists | knows | raises | saved | selects
  | cleared => exact Or.inl hactive
  | saves save => exact Or.inl ((save.next_moves clock m.store).has hs.consistent hf.1 hactive)
  | clears key id ids =>
    obtain ⟨a, ha, hkey⟩ := hactive
    by_cases hid : a.alarmID = id
    · right
      have hmem : a.alarmID ∈ id :: ids := hid ▸ List.mem_cons_self ..
      exact ((hf.2 a ha).mpr hmem).symm.trans hkey
    · exact Or.inl ⟨a, AlarmStore.mem_clear.mpr ⟨ha, hid⟩, hkey⟩

theorem of_activated (h : Moves uuid clock m t m' t') (hs : m.Sound uuid)
    (hnot : ¬ m.Active target) (hactive : m'.Active target) : t.Holds ∧ t.Pending target := by
  cases h with
  | waits | rests | counts | opens | closes | lists | knows | raises | saved | selects
  | cleared => exact absurd hactive hnot
  | saves save hsave =>
    obtain ⟨a, ha, hkey⟩ := hactive
    rcases (save.next_moves clock m.store).mem_cases hs.consistent ha with ha | ⟨-, hsame⟩
    · exact absurd ⟨a, ha, hkey⟩ hnot
    · exact ⟨trivial, (pending_raising_iff hsave).mpr (hsame.symm.trans hkey)⟩
  | clears key id ids =>
    obtain ⟨a, ha, hkey⟩ := hactive
    exact absurd ⟨a, (AlarmStore.mem_clear.mp ha).1, hkey⟩ hnot

/-- A call that has the lock and raises the alarm did so before, or comes to it now. -/
theorem of_pending (h : Moves uuid clock m t m' t') (hholds : t'.Holds) (hp : t'.Pending target) :
    t.Holds ∧ t.Pending target ∨ m.locked = false ∧ t.Raises target := by
  cases h with
  | waits ht => exact absurd hholds ht
  | rests | opens | lists | knows | saved | cleared => exact hholds.elim
  | counts _ _ _ _ _ _ ht' => rcases ht' with rfl | ⟨notice, rfl⟩ <;> exact hholds.elim
  | closes | selects | clears => exact hp.elim
  | raises alarm hm ht _ hkey =>
    right
    have hpending : t.Pending target := (hkey target).mp (pending_start_iff.mp hp)
    rcases ht with ⟨event, rfl, -⟩ | ⟨notice, snapshot, rfl⟩
    · exact hpending.elim
    · cases notice with
      | failureRate failures total => exact hpending.elim
      | breakerOpen target' => exact ⟨hm, hpending⟩
  | saves save hsave =>
    refine Or.inl ⟨trivial, (pending_raising_iff hsave).mpr ?_⟩
    rw [← (save.next_moves clock m.store).alarm]
    refine (pending_raising_iff fun alarm id hnext => ?_).mp hp
    rw [hnext] at hp
    exact hp

theorem holds_of_pending (h : Moves uuid clock m t m' t') (hholds : t.Holds)
    (hp : t.Pending target) : t'.Holds := by
  cases h with
  | waits ht => exact absurd hholds ht
  | raises => trivial
  | rests | counts | opens | closes | lists | knows => exact hholds.elim
  | saves => trivial
  | saved | selects | clears | cleared => exact hp.elim

theorem pending (h : Moves uuid clock m t m' t') (hs : m.Sound uuid) (hf : t.Fits uuid m)
    (hp : t.Pending target) : t'.Pending target ∨ m'.Active target := by
  cases h with
  | waits => exact Or.inl hp
  | rests | counts | opens | closes | saved | selects | clears | cleared => exact hp.elim
  | lists notice =>
    cases notice with
    | failureRate failures total => exact hp.elim
    | breakerOpen target' =>
      obtain rfl : target' = target := hp
      by_cases hraised : (Notice.breakerOpen target').Raised m.store.list
      · obtain ⟨a, ha, hkey⟩ := hraised
        exact Or.inr ⟨a, AlarmStore.mem_list.mp ha, hkey⟩
      · exact Or.inl ⟨rfl, hraised⟩
  | knows notice snapshot _ hraised =>
    cases notice with
    | failureRate failures total => exact hp.elim
    | breakerOpen target' =>
      obtain ⟨rfl, hnot⟩ := hp
      exact absurd hraised hnot
  | raises alarm _ _ _ hkey =>
    exact Or.inl (pending_start_iff.mpr ((hkey target).mpr hp))
  | saves save hsave =>
    have hm := save.next_moves clock m.store
    have hkey := (pending_raising_iff hsave).mp hp
    cases hnext : (save.next clock m.store).2 with
    | returned alarm id =>
      right
      show (save.next clock m.store).1.Has (breakerKey target)
      rw [← hkey]
      exact hm.has_of_returned hs.consistent hf.1 hsave hnext
    | looking alarm | looked alarm existing | saving alarm =>
      left
      show (Save.alarm _).key = breakerKey target
      rw [← hnext, hm.alarm]
      exact hkey

theorem of_opened (h : Moves uuid clock m t m' t') (hopen : m'.cbState target = true) :
    m.cbState target = true ∨ t'.Pending target := by
  cases h with
  | opens target' =>
    by_cases htarget : target = target'
    · exact Or.inr htarget.symm
    · exact Or.inl ((Function.update_of_ne htarget ..).symm.trans hopen)
  | closes target' =>
    by_cases htarget : target = target'
    · subst htarget
      cases (Function.update_self ..).symm.trans hopen
    · exact Or.inl ((Function.update_of_ne htarget ..).symm.trans hopen)
  | waits | rests | counts | lists | knows | raises | saves | saved | selects | clears
  | cleared => exact Or.inl hopen

/-- The recorded state of a target stays, or one of its events is taken up: it is open then, or its
alarm is being cleared. -/
theorem cbState_eq (h : Moves uuid clock m t m' t') (target : String) :
    m'.cbState target = m.cbState target ∨
      m.locked = false ∧ (t = .waiting ⟨.circuitBreakerOpen, target⟩ ∨
        t = .waiting ⟨.circuitBreakerClosed, target⟩ ∧ m.cbState target = true) := by
  cases h with
  | opens target' hm =>
    by_cases htarget : target = target'
    · exact Or.inr ⟨hm, Or.inl (by rw [htarget])⟩
    · exact Or.inl (Function.update_of_ne htarget ..)
  | closes target' hm hopen =>
    by_cases htarget : target = target'
    · exact Or.inr ⟨hm, Or.inr ⟨by rw [htarget], by rw [htarget, hopen]⟩⟩
    · exact Or.inl (Function.update_of_ne htarget ..)
  | waits | rests | counts | lists | knows | raises | saves | saved | selects | clears
  | cleared => exact Or.inl rfl

theorem of_switch (h : Moves uuid clock m t m' t') (hfree : m.locked = false)
    (ht : t = .waiting ⟨.circuitBreakerOpen, target⟩ ∨
      t = .waiting ⟨.circuitBreakerClosed, target⟩ ∧ m.cbState target = true) :
    m'.cbState target = true ∨ t'.Closes target := by
  cases h with
  | waits _ hm =>
    rw [hfree] at hm
    cases hm
  | counts event _ _ _ hopen hclosed =>
    rcases ht with ht | ⟨ht, hstate⟩
    · cases ht
      exact absurd rfl hopen
    · cases ht
      rw [hclosed rfl] at hstate
      cases hstate
  | opens target' =>
    rcases ht with ht | ⟨ht, -⟩
    · cases ht
      exact Or.inl (Function.update_self ..)
    · cases ht
  | closes target' =>
    rcases ht with ht | ⟨ht, -⟩
    · cases ht
    · cases ht
      exact Or.inr rfl
  | raises _ _ hfrom =>
    rcases hfrom with ⟨event, rfl, hreport⟩ | ⟨notice, snapshot, rfl⟩
    · rcases ht with ht | ⟨ht, -⟩ <;> cases ht <;> exact absurd rfl hreport
    · rcases ht with ht | ⟨ht, -⟩ <;> cases ht
  | rests | lists | knows | saves | saved | selects | clears | cleared =>
    rcases ht with ht | ⟨ht, -⟩ <;> cases ht

theorem of_raises (h : Moves uuid clock m t m' t') (hfree : m.locked = false)
    (ht : t.Raises target) : t'.Holds ∧ t'.Pending target := by
  cases h with
  | waits _ hm =>
    rw [hfree] at hm
    cases hm
  | rests | counts | opens | closes | lists | saves | saved | selects | clears | cleared =>
    exact ht.elim
  | knows notice snapshot _ hraised =>
    cases notice with
    | failureRate failures total => exact ht.elim
    | breakerOpen target' => exact absurd hraised ht.2
  | raises alarm _ hfrom _ hkey =>
    rcases hfrom with ⟨event, rfl, -⟩ | ⟨notice, snapshot, rfl⟩
    · exact ht.elim
    · cases notice with
      | failureRate failures total => exact ht.elim
      | breakerOpen target' =>
        exact ⟨trivial, pending_start_iff.mpr ((hkey target).mpr ht)⟩

theorem of_closes (h : Moves uuid clock m t m' t') (hcloses : t'.Closes target) :
    t.Closes target ∨ m.cbState target = true := by
  cases h with
  | waits | rests | selects | clears => exact Or.inl hcloses
  | opens | lists | knows | raises | saves | saved | cleared => exact hcloses.elim
  | counts _ _ _ _ _ _ ht' =>
    rcases ht' with rfl | ⟨notice, rfl⟩ <;> exact hcloses.elim
  | closes target' _ hopen =>
    rw [← breakerKey_inj hcloses]
    exact Or.inr hopen

theorem of_cleared (h : Moves uuid clock m t m' t') (hf : t.Fits uuid m)
    (hcloses : t.Closes target) (hdone : ¬ t'.Closes target) : ¬ m'.Active target := by
  cases h with
  | waits | rests | selects | clears => exact absurd hcloses hdone
  | counts | opens | closes | lists | knows | saves | saved => exact hcloses.elim
  | raises alarm _ ht =>
    rcases ht with ⟨event, rfl, -⟩ | ⟨notice, snapshot, rfl⟩ <;> exact hcloses.elim
  | cleared key =>
    rintro ⟨a, ha, hkey⟩
    have := (hf.2 a ha).mp (hkey.trans hcloses.symm)
    cases this

end Evaluation.Moves

/-! ## Runs -/

abbrev ManagerSystem : Type := System AlarmManager Evaluation

abbrev ManagerStep : Type :=
  Record ManagerSystem (Event Evaluation Clock) (Option (Clock × Evaluation))

def evaluations (es : List (Event (Option AlarmEvent) Clock)) : List (Event Evaluation Clock) :=
  es.map fun
    | .start event => .start (evaluate event)
    | .run n clock => .run n clock

namespace ManagerStep

variable (target : String) (r : ManagerStep)

/-- Where the call is that takes its next action. -/
def thread : Option Evaluation :=
  match r.input with
  | .run n _ => r.pre.threads[n]?
  | .start _ => none

/-- An event of the target is taken up that sets its recorded state. -/
def Switches : Prop :=
  r.pre.shared.locked = false ∧ (r.thread = some (.waiting ⟨.circuitBreakerOpen, target⟩) ∨
    r.thread = some (.waiting ⟨.circuitBreakerClosed, target⟩) ∧
      r.pre.shared.cbState target = true)

instance : DecidablePred (Switches target) := fun r =>
  inferInstanceAs (Decidable (r.pre.shared.locked = false ∧ (_ ∨ _ ∧ _)))

/-- A call that has found no alarm of the target comes to raise one, and the breaker is recorded as
closed. -/
def RaisesLate : Prop :=
  r.pre.shared.locked = false ∧ r.pre.shared.cbState target = false ∧
    ∃ t ∈ r.thread, t.Raises target

instance : Decidable (r.RaisesLate target) :=
  inferInstanceAs (Decidable (_ ∧ _ ∧ ∃ t ∈ r.thread, _))

end ManagerStep

/-- Since the recorded state of the target was last set, a call came to raise an alarm of the target
and the breaker was recorded as closed. -/
def RaisedLate (target : String) (h : List ManagerStep) : Prop :=
  ∃ r ∈ since (ManagerStep.Switches target) h, r.RaisesLate target

instance (target : String) (h : List ManagerStep) : Decidable (RaisedLate target h) :=
  inferInstanceAs (Decidable (∃ r ∈ since (ManagerStep.Switches target) h, _))

/-- No call of `Evaluate` is in progress. -/
def Quiet (s : ManagerSystem) : Prop := ∀ t ∈ s.threads, t = .done

instance (s : ManagerSystem) : Decidable (Quiet s) :=
  inferInstanceAs (Decidable (∀ t ∈ s.threads, t = .done))

/-- The target has an alarm or is getting one, its breaker is recorded as closed, and nothing clears
the alarm. -/
structure Late (target : String) (s : ManagerSystem) : Prop where
  closed : s.shared.cbState target = false
  kept : ¬ ∃ t ∈ s.threads, t.Closes target
  raised : s.shared.Active target ∨ ∃ t ∈ s.threads, t.Holds ∧ t.Pending target

structure Tracked (uuid : UUIDs) (h : List ManagerStep) (s : ManagerSystem) : Prop where
  held : Held managerLock s
  sound : s.shared.Sound uuid
  fits : ∀ t ∈ s.threads, t.Fits uuid s.shared
  pending : ∀ target, s.shared.cbState target = true →
    s.shared.Active target ∨ ∃ t ∈ s.threads, t.Pending target
  late_iff : ∀ target, RaisedLate target h ↔ Late target s

section Runs

variable {uuid : UUIDs} {rate : FailureRate} {h : List ManagerStep} {s : ManagerSystem}
  {target : String}

theorem raisedLate_concat {r : ManagerStep} (hr : ¬ r.Switches target) :
    RaisedLate target (h ++ [r]) ↔ RaisedLate target h ∨ r.RaisesLate target := by
  unfold RaisedLate
  rw [since_concat hr]
  simp [or_and_right, exists_or]

theorem not_raisedLate_concat {r : ManagerStep} (hr : r.Switches target) :
    ¬ RaisedLate target (h ++ [r]) := by
  unfold RaisedLate
  rw [since_concat_of hr]
  simp

theorem Tracked.idle (ht : Tracked uuid h s) {r : ManagerStep} {s' : ManagerSystem}
    (hthread : r.thread = none) (hlate : ∀ target, Late target s' ↔ Late target s) :
    ∀ target, RaisedLate target (h ++ [r]) ↔ Late target s' := by
  intro target
  have hswitch : ¬ r.Switches target := by
    simp [ManagerStep.Switches, hthread]
  have hraise : ¬ r.RaisesLate target := by
    simp [ManagerStep.RaisesLate, hthread]
  rw [raisedLate_concat hswitch, or_iff_left hraise, ht.late_iff, hlate]

theorem Tracked.start (ht : Tracked uuid h s) (event : Option AlarmEvent) :
    Tracked uuid (h ++ [record (step (Evaluation.next uuid rate)) s (.start (evaluate event))])
      ⟨s.shared, s.threads ++ [evaluate event]⟩ := by
  have hnot : ¬ (evaluate event).Holds ∧ ∀ target, ¬ (evaluate event).Closes target := by
    cases event with
    | none => exact ⟨id, fun _ => id⟩
    | some event => exact ⟨id, fun _ => id⟩
  refine ⟨ht.held.start hnot.1, ht.sound, ?_, ?_, ?_⟩
  · intro t hmem
    rcases List.mem_append.mp hmem with hmem | hmem
    · exact ht.fits t hmem
    · rw [List.mem_singleton.mp hmem]
      exact Evaluation.fits_of_not_holds uuid s.shared _ hnot.1
  · intro target hopen
    rcases ht.pending target hopen with hactive | ⟨t, hmem, hp⟩
    · exact Or.inl hactive
    · exact Or.inr ⟨t, List.mem_append_left _ hmem, hp⟩
  · apply ht.idle rfl
    intro target
    have hcloses : (∃ t ∈ s.threads ++ [evaluate event], t.Closes target) ↔
        ∃ t ∈ s.threads, t.Closes target := by
      simp [hnot.2 target, or_and_right, exists_or]
    have hpending : (∃ t ∈ s.threads ++ [evaluate event], t.Holds ∧ t.Pending target) ↔
        ∃ t ∈ s.threads, t.Holds ∧ t.Pending target := by
      simp [hnot.1, or_and_right, exists_or]
    exact ⟨fun h => ⟨h.closed, fun hc => h.kept (hcloses.mpr hc), h.raised.imp_right hpending.mp⟩,
      fun h => ⟨h.closed, fun hc => h.kept (hcloses.mp hc), h.raised.imp_right hpending.mpr⟩⟩

section Run

variable {n : ℕ} {t : Evaluation} {clock : Clock} {m' : AlarmManager} {t' : Evaluation}

theorem Tracked.pending_run (ht : Tracked uuid h s) (hn : s.threads[n]? = some t)
    (hm : t.Moves uuid clock s.shared m' t') (hopen : m'.cbState target = true) :
    m'.Active target ∨ ∃ u ∈ s.threads.set n t', u.Pending target := by
  have hfits := ht.fits t (List.mem_of_getElem? hn)
  have hself : t' ∈ s.threads.set n t' := List.mem_set (List.getElem?_eq_some_iff.mp hn).1 _
  rcases hm.of_opened hopen with hopen' | hp
  · rcases ht.pending target hopen' with hactive | ⟨u, hu, hp⟩
    · rcases hm.active ht.sound hfits hactive with hactive' | hcloses
      · exact Or.inl hactive'
      · -- the breaker is not open while its alarm is cleared
        have hclosed : s.shared.cbState target = false := by
          cases t with
          | selecting key => exact hfits target hcloses
          | clearing key ids => exact hfits.1 target hcloses
          | waiting | listing | listed | raising | done => exact hcloses.elim
        rw [hopen'] at hclosed
        cases hclosed
    · by_cases hut : u = t
      · subst hut
        rcases hm.pending ht.sound hfits hp with hp' | hactive
        · exact Or.inr ⟨t', hself, hp'⟩
        · exact Or.inl hactive
      · exact Or.inr ⟨u, mem_set_of_mem hu hn fun heq => absurd heq hut, hp⟩
  · exact Or.inr ⟨t', hself, hp⟩

theorem not_closes_run (hn : s.threads[n]? = some t) (hm : t.Moves uuid clock s.shared m' t')
    (hclosed : s.shared.cbState target = false) (hno : ¬ ∃ u ∈ s.threads, u.Closes target) :
    ¬ ∃ u ∈ s.threads.set n t', u.Closes target := by
  rintro ⟨u, hu, hc⟩
  rcases List.mem_or_eq_of_mem_set hu with hu | rfl
  · exact hno ⟨u, hu, hc⟩
  · rcases hm.of_closes hc with hc | hopen
    · exact hno ⟨t, List.mem_of_getElem? hn, hc⟩
    · rw [hclosed] at hopen
      cases hopen

theorem Tracked.not_closes_of_late (ht : Tracked uuid h s) (hn : s.threads[n]? = some t)
    (hm : t.Moves uuid clock s.shared m' t') (hlate : Late target ⟨m', s.threads.set n t'⟩) :
    ¬ ∃ u ∈ s.threads, u.Closes target := by
  have hself : t' ∈ s.threads.set n t' := List.mem_set (List.getElem?_eq_some_iff.mp hn).1 _
  rintro ⟨u, hu, hc⟩
  by_cases hut : u = t
  · subst hut
    have hactive : ¬ m'.Active target :=
      hm.of_cleared (ht.fits u hu) hc fun hc' => hlate.kept ⟨t', hself, hc'⟩
    obtain ⟨v, hv, hholds, hp⟩ := hlate.raised.resolve_left hactive
    -- only the call that clears the alarms has the lock, and it does not raise one
    obtain ⟨j, hj⟩ := List.mem_iff_getElem?.mp hv
    rcases getElem?_set_cases hj with ⟨-, rfl⟩ | ⟨hne, hj⟩
    · have hbefore := hm.of_pending hholds hp
      cases u with
      | selecting | clearing => exact hbefore.elim And.right And.right
      | waiting | listing | listed | raising | done => exact hc
    · exact ht.held.others hn (Or.inl hc.holds) hne hj hholds
  · exact hlate.kept ⟨u, mem_set_of_mem hu hn fun heq => absurd heq hut, hc⟩

theorem Tracked.raised_run (ht : Tracked uuid h s) (hn : s.threads[n]? = some t)
    (hm : t.Moves uuid clock s.shared m' t') (hlate : Late target s) :
    m'.Active target ∨ ∃ u ∈ s.threads.set n t', u.Holds ∧ u.Pending target := by
  have hmem : t ∈ s.threads := List.mem_of_getElem? hn
  have hself : t' ∈ s.threads.set n t' := List.mem_set (List.getElem?_eq_some_iff.mp hn).1 _
  rcases hlate.raised with hactive | ⟨u, hu, hholds, hp⟩
  · exact Or.inl ((hm.active ht.sound (ht.fits t hmem) hactive).resolve_right fun hc =>
      hlate.kept ⟨t, hmem, hc⟩)
  · by_cases hut : u = t
    · subst hut
      rcases hm.pending ht.sound (ht.fits u hu) hp with hp' | hactive
      · exact Or.inr ⟨t', hself, hm.holds_of_pending hholds hp, hp'⟩
      · exact Or.inl hactive
    · exact Or.inr ⟨u, mem_set_of_mem hu hn fun heq => absurd heq hut, hholds, hp⟩

theorem Tracked.late_of_run (ht : Tracked uuid h s) (hn : s.threads[n]? = some t)
    (hm : t.Moves uuid clock s.shared m' t') (hclosed : s.shared.cbState target = false)
    (hlate : Late target ⟨m', s.threads.set n t'⟩) :
    Late target s ∨ s.shared.locked = false ∧ t.Raises target := by
  have hmem : t ∈ s.threads := List.mem_of_getElem? hn
  have hno := ht.not_closes_of_late hn hm hlate
  rcases hlate.raised with hactive' | ⟨u, hu, hholds, hp⟩
  · by_cases hactive : s.shared.Active target
    · exact Or.inl ⟨hclosed, hno, Or.inl hactive⟩
    · exact Or.inl ⟨hclosed, hno, Or.inr ⟨t, hmem, hm.of_activated ht.sound hactive hactive'⟩⟩
  · rcases List.mem_or_eq_of_mem_set hu with hu | rfl
    · exact Or.inl ⟨hclosed, hno, Or.inr ⟨u, hu, hholds, hp⟩⟩
    · rcases hm.of_pending hholds hp with hbefore | hraises
      · exact Or.inl ⟨hclosed, hno, Or.inr ⟨t, hmem, hbefore⟩⟩
      · exact Or.inr hraises

theorem Tracked.late_iff_run (ht : Tracked uuid h s) (hn : s.threads[n]? = some t)
    (hm : t.Moves uuid clock s.shared m' t') {r : ManagerStep} (hpre : r.pre = s)
    (hthread : r.thread = some t) :
    RaisedLate target (h ++ [r]) ↔ Late target ⟨m', s.threads.set n t'⟩ := by
  have hself : t' ∈ s.threads.set n t' := List.mem_set (List.getElem?_eq_some_iff.mp hn).1 _
  by_cases hswitch : r.Switches target
  · refine iff_of_false (not_raisedLate_concat hswitch) fun hlate => ?_
    unfold ManagerStep.Switches at hswitch
    rw [hpre, hthread, Option.some.injEq, Option.some.injEq] at hswitch
    rcases hm.of_switch hswitch.1 hswitch.2 with hopen | hcloses
    · rw [hlate.closed] at hopen
      cases hopen
    · exact hlate.kept ⟨t', hself, hcloses⟩
  · have hsame : m'.cbState target = s.shared.cbState target := by
      refine (hm.cbState_eq target).resolve_right fun h => hswitch ?_
      unfold ManagerStep.Switches
      rw [hpre, hthread, Option.some.injEq, Option.some.injEq]
      exact h
    rw [raisedLate_concat hswitch, ht.late_iff, ManagerStep.RaisesLate, hpre, hthread]
    constructor
    · rintro (hlate | ⟨hfree, hclosed, u, hu, hraises⟩)
      · exact ⟨hsame.trans hlate.closed, not_closes_run hn hm hlate.closed hlate.kept,
          ht.raised_run hn hm hlate⟩
      · cases hu
        have hno : ¬ ∃ u ∈ s.threads, u.Closes target := by
          rintro ⟨u, hu, hc⟩
          have htaken : s.shared.locked = true := ht.held.taken_iff.mpr ⟨u, hu, hc.holds⟩
          rw [hfree] at htaken
          cases htaken
        exact ⟨hsame.trans hclosed, not_closes_run hn hm hclosed hno,
          Or.inr ⟨t', hself, hm.of_raises hfree hraises⟩⟩
    · intro hlate
      have hclosed : s.shared.cbState target = false := hsame.symm.trans hlate.closed
      refine (ht.late_of_run hn hm hclosed hlate).imp_right ?_
      exact fun ⟨hfree, hraises⟩ => ⟨hfree, hclosed, t, rfl, hraises⟩

end Run

theorem Tracked.run (ht : Tracked uuid h s) {n : ℕ} {t : Evaluation}
    (hn : s.threads[n]? = some t) (clock : Clock) :
    Tracked uuid (h ++ [record (step (Evaluation.next uuid rate)) s (.run n clock)])
      ⟨(t.next uuid rate clock s.shared).1,
        s.threads.set n (t.next uuid rate clock s.shared).2⟩ := by
  have hm := t.next_moves uuid rate clock s.shared
  have hfits := ht.fits t (List.mem_of_getElem? hn)
  refine ⟨ht.held.run (managerLock_guards uuid rate) hn clock, hm.sound ht.sound hfits, ?_, ?_, ?_⟩
  · exact fits_run (Evaluation.fits_of_not_holds uuid) ht.held (managerLock_guards uuid rate)
      ht.fits hn clock fun _ => hm.fits ht.sound hfits
  · exact fun target hopen => ht.pending_run hn hm hopen
  · exact fun target => ht.late_iff_run hn hm rfl hn

theorem Tracked.step (ht : Tracked uuid h s) {e : Event Evaluation Clock}
    (he : ∀ t, e = .start t → ∃ event, t = evaluate event) :
    Tracked uuid (h ++ [record (step (Evaluation.next uuid rate)) s e])
      (step (Evaluation.next uuid rate) s e).2 := by
  cases e with
  | start t =>
    obtain ⟨event, rfl⟩ := he t rfl
    exact ht.start event
  | run n clock =>
    cases hn : s.threads[n]? with
    | some t =>
      rw [step_run _ hn]
      exact ht.run hn clock
    | none =>
      rw [step_run_of_none _ hn]
      exact ⟨ht.held, ht.sound, ht.fits, ht.pending, ht.idle hn fun _ => Iff.rfl⟩

end Runs

theorem tracked_new (uuid : UUIDs) : Tracked uuid [] ⟨newAlarmManager, []⟩ where
  held := ⟨by simp, by simp [managerLock, newAlarmManager]⟩
  sound := ⟨.empty, fun a ha => absurd ha List.not_mem_nil⟩
  fits := by simp
  pending := by simp [newAlarmManager]
  late_iff target := by
    refine iff_of_false (by simp [RaisedLate, since]) fun hlate => ?_
    rcases hlate.raised with ⟨a, ha, -⟩ | ⟨t, hmem, -⟩
    · cases ha
    · cases hmem

theorem tracked_run (uuid : UUIDs) (rate : FailureRate)
    (es : List (Event (Option AlarmEvent) Clock)) :
    Tracked uuid
      (trace (step (Evaluation.next uuid rate)) ⟨newAlarmManager, []⟩ (evaluations es))
      (final (step (Evaluation.next uuid rate)) ⟨newAlarmManager, []⟩ (evaluations es)) := by
  refine history_inv (J := Tracked uuid)
    (C := fun r => ∀ t, r.input = .start t → ∃ event, t = evaluate event)
    (fun h s i ht hc => ht.step hc) (tracked_new uuid) ?_
  intro r hr t ht
  have hmem : Event.start t ∈ evaluations es := ht ▸ input_mem_of_mem_trace hr
  exact exists_of_start_mem_map hmem (fun _ => rfl) fun _ _ => rfl

/-- **The alarm of a circuit breaker.** Whenever no call of `Evaluate` is in progress, there is an
alarm for a target exactly if its breaker is recorded as open, unless a call came to raise the alarm
after the breaker had been recorded as closed. -/
theorem breaker_alarm_iff (uuid : UUIDs) (rate : FailureRate)
    (es : List (Event (Option AlarmEvent) Clock)) (target : String)
    (hquiet : Quiet (final (step (Evaluation.next uuid rate)) ⟨newAlarmManager, []⟩
      (evaluations es))) :
    let h := trace (step (Evaluation.next uuid rate)) ⟨newAlarmManager, []⟩ (evaluations es)
    let s := final (step (Evaluation.next uuid rate)) ⟨newAlarmManager, []⟩ (evaluations es)
    (s.shared.Active target ↔ s.shared.cbState target = true) ↔ ¬ RaisedLate target h := by
  intro h s
  have htracked : Tracked uuid h s := tracked_run uuid rate es
  -- nothing is pending and nothing is being cleared
  have hpending : s.shared.cbState target = true → s.shared.Active target := by
    intro hopen
    refine (htracked.pending target hopen).resolve_right ?_
    rintro ⟨t, hmem, hp⟩
    rw [hquiet t hmem] at hp
    exact hp
  have hcloses : ¬ ∃ t ∈ s.threads, t.Closes target := by
    rintro ⟨t, hmem, hc⟩
    rw [hquiet t hmem] at hc
    exact hc
  rw [htracked.late_iff target]
  constructor
  · intro hiff hlate
    have hactive : s.shared.Active target := by
      refine hlate.raised.resolve_right ?_
      rintro ⟨t, hmem, hholds, -⟩
      rw [hquiet t hmem] at hholds
      exact hholds
    have hopen := hiff.mp hactive
    rw [hlate.closed] at hopen
    cases hopen
  · intro hlate
    refine ⟨fun hactive => ?_, hpending⟩
    by_contra hopen
    exact hlate ⟨Bool.not_eq_true _ ▸ hopen, hcloses, Or.inl hactive⟩

namespace Sample

theorem replicate_injective :
    Function.Injective fun n => String.ofList (List.replicate n 'x') := by
  intro a b h
  have hlist := congrArg String.toList h
  simpa using congrArg List.length hlist

def uuids : UUIDs := ⟨fun n => String.ofList (List.replicate n 'x'), replicate_injective⟩

def tenPercent : FailureRate := ⟨fun failures total => 10 * total < 100 * failures, fun _ _ _ => ""⟩

def opened : Option AlarmEvent := some ⟨.circuitBreakerOpen, "aaa-1"⟩
def closed : Option AlarmEvent := some ⟨.circuitBreakerClosed, "aaa-1"⟩

/-- An event is evaluated in `k` actions that nothing interrupts. -/
def turns (n k : ℕ) : List (Event (Option AlarmEvent) Clock) :=
  List.replicate k (.run n ⟨0, 0⟩)

/-- The breaker is opened, closed and opened again, one event after the other. -/
def inTurn : List (Event (Option AlarmEvent) Clock) :=
  [.start opened, .start closed, .start opened] ++ turns 0 8 ++ turns 1 8 ++ turns 2 8

/-- The breaker is closed after `Evaluate` has recorded it as open, and before it lists the
alarms. -/
def between : List (Event (Option AlarmEvent) Clock) :=
  [.start opened, .start closed] ++ turns 0 1 ++ turns 1 8 ++ turns 0 8

end Sample

open Sample in
theorem breaker_in_turn :
    let s := final (step (Evaluation.next uuids tenPercent)) ⟨newAlarmManager, []⟩
      (evaluations inTurn)
    s.shared.Active "aaa-1" ↔ s.shared.cbState "aaa-1" = true :=
  (breaker_alarm_iff uuids tenPercent inTurn "aaa-1"
    (by decide +kernel)).mpr (by decide +kernel)

/-- An alarm is raised for a breaker that was closed in the meantime, and it stays. -/
theorem breaker_closed_between :
    let s := final (step (Evaluation.next Sample.uuids Sample.tenPercent)) ⟨newAlarmManager, []⟩
      (evaluations Sample.between)
    Quiet s ∧ s.shared.Active "aaa-1" ∧ s.shared.cbState "aaa-1" = false := by
  decide +kernel

end NssAAF.Nrm
