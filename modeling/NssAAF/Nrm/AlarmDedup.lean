import NssAAF.Nrm.AlarmStore
import NssAAF.Lib.History
import NssAAF.Lib.Interleaving
import Mathlib.Data.List.Pairwise

/-!
# Alarm deduplication

Calls of the alarm store that run beside each other. Every critical section is one action of a
thread, and so is what a call does between two of them. `alarms_deduplicated` is about all
interleavings of calls that save alarms under identifiers of their own.
-/

namespace NssAAF.Nrm

open Interleaving Transducer History

/-! ## The calls -/

/-- A call of the store. `Save` is given the identifier that it takes for an alarm without one. -/
inductive Request
  | save (alarm : Option Alarm) (uuid : String)
  | clear (id : String)
  | updateAck (id : String) (acked : Bool) (ackedBy : String)

inductive Call
  | save (save : Save)
  | refused (err : String)
  | clear (id : String)
  | cleared (found : Bool)
  | updateAck (id : String) (acked : Bool) (ackedBy : String)
  | updated (found : Bool)

def Request.call : Request → Call
  | .save none _ => .refused "alarm cannot be nil"
  | .save (some alarm) uuid => .save (.start (alarm.identified uuid))
  | .clear id => .clear id
  | .updateAck id acked ackedBy => .updateAck id acked ackedBy

namespace Call

def next (clock : Clock) (s : AlarmStore) : Call → AlarmStore × Call
  | .save call => ((call.next clock s).1, .save (call.next clock s).2)
  | .clear id => ((s.clear id).1, .cleared (s.clear id).2)
  | .updateAck id acked ackedBy =>
    ((s.updateAck clock.now id acked ackedBy).1,
      .updated (s.updateAck clock.now id acked ackedBy).2)
  | c => (s, c)

def savedID : Call → Option String
  | .save call => some call.alarm.alarmID
  | _ => none

end Call

abbrev StoreSystem : Type := System AlarmStore Call

abbrev StoreStep : Type := Record StoreSystem (Event Call Clock) (Option (Clock × Call))

/-- A schedule: calls are started, and those that are started take their turns. -/
def schedule (es : List (Event Request Clock)) : List (Event Call Clock) :=
  es.map fun
    | .start q => .start q.call
    | .run n clock => .run n clock

/-- The alarms are saved under identifiers of their own. -/
def FreshIDs (es : List (Event Request Clock)) : Prop :=
  ((schedule es).filterMap (label Call.savedID)).Nodup

instance (es : List (Event Request Clock)) : Decidable (FreshIDs es) :=
  inferInstanceAs (Decidable (List.Nodup _))

/-! ## Lookups -/

/-- The store in which the `Save` with number `n` looked without the write lock. -/
def StoreStep.lookedIn (n : ℕ) (r : StoreStep) : Option AlarmStore :=
  match r.input, r.output with
  | .run m _, some (_, .save (.looking _)) => if m = n then some r.pre.shared else none
  | _, _ => none

/-- The store in which a `Save` has looked last when it returns. -/
def Save.lookup (h : List StoreStep) (n : ℕ) (pre : AlarmStore) : Save → Option AlarmStore
  | .looked _ _ => latest (StoreStep.lookedIn n) h
  | .saving _ => some pre
  | _ => none

/-- What a `Save` does that looked into `looked` before it read the clock: it stores nothing and
returns the identifier of an alarm that suppresses its own, or makes its own alarm active. -/
structure Settles (looked pre post : AlarmStore) (clock : Clock) (alarm : Alarm) (id : String) :
    Prop where
  found : ∀ b ∈ looked.alarms, b.Suppresses alarm clock.now → id = b.alarmID ∧ post = pre
  stored : (∀ b ∈ looked.alarms, ¬ b.Suppresses alarm clock.now) →
    id = alarm.alarmID ∧ alarm.stamped clock.stamp ∈ post.alarms

/-- Every `Save` stores in its last step or not at all, and that step settles it. -/
def Saves (h : List StoreStep) (r : StoreStep) : Prop :=
  ∀ n clock save, r.input = .run n clock → r.pre.threads[n]? = some (.save save) →
    (∀ alarm id, save ≠ .returned alarm id →
      r.post.threads[n]? = some (.save (.returned alarm id)) →
      ∃ looked, save.lookup h n r.pre.shared = some looked ∧
        Settles looked r.pre.shared r.post.shared clock alarm id) ∧
    ((∀ alarm id, r.post.threads[n]? ≠ some (.save (.returned alarm id))) →
      r.post.shared = r.pre.shared)

/-! ## What an action can do -/

inductive Call.Moves (clock : Clock) (s : AlarmStore) : Call → AlarmStore → Call → Prop
  | save {call call' : Save} {s' : AlarmStore} (h : call.Moves clock s s' call') :
      Moves clock s (.save call) s' (.save call')
  | clears (id : String) (found : Bool) : Moves clock s (.clear id) (s.clear id).1 (.cleared found)
  | acks (id : String) (acked : Bool) (ackedBy : String) (found : Bool) :
      Moves clock s (.updateAck id acked ackedBy) (s.updateAck clock.now id acked ackedBy).1
        (.updated found)
  | rests {c : Call} (hc : c.savedID = none) : Moves clock s c s c

theorem Call.next_moves (clock : Clock) (s : AlarmStore) (c : Call) :
    c.Moves clock s (next clock s c).1 (next clock s c).2 := by
  cases c with
  | save call => exact .save (call.next_moves clock s)
  | clear id => exact .clears id _
  | updateAck id acked ackedBy => exact .acks id acked ackedBy _
  | refused err => exact .rests rfl
  | cleared found => exact .rests rfl
  | updated found => exact .rests rfl

namespace Call.Moves

variable {clock : Clock} {s s' : AlarmStore} {c c' : Call}

theorem alarmID_cases (h : c.Moves clock s s' c') (hs : s.Consistent) {a : Alarm}
    (ha : a ∈ s'.alarms) : (∃ b ∈ s.alarms, b.alarmID = a.alarmID) ∨
      ∃ alarm id, c' = .save (.returned alarm id) ∧ alarm.alarmID = a.alarmID := by
  cases h with
  | rests => exact Or.inl ⟨a, ha, rfl⟩
  | save h =>
    cases h with
    | looks | finds | misses | rests => exact Or.inl ⟨a, ha, rfl⟩
    | saves alarm =>
      rcases hs.mem_saveLocked ha with ha | rfl
      · exact Or.inl ⟨a, ha, rfl⟩
      · exact Or.inr ⟨alarm, _, rfl, (alarm.stamped_alarmID _).symm⟩
  | clears id =>
    rcases s.clear_cases id with heq | ⟨b, -, -, heq⟩
    · rw [heq] at ha
      exact Or.inl ⟨a, ha, rfl⟩
    · rw [heq] at ha
      exact Or.inl ⟨a, (AlarmStore.mem_discard.mp ha).1, rfl⟩
  | acks id acked ackedBy =>
    obtain ⟨-, f, hf, halarms⟩ := s.updateAck_cases clock.now id acked ackedBy
    rw [halarms] at ha
    obtain ⟨b, hb, rfl⟩ := List.mem_map.mp ha
    exact Or.inl ⟨b, hb, (congrArg DedupInfo.alarmID (hf b).2).symm⟩

theorem consistent (h : c.Moves clock s s' c') (hs : s.Consistent)
    (hnew : ∀ alarm, c = .save (.saving alarm) → ∀ b ∈ s.alarms, b.alarmID ≠ alarm.alarmID) :
    s'.Consistent := by
  cases h with
  | rests => exact hs
  | save h =>
    cases h with
    | looks | finds | misses | rests => exact hs
    | saves alarm => exact hs.saveLocked clock (hnew alarm rfl)
  | clears id => exact hs.clear id
  | acks id acked ackedBy => exact hs.updateAck clock.now id acked ackedBy

theorem savedID (h : c.Moves clock s s' c') : c'.savedID = c.savedID := by
  cases h with
  | save h => exact congrArg (fun alarm => some alarm.alarmID) h.alarm
  | clears | acks | rests => rfl

theorem eq_of_returned (h : c.Moves clock s s' c') {alarm : Alarm} {id : String}
    (hc : .save (.returned alarm id) = c) : c' = .save (.returned alarm id) := by
  cases h with
  | rests => exact hc.symm
  | save h =>
    cases hc
    cases h
    rfl
  | clears | acks => cases hc

end Call.Moves

/-! ## Runs -/

section Runs

variable {h : List StoreStep} {s : StoreSystem}

/-- What holds after the steps `h`: every active alarm was saved by a call that has returned, and a
`Save` has the entry that it found where it looked. -/
structure Kept (h : List StoreStep) (s : StoreSystem) : Prop where
  consistent : s.shared.Consistent
  saved : ∀ a ∈ s.shared.alarms, ∃ alarm id,
    Call.save (.returned alarm id) ∈ s.threads ∧ alarm.alarmID = a.alarmID
  looking : ∀ (n : ℕ) (alarm : Alarm), s.threads[n]? = some (.save (.looking alarm)) →
    alarm.backupObject ≠ ""
  looked : ∀ (n : ℕ) (alarm : Alarm) (existing : Option DedupInfo),
    s.threads[n]? = some (.save (.looked alarm existing)) → alarm.backupObject ≠ "" ∧
      ∃ st, latest (StoreStep.lookedIn n) h = some st ∧ st.Consistent ∧
        existing = st.dedup alarm.key

/-- The calls in progress save under identifiers of their own. -/
def Distinct (s : StoreSystem) : Prop := (s.threads.filterMap Call.savedID).Nodup

theorem Distinct.ne (hd : Distinct s) {call call' : Save} (h : .save call ∈ s.threads)
    (h' : .save call' ∈ s.threads) (hne : call ≠ call') :
    call.alarm.alarmID ≠ call'.alarm.alarmID := by
  unfold Distinct List.Nodup at hd
  rw [List.pairwise_filterMap] at hd
  have : Std.Symm fun c c' : Call =>
      ∀ id, c.savedID = some id → ∀ id', c'.savedID = some id' → id ≠ id' :=
    ⟨fun c c' hcc' id hid id' hid' => (hcc' id' hid' id hid).symm⟩
  exact hd.forall h h' (fun heq => hne (Call.save.inj heq)) _ rfl _ rfl

theorem Request.call_cases (q : Request) :
    (∀ alarm existing, q.call ≠ .save (.looked alarm existing)) ∧
      ∀ alarm, q.call = .save (.looking alarm) → alarm.backupObject ≠ "" := by
  cases q with
  | clear id => simp [call]
  | updateAck id acked ackedBy => simp [call]
  | save alarm uuid =>
    cases alarm with
    | none => simp [call]
    | some alarm =>
      by_cases hobject : (alarm.identified uuid).backupObject = ""
      · simp [call, Save.start, hobject]
      · simp [call, Save.start, hobject]

theorem Kept.start (hk : Kept h s) (q : Request) :
    Kept (h ++ [record (step Call.next) s (.start q.call)]) ⟨s.shared, s.threads ++ [q.call]⟩ := by
  have hold : ∀ (n : ℕ) (c : Call), (s.threads ++ [q.call])[n]? = some c →
      s.threads[n]? = some c ∨ q.call = c := by
    intro n c hc
    rw [List.getElem?_append] at hc
    split at hc
    · exact Or.inl hc
    · exact Or.inr (List.mem_singleton.mp (List.mem_of_getElem? hc)).symm
  refine ⟨hk.consistent, ?_, ?_, ?_⟩
  · intro a ha
    obtain ⟨alarm, id, hmem, hid⟩ := hk.saved a ha
    exact ⟨alarm, id, List.mem_append_left _ hmem, hid⟩
  · intro n alarm hn
    rcases hold n _ hn with hn | hq
    · exact hk.looking n alarm hn
    · exact q.call_cases.2 alarm hq
  · intro n alarm existing hn
    rw [latest_concat]
    rcases hold n _ hn with hn | hq
    · exact hk.looked n alarm existing hn
    · exact absurd hq (q.call_cases.1 alarm existing)

theorem lookedIn_run {n : ℕ} {c : Call} (hc : s.threads[n]? = some c) (clock : Clock) (j : ℕ) :
    StoreStep.lookedIn j (record (step Call.next) s (.run n clock)) =
      match c with
      | .save (.looking _) => if n = j then some s.shared else none
      | _ => none := by
  unfold StoreStep.lookedIn
  rw [record_input, record_output, step_run _ hc, record_pre]
  cases c with
  | save call => cases call <;> rfl
  | refused | clear | cleared | updateAck | updated => rfl

theorem Kept.moves (hk : Kept h s) (hd : Distinct s) {n : ℕ} {clock : Clock} {c c' : Call}
    {s' : AlarmStore} (hc : s.threads[n]? = some c) (hm : c.Moves clock s.shared s' c') :
    Kept (h ++ [record (step Call.next) s (.run n clock)]) ⟨s', s.threads.set n c'⟩ := by
  have hmem : c ∈ s.threads := List.mem_of_getElem? hc
  refine ⟨?_, ?_, ?_, ?_⟩
  · apply hm.consistent hk.consistent
    rintro alarm rfl b hb hid
    -- the identifier of an active alarm belongs to a call that has returned
    obtain ⟨alarm', id, hmem', hid'⟩ := hk.saved b hb
    exact hd.ne hmem' hmem (by simp) (hid'.trans hid)
  · intro a ha
    rcases hm.alarmID_cases hk.consistent ha with ⟨b, hb, hid⟩ | ⟨alarm, id, rfl, hid⟩
    · obtain ⟨alarm, id, hmem', hid'⟩ := hk.saved b hb
      exact ⟨alarm, id, mem_set_of_mem hmem' hc hm.eq_of_returned, hid'.trans hid⟩
    · exact ⟨alarm, id, List.mem_set (List.getElem?_eq_some_iff.mp hc).1 _, hid⟩
  · intro j alarm hj
    rcases getElem?_set_cases hj with ⟨rfl, rfl⟩ | ⟨hne, hj⟩
    · cases hm with
      | rests hid => cases hid
      | save h => cases h
    · exact hk.looking j alarm hj
  · intro j alarm existing hj
    rw [latest_concat, lookedIn_run hc]
    rcases getElem?_set_cases hj with ⟨rfl, heq⟩ | ⟨hne, hj⟩
    · subst heq
      cases hm with
      | rests hid => cases hid
      | save h =>
        cases h with
        | looks =>
          refine ⟨hk.looking n alarm hc, s.shared, ?_, hk.consistent, rfl⟩
          rw [if_pos rfl, Option.some_or]
    · obtain ⟨hobject, st, hst, hcons, heq⟩ := hk.looked j alarm existing hj
      refine ⟨hobject, st, ?_, hcons, heq⟩
      split
      · rw [if_neg hne, Option.none_or]
        exact hst
      · exact hst

theorem Settles.of_found {st pre : AlarmStore} {clock : Clock} {alarm b : Alarm}
    (hst : st.Consistent) (hb : b ∈ st.alarms) (hsup : b.Suppresses alarm clock.now) :
    Settles st pre pre clock alarm b.alarmID := by
  constructor
  · intro b' hb' hsup'
    have hobject : b.backupObject ≠ "" := by
      rw [Alarm.backupObject_eq hsup.2.1]
      exact hsup.1
    rw [hst.unique hb hb' hobject (hsup.2.1.trans hsup'.2.1.symm)]
    exact ⟨rfl, rfl⟩
  · intro hnone
    exact absurd hsup (hnone b hb)

theorem Kept.saves (hk : Kept h s) {n : ℕ} {clock : Clock} {call call' : Save} {s' : AlarmStore}
    (hc : s.threads[n]? = some (.save call)) (hm : call.Moves clock s.shared s' call') :
    (∀ alarm id, call ≠ .returned alarm id → call' = .returned alarm id →
      ∃ looked, call.lookup h n s.shared = some looked ∧
        Settles looked s.shared s' clock alarm id) ∧
    ((∀ alarm id, call' ≠ .returned alarm id) → s' = s.shared) := by
  cases hm with
  | looks alarm => exact ⟨by simp, fun _ => rfl⟩
  | misses alarm existing => exact ⟨by simp, fun _ => rfl⟩
  | finds alarm hnow =>
    refine ⟨?_, fun _ => rfl⟩
    rintro alarm' id - ⟨⟩
    obtain ⟨hobject, st, hst, hcons, hinfo⟩ := hk.looked n alarm _ hc
    obtain ⟨b, hb, hkey, rfl⟩ := hcons.points alarm.key _ hobject hinfo.symm
    exact ⟨st, hst, Settles.of_found hcons hb ⟨hobject, hkey, hnow⟩⟩
  | saves alarm =>
    refine ⟨?_, fun h => absurd rfl (h alarm _)⟩
    rintro alarm' id - ⟨⟩
    refine ⟨s.shared, rfl, ?_⟩
    rcases hk.consistent.saveLocked_cases clock alarm with
      ⟨b, hb, hsup, heq⟩ | ⟨hnone, s', -, -, -, -, heq⟩
    · rw [heq]
      exact Settles.of_found hk.consistent hb hsup
    · rw [heq]
      exact ⟨fun b hb hsup => absurd hsup (hnone b hb),
        fun _ => ⟨rfl, AlarmStore.mem_insert.mpr (Or.inl rfl)⟩⟩
  | rests alarm id =>
    refine ⟨?_, fun _ => rfl⟩
    rintro alarm' id' hne ⟨⟩
    exact absurd rfl hne

theorem Kept.step (hk : Kept h s) (hd : Distinct s) {e : Event Call Clock}
    (he : ∀ c, e = .start c → ∃ q : Request, c = q.call) :
    Kept (h ++ [record (step Call.next) s e]) (step Call.next s e).2 := by
  cases e with
  | start c =>
    obtain ⟨q, rfl⟩ := he c rfl
    exact hk.start q
  | run n clock =>
    cases hc : s.threads[n]? with
    | none =>
      have hidle : ∀ j, StoreStep.lookedIn j
          (record (Interleaving.step Call.next) s (.run n clock)) = none := by
        intro j
        unfold StoreStep.lookedIn
        rw [record_input, record_output, step_run_of_none _ hc]
      rw [step_run_of_none _ hc]
      refine ⟨hk.consistent, hk.saved, hk.looking, ?_⟩
      intro j alarm existing hj
      rw [latest_concat, hidle j]
      exact hk.looked j alarm existing hj
    | some c =>
      rw [step_run _ hc]
      exact hk.moves hd hc (c.next_moves clock s.shared)

theorem Kept.saves_record (hk : Kept h s) (e : Event Call Clock) :
    Saves h (record (Interleaving.step Call.next) s e) := by
  intro n clock call he hc
  rw [record_input] at he
  subst he
  rw [record_pre] at hc ⊢
  have hset : (s.threads.set n (.save (call.next clock s.shared).2))[n]? =
      some (.save (call.next clock s.shared).2) :=
    List.getElem?_set_self (List.getElem?_eq_some_iff.mp hc).1
  rw [record_post, step_run _ hc]
  dsimp only [Call.next]
  rw [hset]
  obtain ⟨hreturns, hrest⟩ := hk.saves hc (call.next_moves clock s.shared)
  constructor
  · intro alarm id hne heq
    exact hreturns alarm id hne (Call.save.inj (Option.some.inj heq))
  · intro hne
    exact hrest fun alarm id heq => hne alarm id (by rw [heq])

end Runs

/-- The entries of the store point to active alarms of their type and object, and no two active
alarms have the same type and the same object. -/
structure AlarmStore.Deduplicated (s : AlarmStore) : Prop where
  points : ∀ key info, key.backupObject ≠ "" → s.dedup key = some info →
    ∃ a ∈ s.alarms, a.alarmID = info.alarmID ∧ a.alarmType = key.alarmType ∧
      a.backupObject = key.backupObject
  unique : ∀ a ∈ s.alarms, ∀ b ∈ s.alarms, a.backupObject ≠ "" → a.alarmType = b.alarmType →
    a.backupObject = b.backupObject → a = b

theorem AlarmStore.Consistent.deduplicated {s : AlarmStore} (h : s.Consistent) :
    s.Deduplicated := by
  constructor
  · intro key info hobject hinfo
    obtain ⟨a, ha, rfl, rfl⟩ := h.points key info hobject hinfo
    exact ⟨a, ha, rfl, rfl, rfl⟩
  · intro a ha b hb hobject htype hsame
    exact h.unique ha hb hobject (by unfold Alarm.key; rw [htype, hsame])

theorem call_of_start_mem_schedule {es : List (Event Request Clock)} {c : Call}
    (h : Event.start c ∈ schedule es) : ∃ q : Request, c = q.call :=
  exists_of_start_mem_map h (fun _ => rfl) fun _ _ => rfl

theorem along_schedule {es : List (Event Request Clock)} (hfresh : FreshIDs es) :
    Along (step Call.next) ⟨newAlarmStore, []⟩
      (fun _ r => Distinct r.pre ∧ ∀ c, r.input = .start c → ∃ q : Request, c = q.call)
      (schedule es) := by
  intro es₁ e es₂ hes
  constructor
  · unfold Distinct
    rw [record_pre, labels_final fun i s t => (t.next_moves i s).savedID]
    unfold FreshIDs at hfresh
    rw [hes, List.filterMap_append] at hfresh
    exact hfresh.of_append_left
  · rintro c rfl
    apply call_of_start_mem_schedule
    rw [hes]
    exact List.mem_append_right _ (List.mem_cons_self ..)

/-- **Alarm deduplication.** In every interleaving of calls that save alarms under identifiers of
their own, the two maps agree after every step, and every `Save` stores nothing and returns the
identifier of an alarm that suppresses its own where it looked last, or makes its own active. -/
theorem alarms_deduplicated {es : List (Event Request Clock)} (hfresh : FreshIDs es) :
    (∀ r ∈ trace (step Call.next) ⟨newAlarmStore, []⟩ (schedule es),
      r.post.shared.Deduplicated) ∧
      Along (step Call.next) ⟨newAlarmStore, []⟩ Saves (schedule es) := by
  have hstart : Kept [] ⟨newAlarmStore, []⟩ :=
    ⟨.empty, fun a ha => absurd ha List.not_mem_nil, by simp, by simp⟩
  have halong := along_schedule hfresh
  constructor
  · intro r hr
    obtain ⟨es₁, e, es₂, hes, rfl⟩ := (mem_trace _).mp hr
    have hkept := inv_of_along (fun h s i hk hc => hk.step hc.1 hc.2) hstart
      (Along.of_append (hes ▸ halong))
    have hc := halong es₁ e es₂ hes
    exact (hkept.step hc.1 hc.2).consistent.deduplicated
  · exact along_of_inv (fun h s i hk hc => hk.step hc.1 hc.2)
      (fun h s i hk _ => hk.saves_record i) hstart halong

namespace Sample

def alarm (id : String) : Alarm :=
  ⟨id, "NSSAA_AAA_SERVER_UNREACHABLE", "", "", "CRITICAL", "CRITICAL", "aaa-1", [], "", zeroTime,
    false, "", none⟩

def clockAt (now : Time) : Clock := ⟨now, now⟩

/-- Two calls look for an alarm before either has saved its own. A third one comes after the window
of the alarm, which has been acknowledged. -/
def race : List (Event Request Clock) :=
  [.start (.save (some (alarm "a")) "1"), .start (.save (some (alarm "b")) "2"),
    .run 0 (clockAt 0), .run 1 (clockAt 0), .run 0 (clockAt 0), .run 1 (clockAt 0),
    .run 1 (clockAt second),
    .run 0 (clockAt second), .start (.updateAck "b" true "operator"), .run 2 (clockAt second),
    .start (.save (some (alarm "")) "c"), .run 3 (clockAt (301 * second)),
    .run 3 (clockAt (301 * second)), .run 3 (clockAt (301 * second))]

end Sample

theorem race_saves_one :
    (trace (step Call.next) ⟨newAlarmStore, []⟩ (schedule Sample.race)).map
        (fun r => r.post.shared.alarms.map Alarm.alarmID) =
      [[], [], [], [], [], [], ["b"], ["b"], ["b"], ["b"], ["b"], ["b"], ["b"], ["c"]] ∧
    (∀ r ∈ trace (step Call.next) ⟨newAlarmStore, []⟩ (schedule Sample.race),
      r.post.shared.Deduplicated) ∧
    Along (step Call.next) ⟨newAlarmStore, []⟩ Saves (schedule Sample.race) :=
  ⟨by decide +kernel, alarms_deduplicated (by decide +kernel)⟩

end NssAAF.Nrm
