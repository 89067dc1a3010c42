import NssAAF.Nrm.AlarmStore
import NssAAF.Lib.Mutex

/-!
# The alarm manager

`Evaluate` of `internal/nrm/alarm_manager.go` takes the manager's lock for an event, but gives it
back while it lists the alarms and takes it again to raise one. In between another event can be
evaluated.

A call of `Evaluate` is a thread. Its actions are the critical sections of the manager and of the
store. `managerLock_guards` says that only the holder of the lock changes anything, and `Fits` what
it knows about the store.
-/

namespace NssAAF.Nrm

open Mutex

/-! ## Events -/

def alarmAAAUnreachable : String := "NSSAA_AAA_SERVER_UNREACHABLE"
def alarmSessionTableFull : String := "NSSAA_SESSION_TABLE_FULL"
def alarmDBUnreachable : String := "NSSAA_DB_UNREACHABLE"
def alarmRedisUnreachable : String := "NSSAA_REDIS_UNREACHABLE"
def alarmNRFUnreachable : String := "NSSAA_NRF_UNREACHABLE"
def alarmHighAuthFailureRate : String := "NSSAA_HIGH_AUTH_FAILURE_RATE"
def alarmCircuitBreakerOpen : String := "NSSAA_CIRCUIT_BREAKER_OPEN"

def severityCritical : String := "CRITICAL"
def severityMajor : String := "MAJOR"

def probableCause (alarmType : String) : String :=
  if alarmType = alarmAAAUnreachable then "AAA_SERVER_UNREACHABLE"
  else if alarmType = alarmSessionTableFull then "RESOURCE_CAPACITY_EXCEEDED"
  else if alarmType = alarmDBUnreachable then "DATABASE_UNAVAILABLE"
  else if alarmType = alarmRedisUnreachable then "CACHING_SERVER_UNAVAILABLE"
  else if alarmType = alarmNRFUnreachable then "NETWORK_FUNCTION_REGISTRY_UNAVAILABLE"
  else if alarmType = alarmHighAuthFailureRate then "AUTHENTICATION_FAILURE_RATE_HIGH"
  else if alarmType = alarmCircuitBreakerOpen then "CIRCUIT_BREAKER_OPEN"
  else "UNKNOWN"

def proposedRepairAction (alarmType : String) : String :=
  if alarmType = alarmAAAUnreachable then "Check AAA server connectivity and configuration"
  else if alarmType = alarmSessionTableFull then "Increase session table capacity or reduce load"
  else if alarmType = alarmDBUnreachable then "Check PostgreSQL connectivity and configuration"
  else if alarmType = alarmRedisUnreachable then "Check Redis connectivity and configuration"
  else if alarmType = alarmNRFUnreachable then "Check NRF connectivity and registration"
  else if alarmType = alarmHighAuthFailureRate then
    "Investigate authentication failures and AAA server logs"
  else if alarmType = alarmCircuitBreakerOpen then
    "Check AAA server health and network connectivity"
  else "Contact network operations team"

inductive EventType
  | authSuccess
  | authFailure
  | circuitBreakerOpen
  | circuitBreakerClosed
  | aaaUnreachable
  | dbUnreachable
  | redisUnreachable
  | nrfUnreachable
  | other
  deriving DecidableEq

structure AlarmEvent where
  eventType : EventType
  target : String
  deriving DecidableEq

/-- What `RaiseAlarm` is called with. -/
structure Report where
  alarmType : String
  backupObject : String
  specificProblem : String
  severity : String

/-- The alarm of an event that is raised whenever the event comes. -/
def AlarmEvent.report (e : AlarmEvent) : Option Report :=
  match e.eventType with
  | .aaaUnreachable =>
    some ⟨alarmAAAUnreachable, e.target, "AAA server unreachable: " ++ e.target, severityCritical⟩
  | .dbUnreachable => some ⟨alarmDBUnreachable, "postgres", e.target, severityCritical⟩
  | .redisUnreachable => some ⟨alarmRedisUnreachable, "redis", e.target, severityMajor⟩
  | .nrfUnreachable => some ⟨alarmNRFUnreachable, "nrf", e.target, severityMajor⟩
  | _ => none

/-- What is computed in floating point: whether the rate of so many failures is over the threshold,
and the text about it. -/
structure FailureRate where
  exceeds (failures total : ℕ) : Bool
  describe (failures total now : ℕ) : String

/-- The identifiers that `uuid.New` gives, none of them twice. -/
structure UUIDs where
  new : ℕ → String
  injective : Function.Injective new

/-! ## The manager -/

/-- The manager with its store, whether its lock is taken, and how many identifiers were drawn. A
target without an entry in `cbState` is as one that is not open. -/
structure AlarmManager where
  store : AlarmStore
  cbState : String → Bool
  authTotal : ℕ
  authFailures : ℕ
  locked : Bool
  drawn : ℕ

def newAlarmManager : AlarmManager := ⟨newAlarmStore, fun _ => false, 0, 0, false, 0⟩

/-- The events that look for an alarm before they raise one. -/
inductive Notice
  | failureRate (failures total : ℕ)
  | breakerOpen (target : String)
  deriving DecidableEq

def breakerKey (target : String) : DedupKey := ⟨alarmCircuitBreakerOpen, target⟩

theorem breakerKey_inj {target target' : String} (h : breakerKey target = breakerKey target') :
    target = target' :=
  congrArg DedupKey.backupObject h

/-- The snapshot has the alarm already. -/
def Notice.Raised (snapshot : List Alarm) : Notice → Prop
  | .failureRate _ _ => ∃ a ∈ snapshot, a.alarmType = alarmHighAuthFailureRate
  | .breakerOpen target => ∃ a ∈ snapshot, a.key = breakerKey target

instance (snapshot : List Alarm) : (notice : Notice) → Decidable (notice.Raised snapshot)
  | .failureRate _ _ => inferInstanceAs (Decidable (∃ a ∈ snapshot, _))
  | .breakerOpen _ => inferInstanceAs (Decidable (∃ a ∈ snapshot, _))

def Notice.report (rate : FailureRate) (m : AlarmManager) : Notice → Report
  | .failureRate failures total =>
    ⟨alarmHighAuthFailureRate, "global", rate.describe failures total m.authTotal, severityMajor⟩
  | .breakerOpen target =>
    ⟨alarmCircuitBreakerOpen, target, "circuit breaker open for AAA server: " ++ target,
      severityMajor⟩

/-- A call of `Evaluate`: before it has the lock, before and after it has listed the alarms, in
`Save`, before and after `ClearByType` has listed the alarms, and at its end. -/
inductive Evaluation
  | waiting (event : AlarmEvent)
  | listing (notice : Notice)
  | listed (notice : Notice) (snapshot : List Alarm)
  | raising (save : Save)
  | selecting (key : DedupKey)
  | clearing (key : DedupKey) (ids : List String)
  | done
  deriving DecidableEq

def evaluate : Option AlarmEvent → Evaluation
  | none => .done
  | some event => .waiting event

def newAlarm (id : String) (now : Time) (q : Report) : Alarm where
  alarmID := id
  alarmType := q.alarmType
  probableCause := probableCause q.alarmType
  specificProblem := q.specificProblem
  severity := q.severity
  perceivedSeverity := q.severity
  backupObject := q.backupObject
  correlatedAlarms := []
  proposedRepairActions := proposedRepairAction q.alarmType
  eventTime := now
  acked := false
  ackedBy := ""
  ackedAt := none

namespace AlarmManager

variable (uuid : UUIDs) (rate : FailureRate) (clock : Clock) (m : AlarmManager)

/-- The alarm goes to `Save`, with the lock held. -/
def raiseAlarm (q : Report) : AlarmManager × Evaluation :=
  ({ m with locked := true, drawn := m.drawn + 1 },
    .raising (.start (newAlarm (uuid.new m.drawn) clock.now q)))

/-- The critical section in which an event is taken up. -/
def take (e : AlarmEvent) : AlarmManager × Evaluation :=
  match e.eventType with
  | .authSuccess => ({ m with authTotal := m.authTotal + 1 }, .done)
  | .authFailure =>
    let total := m.authTotal + 1
    let failures := m.authFailures + 1
    ({ m with authTotal := total, authFailures := failures },
      if rate.exceeds failures total then .listing (.failureRate failures total) else .done)
  | .circuitBreakerOpen =>
    ({ m with cbState := Function.update m.cbState e.target true },
      .listing (.breakerOpen e.target))
  | .circuitBreakerClosed =>
    if m.cbState e.target then
      ({ m with cbState := Function.update m.cbState e.target false, locked := true },
        .selecting (breakerKey e.target))
    else (m, .done)
  | _ =>
    match e.report with
    | some q => m.raiseAlarm uuid clock q
    | none => (m, .done)

/-- There is an alarm for the circuit breaker of the target. -/
def Active (target : String) : Prop := ∃ a ∈ m.store.alarms, a.key = breakerKey target

instance (target : String) : Decidable (m.Active target) :=
  inferInstanceAs (Decidable (∃ a ∈ m.store.alarms, a.key = breakerKey target))

end AlarmManager

namespace Evaluation

variable (uuid : UUIDs) (rate : FailureRate) (clock : Clock) (m : AlarmManager)

def next : Evaluation → AlarmManager × Evaluation
  | .waiting event => if m.locked then (m, .waiting event) else m.take uuid rate clock event
  | .listing notice => (m, .listed notice m.store.list)
  | .listed notice snapshot =>
    if m.locked then (m, .listed notice snapshot)
    else if notice.Raised snapshot then (m, .done)
    else m.raiseAlarm uuid clock (notice.report rate m)
  | .raising (.returned _ _) => ({ m with locked := false }, .done)
  | .raising save =>
    ({ m with store := (save.next clock m.store).1 }, .raising (save.next clock m.store).2)
  | .selecting key =>
    (m, .clearing key ((m.store.list.filter fun a => a.key = key).map Alarm.alarmID))
  | .clearing key (id :: ids) => ({ m with store := (m.store.clear id).1 }, .clearing key ids)
  | .clearing _ [] => ({ m with locked := false }, .done)
  | .done => (m, .done)

def Holds : Evaluation → Prop
  | .raising _ | .selecting _ | .clearing _ _ => True
  | _ => False

def Closes (target : String) : Evaluation → Prop
  | .selecting key | .clearing key _ => key = breakerKey target
  | _ => False

/-- The call is going to look for the alarm of the target, or to raise it. -/
def Pending (target : String) : Evaluation → Prop
  | .listing (.breakerOpen target') => target' = target
  | .listed (.breakerOpen target') snapshot =>
    target' = target ∧ ¬ (Notice.breakerOpen target').Raised snapshot
  | .raising (.returned _ _) => False
  | .raising save => save.alarm.key = breakerKey target
  | _ => False

end Evaluation

/-! ## What an action can do -/

namespace Evaluation

inductive Moves (uuid : UUIDs) (clock : Clock) (m : AlarmManager) :
    Evaluation → AlarmManager → Evaluation → Prop
  | waits {t : Evaluation} (ht : ¬ t.Holds) (hm : m.locked = true) : Moves uuid clock m t m t
  | rests : Moves uuid clock m .done m .done
  | counts {t' : Evaluation} (event : AlarmEvent) (total failures : ℕ) (hm : m.locked = false)
      (hopen : event.eventType ≠ .circuitBreakerOpen)
      (hclosed : event.eventType = .circuitBreakerClosed → m.cbState event.target = false)
      (ht' : t' = .done ∨ ∃ notice, t' = .listing notice) :
      Moves uuid clock m (.waiting event)
        { m with authTotal := total, authFailures := failures } t'
  | opens (target : String) (hm : m.locked = false) :
      Moves uuid clock m (.waiting ⟨.circuitBreakerOpen, target⟩)
        { m with cbState := Function.update m.cbState target true }
        (.listing (.breakerOpen target))
  | closes (target : String) (hm : m.locked = false) (hopen : m.cbState target = true) :
      Moves uuid clock m (.waiting ⟨.circuitBreakerClosed, target⟩)
        { m with cbState := Function.update m.cbState target false, locked := true }
        (.selecting (breakerKey target))
  | lists (notice : Notice) :
      Moves uuid clock m (.listing notice) m (.listed notice m.store.list)
  | knows (notice : Notice) (snapshot : List Alarm) (hm : m.locked = false)
      (hraised : notice.Raised snapshot) : Moves uuid clock m (.listed notice snapshot) m .done
  | raises {t : Evaluation} (alarm : Alarm) (hm : m.locked = false)
      (ht : (∃ event, t = .waiting event ∧ event.report ≠ none) ∨
        ∃ notice snapshot, t = .listed notice snapshot)
      (hid : alarm.alarmID = uuid.new m.drawn)
      (hkey : ∀ target, alarm.key = breakerKey target ↔ t.Pending target) :
      Moves uuid clock m t { m with locked := true, drawn := m.drawn + 1 }
        (.raising (.start alarm))
  | saves (save : Save) (hsave : ∀ alarm id, save ≠ .returned alarm id) :
      Moves uuid clock m (.raising save) { m with store := (save.next clock m.store).1 }
        (.raising (save.next clock m.store).2)
  | saved (alarm : Alarm) (id : String) :
      Moves uuid clock m (.raising (.returned alarm id)) { m with locked := false } .done
  | selects (key : DedupKey) :
      Moves uuid clock m (.selecting key) m
        (.clearing key ((m.store.list.filter fun a => a.key = key).map Alarm.alarmID))
  | clears (key : DedupKey) (id : String) (ids : List String) :
      Moves uuid clock m (.clearing key (id :: ids)) { m with store := (m.store.clear id).1 }
        (.clearing key ids)
  | cleared (key : DedupKey) :
      Moves uuid clock m (.clearing key []) { m with locked := false } .done

variable (uuid : UUIDs) (rate : FailureRate) (clock : Clock) (m : AlarmManager)

theorem newAlarm_key_ne {id target : String} {now : Time} {q : Report}
    (h : q.alarmType ≠ alarmCircuitBreakerOpen) : (newAlarm id now q).key ≠ breakerKey target :=
  fun heq => h (congrArg DedupKey.alarmType heq)

variable {m clock uuid} in
theorem raises_other {event : AlarmEvent} {q : Report} (hm : m.locked = false)
    (hq : event.report = some q) (h : q.alarmType ≠ alarmCircuitBreakerOpen) :
    Moves uuid clock m (.waiting event) (m.raiseAlarm uuid clock q).1
      (m.raiseAlarm uuid clock q).2 :=
  .raises _ hm (Or.inl ⟨event, rfl, by simp [hq]⟩) rfl fun _ => iff_of_false (newAlarm_key_ne h) id

theorem take_moves (event : AlarmEvent) (hm : m.locked = false) :
    Moves uuid clock m (.waiting event) (m.take uuid rate clock event).1
      (m.take uuid rate clock event).2 := by
  obtain ⟨eventType, target⟩ := event
  cases eventType with
  | authSuccess => exact .counts _ _ m.authFailures hm nofun nofun (Or.inl rfl)
  | authFailure =>
    dsimp only [AlarmManager.take]
    refine .counts _ _ _ hm nofun nofun ?_
    split
    · exact Or.inr ⟨_, rfl⟩
    · exact Or.inl rfl
  | circuitBreakerOpen => exact .opens target hm
  | circuitBreakerClosed =>
    dsimp only [AlarmManager.take]
    split
    · next hopen => exact .closes target hm hopen
    · next hclosed => exact .counts _ _ _ hm nofun (fun _ => by simpa using hclosed) (Or.inl rfl)
  | aaaUnreachable =>
    exact raises_other hm rfl (by decide : alarmAAAUnreachable ≠ alarmCircuitBreakerOpen)
  | dbUnreachable =>
    exact raises_other hm rfl (by decide : alarmDBUnreachable ≠ alarmCircuitBreakerOpen)
  | redisUnreachable =>
    exact raises_other hm rfl (by decide : alarmRedisUnreachable ≠ alarmCircuitBreakerOpen)
  | nrfUnreachable =>
    exact raises_other hm rfl (by decide : alarmNRFUnreachable ≠ alarmCircuitBreakerOpen)
  | other => exact .counts _ _ _ hm nofun nofun (Or.inl rfl)

theorem next_moves (t : Evaluation) :
    Moves uuid clock m t (next uuid rate clock m t).1 (next uuid rate clock m t).2 := by
  cases t with
  | waiting event =>
    dsimp only [next]
    split
    · next hm => exact .waits (by simp [Holds]) hm
    · next hm => exact take_moves uuid rate clock m event (by simpa using hm)
  | listing notice => exact .lists notice
  | listed notice snapshot =>
    dsimp only [next]
    split
    · next hm => exact .waits (by simp [Holds]) hm
    · next hm =>
      have hm' : m.locked = false := by simpa using hm
      split
      · next hraised => exact .knows notice snapshot hm' hraised
      · next hraised =>
        refine .raises _ hm' (Or.inr ⟨notice, snapshot, rfl⟩) rfl fun target => ?_
        cases notice with
        | failureRate failures total =>
          have hother : alarmHighAuthFailureRate ≠ alarmCircuitBreakerOpen := by decide
          exact iff_of_false (newAlarm_key_ne hother) id
        | breakerOpen target' =>
          exact ⟨fun h => ⟨breakerKey_inj h, hraised⟩, fun h => congrArg breakerKey h.1⟩
  | raising save =>
    cases save with
    | returned alarm id => exact .saved alarm id
    | looking alarm => exact .saves (.looking alarm) (by simp)
    | looked alarm existing => exact .saves (.looked alarm existing) (by simp)
    | saving alarm => exact .saves (.saving alarm) (by simp)
  | selecting key => exact .selects key
  | clearing key ids =>
    cases ids with
    | nil => exact .cleared key
    | cons id ids => exact .clears key id ids
  | done => exact .rests

end Evaluation

/-! ## The lock -/

def managerLock : Lock AlarmManager Evaluation := ⟨fun m => m.locked = true, Evaluation.Holds⟩

namespace Evaluation.Moves

variable {uuid : UUIDs} {clock : Clock} {m m' : AlarmManager} {t t' : Evaluation}

theorem blocked (h : Moves uuid clock m t m' t') (hm : m.locked = true) (ht : ¬ t.Holds) :
    m' = m ∧ ¬ t'.Holds := by
  cases h with
  | waits => exact ⟨rfl, ht⟩
  | rests => exact ⟨rfl, ht⟩
  | lists => exact ⟨rfl, by simp [Holds]⟩
  | counts _ _ _ hfree | opens _ hfree | closes _ hfree | knows _ _ hfree | raises _ hfree =>
    rw [hm] at hfree
    cases hfree
  | saves | saved | selects | clears | cleared => exact absurd trivial ht

theorem locked_iff (h : Moves uuid clock m t m' t') (hlock : m.locked = true ↔ t.Holds) :
    m'.locked = true ↔ t'.Holds := by
  cases h with
  | waits | rests | lists => exact hlock
  | knows _ _ hm => simp [Holds, hm]
  | counts _ _ _ hm _ _ ht' =>
    rcases ht' with rfl | ⟨notice, rfl⟩ <;> simp [Holds, hm]
  | opens _ hm => simp [Holds, hm]
  | closes | raises | saved | cleared => simp [Holds]
  | saves | selects | clears => exact hlock

end Evaluation.Moves

theorem managerLock_guards (uuid : UUIDs) (rate : FailureRate) :
    Guards managerLock (Evaluation.next uuid rate) where
  blocked clock m t := (Evaluation.next_moves uuid rate clock m t).blocked
  taken_iff clock m t := (Evaluation.next_moves uuid rate clock m t).locked_iff

/-! ## What the holder of the lock knows -/

namespace AlarmStore

variable {s : AlarmStore} {a : Alarm} {key : DedupKey} {clock : Clock}

/-- There is an alarm of the key. -/
def Has (s : AlarmStore) (key : DedupKey) : Prop := ∃ a ∈ s.alarms, a.key = key

/-- No alarm has the identifier of the new one. -/
def New (s : AlarmStore) (a : Alarm) : Prop := ∀ b ∈ s.alarms, b.alarmID ≠ a.alarmID

theorem has_saveLocked (hs : s.Consistent) (hnew : s.New a)
    (hkey : key = a.key ∨ s.Has key) : (s.saveLocked clock a).1.Has key := by
  rcases hs.saveLocked_cases clock a with
    ⟨b, hb, ⟨-, hbkey, -⟩, heq⟩ | ⟨-, s', -, -, hothers, -, heq⟩
  · rw [heq]
    rcases hkey with rfl | hhas
    · exact ⟨b, hb, hbkey⟩
    · exact hhas
  · rw [heq]
    by_cases hsame : key = a.key
    · exact ⟨_, mem_insert.mpr (Or.inl rfl), by rw [Alarm.stamped_key, hsame]⟩
    · obtain ⟨b, hb, rfl⟩ := hkey.resolve_left hsame
      refine ⟨b, mem_insert.mpr (Or.inr ⟨hothers b hb hsame, ?_⟩), rfl⟩
      rw [Alarm.stamped_alarmID]
      exact hnew b hb

end AlarmStore

namespace Save

variable {s : AlarmStore} {key : DedupKey} {clock : Clock} {save : Save}

/-- A `Save` whose alarm has a new identifier, and that found what is still in the store. -/
def Ready (s : AlarmStore) : Save → Prop
  | .looking alarm => alarm.backupObject ≠ "" ∧ s.New alarm
  | .looked alarm existing =>
    (alarm.backupObject ≠ "" ∧ existing = s.dedup alarm.key) ∧ s.New alarm
  | .saving alarm => s.New alarm
  | .returned _ _ => True

theorem ready_start {alarm : Alarm} (h : s.New alarm) : (start alarm).Ready s := by
  unfold start
  split
  · exact h
  · next hobject => exact ⟨hobject, h⟩

end Save

namespace Save.Moves

variable {s s' : AlarmStore} {key : DedupKey} {clock : Clock} {save save' : Save}

theorem ready (h : save.Moves clock s s' save') (hr : save.Ready s) : save'.Ready s' := by
  cases h with
  | looks alarm => exact ⟨⟨hr.1, rfl⟩, hr.2⟩
  | misses alarm existing => exact hr.2
  | finds | saves | rests => trivial

theorem consistent (h : save.Moves clock s s' save') (hs : s.Consistent) (hr : save.Ready s) :
    s'.Consistent := by
  cases h with
  | looks | finds | misses | rests => exact hs
  | saves alarm => exact hs.saveLocked clock hr

theorem mem_cases (h : save.Moves clock s s' save') (hs : s.Consistent) {b : Alarm}
    (hb : b ∈ s'.alarms) :
    b ∈ s.alarms ∨ b.alarmID = save.alarm.alarmID ∧ b.key = save.alarm.key := by
  cases h with
  | looks | finds | misses | rests => exact Or.inl hb
  | saves alarm =>
    rcases hs.mem_saveLocked hb with hb | rfl
    · exact Or.inl hb
    · exact Or.inr ⟨alarm.stamped_alarmID _, alarm.stamped_key _⟩

theorem has (h : save.Moves clock s s' save') (hs : s.Consistent) (hr : save.Ready s)
    (hkey : s.Has key) : s'.Has key := by
  cases h with
  | looks | finds | misses | rests => exact hkey
  | saves alarm => exact AlarmStore.has_saveLocked hs hr (Or.inr hkey)

theorem has_of_returned (h : save.Moves clock s s' save') (hs : s.Consistent) (hr : save.Ready s)
    (hsave : ∀ alarm id, save ≠ .returned alarm id) {alarm : Alarm} {id : String}
    (hreturned : save' = .returned alarm id) : s'.Has save.alarm.key := by
  cases h with
  | looks | misses => cases hreturned
  | finds alarm hnow =>
    obtain ⟨⟨hobject, hinfo⟩, -⟩ := hr
    obtain ⟨b, hb, hkey, -⟩ := hs.points alarm.key _ hobject hinfo.symm
    exact ⟨b, hb, hkey⟩
  | saves alarm => exact AlarmStore.has_saveLocked hs hr (Or.inl rfl)
  | rests alarm id => exact absurd rfl (hsave alarm id)

end Save.Moves

/-- The store is consistent, and its alarms have identifiers that were drawn. -/
structure AlarmManager.Sound (uuid : UUIDs) (m : AlarmManager) : Prop where
  consistent : m.store.Consistent
  drawn : ∀ a ∈ m.store.alarms, ∃ k < m.drawn, a.alarmID = uuid.new k

/-- What a call knows while it has the lock. A call that clears the alarms of a key has the
identifiers of all of them, and the breaker is not recorded as open. -/
def Evaluation.Fits (uuid : UUIDs) (m : AlarmManager) : Evaluation → Prop
  | .raising save => save.Ready m.store ∧ ∃ k < m.drawn, save.alarm.alarmID = uuid.new k
  | .selecting key => ∀ target, key = breakerKey target → m.cbState target = false
  | .clearing key ids => (∀ target, key = breakerKey target → m.cbState target = false) ∧
      ∀ a ∈ m.store.alarms, a.key = key ↔ a.alarmID ∈ ids
  | _ => True

theorem Evaluation.fits_of_not_holds (uuid : UUIDs) (m : AlarmManager) (t : Evaluation)
    (ht : ¬ t.Holds) : t.Fits uuid m := by
  cases t with
  | waiting | listing | listed | done => trivial
  | raising | selecting | clearing => exact absurd trivial ht

theorem Evaluation.Closes.holds {t : Evaluation} {target : String} (h : t.Closes target) :
    t.Holds := by
  cases t with
  | selecting | clearing => trivial
  | waiting | listing | listed | raising | done => exact h.elim

namespace Evaluation.Moves

variable {uuid : UUIDs} {clock : Clock} {m m' : AlarmManager} {t t' : Evaluation}
  {target : String}

theorem sound (h : Moves uuid clock m t m' t') (hs : m.Sound uuid) (hf : t.Fits uuid m) :
    m'.Sound uuid := by
  cases h with
  | waits | rests | counts | opens | closes | lists | knows | saved | selects | cleared =>
    exact ⟨hs.consistent, hs.drawn⟩
  | raises =>
    refine ⟨hs.consistent, fun a ha => ?_⟩
    obtain ⟨k, hk, hid⟩ := hs.drawn a ha
    exact ⟨k, Nat.lt_succ_of_lt hk, hid⟩
  | saves save =>
    have hm := save.next_moves clock m.store
    refine ⟨hm.consistent hs.consistent hf.1, fun a ha => ?_⟩
    rcases hm.mem_cases hs.consistent ha with ha | ⟨hid, -⟩
    · exact hs.drawn a ha
    · rw [hid]
      exact hf.2
  | clears key id =>
    refine ⟨hs.consistent.clear id, fun a ha => ?_⟩
    exact hs.drawn a (AlarmStore.mem_clear.mp ha).1

theorem fits (h : Moves uuid clock m t m' t') (hs : m.Sound uuid) (hf : t.Fits uuid m) :
    t'.Fits uuid m' := by
  cases h with
  | waits ht => exact hf
  | rests | opens | lists | knows | saved | cleared => trivial
  | counts _ _ _ _ _ _ ht' =>
    rcases ht' with rfl | ⟨notice, rfl⟩ <;> trivial
  | closes target =>
    intro target' hkey
    rw [← breakerKey_inj hkey]
    exact Function.update_self ..
  | raises alarm _ _ hid =>
    -- the identifier was not drawn before
    have hnew : m.store.New alarm := by
      intro b hb heq
      obtain ⟨k, hk, hbid⟩ := hs.drawn b hb
      have := uuid.injective (hbid.symm.trans (heq.trans hid))
      omega
    exact ⟨Save.ready_start hnew, m.drawn, Nat.lt_succ_self _, by rw [Save.start_alarm, hid]⟩
  | saves save =>
    have hm := save.next_moves clock m.store
    refine ⟨hm.ready hf.1, ?_⟩
    rw [hm.alarm]
    exact hf.2
  | selects key =>
    refine ⟨hf, fun a ha => ⟨fun hkey => ?_, fun hid => ?_⟩⟩
    · exact List.mem_map.mpr ⟨a, List.mem_filter.mpr ⟨AlarmStore.mem_list.mpr ha,
        decide_eq_true hkey⟩, rfl⟩
    · obtain ⟨b, hb, hid⟩ := List.mem_map.mp hid
      obtain ⟨hb, hkey⟩ := List.mem_filter.mp hb
      rw [← AlarmStore.eq_of_alarmID_eq (AlarmStore.mem_list.mp hb) ha hid]
      exact of_decide_eq_true hkey
  | clears key id ids =>
    refine ⟨hf.1, fun a ha => ?_⟩
    obtain ⟨ha, hne⟩ := AlarmStore.mem_clear.mp ha
    rw [hf.2 a ha, List.mem_cons, or_iff_right hne]

end Evaluation.Moves

end NssAAF.Nrm
