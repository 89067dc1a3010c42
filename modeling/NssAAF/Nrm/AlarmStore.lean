import NssAAF.Lib.Table
import Mathlib.Data.Int.Basic
import Mathlib.Data.List.Sort
import Mathlib.Logic.Function.Basic

/-!
# The alarm store

`AlarmStore` of `internal/nrm/alarm.go` has two maps: the active alarms by their identifier, and the
entries that suppress another alarm of the same type and object for five minutes. `Save` looks into
the second map once without the write lock and once with it, and reads the clock after either look.
Every critical section of `Save` is one action, and so is what it does between them.

`Consistent` relates the two maps, and every operation keeps it.
-/

namespace NssAAF.Nrm

/-- A clock reading or a duration, in nanoseconds. -/
abbrev Time : Type := ℤ

def second : Time := 1000000000

def zeroTime : Time := -62135596800 * second

def dedupWindow : Time := 5 * 60 * second

/-! ## Alarms -/

structure Alarm where
  alarmID : String
  alarmType : String
  probableCause : String
  specificProblem : String
  severity : String
  perceivedSeverity : String
  backupObject : String
  correlatedAlarms : List String
  proposedRepairActions : String
  eventTime : Time
  acked : Bool
  ackedBy : String
  ackedAt : Option Time
  deriving DecidableEq

structure DedupKey where
  alarmType : String
  backupObject : String
  deriving DecidableEq

structure DedupInfo where
  alarmID : String
  deadline : Time
  deriving DecidableEq

namespace Alarm

variable (a : Alarm)

def key : DedupKey := ⟨a.alarmType, a.backupObject⟩

/-- The entry that `Save` makes for the alarm. -/
def info : DedupInfo := ⟨a.alarmID, a.eventTime + dedupWindow⟩

/-- An alarm without an identifier gets one. -/
def identified (uuid : String) : Alarm := if a.alarmID = "" then { a with alarmID := uuid } else a

/-- The time of an alarm is set only if it is not set already. -/
def stamped (now : Time) : Alarm :=
  if a.eventTime = zeroTime then { a with eventTime := now } else a

def acknowledged (now : Time) (acked : Bool) (ackedBy : String) : Alarm :=
  { a with acked := acked, ackedBy := ackedBy, ackedAt := some now }

@[simp] theorem stamped_alarmID (now : Time) : (a.stamped now).alarmID = a.alarmID := by
  unfold stamped
  split <;> rfl

@[simp] theorem stamped_key (now : Time) : (a.stamped now).key = a.key := by
  unfold stamped
  split <;> rfl

@[simp] theorem stamped_backupObject (now : Time) :
    (a.stamped now).backupObject = a.backupObject := by
  unfold stamped
  split <;> rfl

theorem backupObject_eq {a b : Alarm} (h : a.key = b.key) : a.backupObject = b.backupObject :=
  congrArg DedupKey.backupObject h

/-- The alarm suppresses another one at `now`. -/
def Suppresses (other : Alarm) (now : Time) : Prop :=
  other.backupObject ≠ "" ∧ a.key = other.key ∧ now < a.eventTime + dedupWindow

end Alarm

/-! ## The store -/

/-- The alarms are the values of a map, so no two have the same identifier. -/
structure AlarmStore where
  alarms : List Alarm
  dedup : DedupKey → Option DedupInfo
  nodup : (alarms.map Alarm.alarmID).Nodup

theorem nodup_delete {alarms : List Alarm} (h : (alarms.map Alarm.alarmID).Nodup) (id : String) :
    ((Table.delete Alarm.alarmID id alarms).map Alarm.alarmID).Nodup :=
  h.sublist (List.filter_sublist.map _)

theorem nodup_put {alarms : List Alarm} (h : (alarms.map Alarm.alarmID).Nodup) (a : Alarm) :
    ((Table.delete Alarm.alarmID a.alarmID alarms ++ [a]).map Alarm.alarmID).Nodup := by
  refine Table.nodup_insert (nodup_delete h a.alarmID) ?_
  unfold Table.select Table.delete
  rw [List.find?_eq_none]
  intro b hb
  simpa using (List.mem_filter.mp hb).2

theorem nodup_update {alarms : List Alarm} (h : (alarms.map Alarm.alarmID).Nodup) (id : String)
    (now : Time) (acked : Bool) (ackedBy : String) :
    ((Table.update Alarm.alarmID id (·.acknowledged now acked ackedBy) alarms).map
      Alarm.alarmID).Nodup := by
  rw [Table.map_update (f := fun a : Alarm => a.acknowledged now acked ackedBy) fun _ => rfl]
  exact h

def newAlarmStore : AlarmStore := ⟨[], fun _ => none, List.nodup_nil⟩

/-- The two readings of the clock in a critical section: for the deadline, and for the time of the
alarm. -/
structure Clock where
  now : Time
  stamp : Time
  deriving DecidableEq

namespace AlarmStore

variable (s : AlarmStore)

def get (id : String) : Option Alarm := Table.select Alarm.alarmID id s.alarms

def list : List Alarm := s.alarms.insertionSort fun a b => b.eventTime ≤ a.eventTime

/-- The entry of `key` and the alarm `id` are deleted. -/
def discard (key : DedupKey) (id : String) : AlarmStore where
  alarms := Table.delete Alarm.alarmID id s.alarms
  dedup := Function.update s.dedup key none
  nodup := nodup_delete s.nodup id

/-- The alarm and its entry are stored. -/
def insert (a : Alarm) : AlarmStore where
  alarms := Table.delete Alarm.alarmID a.alarmID s.alarms ++ [a]
  dedup := Function.update s.dedup a.key (some a.info)
  nodup := nodup_put s.nodup a

/-- The entry that suppresses the alarm, unless its object is empty. -/
def existing (alarm : Alarm) : Option DedupInfo :=
  if alarm.backupObject = "" then none else s.dedup alarm.key

/-- The critical section of `Save`: the store after it, and the identifier that is returned. -/
def saveLocked (clock : Clock) (alarm : Alarm) : AlarmStore × String :=
  match s.existing alarm with
  | some info =>
    if clock.now < info.deadline then (s, info.alarmID)
    else ((s.discard alarm.key info.alarmID).insert (alarm.stamped clock.stamp), alarm.alarmID)
  | none => (s.insert (alarm.stamped clock.stamp), alarm.alarmID)

def clear (id : String) : AlarmStore × Bool :=
  match s.get id with
  | none => (s, false)
  | some alarm => (s.discard alarm.key id, true)

def updateAck (now : Time) (id : String) (acked : Bool) (ackedBy : String) : AlarmStore × Bool :=
  match s.get id with
  | none => (s, false)
  | some _ =>
    ({ s with
        alarms := Table.update Alarm.alarmID id (·.acknowledged now acked ackedBy) s.alarms
        nodup := nodup_update s.nodup id now acked ackedBy }, true)

/-! ### The alarms after an operation -/

variable {s} {a b : Alarm} {id : String} {key : DedupKey}

@[simp] theorem mem_list : a ∈ s.list ↔ a ∈ s.alarms := List.mem_insertionSort _

theorem mem_discard : a ∈ (s.discard key id).alarms ↔ a ∈ s.alarms ∧ a.alarmID ≠ id := by
  unfold discard Table.delete
  simp

theorem mem_insert : b ∈ (s.insert a).alarms ↔ b = a ∨ (b ∈ s.alarms ∧ b.alarmID ≠ a.alarmID) := by
  unfold insert Table.delete
  simp [or_comm]

theorem eq_of_alarmID_eq (ha : a ∈ s.alarms) (hb : b ∈ s.alarms) (h : a.alarmID = b.alarmID) :
    a = b :=
  List.inj_on_of_nodup_map s.nodup ha hb h

theorem of_get (h : s.get id = some a) : a ∈ s.alarms ∧ a.alarmID = id :=
  ⟨List.mem_of_find?_eq_some h, Table.key_of_select h⟩

theorem clear_cases (s : AlarmStore) (id : String) :
    (s.clear id).1 = s ∨ ∃ a ∈ s.alarms, a.alarmID = id ∧
      (s.clear id).1 = s.discard a.key a.alarmID := by
  unfold clear
  split
  · exact Or.inl rfl
  · next a hget =>
    obtain ⟨ha, rfl⟩ := of_get hget
    exact Or.inr ⟨a, ha, rfl, rfl⟩

theorem mem_clear : a ∈ (s.clear id).1.alarms ↔ a ∈ s.alarms ∧ a.alarmID ≠ id := by
  unfold clear
  split
  · next hnone =>
    -- no alarm has the identifier
    refine ⟨fun ha => ⟨ha, fun hid => ?_⟩, And.left⟩
    exact List.find?_eq_none.mp hnone a ha (decide_eq_true hid)
  · exact mem_discard

theorem updateAck_cases (s : AlarmStore) (now : Time) (id : String) (acked : Bool)
    (ackedBy : String) :
    (s.updateAck now id acked ackedBy).1.dedup = s.dedup ∧
      ∃ f : Alarm → Alarm, (∀ a, (f a).key = a.key ∧ (f a).info = a.info) ∧
        (s.updateAck now id acked ackedBy).1.alarms = s.alarms.map f := by
  unfold updateAck
  split
  · exact ⟨rfl, fun a => a, fun _ => ⟨rfl, rfl⟩, (List.map_id _).symm⟩
  · refine ⟨rfl, _, fun a => ?_, rfl⟩
    split <;> exact ⟨rfl, rfl⟩

/-! ### The two maps -/

/-- Of the keys with an object, exactly those of the active alarms have an entry, and it is that
of the alarm. -/
structure Consistent (s : AlarmStore) : Prop where
  listed : ∀ a ∈ s.alarms, a.backupObject ≠ "" → s.dedup a.key = some a.info
  points : ∀ key info, key.backupObject ≠ "" → s.dedup key = some info →
    ∃ a ∈ s.alarms, a.key = key ∧ a.info = info

namespace Consistent

theorem empty : newAlarmStore.Consistent :=
  ⟨fun _ ha => absurd ha List.not_mem_nil, fun _ _ _ h => nomatch h⟩

theorem unique (h : s.Consistent) (ha : a ∈ s.alarms) (hb : b ∈ s.alarms)
    (hobject : a.backupObject ≠ "") (hkey : a.key = b.key) : a = b := by
  have hobject' : b.backupObject ≠ "" := by
    rwa [← Alarm.backupObject_eq hkey]
  have hinfo : a.info = b.info := by
    apply Option.some.inj
    rw [← h.listed a ha hobject, ← h.listed b hb hobject', hkey]
  exact eq_of_alarmID_eq ha hb (congrArg DedupInfo.alarmID hinfo)

theorem discard (h : s.Consistent) (hb : b ∈ s.alarms) :
    (s.discard b.key b.alarmID).Consistent := by
  constructor
  · intro a ha hobject
    obtain ⟨ha, hid⟩ := mem_discard.mp ha
    have hkey : a.key ≠ b.key := by
      intro hkey
      exact hid (congrArg Alarm.alarmID (h.unique ha hb hobject hkey))
    show Function.update s.dedup b.key none a.key = _
    rw [Function.update_of_ne hkey]
    exact h.listed a ha hobject
  · intro key info hobject hinfo
    have hkey : key ≠ b.key := by
      rintro rfl
      rw [show (s.discard b.key b.alarmID).dedup b.key = none from Function.update_self ..] at hinfo
      cases hinfo
    rw [show (s.discard b.key b.alarmID).dedup key = s.dedup key from
      Function.update_of_ne hkey ..] at hinfo
    obtain ⟨a, ha, rfl, rfl⟩ := h.points key info hobject hinfo
    refine ⟨a, mem_discard.mpr ⟨ha, fun hid => hkey ?_⟩, rfl, rfl⟩
    rw [eq_of_alarmID_eq ha hb hid]

theorem insert (h : s.Consistent) (hnew : ∀ b ∈ s.alarms, b.alarmID ≠ a.alarmID)
    (hfree : a.backupObject ≠ "" → s.dedup a.key = none) : (s.insert a).Consistent := by
  constructor
  · intro b hb hobject
    show Function.update s.dedup a.key (some a.info) b.key = _
    rcases mem_insert.mp hb with rfl | ⟨hb, -⟩
    · exact Function.update_self ..
    · -- an alarm of the same key would have an entry
      have hlisted := h.listed b hb hobject
      have hkey : b.key ≠ a.key := by
        intro hkey
        have hobject' : a.backupObject ≠ "" := by
          rwa [← Alarm.backupObject_eq hkey]
        rw [hkey, hfree hobject'] at hlisted
        cases hlisted
      rw [Function.update_of_ne hkey]
      exact hlisted
  · intro key info hobject hinfo
    by_cases hkey : key = a.key
    · subst hkey
      rw [show (s.insert a).dedup a.key = some a.info from Function.update_self ..] at hinfo
      cases hinfo
      exact ⟨a, mem_insert.mpr (Or.inl rfl), rfl, rfl⟩
    · rw [show (s.insert a).dedup key = s.dedup key from Function.update_of_ne hkey ..] at hinfo
      obtain ⟨b, hb, rfl, rfl⟩ := h.points key info hobject hinfo
      exact ⟨b, mem_insert.mpr (Or.inr ⟨hb, hnew b hb⟩), rfl, rfl⟩

theorem existing_some (h : s.Consistent) {alarm : Alarm} {info : DedupInfo}
    (hinfo : s.existing alarm = some info) :
    alarm.backupObject ≠ "" ∧ ∃ b ∈ s.alarms, b.key = alarm.key ∧ b.info = info := by
  unfold existing at hinfo
  split_ifs at hinfo with hobject
  exact ⟨hobject, h.points alarm.key info hobject hinfo⟩

theorem existing_none (h : s.Consistent) {alarm : Alarm} (hnone : s.existing alarm = none)
    (hobject : alarm.backupObject ≠ "") : s.dedup alarm.key = none ∧
      ∀ b ∈ s.alarms, b.key ≠ alarm.key := by
  unfold existing at hnone
  rw [if_neg hobject] at hnone
  refine ⟨hnone, fun b hb hkey => ?_⟩
  have hobject' : b.backupObject ≠ "" := by
    rwa [Alarm.backupObject_eq hkey]
  have hlisted := h.listed b hb hobject'
  rw [hkey, hnone] at hlisted
  cases hlisted

/-- The critical section of `Save` finds an alarm that suppresses the new one, or it stores the new
one where nothing has its key. -/
theorem saveLocked_cases (h : s.Consistent) (clock : Clock) (alarm : Alarm) :
    (∃ b ∈ s.alarms, b.Suppresses alarm clock.now ∧ s.saveLocked clock alarm = (s, b.alarmID)) ∨
      ((∀ b ∈ s.alarms, ¬ b.Suppresses alarm clock.now) ∧
        ∃ s' : AlarmStore, s'.Consistent ∧ (∀ b ∈ s'.alarms, b ∈ s.alarms) ∧
          (∀ b ∈ s.alarms, b.key ≠ alarm.key → b ∈ s'.alarms) ∧
          (alarm.backupObject ≠ "" → s'.dedup alarm.key = none) ∧
          s.saveLocked clock alarm = (s'.insert (alarm.stamped clock.stamp), alarm.alarmID)) := by
  unfold saveLocked
  cases hexisting : s.existing alarm with
  | none =>
    refine Or.inr ⟨?_, s, h, fun _ hb => hb, fun _ hb _ => hb, ?_, rfl⟩
    · rintro b hb ⟨hobject, hkey, -⟩
      exact (h.existing_none hexisting hobject).2 b hb hkey
    · intro hobject
      exact (h.existing_none hexisting hobject).1
  | some info =>
    obtain ⟨hobject, b, hb, hkey, rfl⟩ := h.existing_some hexisting
    dsimp only
    by_cases hnow : clock.now < b.info.deadline
    · rw [if_pos hnow]
      exact Or.inl ⟨b, hb, ⟨hobject, hkey, hnow⟩, rfl⟩
    · rw [if_neg hnow]
      refine Or.inr ⟨?_, s.discard alarm.key b.alarmID, ?_, ?_, ?_, ?_, rfl⟩
      · rintro b' hb' ⟨-, hkey', hnow'⟩
        have hobject' : b'.backupObject ≠ "" := by
          rwa [Alarm.backupObject_eq hkey']
        obtain rfl := h.unique hb' hb hobject' (hkey'.trans hkey.symm)
        exact hnow hnow'
      · rw [← hkey]
        exact h.discard hb
      · exact fun b' hb' => (mem_discard.mp hb').1
      · intro b' hb' hne
        refine mem_discard.mpr ⟨hb', fun hid => hne ?_⟩
        rw [eq_of_alarmID_eq hb' hb hid, hkey]
      · exact fun _ => Function.update_self ..

theorem saveLocked (h : s.Consistent) (clock : Clock) {alarm : Alarm}
    (hnew : ∀ b ∈ s.alarms, b.alarmID ≠ alarm.alarmID) :
    (s.saveLocked clock alarm).1.Consistent := by
  rcases h.saveLocked_cases clock alarm with ⟨b, -, -, heq⟩ | ⟨-, s', hs', hsub, -, hfree, heq⟩
  · rw [heq]
    exact h
  · rw [heq]
    apply hs'.insert
    · intro b hb
      rw [Alarm.stamped_alarmID]
      exact hnew b (hsub b hb)
    · rw [Alarm.stamped_backupObject, Alarm.stamped_key]
      exact hfree

theorem mem_saveLocked (h : s.Consistent) {clock : Clock} {alarm : Alarm}
    (hb : b ∈ (s.saveLocked clock alarm).1.alarms) :
    b ∈ s.alarms ∨ b = alarm.stamped clock.stamp := by
  rcases h.saveLocked_cases clock alarm with ⟨a, -, -, heq⟩ | ⟨-, s', -, hsub, -, -, heq⟩
  · rw [heq] at hb
    exact Or.inl hb
  · rw [heq] at hb
    rcases mem_insert.mp hb with rfl | ⟨hb, -⟩
    · exact Or.inr rfl
    · exact Or.inl (hsub b hb)

theorem clear (h : s.Consistent) (id : String) : (s.clear id).1.Consistent := by
  rcases s.clear_cases id with heq | ⟨a, ha, -, heq⟩
  · rw [heq]
    exact h
  · rw [heq]
    exact h.discard ha

theorem updateAck (h : s.Consistent) (now : Time) (id : String) (acked : Bool)
    (ackedBy : String) : (s.updateAck now id acked ackedBy).1.Consistent := by
  obtain ⟨hdedup, f, hf, halarms⟩ := s.updateAck_cases now id acked ackedBy
  constructor
  · rw [halarms, hdedup]
    intro b hb hobject
    obtain ⟨a, ha, rfl⟩ := List.mem_map.mp hb
    have hobject' : a.backupObject ≠ "" := by
      rwa [← Alarm.backupObject_eq (hf a).1]
    rw [(hf a).1, (hf a).2]
    exact h.listed a ha hobject'
  · rw [halarms, hdedup]
    intro key info hobject hinfo
    obtain ⟨a, ha, rfl, rfl⟩ := h.points key info hobject hinfo
    exact ⟨f a, List.mem_map_of_mem ha, (hf a).1, (hf a).2⟩

end Consistent

end AlarmStore

/-! ## Saving -/

/-- A `Save` that is being processed: before its look without the write lock, after it with the
entry that it found, before its critical section, and at its end. -/
inductive Save
  | looking (alarm : Alarm)
  | looked (alarm : Alarm) (existing : Option DedupInfo)
  | saving (alarm : Alarm)
  | returned (alarm : Alarm) (id : String)
  deriving DecidableEq

namespace Save

/-- Without an object there is nothing to look for. -/
def start (alarm : Alarm) : Save :=
  if alarm.backupObject = "" then .saving alarm else .looking alarm

def alarm : Save → Alarm
  | .looking alarm => alarm
  | .looked alarm _ => alarm
  | .saving alarm => alarm
  | .returned alarm _ => alarm

def next (clock : Clock) (s : AlarmStore) : Save → AlarmStore × Save
  | .looking alarm => (s, .looked alarm (s.dedup alarm.key))
  | .looked alarm none => (s, .saving alarm)
  | .looked alarm (some info) =>
    if clock.now < info.deadline then (s, .returned alarm info.alarmID) else (s, .saving alarm)
  | .saving alarm => ((s.saveLocked clock alarm).1, .returned alarm (s.saveLocked clock alarm).2)
  | .returned alarm id => (s, .returned alarm id)

@[simp] theorem start_alarm (alarm : Alarm) : (start alarm).alarm = alarm := by
  unfold start
  split <;> rfl

end Save

inductive Save.Moves (clock : Clock) (s : AlarmStore) : Save → AlarmStore → Save → Prop
  | looks (alarm : Alarm) : Moves clock s (.looking alarm) s (.looked alarm (s.dedup alarm.key))
  | finds (alarm : Alarm) {info : DedupInfo} (hnow : clock.now < info.deadline) :
      Moves clock s (.looked alarm (some info)) s (.returned alarm info.alarmID)
  | misses (alarm : Alarm) (existing : Option DedupInfo) :
      Moves clock s (.looked alarm existing) s (.saving alarm)
  | saves (alarm : Alarm) :
      Moves clock s (.saving alarm) (s.saveLocked clock alarm).1
        (.returned alarm (s.saveLocked clock alarm).2)
  | rests (alarm : Alarm) (id : String) :
      Moves clock s (.returned alarm id) s (.returned alarm id)

theorem Save.next_moves (clock : Clock) (s : AlarmStore) (save : Save) :
    save.Moves clock s (save.next clock s).1 (save.next clock s).2 := by
  cases save with
  | looking alarm => exact .looks alarm
  | looked alarm existing =>
    cases existing with
    | none => exact .misses alarm none
    | some info =>
      dsimp only [next]
      split
      · next hnow => exact .finds alarm hnow
      · exact .misses alarm (some info)
  | saving alarm => exact .saves alarm
  | returned alarm id => exact .rests alarm id

theorem Save.Moves.alarm {clock : Clock} {s s' : AlarmStore} {save save' : Save}
    (h : save.Moves clock s s' save') : save'.alarm = save.alarm := by
  cases h <;> rfl

end NssAAF.Nrm
