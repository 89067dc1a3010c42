import NssAAF.Lib.Transducer
import Mathlib.Data.Int.Basic

/-!
# Registration with the NRF

`HeartbeatManager` of `internal/nrf/heartbeat.go` registers the instance and sends heartbeats. A
goroutine that registers again is started by `Start` if the first registration fails, and by every
failed heartbeat from the limit on. It retries until it succeeds. `Stop` waits for the goroutine of
the heartbeats, which deregisters the instance, and not for the others.

`Start` is called once, and `Stop` once after it has returned. A step is a critical section, a call
to the NRF or its return. `registration_lifecycle` says when at most one goroutine registers, and
when no `Register` follows a `Stop`.
-/

namespace NssAAF.Nrf

open Transducer

/-- A duration, in nanoseconds. -/
abbrev Time : Type := ℤ

def second : Time := 1000000000

structure HeartbeatConfig where
  initialInterval : Time
  acceptNegotiatedInterval : Bool
  maxConsecutiveFailures : ℤ

/-- The fields of the profile that a registration sets. -/
structure NFProfile where
  nfInstanceID : String
  nfType : String
  nfStatus : String
  heartBeatTimer : ℤ
  deriving DecidableEq

/-- Where the goroutine of `Start` and then of `run` is. -/
inductive Runner
  | idle
  | starting
  | selecting
  | beating
  | succeeded
  | failed (failures : ℕ)
  | deregistering
  | exited
  deriving DecidableEq

/-- A goroutine of `reRegisterLoop`: before `Register`, in it, in the sleep after a failure, and
after a success. -/
inductive Loop
  | calling (attempt : ℕ)
  | registering (attempt : ℕ)
  | sleeping (attempt : ℕ)
  | succeeded
  deriving DecidableEq

/-- The fields of the manager, whether its channel is closed, its goroutines, and whether `Stop` has
returned. -/
structure HeartbeatManager where
  registered : Bool
  heartbeatInterval : Time
  consecutiveFailures : ℕ
  etag : String
  stopped : Bool
  runner : Runner
  loops : List Loop
  returned : Bool
  deriving DecidableEq

/-- What the environment does. The goroutine with number `n` takes its next step, with the answer of
the NRF if it is in `Register`. -/
inductive Input
  | start
  | startAnswered (answer : Except String (Time × String))
  | tick
  | heartbeatAnswered (answer : Except String String)
  | heartbeatHandled
  | stopSeen
  | deregisterAnswered (answer : Except String Unit)
  | loop (n : ℕ) (answer : Except String (Time × String))
  | stop
  | stopReturns

/-- What a step does to the outside: a call to the NRF, or a new goroutine that registers. -/
inductive Action
  | none
  | register (profile : NFProfile)
  | heartbeat (instanceID etag : String)
  | deregister (instanceID : String)
  | spawn
  deriving DecidableEq

def newHeartbeatManager (cfg : HeartbeatConfig) : HeartbeatManager :=
  ⟨false, cfg.initialInterval, 0, "", false, .idle, [], false⟩

namespace HeartbeatManager

variable (cfg : HeartbeatConfig) (instanceID : String) (m : HeartbeatManager)

def register : Action :=
  .register ⟨instanceID, "NSSAAF", "REGISTERED", cfg.initialInterval.tdiv second⟩

def accept (interval : Time) (etag : String) : HeartbeatManager :=
  { m with
    registered := true
    etag := etag
    heartbeatInterval :=
      if cfg.acceptNegotiatedInterval ∧ 0 < interval then interval else m.heartbeatInterval }

def spawn : Action × HeartbeatManager := (.spawn, { m with loops := m.loops ++ [.calling 0] })

/-- `handleFailure`, after it has counted the failure. -/
def handleFailure (failures : ℕ) : Action × HeartbeatManager :=
  if cfg.maxConsecutiveFailures ≤ failures then
    { m with registered := false, runner := .selecting }.spawn
  else (.none, { m with runner := .selecting })

def deregister : Action × HeartbeatManager :=
  if m.registered then (.deregister instanceID, { m with runner := .deregistering })
  else (.none, { m with runner := .exited })

def stepRunner : Runner → Input → Action × HeartbeatManager
  | .idle, .start => (register cfg instanceID, { m with stopped := false, runner := .starting })
  | .starting, .startAnswered (.ok (interval, etag)) =>
    (.none, { m.accept cfg interval etag with runner := .selecting })
  | .starting, .startAnswered (.error _) => { m with runner := .selecting }.spawn
  | .selecting, .tick => (.heartbeat instanceID m.etag, { m with runner := .beating })
  | .beating, .heartbeatAnswered (.ok etag) =>
    (.none, { m with etag := etag, runner := .succeeded })
  | .beating, .heartbeatAnswered (.error _) =>
    (.none,
      { m with
        consecutiveFailures := m.consecutiveFailures + 1
        runner := .failed (m.consecutiveFailures + 1) })
  | .succeeded, .heartbeatHandled =>
    (.none, { m with consecutiveFailures := 0, runner := .selecting })
  | .failed failures, .heartbeatHandled => m.handleFailure cfg failures
  | .selecting, .stopSeen => if m.stopped then m.deregister instanceID else (.none, m)
  | .deregistering, .deregisterAnswered (.ok ()) =>
    (.none, { m with registered := false, runner := .exited })
  | .deregistering, .deregisterAnswered (.error _) => (.none, { m with runner := .exited })
  | _, _ => (.none, m)

/-- A step of the goroutine with number `n`, which is at `l`. -/
def stepLoop (n : ℕ) (answer : Except String (Time × String)) : Loop → Action × HeartbeatManager
  | .calling attempt =>
    (register cfg instanceID, { m with loops := m.loops.set n (.registering attempt) })
  | .registering attempt =>
    match answer with
    | .ok (interval, etag) =>
      (.none, { m.accept cfg interval etag with loops := m.loops.set n .succeeded })
    | .error _ => (.none, { m with loops := m.loops.set n (.sleeping (attempt + 1)) })
  | .sleeping attempt => (.none, { m with loops := m.loops.set n (.calling attempt) })
  | .succeeded => (.none, { m with consecutiveFailures := 0, loops := m.loops.eraseIdx n })

def step : Input → Action × HeartbeatManager
  | .loop n answer =>
    match m.loops[n]? with
    | some l => m.stepLoop cfg instanceID n answer l
    | none => (.none, m)
  | .stop =>
    if m.runner = .idle ∨ m.runner = .starting then (.none, m)
    else (.none, { m with stopped := true })
  | .stopReturns =>
    -- the wait group is empty when `run` has ended
    if m.stopped ∧ m.runner = .exited then (.none, { m with returned := true }) else (.none, m)
  | i => m.stepRunner cfg instanceID m.runner i

end HeartbeatManager

/-! ## What a step can do -/

section Moves

variable {cfg : HeartbeatConfig} {instanceID : String} {m : HeartbeatManager}

/-- The goroutines that register after a step, with what the step does to the outside. -/
inductive LoopMoves (ls : List Loop) : Action → List Loop → Prop
  | kept {a : Action} (ha : a ≠ .spawn) : LoopMoves ls a ls
  | spawned : LoopMoves ls .spawn (ls ++ [.calling 0])
  | moved {a : Action} (ha : a ≠ .spawn) (n : ℕ) (l : Loop) : LoopMoves ls a (ls.set n l)
  | ended {a : Action} (ha : a ≠ .spawn) (n : ℕ) : LoopMoves ls a (ls.eraseIdx n)

theorem handleFailure_loops (failures : ℕ) :
    LoopMoves m.loops (m.handleFailure cfg failures).1 (m.handleFailure cfg failures).2.loops := by
  unfold HeartbeatManager.handleFailure
  split
  · exact .spawned
  · exact .kept (by simp)

theorem deregister_loops :
    LoopMoves m.loops (m.deregister instanceID).1 (m.deregister instanceID).2.loops := by
  unfold HeartbeatManager.deregister
  split
  · exact .kept (by simp)
  · exact .kept (by simp)

theorem stepRunner_loops (r : Runner) (i : Input) :
    LoopMoves m.loops (m.stepRunner cfg instanceID r i).1
      (m.stepRunner cfg instanceID r i).2.loops := by
  unfold HeartbeatManager.stepRunner
  split
  case h_3 => exact .spawned
  case h_8 => exact handleFailure_loops _
  case h_9 =>
    split
    · exact deregister_loops
    · exact .kept (by simp)
  -- nothing else has to do with the goroutines that register
  all_goals exact .kept (by simp [HeartbeatManager.register])

theorem stepLoop_loops (n : ℕ) (answer : Except String (Time × String)) (l : Loop) :
    LoopMoves m.loops (m.stepLoop cfg instanceID n answer l).1
      (m.stepLoop cfg instanceID n answer l).2.loops := by
  cases l with
  | calling attempt => exact .moved (by simp [HeartbeatManager.stepLoop,
      HeartbeatManager.register]) n _
  | registering attempt =>
    cases answer with
    | ok a => exact .moved (by simp [HeartbeatManager.stepLoop]) n _
    | error err => exact .moved (by simp [HeartbeatManager.stepLoop]) n _
  | sleeping attempt => exact .moved (by simp [HeartbeatManager.stepLoop]) n _
  | succeeded => exact .ended (by simp [HeartbeatManager.stepLoop]) n

variable (cfg instanceID m) in
theorem step_loops (i : Input) :
    LoopMoves m.loops (m.step cfg instanceID i).1 (m.step cfg instanceID i).2.loops := by
  cases i with
  | loop n answer =>
    dsimp only [HeartbeatManager.step]
    split
    · exact stepLoop_loops n answer _
    · exact .kept (by simp)
  | stop =>
    dsimp only [HeartbeatManager.step]
    split <;> exact .kept (by simp)
  | stopReturns =>
    dsimp only [HeartbeatManager.step]
    split <;> exact .kept (by simp)
  | start | startAnswered | tick | heartbeatAnswered | heartbeatHandled | stopSeen
  | deregisterAnswered => exact stepRunner_loops m.runner _

/-- A goroutine that registers is called for: the first registration fails, or a heartbeat fails
and the limit is reached. -/
def CallsFor (cfg : HeartbeatConfig) (r : Runner) (i : Input) : Prop :=
  (r = .starting ∧ ∃ err, i = .startAnswered (.error err)) ∨
    i = .heartbeatHandled ∧ ∃ failures : ℕ, r = .failed failures ∧
      cfg.maxConsecutiveFailures ≤ failures

theorem handleFailure_spawn_iff (failures : ℕ) :
    (m.handleFailure cfg failures).1 = .spawn ↔ cfg.maxConsecutiveFailures ≤ failures := by
  unfold HeartbeatManager.handleFailure
  split
  · next h => exact iff_of_true rfl h
  · next h => exact iff_of_false (by simp) h

theorem deregister_ne_spawn : (m.deregister instanceID).1 ≠ .spawn := by
  unfold HeartbeatManager.deregister
  split <;> simp

theorem stepRunner_spawn_iff (r : Runner) (i : Input) :
    (m.stepRunner cfg instanceID r i).1 = .spawn ↔ CallsFor cfg r i := by
  unfold HeartbeatManager.stepRunner
  split
  case h_3 err => exact iff_of_true rfl (Or.inl ⟨rfl, err, rfl⟩)
  case h_8 failures => simp [handleFailure_spawn_iff, CallsFor]
  case h_9 =>
    refine iff_of_false ?_ (by simp [CallsFor])
    split
    · exact deregister_ne_spawn
    · simp
  case h_12 hstarting _ _ _ _ hfailed _ _ _ =>
    refine iff_of_false (by simp) ?_
    rintro (⟨hr, err, hi⟩ | ⟨hi, failures, hr, -⟩)
    · exact hstarting err hr hi
    · exact hfailed failures hr hi
  all_goals exact iff_of_false (by simp [HeartbeatManager.register]) (by simp [CallsFor])

theorem stepLoop_ne_spawn (n : ℕ) (answer : Except String (Time × String)) (l : Loop) :
    (m.stepLoop cfg instanceID n answer l).1 ≠ .spawn := by
  cases l with
  | registering attempt => cases answer <;> simp [HeartbeatManager.stepLoop]
  | calling | sleeping | succeeded =>
    simp [HeartbeatManager.stepLoop, HeartbeatManager.register]

variable (cfg instanceID m) in
/-- **Spawning.** The goroutines that register are started at these steps and at no other one. -/
theorem step_spawn_iff (i : Input) :
    (m.step cfg instanceID i).1 = .spawn ↔ CallsFor cfg m.runner i := by
  cases i with
  | loop n answer =>
    refine iff_of_false ?_ (by simp [CallsFor])
    dsimp only [HeartbeatManager.step]
    split
    · exact stepLoop_ne_spawn n answer _
    · simp
  | stop | stopReturns =>
    refine iff_of_false ?_ (by simp [CallsFor])
    dsimp only [HeartbeatManager.step]
    split <;> simp
  | start | startAnswered | tick | heartbeatAnswered | heartbeatHandled | stopSeen
  | deregisterAnswered => exact stepRunner_spawn_iff m.runner _

theorem LoopMoves.length_spawn {ls ls' : List Loop} (h : LoopMoves ls .spawn ls') :
    ls'.length = ls.length + 1 := by
  cases h with
  | spawned => simp
  | kept ha | moved ha | ended ha => exact absurd rfl ha

theorem LoopMoves.length_le {ls ls' : List Loop} {a : Action} (h : LoopMoves ls a ls')
    (ha : a ≠ .spawn) : ls'.length ≤ ls.length := by
  cases h with
  | spawned => exact absurd rfl ha
  | kept => exact Nat.le_refl _
  | moved => simp
  | ended => exact List.length_eraseIdx_le ..

/-! ## After `Stop` -/

/-- No goroutine is left. -/
def Over (m : HeartbeatManager) : Prop := m.runner = .exited ∧ m.loops = []

variable (cfg instanceID) in
theorem Over.step (h : Over m) (i : Input) :
    (m.step cfg instanceID i).1 = .none ∧
      (m.step cfg instanceID i).2.registered = m.registered ∧
      Over (m.step cfg instanceID i).2 := by
  obtain ⟨hrunner, hloops⟩ := h
  cases i with
  | loop n answer =>
    dsimp only [HeartbeatManager.step]
    rw [hloops, List.getElem?_nil]
    exact ⟨rfl, rfl, hrunner, hloops⟩
  | stop =>
    dsimp only [HeartbeatManager.step]
    split <;> exact ⟨rfl, rfl, hrunner, hloops⟩
  | stopReturns =>
    dsimp only [HeartbeatManager.step]
    split <;> exact ⟨rfl, rfl, hrunner, hloops⟩
  | start | startAnswered | tick | heartbeatAnswered | heartbeatHandled | stopSeen
  | deregisterAnswered =>
    dsimp only [HeartbeatManager.step]
    rw [hrunner]
    exact ⟨rfl, rfl, hrunner, hloops⟩

theorem stepRunner_returned (r : Runner) (i : Input) :
    (m.stepRunner cfg instanceID r i).2.returned = m.returned := by
  unfold HeartbeatManager.stepRunner
  split
  case h_8 =>
    unfold HeartbeatManager.handleFailure
    split <;> rfl
  case h_9 =>
    unfold HeartbeatManager.deregister
    split
    · split <;> rfl
    · rfl
  all_goals rfl

theorem stepLoop_returned (n : ℕ) (answer : Except String (Time × String)) (l : Loop) :
    (m.stepLoop cfg instanceID n answer l).2.returned = m.returned := by
  cases l with
  | registering attempt => cases answer <;> rfl
  | calling | sleeping | succeeded => rfl

theorem exited_of_returned {i : Input} (hbefore : m.returned = false)
    (hafter : (m.step cfg instanceID i).2.returned = true) :
    m.runner = .exited ∧ (m.step cfg instanceID i).2 = { m with returned := true } := by
  cases i with
  | loop n answer =>
    dsimp only [HeartbeatManager.step] at hafter
    split at hafter
    · rw [stepLoop_returned, hbefore] at hafter
      cases hafter
    · rw [hbefore] at hafter
      cases hafter
  | stop =>
    dsimp only [HeartbeatManager.step] at hafter
    split at hafter <;> simp [hbefore] at hafter
  | stopReturns =>
    dsimp only [HeartbeatManager.step] at hafter ⊢
    split at hafter
    · next hexited =>
      rw [if_pos hexited]
      exact ⟨hexited.2, rfl⟩
    · rw [hbefore] at hafter
      cases hafter
  | start | startAnswered | tick | heartbeatAnswered | heartbeatHandled | stopSeen
  | deregisterAnswered =>
    dsimp only [HeartbeatManager.step] at hafter
    rw [stepRunner_returned, hbefore] at hafter
    cases hafter

end Moves

/-! ## Runs -/

abbrev LifecycleStep : Type := Record HeartbeatManager Input Action

namespace LifecycleStep

variable (r : LifecycleStep)

def StopReturns : Prop := r.pre.returned = false ∧ r.post.returned = true

instance : Decidable r.StopReturns :=
  inferInstanceAs (Decidable (r.pre.returned = false ∧ r.post.returned = true))

def CallsRegister : Prop := ∃ profile, r.output = .register profile

end LifecycleStep

section Runs

variable (cfg : HeartbeatConfig) (instanceID : String) (is : List Input)

def lifecycle : List LifecycleStep :=
  trace (HeartbeatManager.step cfg instanceID) (newHeartbeatManager cfg) is

variable {cfg instanceID is}

theorem loops_of_mem_lifecycle {r : LifecycleStep} (hr : r ∈ lifecycle cfg instanceID is) :
    LoopMoves r.pre.loops r.output r.post.loops := by
  rw [eq_record_of_mem_trace hr]
  exact step_loops cfg instanceID _ _

theorem one_loop_iff : (∀ r ∈ lifecycle cfg instanceID is, r.post.loops.length ≤ 1) ↔
    ∀ r ∈ lifecycle cfg instanceID is, CallsFor cfg r.pre.runner r.input → r.pre.loops = [] := by
  constructor
  · intro hone r hr hcalls
    have hmoves := loops_of_mem_lifecycle hr
    rw [output_of_mem_trace hr, (step_spawn_iff cfg instanceID r.pre r.input).mpr hcalls] at hmoves
    have hlength := hmoves.length_spawn
    have hle := hone r hr
    exact List.eq_nil_of_length_eq_zero (by omega)
  · intro halone r hr
    refine inv_post_of_mem_trace (I := fun m => m.loops.length ≤ 1)
      (C := fun r : LifecycleStep => CallsFor cfg r.pre.runner r.input → r.pre.loops = []) ?_
      (Nat.zero_le 1) halone hr
    intro m i hle hcalls
    have hmoves := step_loops cfg instanceID m i
    by_cases hspawn : (m.step cfg instanceID i).1 = .spawn
    · have hnil : m.loops = [] := hcalls ((step_spawn_iff cfg instanceID m i).mp hspawn)
      rw [hspawn, hnil] at hmoves
      exact Nat.le_of_eq hmoves.length_spawn
    · exact Nat.le_trans (hmoves.length_le hspawn) hle

theorem over_of_returned
    (hstop : ∀ r ∈ lifecycle cfg instanceID is, r.StopReturns → r.pre.loops = [])
    {r : LifecycleStep} (hr : r ∈ lifecycle cfg instanceID is) (hreturned : r.pre.returned = true) :
    Over r.pre := by
  refine inv_of_mem_trace (I := fun m => m.returned = true → Over m)
    (C := fun r : LifecycleStep => r.StopReturns → r.pre.loops = []) ?_
    (by simp [newHeartbeatManager]) hstop hr hreturned
  intro m i hover hquiet hafter
  cases hbefore : m.returned with
  | true => exact ((hover hbefore).step cfg instanceID i).2.2
  | false =>
    obtain ⟨hrunner, heq⟩ := exited_of_returned hbefore hafter
    rw [heq]
    exact ⟨hrunner, hquiet ⟨hbefore, hafter⟩⟩

/-- **The registration with the NRF.** At most one goroutine registers at any time exactly if none
registers when the first registration fails, or a heartbeat when the limit is reached. If none
registers when `Stop` returns, nothing is registered after it. -/
theorem registration_lifecycle (cfg : HeartbeatConfig) (instanceID : String) (is : List Input) :
    ((∀ r ∈ lifecycle cfg instanceID is, r.post.loops.length ≤ 1) ↔
      ∀ r ∈ lifecycle cfg instanceID is, CallsFor cfg r.pre.runner r.input → r.pre.loops = []) ∧
    ((∀ r ∈ lifecycle cfg instanceID is, r.StopReturns → r.pre.loops = []) →
      ∀ r ∈ lifecycle cfg instanceID is, r.pre.returned = true →
        ¬ r.CallsRegister ∧ (r.pre.registered = false → r.post.registered = false)) := by
  refine ⟨one_loop_iff, fun hstop r hr hreturned => ?_⟩
  obtain ⟨hnone, hregistered, -⟩ :=
    (over_of_returned hstop hr hreturned).step cfg instanceID r.input
  rw [eq_record_of_mem_trace hr]
  constructor
  · rintro ⟨profile, hcall⟩
    rw [record_output, hnone] at hcall
    cases hcall
  · intro hbefore
    rw [record_post, hregistered]
    exact hbefore

end Runs

namespace Sample

def config : HeartbeatConfig := ⟨60 * second, true, 1⟩

def granted : Except String (Time × String) := .ok (30 * second, "etag")

def missed : List Input := [.tick, .heartbeatAnswered (.error "timeout"), .heartbeatHandled]

/-- `Stop`, up to its return. -/
def stopping : List Input := [.stop, .stopSeen, .deregisterAnswered (.ok ()), .stopReturns]

/-- A goroutine registers, and ends. -/
def registering : List Input := [.loop 0 granted, .loop 0 granted, .loop 0 granted]

/-- The first registration fails, and the second one succeeds before `Stop`. -/
def recovered : List Input :=
  [.start, .startAnswered (.error "unreachable")] ++ registering ++ stopping ++
    [.tick, .loop 0 granted]

/-- Two heartbeats fail in a row, and one of the two goroutines registers before `Stop`. -/
def doubled : List Input :=
  [.start, .startAnswered granted] ++ missed ++ missed ++ registering ++ stopping ++ registering

end Sample

open Sample in
theorem recovered_stays_stopped :
    (final (HeartbeatManager.step config "nssaaf-1") (newHeartbeatManager config)
      recovered).returned = true ∧
    (∀ r ∈ lifecycle config "nssaaf-1" recovered,
      CallsFor config r.pre.runner r.input → r.pre.loops = []) ∧
    ∀ r ∈ lifecycle config "nssaaf-1" recovered, r.pre.returned = true →
      ¬ r.CallsRegister ∧ (r.pre.registered = false → r.post.registered = false) := by
  have h := registration_lifecycle config "nssaaf-1" recovered
  exact ⟨by decide +kernel, h.1.mp (by decide +kernel), h.2 (by decide +kernel)⟩

open Sample in
/-- Two goroutines register at the same time. The second one calls `Register` after `Stop` has
deregistered the instance and returned, and the instance is registered again. -/
theorem registered_after_stop :
    (lifecycle config "nssaaf-1" doubled).map (fun r => r.post.loops.length) =
      [0, 0, 0, 0, 1, 1, 1, 2, 2, 2, 1, 1, 1, 1, 1, 1, 1, 0] ∧
    ((lifecycle config "nssaaf-1" doubled).drop 15).map
        (fun r => (r.pre.returned, r.pre.registered, r.output, r.post.registered)) =
      [(true, false, .register ⟨"nssaaf-1", "NSSAAF", "REGISTERED", 60⟩, false),
        (true, false, .none, true), (true, true, .none, true)] := by
  decide +kernel

end NssAAF.Nrf
