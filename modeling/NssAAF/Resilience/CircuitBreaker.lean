import NssAAF.Lib.History
import Mathlib.Data.Int.Basic

/-!
# The circuit breaker

`CircuitBreaker` of `internal/resilience/circuit_breaker.go`. A breaker is closed, open or
half-open. Every method takes the lock, so a run is a sequence of calls, each with the time it reads
from the clock. Times and timeouts are in nanoseconds.

The counters are also updated where they mean nothing: a failure counts in every state, and a
success in an open breaker leaves the old count. `Books` says what they mean, and `breaker_law` what
follows for the calls.
-/

namespace NssAAF.Resilience

open Transducer History

inductive State
  | stateClosed
  | stateOpen
  | stateHalfOpen
  deriving DecidableEq

def State.string : State → String
  | .stateClosed => "CLOSED"
  | .stateOpen => "OPEN"
  | .stateHalfOpen => "HALF_OPEN"

/-- The thresholds of a breaker and its recovery timeout. -/
structure BreakerConfig where
  failureThreshold : ℤ
  recoveryTimeout : ℤ
  successThreshold : ℤ
  deriving DecidableEq

structure CircuitBreaker where
  state : State
  failures : ℕ
  successes : ℕ
  openedAt : ℤ
  deriving DecidableEq

/-- A value that is zero is replaced by its default: 5 failures, 30 seconds, 3 successes. -/
def newBreakerConfig (failureThreshold recoveryTimeout successThreshold : ℤ) : BreakerConfig where
  failureThreshold := if failureThreshold = 0 then 5 else failureThreshold
  recoveryTimeout := if recoveryTimeout = 0 then 30000000000 else recoveryTimeout
  successThreshold := if successThreshold = 0 then 3 else successThreshold

def newCircuitBreaker : CircuitBreaker := ⟨.stateClosed, 0, 0, 0⟩

namespace CircuitBreaker

variable (cfg : BreakerConfig) (cb : CircuitBreaker) (now : ℤ)

def allow : Bool × CircuitBreaker :=
  match cb.state with
  | .stateClosed => (true, cb)
  | .stateOpen =>
    if now - cb.openedAt ≥ cfg.recoveryTimeout then
      (true, { cb with state := .stateHalfOpen, successes := 0 })
    else (false, cb)
  | .stateHalfOpen => (true, cb)

def recordSuccess : CircuitBreaker :=
  match cb.state with
  | .stateHalfOpen =>
    if (cb.successes : ℤ) + 1 ≥ cfg.successThreshold then
      { cb with state := .stateClosed, successes := cb.successes + 1, failures := 0 }
    else { cb with successes := cb.successes + 1 }
  | .stateClosed => { cb with failures := 0 }
  | .stateOpen => cb

/-- The breaker opens now. -/
def trip : CircuitBreaker :=
  { cb with state := .stateOpen, failures := cb.failures + 1, openedAt := now }

def recordFailure : CircuitBreaker :=
  match cb.state with
  | .stateClosed =>
    if (cb.failures : ℤ) + 1 ≥ cfg.failureThreshold then cb.trip now
    else { cb with failures := cb.failures + 1 }
  | .stateHalfOpen => cb.trip now
  | .stateOpen => { cb with failures := cb.failures + 1 }

def reset : CircuitBreaker := { cb with state := .stateClosed, failures := 0, successes := 0 }

end CircuitBreaker

/-! ## Calls -/

inductive BreakerOp
  | allow
  | recordSuccess
  | recordFailure
  | reset
  deriving DecidableEq

structure BreakerCall where
  op : BreakerOp
  now : ℤ
  deriving DecidableEq

/-- One call. Only `Allow` returns something. -/
def CircuitBreaker.step (cfg : BreakerConfig) (cb : CircuitBreaker) (call : BreakerCall) :
    Option Bool × CircuitBreaker :=
  match call.op with
  | .allow => (some (cb.allow cfg call.now).1, (cb.allow cfg call.now).2)
  | .recordSuccess => (none, cb.recordSuccess cfg)
  | .recordFailure => (none, cb.recordFailure cfg call.now)
  | .reset => (none, cb.reset)

inductive Moves (cfg : BreakerConfig) (cb : CircuitBreaker) (now : ℤ) :
    BreakerOp → Option Bool → CircuitBreaker → Prop
  | allowed (h : cb.state ≠ .stateOpen) : Moves cfg cb now .allow (some true) cb
  | refused (h : cb.state = .stateOpen) (hlt : now - cb.openedAt < cfg.recoveryTimeout) :
      Moves cfg cb now .allow (some false) cb
  | probed (h : cb.state = .stateOpen) (hle : cfg.recoveryTimeout ≤ now - cb.openedAt) :
      Moves cfg cb now .allow (some true) { cb with state := .stateHalfOpen, successes := 0 }
  | closed (h : cb.state = .stateHalfOpen) (hle : cfg.successThreshold ≤ (cb.successes : ℤ) + 1) :
      Moves cfg cb now .recordSuccess none
        { cb with state := .stateClosed, successes := cb.successes + 1, failures := 0 }
  | counted (h : cb.state = .stateHalfOpen) (hlt : (cb.successes : ℤ) + 1 < cfg.successThreshold) :
      Moves cfg cb now .recordSuccess none { cb with successes := cb.successes + 1 }
  | cleared (h : cb.state = .stateClosed) :
      Moves cfg cb now .recordSuccess none { cb with failures := 0 }
  | ignored (h : cb.state = .stateOpen) : Moves cfg cb now .recordSuccess none cb
  | tripped (h : cb.state = .stateClosed) (hle : cfg.failureThreshold ≤ (cb.failures : ℤ) + 1) :
      Moves cfg cb now .recordFailure none (cb.trip now)
  | failed (h : cb.state = .stateClosed) (hlt : (cb.failures : ℤ) + 1 < cfg.failureThreshold) :
      Moves cfg cb now .recordFailure none { cb with failures := cb.failures + 1 }
  | retripped (h : cb.state = .stateHalfOpen) : Moves cfg cb now .recordFailure none (cb.trip now)
  | late (h : cb.state = .stateOpen) :
      Moves cfg cb now .recordFailure none { cb with failures := cb.failures + 1 }
  | reset : Moves cfg cb now .reset none cb.reset

theorem step_moves (cfg : BreakerConfig) (cb : CircuitBreaker) (call : BreakerCall) :
    Moves cfg cb call.now call.op (cb.step cfg call).1 (cb.step cfg call).2 := by
  obtain ⟨op, now⟩ := call
  cases op with
  | allow =>
    dsimp only [CircuitBreaker.step, CircuitBreaker.allow]
    split
    · exact .allowed (by simp [*])
    · split_ifs with hle
      · exact .probed ‹_› hle
      · exact .refused ‹_› (by omega)
    · exact .allowed (by simp [*])
  | recordSuccess =>
    dsimp only [CircuitBreaker.step, CircuitBreaker.recordSuccess]
    split
    · split_ifs with hle
      · exact .closed ‹_› hle
      · exact .counted ‹_› (by omega)
    · exact .cleared ‹_›
    · exact .ignored ‹_›
  | recordFailure =>
    dsimp only [CircuitBreaker.step, CircuitBreaker.recordFailure]
    split
    · split_ifs with hle
      · exact .tripped ‹_› hle
      · exact .failed ‹_› (by omega)
    · exact .retripped ‹_›
    · exact .late ‹_›
  | reset => exact .reset

/-! ## What the history says -/

abbrev BreakerStep : Type := Record CircuitBreaker BreakerCall (Option Bool)

namespace BreakerStep

variable (r : BreakerStep)

def Enters (st : State) : Prop := r.pre.state ≠ st ∧ r.post.state = st

instance (st : State) : DecidablePred fun r : BreakerStep => r.Enters st := fun r =>
  inferInstanceAs (Decidable (r.pre.state ≠ st ∧ r.post.state = st))

/-- The step ends a row of failures. -/
def Clears : Prop :=
  r.input.op = .recordSuccess ∨ r.input.op = .reset ∨ r.Enters .stateClosed

instance : DecidablePred BreakerStep.Clears := fun r =>
  inferInstanceAs (Decidable (_ ∨ _ ∨ r.Enters .stateClosed))

/-- When the breaker was opened, if the step opens it. -/
def opening : Option ℤ := if r.Enters .stateOpen then some r.input.now else none

end BreakerStep

/-- The failures since the last success, reset or closing. -/
def consecutiveFailures (h : List BreakerStep) : ℕ :=
  countSince (fun r => r.input.op = .recordFailure) BreakerStep.Clears h

/-- When the breaker was last opened. -/
def openedAt (h : List BreakerStep) : Option ℤ := latest BreakerStep.opening h

/-- The calls of a kind since the breaker was last half-opened. -/
def sinceHalfOpen (op : BreakerOp) (h : List BreakerStep) : ℕ :=
  countSince (fun r => r.input.op = op) (fun r => r.Enters .stateHalfOpen) h

/-- **What the fields mean.** -/
structure Books (cfg : BreakerConfig) (h : List BreakerStep) (cb : CircuitBreaker) : Prop where
  failures : cb.state = .stateClosed →
    cb.failures = consecutiveFailures h ∧ (cb.failures : ℤ) < cfg.failureThreshold
  opened : cb.state = .stateOpen → openedAt h = some cb.openedAt
  successes : cb.state = .stateHalfOpen →
    cb.successes = sinceHalfOpen .recordSuccess h ∧ (cb.successes : ℤ) < cfg.successThreshold ∧
      sinceHalfOpen .recordFailure h = 0

/-! ### One more step -/

section Concat

variable {h : List BreakerStep} {r : BreakerStep}

theorem consecutiveFailures_concat_of (hr : r.Clears) : consecutiveFailures (h ++ [r]) = 0 :=
  countSince_concat_of hr h

theorem consecutiveFailures_concat (hr : ¬ r.Clears) :
    consecutiveFailures (h ++ [r]) =
      consecutiveFailures h + if r.input.op = .recordFailure then 1 else 0 :=
  countSince_concat hr h

theorem openedAt_concat_of (hr : r.Enters .stateOpen) :
    openedAt (h ++ [r]) = some r.input.now := by
  unfold openedAt
  rw [latest_concat, BreakerStep.opening, if_pos hr, Option.some_or]

theorem openedAt_concat (hr : ¬ r.Enters .stateOpen) : openedAt (h ++ [r]) = openedAt h := by
  unfold openedAt
  rw [latest_concat, BreakerStep.opening, if_neg hr, Option.none_or]

theorem sinceHalfOpen_concat_of (op : BreakerOp) (hr : r.Enters .stateHalfOpen) :
    sinceHalfOpen op (h ++ [r]) = 0 :=
  countSince_concat_of (p := fun r : BreakerStep => r.Enters .stateHalfOpen) hr h

theorem sinceHalfOpen_concat (op : BreakerOp) (hr : ¬ r.Enters .stateHalfOpen) :
    sinceHalfOpen op (h ++ [r]) = sinceHalfOpen op h + if r.input.op = op then 1 else 0 :=
  countSince_concat (p := fun r : BreakerStep => r.Enters .stateHalfOpen) hr h

theorem not_enters_of_pre {st : State} (hr : r.pre.state = st) : ¬ r.Enters st := fun h => h.1 hr

theorem not_clears_of_pre (hr : r.pre.state = .stateClosed) (hs : r.input.op ≠ .recordSuccess)
    (hreset : r.input.op ≠ .reset) : ¬ r.Clears := by
  rintro (h | h | h)
  · exact hs h
  · exact hreset h
  · exact not_enters_of_pre hr h

end Concat

namespace Books

variable {cfg : BreakerConfig} {h : List BreakerStep} {cb cb' : CircuitBreaker}

theorem of_closed (hs : cb.state = .stateClosed) (hf : cb.failures = consecutiveFailures h)
    (hlt : (cb.failures : ℤ) < cfg.failureThreshold) : Books cfg h cb :=
  ⟨fun _ => ⟨hf, hlt⟩, by simp [hs], by simp [hs]⟩

theorem of_open (hs : cb.state = .stateOpen) (ho : openedAt h = some cb.openedAt) :
    Books cfg h cb :=
  ⟨by simp [hs], fun _ => ho, by simp [hs]⟩

theorem of_halfOpen (hs : cb.state = .stateHalfOpen)
    (hc : cb.successes = sinceHalfOpen .recordSuccess h)
    (hlt : (cb.successes : ℤ) < cfg.successThreshold) (hf : sinceHalfOpen .recordFailure h = 0) :
    Books cfg h cb :=
  ⟨by simp [hs], by simp [hs], fun _ => ⟨hc, hlt, hf⟩⟩

theorem moves (hfail : 0 < cfg.failureThreshold) (hsucc : 0 < cfg.successThreshold)
    (hb : Books cfg h cb) {call : BreakerCall} {out : Option Bool}
    (hm : Moves cfg cb call.now call.op out cb') :
    Books cfg (h ++ [⟨cb, call, out, cb'⟩]) cb' := by
  obtain ⟨op, now⟩ := call
  dsimp only at hm
  cases hm with
  | allowed hs =>
    cases hst : cb.state with
    | stateOpen => exact absurd hst hs
    | stateClosed =>
      obtain ⟨hf, hlt⟩ := hb.failures hst
      refine of_closed hst ?_ hlt
      rw [consecutiveFailures_concat (not_clears_of_pre hst (by simp) (by simp)), hf]
      rfl
    | stateHalfOpen =>
      obtain ⟨hc, hlt, hf⟩ := hb.successes hst
      refine of_halfOpen hst ?_ hlt ?_
      · rw [sinceHalfOpen_concat _ (not_enters_of_pre hst), hc]
        rfl
      · rw [sinceHalfOpen_concat _ (not_enters_of_pre hst), hf]
        rfl
  | refused hs =>
    exact of_open hs (by rw [openedAt_concat (not_enters_of_pre hs), hb.opened hs])
  | probed hs =>
    have henters : BreakerStep.Enters ⟨cb, ⟨.allow, now⟩, some true,
        { cb with state := .stateHalfOpen, successes := 0 }⟩ .stateHalfOpen :=
      ⟨by simp [hs], rfl⟩
    exact of_halfOpen rfl (sinceHalfOpen_concat_of _ henters).symm hsucc
      (sinceHalfOpen_concat_of _ henters)
  | closed hs => exact of_closed rfl (consecutiveFailures_concat_of (Or.inl rfl)).symm hfail
  | counted hs hlt =>
    obtain ⟨hc, -, hf⟩ := hb.successes hs
    refine of_halfOpen hs ?_ (by push_cast; exact hlt) ?_
    · rw [sinceHalfOpen_concat _ (not_enters_of_pre hs), ← hc]
      rfl
    · rw [sinceHalfOpen_concat _ (not_enters_of_pre hs), hf]
      rfl
  | cleared hs => exact of_closed hs (consecutiveFailures_concat_of (Or.inl rfl)).symm hfail
  | ignored hs =>
    exact of_open hs (by rw [openedAt_concat (not_enters_of_pre hs), hb.opened hs])
  | tripped hs => exact of_open rfl (openedAt_concat_of ⟨by simp [hs], rfl⟩)
  | failed hs hlt =>
    obtain ⟨hf, -⟩ := hb.failures hs
    refine of_closed hs ?_ (by push_cast; exact hlt)
    rw [consecutiveFailures_concat (not_clears_of_pre hs (by simp) (by simp)), ← hf]
    rfl
  | retripped hs => exact of_open rfl (openedAt_concat_of ⟨by simp [hs], rfl⟩)
  | late hs =>
    exact of_open hs (by rw [openedAt_concat (not_enters_of_pre hs), hb.opened hs])
  | reset => exact of_closed rfl (consecutiveFailures_concat_of (Or.inr (Or.inl rfl))).symm hfail

end Books

/-! ## The law -/

/-- A call `r` after the calls `h`: what the failure counter of a closed breaker is, and when the
breaker opens, refuses and closes. -/
structure BreakerLaw (cfg : BreakerConfig) (h : List BreakerStep) (r : BreakerStep) : Prop where
  counter : r.pre.state = .stateClosed →
    r.pre.failures = consecutiveFailures h ∧ (r.pre.failures : ℤ) < cfg.failureThreshold
  opens : r.Enters .stateOpen → r.input.op = .recordFailure ∧
    (r.pre.state = .stateClosed ∧ (consecutiveFailures (h ++ [r]) : ℤ) = cfg.failureThreshold ∨
      r.pre.state = .stateHalfOpen)
  refuses : r.input.op = .allow → (r.output = some false ↔
    r.pre.state = .stateOpen ∧
      ∃ since, openedAt h = some since ∧ r.input.now - since < cfg.recoveryTimeout)
  closes : r.Enters .stateClosed → r.input.op = .reset ∨
    r.input.op = .recordSuccess ∧ r.pre.state = .stateHalfOpen ∧
      (sinceHalfOpen .recordSuccess (h ++ [r]) : ℤ) = cfg.successThreshold ∧
      sinceHalfOpen .recordFailure (h ++ [r]) = 0

namespace Books

variable {cfg : BreakerConfig} {h : List BreakerStep} {cb cb' : CircuitBreaker}
  {call : BreakerCall} {out : Option Bool}

theorem opens (hb : Books cfg h cb) (hm : Moves cfg cb call.now call.op out cb')
    (he : BreakerStep.Enters ⟨cb, call, out, cb'⟩ .stateOpen) :
    call.op = .recordFailure ∧
      (cb.state = .stateClosed ∧
          (consecutiveFailures (h ++ [⟨cb, call, out, cb'⟩]) : ℤ) = cfg.failureThreshold ∨
        cb.state = .stateHalfOpen) := by
  obtain ⟨op, now⟩ := call
  obtain ⟨hpre, hpost⟩ := he
  dsimp only at hm hpre hpost
  cases hm with
  | tripped hs hle =>
    obtain ⟨hf, hlt⟩ := hb.failures hs
    refine ⟨rfl, Or.inl ⟨hs, ?_⟩⟩
    rw [consecutiveFailures_concat (not_clears_of_pre hs (by simp) (by simp)), if_pos rfl, ← hf]
    push_cast
    omega
  | retripped hs => exact ⟨rfl, Or.inr hs⟩
  | allowed | refused | ignored | late | failed | counted | cleared => exact absurd hpost hpre
  | probed | closed | reset => cases hpost

theorem refuses (hb : Books cfg h cb) (hm : Moves cfg cb call.now call.op out cb')
    (hop : call.op = .allow) :
    out = some false ↔ cb.state = .stateOpen ∧
      ∃ since, openedAt h = some since ∧ call.now - since < cfg.recoveryTimeout := by
  obtain ⟨op, now⟩ := call
  dsimp only at hm hop
  cases hm with
  | allowed hs => exact iff_of_false (by simp) (fun h => hs h.1)
  | refused hs hlt => exact iff_of_true rfl ⟨hs, cb.openedAt, hb.opened hs, hlt⟩
  | probed hs hle =>
    refine iff_of_false (by simp) ?_
    rintro ⟨-, since, hsince, hlt⟩
    rw [hb.opened hs] at hsince
    cases hsince
    dsimp only at hlt
    omega
  | closed | counted | cleared | ignored | tripped | failed | retripped | late | reset => cases hop

theorem closes (hb : Books cfg h cb) (hm : Moves cfg cb call.now call.op out cb')
    (he : BreakerStep.Enters ⟨cb, call, out, cb'⟩ .stateClosed) :
    call.op = .reset ∨ call.op = .recordSuccess ∧ cb.state = .stateHalfOpen ∧
      (sinceHalfOpen .recordSuccess (h ++ [⟨cb, call, out, cb'⟩]) : ℤ) = cfg.successThreshold ∧
      sinceHalfOpen .recordFailure (h ++ [⟨cb, call, out, cb'⟩]) = 0 := by
  obtain ⟨op, now⟩ := call
  obtain ⟨hpre, hpost⟩ := he
  dsimp only at hm hpre hpost
  cases hm with
  | closed hs hle =>
    obtain ⟨hc, hlt, hf⟩ := hb.successes hs
    refine Or.inr ⟨rfl, hs, ?_, ?_⟩
    · rw [sinceHalfOpen_concat _ (not_enters_of_pre hs), if_pos rfl, ← hc]
      push_cast
      omega
    · rw [sinceHalfOpen_concat _ (not_enters_of_pre hs), hf]
      rfl
  | reset => exact Or.inl rfl
  | allowed | refused | ignored | late | failed | counted | cleared => exact absurd hpost hpre
  | probed | tripped | retripped => cases hpost

theorem law (hb : Books cfg h cb) (hm : Moves cfg cb call.now call.op out cb') :
    BreakerLaw cfg h ⟨cb, call, out, cb'⟩ :=
  ⟨hb.failures, hb.opens hm, hb.refuses hm, hb.closes hm⟩

end Books

theorem newBreakerConfig_of_ne {failureThreshold recoveryTimeout successThreshold : ℤ}
    (hf : failureThreshold ≠ 0) (ht : recoveryTimeout ≠ 0) (hs : successThreshold ≠ 0) :
    newBreakerConfig failureThreshold recoveryTimeout successThreshold =
      ⟨failureThreshold, recoveryTimeout, successThreshold⟩ := by
  unfold newBreakerConfig
  rw [if_neg hf, if_neg ht, if_neg hs]

/-- **The law of the breaker.** It holds of every call of every run. -/
theorem breaker_law {failureThreshold recoveryTimeout successThreshold : ℤ}
    (hf : 0 < failureThreshold) (ht : 0 < recoveryTimeout) (hs : 0 < successThreshold)
    (calls : List BreakerCall) :
    Along (CircuitBreaker.step (newBreakerConfig failureThreshold recoveryTimeout successThreshold))
      newCircuitBreaker (BreakerLaw ⟨failureThreshold, recoveryTimeout, successThreshold⟩)
      calls := by
  rw [newBreakerConfig_of_ne (by omega) (by omega) (by omega)]
  refine along_of_inv (J := Books ⟨failureThreshold, recoveryTimeout, successThreshold⟩)
    (C := fun _ _ => True) ?_ ?_ (Books.of_closed rfl rfl hf) (fun _ _ _ _ => trivial)
  · intro h cb call hb _
    exact hb.moves hf hs (step_moves _ cb call)
  · intro h cb call hb _
    exact hb.law (step_moves _ cb call)

namespace Sample

/-- Two failures open the breaker, one `Allow` comes too early and one in time, and a success closes
the breaker. -/
def cycle : List BreakerCall :=
  [⟨.allow, 0⟩, ⟨.recordFailure, 1⟩, ⟨.recordFailure, 2⟩, ⟨.allow, 11⟩, ⟨.allow, 12⟩,
    ⟨.recordSuccess, 13⟩]

end Sample

theorem breaker_law_cycle :
    (trace (CircuitBreaker.step (newBreakerConfig 2 10 1)) newCircuitBreaker Sample.cycle).map
        (fun r => r.post.state) =
      [.stateClosed, .stateClosed, .stateOpen, .stateOpen, .stateHalfOpen, .stateClosed] ∧
      Along (CircuitBreaker.step (newBreakerConfig 2 10 1)) newCircuitBreaker
        (BreakerLaw ⟨2, 10, 1⟩) Sample.cycle :=
  ⟨by decide, breaker_law (by decide) (by decide) (by decide) Sample.cycle⟩

end NssAAF.Resilience
