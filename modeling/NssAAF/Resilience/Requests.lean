import NssAAF.Resilience.CircuitBreaker
import NssAAF.Resilience.Retry
import NssAAF.Lib.Bytes

/-!
# Requests through a circuit breaker

`Factory.Do` of `internal/nfclient/factory.go` and `ForwardEAP` of
`internal/httpclient/native_aaa.go` ask the breaker of their target before a request and record its
result in the end. Any number of requests are under way at the same time. Nothing links a result to
the `Allow` that let the request through, so a result counts for the state in which it arrives.

Requests are numbered in the order in which they are let through. A request is a probe if it was let
through since the breaker was last half-opened, and late if it was let through before the breaker
last opened. `judged_on_probes` says when the breaker is judged on its probes.
-/

namespace NssAAF.Resilience

open Transducer History

/-! ## The clients -/

/-- What becomes of an HTTP request. -/
inductive Exchange
  | unbuildable (err : String)
  | unanswered (err : String)
  | unreadable (err : String)
  | answered (status : ℕ) (body : Bytes)
  deriving DecidableEq

/-- What `Factory.Do` returns when the breaker lets the request through. -/
def Exchange.result : Exchange → Except String (ℕ × Bytes)
  | .unbuildable err => .error ("nfclient: create request: " ++ err)
  | .unanswered err => .error ("nfclient: do request: " ++ err)
  | .unreadable err => .error ("nfclient: read body: " ++ err)
  | .answered status body => .ok (status, body)

/-- What `Factory.Do` records: nothing at all if the body of the answer cannot be read. -/
def Exchange.recorded : Exchange → Option Bool
  | .unbuildable _ | .unanswered _ => some false
  | .unreadable _ => none
  | .answered status _ => some (status < 400)

/-- The variables of `ForwardEAP`, with the number of posts so far. -/
structure Forwarding where
  posted : ℕ
  lastBody : Bytes
  lastErr : Option String
  retryCount : ℕ
  deriving DecidableEq

/-- One attempt of `ForwardEAP`. `posts n` is the outcome of the post after `n` others. -/
def forwardAttempt (posts : ℕ → Except String (Bytes × ℕ)) (s : Forwarding) :
    Except String Unit × Forwarding :=
  match posts s.posted with
  | .error err => (.error err, { s with posted := s.posted + 1, lastErr := some err })
  | .ok (respBody, status) =>
    let s := { s with posted := s.posted + 1, lastBody := respBody, lastErr := none }
    if 400 ≤ status ∧ status < 500 then (.ok (), s)
    else if isRetryable status then
      let err := "retryable status: " ++ toString status
      (.error err, { s with retryCount := s.retryCount + 1, lastErr := some err })
    else (.ok (), s)

/-- A request of one of the clients, with what its environment does. -/
inductive Client
  | factory (exchange : Exchange)
  | forward (maxAttempts : ℤ) (posts : ℕ → Except String (Bytes × ℕ)) (done : ℕ → Option String)

def Client.recorded : Client → Option Bool
  | .factory exchange => exchange.recorded
  | .forward maxAttempts posts done =>
    match (retry (forwardAttempt posts) done maxAttempts ⟨0, [], none, 0⟩).1 with
    | .ok () => some true
    | .error _ => some false

/-! ## Requests -/

/-- A breaker, how many requests it has let through, and those that are under way. -/
structure Requests where
  breaker : CircuitBreaker
  admitted : ℕ
  inFlight : List ℕ
  deriving DecidableEq

def newRequests : Requests := ⟨newCircuitBreaker, 0, []⟩

/-- A request asks for admission, or the request with number `n` ends. -/
inductive RequestEvent
  | start (now : ℤ)
  | finish (n : ℕ) (client : Client) (now : ℤ)

inductive RequestOutput
  | none
  | admitted (n : ℕ)
  | refused
  | recorded (n : ℕ) (success : Bool)
  deriving DecidableEq

namespace Requests

variable (cfg : BreakerConfig) (s : Requests)

def start (now : ℤ) : RequestOutput × Requests :=
  match s.breaker.allow cfg now with
  | (true, breaker) =>
    (.admitted s.admitted, ⟨breaker, s.admitted + 1, s.inFlight ++ [s.admitted]⟩)
  | (false, breaker) => (.refused, { s with breaker })

def record (success : Bool) (now : ℤ) : CircuitBreaker :=
  if success then s.breaker.recordSuccess cfg else s.breaker.recordFailure cfg now

def finish (n : ℕ) (client : Client) (now : ℤ) : RequestOutput × Requests :=
  if n ∈ s.inFlight then
    match client.recorded with
    | some success =>
      (.recorded n success,
        { s with breaker := s.record cfg success now, inFlight := s.inFlight.erase n })
    | none => (.none, { s with inFlight := s.inFlight.erase n })
  else (.none, s)

def step : RequestEvent → RequestOutput × Requests
  | .start now => s.start cfg now
  | .finish n client now => s.finish cfg n client now

end Requests

/-! ## Probes -/

abbrev RequestStep : Type := Record Requests RequestEvent RequestOutput

namespace RequestStep

variable (r : RequestStep)

def HalfOpens : Prop :=
  r.pre.breaker.state ≠ .stateHalfOpen ∧ r.post.breaker.state = .stateHalfOpen

instance : DecidablePred RequestStep.HalfOpens := fun r => inferInstanceAs
  (Decidable (r.pre.breaker.state ≠ .stateHalfOpen ∧ r.post.breaker.state = .stateHalfOpen))

def result : Option ℕ :=
  match r.output with
  | .recorded n _ => some n
  | _ => none

def success : Option ℕ :=
  match r.output with
  | .recorded n true => some n
  | _ => none

def failure : Option ℕ :=
  match r.output with
  | .recorded n false => some n
  | _ => none

/-- The number of the first probe, if the step half-opens the breaker. -/
def probing : Option ℕ := if r.HalfOpens then some r.pre.admitted else none

def Opens : Prop := r.pre.breaker.state ≠ .stateOpen ∧ r.post.breaker.state = .stateOpen

instance : DecidablePred RequestStep.Opens := fun r => inferInstanceAs
  (Decidable (r.pre.breaker.state ≠ .stateOpen ∧ r.post.breaker.state = .stateOpen))

/-- How many requests have been admitted, if the step opens the breaker. -/
def opening : Option ℕ := if r.Opens then some r.pre.admitted else none

end RequestStep

/-- The number of the request that half-opened the breaker last. The requests from it on are
probes. -/
def firstProbe (h : List RequestStep) : ℕ := (latest RequestStep.probing h).getD 0

/-- The successes of requests from number `k` on since the breaker was half-opened. -/
def successesFrom (k : ℕ) (h : List RequestStep) : ℕ :=
  countSince (fun r => ∃ n ∈ r.success, k ≤ n) RequestStep.HalfOpens h

/-- The requests with smaller numbers were admitted before the breaker opened, the last time that it
did. -/
def lastOpened (h : List RequestStep) : ℕ := (latest RequestStep.opening h).getD 0

/-- The breaker is judged on its probes: it closes only after enough successes of probes, and the
result of a request that was admitted before the breaker opened neither closes nor opens it. -/
structure Judged (cfg : BreakerConfig) (h : List RequestStep) (r : RequestStep) : Prop where
  closes : r.pre.breaker.state = .stateHalfOpen → r.post.breaker.state = .stateClosed →
    cfg.successThreshold ≤ successesFrom (firstProbe h) (h ++ [r])
  late : ∀ n ∈ r.result, n < lastOpened h → r.post.breaker.state = r.pre.breaker.state

/-- A result that arrives while the breaker is half-open is that of a probe, and while it is closed
no failure of a request that was admitted before it opened is the one that reaches the threshold. -/
def OnTime (cfg : BreakerConfig) (h : List RequestStep) (r : RequestStep) : Prop :=
  (r.pre.breaker.state = .stateHalfOpen → ∀ n ∈ r.result, firstProbe h ≤ n) ∧
    (r.pre.breaker.state = .stateClosed → ∀ n ∈ r.failure, n < lastOpened h →
      (r.pre.breaker.failures : ℤ) + 1 < cfg.failureThreshold)

instance (cfg : BreakerConfig) (h : List RequestStep) (r : RequestStep) :
    Decidable (OnTime cfg h r) :=
  inferInstanceAs (Decidable ((_ → ∀ n ∈ r.result, _) ∧ (_ → ∀ n ∈ r.failure, _ → _)))

section Concat

variable {h : List RequestStep} {r : RequestStep}

theorem firstProbe_concat (hr : ¬ r.HalfOpens) : firstProbe (h ++ [r]) = firstProbe h := by
  unfold firstProbe
  rw [latest_concat, RequestStep.probing, if_neg hr, Option.none_or]

theorem firstProbe_of_halfOpens (hr : r.HalfOpens) : firstProbe (h ++ [r]) = r.pre.admitted := by
  unfold firstProbe
  rw [latest_concat, RequestStep.probing, if_pos hr]
  rfl

theorem lastOpened_of_opens (hr : r.Opens) : lastOpened (h ++ [r]) = r.pre.admitted := by
  unfold lastOpened
  rw [latest_concat, RequestStep.opening, if_pos hr]
  rfl

theorem lastOpened_concat (hr : ¬ r.Opens) : lastOpened (h ++ [r]) = lastOpened h := by
  unfold lastOpened
  rw [latest_concat, RequestStep.opening, if_neg hr, Option.none_or]

theorem successesFrom_concat (hr : ¬ r.HalfOpens) (k : ℕ) :
    successesFrom k (h ++ [r]) = successesFrom k h + if ∃ n ∈ r.success, k ≤ n then 1 else 0 :=
  countSince_concat hr h

theorem not_halfOpens_of_pre (hr : r.pre.breaker.state = .stateHalfOpen) : ¬ r.HalfOpens :=
  fun h => h.1 hr

end Concat

/-! ## What an event can do -/

/-- The breaker after an event: another request is let through or refused, a result is recorded, or
nothing happens to the breaker. -/
inductive RequestMoves (cfg : BreakerConfig) (s : Requests) : RequestOutput → CircuitBreaker → Prop
  | asked {out : RequestOutput} {allowed : Bool} {cb : CircuitBreaker} (now : ℤ)
      (hout : ∀ n success, out ≠ .recorded n success)
      (h : Moves cfg s.breaker now .allow (some allowed) cb) : RequestMoves cfg s out cb
  | succeeded {cb : CircuitBreaker} (n : ℕ) (now : ℤ)
      (h : Moves cfg s.breaker now .recordSuccess none cb) :
      RequestMoves cfg s (.recorded n true) cb
  | failed {cb : CircuitBreaker} (n : ℕ) (now : ℤ)
      (h : Moves cfg s.breaker now .recordFailure none cb) :
      RequestMoves cfg s (.recorded n false) cb
  | idle : RequestMoves cfg s .none s.breaker

theorem step_requestMoves (cfg : BreakerConfig) (s : Requests) (e : RequestEvent) :
    RequestMoves cfg s (s.step cfg e).1 (s.step cfg e).2.breaker := by
  cases e with
  | start now =>
    have hm := step_moves cfg s.breaker ⟨.allow, now⟩
    dsimp only [CircuitBreaker.step] at hm
    dsimp only [Requests.step, Requests.start]
    split
    · next breaker hallow =>
      rw [hallow] at hm
      exact .asked now (by simp) hm
    · next breaker hallow =>
      rw [hallow] at hm
      exact .asked now (by simp) hm
  | finish n client now =>
    dsimp only [Requests.step, Requests.finish]
    split
    · split
      · next success _ =>
        cases success with
        | true => exact .succeeded n now (step_moves cfg s.breaker ⟨.recordSuccess, now⟩)
        | false => exact .failed n now (step_moves cfg s.breaker ⟨.recordFailure, now⟩)
      · exact .idle
    · exact .idle

namespace RequestMoves

variable {cfg : BreakerConfig} {s : Requests} {out : RequestOutput} {cb : CircuitBreaker}

/-- What can happen to a half-open breaker: nothing, a success that closes it, a success that is
counted, or a failure that opens it. -/
theorem of_halfOpen (hm : RequestMoves cfg s out cb) (hs : s.breaker.state = .stateHalfOpen) :
    cb = s.breaker ∨
      (∃ n, out = .recorded n true ∧ cb.state = .stateClosed ∧
        cfg.successThreshold ≤ (s.breaker.successes : ℤ) + 1) ∨
      (∃ n, out = .recorded n true ∧
        cb = { s.breaker with successes := s.breaker.successes + 1 }) ∨
      cb.state = .stateOpen := by
  cases hm with
  | asked now hne h =>
    cases h with
    | allowed | refused => exact Or.inl rfl
    | probed hopen => simp [hs] at hopen
  | succeeded n now h =>
    cases h with
    | closed _ hle => exact Or.inr (Or.inl ⟨n, rfl, rfl, hle⟩)
    | counted => exact Or.inr (Or.inr (Or.inl ⟨n, rfl, rfl⟩))
    | cleared hclosed => simp [hs] at hclosed
    | ignored hopen => simp [hs] at hopen
  | failed n now h =>
    cases h with
    | retripped => exact Or.inr (Or.inr (Or.inr rfl))
    | tripped hclosed | failed hclosed => simp [hs] at hclosed
    | late hopen => simp [hs] at hopen
  | idle => exact Or.inl rfl

theorem of_recorded {n : ℕ} {success : Bool} (hm : RequestMoves cfg s (.recorded n success) cb)
    (hs : s.breaker.state ≠ .stateHalfOpen) :
    cb.state = s.breaker.state ∨
      s.breaker.state = .stateClosed ∧ success = false ∧
        cfg.failureThreshold ≤ (s.breaker.failures : ℤ) + 1 := by
  cases hm with
  | asked now hne h => exact absurd rfl (hne n success)
  | succeeded n now h =>
    cases h with
    | closed hhalf | counted hhalf => exact absurd hhalf hs
    | cleared | ignored => exact Or.inl rfl
  | failed n now h =>
    cases h with
    | tripped hclosed hle => exact Or.inr ⟨hclosed, rfl, hle⟩
    | failed | late => exact Or.inl rfl
    | retripped hhalf => exact absurd hhalf hs

theorem successes_eq_zero (hm : RequestMoves cfg s out cb) (hs : s.breaker.state ≠ .stateHalfOpen)
    (hcb : cb.state = .stateHalfOpen) : cb.successes = 0 := by
  cases hm with
  | asked now hne h =>
    cases h with
    | allowed | refused => exact absurd hcb hs
    | probed => rfl
  | succeeded n now h =>
    cases h with
    | closed hhalf | counted hhalf => exact absurd hhalf hs
    | cleared | ignored => exact absurd hcb hs
  | failed n now h =>
    cases h with
    | tripped | retripped => cases hcb
    | failed | late => exact absurd hcb hs
  | idle => exact absurd hcb hs

end RequestMoves

theorem admitted_le_step (cfg : BreakerConfig) (s : Requests) (e : RequestEvent) :
    s.admitted ≤ (s.step cfg e).2.admitted := by
  cases e with
  | start now =>
    dsimp only [Requests.step, Requests.start]
    split
    · exact Nat.le_succ _
    · exact Nat.le_refl _
  | finish n client now =>
    dsimp only [Requests.step, Requests.finish]
    split
    · split <;> exact Nat.le_refl _
    · exact Nat.le_refl _

/-- The breaker opened before its probes were admitted. -/
structure Ordered (h : List RequestStep) (s : Requests) : Prop where
  opened_le : lastOpened h ≤ s.admitted
  opened_le_probe : s.breaker.state = .stateHalfOpen → lastOpened h ≤ firstProbe h

theorem Ordered.step {h : List RequestStep} {r : RequestStep} (ho : Ordered h r.pre)
    (hle : r.pre.admitted ≤ r.post.admitted) : Ordered (h ++ [r]) r.post where
  opened_le := by
    by_cases hr : r.Opens
    · rw [lastOpened_of_opens hr]
      exact hle
    · rw [lastOpened_concat hr]
      exact Nat.le_trans ho.opened_le hle
  opened_le_probe := by
    intro hpost
    have hr : ¬ r.Opens := by
      rintro ⟨-, hopen⟩
      rw [hpost] at hopen
      cases hopen
    rw [lastOpened_concat hr]
    by_cases hs : r.pre.breaker.state = .stateHalfOpen
    · rw [firstProbe_concat (not_halfOpens_of_pre hs)]
      exact ho.opened_le_probe hs
    · rw [firstProbe_of_halfOpens ⟨hs, hpost⟩]
      exact ho.opened_le

/-- The successes that a half-open breaker has counted are those of its probes. -/
def CountsProbes (h : List RequestStep) (s : Requests) : Prop :=
  s.breaker.state = .stateHalfOpen → s.breaker.successes ≤ successesFrom (firstProbe h) h

namespace CountsProbes

variable {cfg : BreakerConfig} {h : List RequestStep} {r : RequestStep}

theorem le_concat (hc : CountsProbes h r.pre) (hs : r.pre.breaker.state = .stateHalfOpen) :
    r.pre.breaker.successes ≤ successesFrom (firstProbe h) (h ++ [r]) := by
  rw [successesFrom_concat (not_halfOpens_of_pre hs)]
  exact Nat.le_trans (hc hs) (Nat.le_add_right _ _)

theorem succ_le_concat (hc : CountsProbes h r.pre) (hs : r.pre.breaker.state = .stateHalfOpen)
    (hp : OnTime cfg h r) {n : ℕ} (hout : r.output = .recorded n true) :
    r.pre.breaker.successes + 1 ≤ successesFrom (firstProbe h) (h ++ [r]) := by
  have hsucc : ∃ n ∈ r.success, firstProbe h ≤ n :=
    ⟨n, by simp [RequestStep.success, hout], hp.1 hs n (by simp [RequestStep.result, hout])⟩
  rw [successesFrom_concat (not_halfOpens_of_pre hs), if_pos hsucc]
  exact Nat.succ_le_succ (hc hs)

theorem step (hc : CountsProbes h r.pre)
    (hm : RequestMoves cfg r.pre r.output r.post.breaker) (hp : OnTime cfg h r) :
    CountsProbes (h ++ [r]) r.post := by
  intro hpost
  by_cases hs : r.pre.breaker.state = .stateHalfOpen
  · rw [firstProbe_concat (not_halfOpens_of_pre hs)]
    rcases hm.of_halfOpen hs with hcb | ⟨n, -, hclosed, -⟩ | ⟨n, hout, hcb⟩ | hopen
    · rw [hcb]
      exact hc.le_concat hs
    · rw [hpost] at hclosed
      cases hclosed
    · rw [hcb]
      exact hc.succ_le_concat hs hp hout
    · rw [hpost] at hopen
      cases hopen
  · rw [hm.successes_eq_zero hs hpost]
    exact Nat.zero_le _

theorem judged (hc : CountsProbes h r.pre) (ho : Ordered h r.pre)
    (hm : RequestMoves cfg r.pre r.output r.post.breaker) (hp : OnTime cfg h r) :
    Judged cfg h r where
  closes := by
    intro hs hpost
    rcases hm.of_halfOpen hs with hcb | ⟨n, hout, -, hle⟩ | ⟨n, -, hcb⟩ | hopen
    · rw [hcb, hs] at hpost
      cases hpost
    · have hcount := hc.succ_le_concat hs hp hout
      omega
    · rw [hcb] at hpost
      simp [hs] at hpost
    · rw [hpost] at hopen
      cases hopen
  late := by
    intro n hn hlate
    by_cases hs : r.pre.breaker.state = .stateHalfOpen
    · have hle := Nat.le_trans (ho.opened_le_probe hs) (hp.1 hs n hn)
      exact absurd hlate (Nat.not_lt_of_le hle)
    · unfold RequestStep.result at hn
      split at hn
      · next m success hout =>
        cases hn
        rw [hout] at hm
        rcases hm.of_recorded hs with hsame | ⟨hclosed, rfl, hle⟩
        · exact hsame
        · have hlt := hp.2 hclosed n (by simp [RequestStep.failure, hout]) hlate
          omega
      · cases hn

end CountsProbes

/-- **Judged on probes.** If every result that arrives while the breaker is half-open is that of a
probe, and no late failure reaches the threshold of the closed breaker, then it closes only after
enough successes of probes, and no result of a request from before it opened closes or opens it. -/
theorem judged_on_probes (failureThreshold recoveryTimeout successThreshold : ℤ)
    (es : List RequestEvent)
    (hprobes : Along
      (Requests.step (newBreakerConfig failureThreshold recoveryTimeout successThreshold))
      newRequests
      (OnTime (newBreakerConfig failureThreshold recoveryTimeout successThreshold)) es) :
    Along (Requests.step (newBreakerConfig failureThreshold recoveryTimeout successThreshold))
      newRequests
      (Judged (newBreakerConfig failureThreshold recoveryTimeout successThreshold)) es := by
  refine along_of_inv (J := fun h s => CountsProbes h s ∧ Ordered h s) ?_ ?_
    ⟨(fun h => nomatch h), Nat.le_refl 0, (fun h => nomatch h)⟩ hprobes
  · intro h s e ⟨hc, ho⟩ hp
    exact ⟨CountsProbes.step (r := Transducer.record _ s e) hc (step_requestMoves _ s e) hp,
      Ordered.step (r := Transducer.record _ s e) ho (admitted_le_step _ s e)⟩
  · intro h s e ⟨hc, ho⟩ hp
    exact CountsProbes.judged (r := Transducer.record _ s e) hc ho (step_requestMoves _ s e) hp

namespace Sample

/-- The end of a request with the given status. -/
def ends (n status : ℕ) (now : ℤ) : RequestEvent := .finish n (.factory (.answered status [])) now

/-- Two failures open the breaker, and the success of a probe closes it. The third of the first
requests fails after that. -/
def probeSucceeds : List RequestEvent :=
  [.start 0, .start 0, .start 0, ends 0 500 1, ends 1 500 1, .start 11, ends 3 200 12,
    ends 2 500 13]

/-- Eight requests are let through, five of them fail, and a ninth one half-opens a breaker with
default thresholds. -/
def recovering : List RequestEvent :=
  List.replicate 8 (.start 0) ++
    [ends 0 500 1, ends 1 500 1, ends 2 500 1, ends 3 500 1, ends 4 500 1, .start 30000000001,
      ends 5 200 30000000002, ends 6 200 30000000003]

/-- A breaker with thresholds of one is closed again by its probe, and one of the requests from
before is still under way. -/
def recovered : List RequestEvent :=
  [.start 0, .start 0, ends 0 500 1, .start 11, ends 2 200 12]

end Sample

theorem judged_on_probes_cycle :
    (trace (Requests.step (newBreakerConfig 2 10 1)) newRequests Sample.probeSucceeds).map
        (fun r => r.post.breaker.state) =
      [.stateClosed, .stateClosed, .stateClosed, .stateClosed, .stateOpen, .stateHalfOpen,
        .stateClosed, .stateClosed] ∧
      Along (Requests.step (newBreakerConfig 2 10 1)) newRequests
        (Judged (newBreakerConfig 2 10 1)) Sample.probeSucceeds :=
  ⟨by decide, judged_on_probes 2 10 1 Sample.probeSucceeds (along_of_alongFrom (by decide))⟩

open Sample in
/-- Late successes close the breaker before its only probe has ended, and a late failure opens it
again, when it is half-open and when it is closed. -/
theorem late_results_judge :
    ¬ Along (Requests.step (newBreakerConfig 0 0 0)) newRequests (Judged (newBreakerConfig 0 0 0))
        (recovering ++ [ends 7 200 30000000004]) ∧
      ¬ Along (Requests.step (newBreakerConfig 0 0 0)) newRequests (Judged (newBreakerConfig 0 0 0))
        (recovering ++ [ends 7 500 30000000004]) ∧
      ¬ Along (Requests.step (newBreakerConfig 1 10 1)) newRequests
        (Judged (newBreakerConfig 1 10 1)) (recovered ++ [ends 1 500 13]) := by
  refine ⟨fun h => ?_, fun h => ?_, fun h => ?_⟩
  · exact absurd ((h recovering _ [] rfl).closes (by decide) (by decide)) (by decide)
  · exact absurd ((h recovering _ [] rfl).late 7 (by decide) (by decide)) (by decide)
  · exact absurd ((h recovered _ [] rfl).late 1 (by decide) (by decide)) (by decide)

end NssAAF.Resilience
