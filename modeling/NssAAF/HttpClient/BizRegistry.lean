import NssAAF.HttpClient.Proxy
import NssAAF.Aaa.PodRegistry
import NssAAF.Amf.Notify
import Mathlib.Logic.Function.Basic

/-!
# Forwarding to the pods of Biz

`BizRegistry.ForwardRequest` of `internal/httpclient/biz_registry.go` sends a request to a live pod,
or to a fixed URL if none is found. Every URL has a circuit breaker. If the one of the pod does not
let the request through, another pod is chosen and its breaker is asked.

Each attempt keeps an `Admission`: the breaker that let the request through, the URL contacted, and
what was recorded on which breaker. The books are exact (`Exact`) if every request that was let
through has one record, on the breaker of its URL. They are not where the request cannot be built,
nor where another pod was chosen and answers. `Factory.Do` of `internal/nfclient/factory.go` loses
the record of an answer whose body cannot be read.
-/

namespace NssAAF.HttpClient

open Resilience Aaa

/-! ## Breakers -/

/-- The breakers of the URLs. A breaker is made when it is first asked for. -/
abbrev Breakers : Type := String → CircuitBreaker

/-- A use of the breakers: the reading of the clock, and what other requests have done to the
breakers since the last use. -/
structure Moment where
  now : ℤ
  others : Breakers → Breakers

/-- `Allow` of the breaker of a URL. -/
def Breakers.ask (breakers : Breakers) (cfg : BreakerConfig) (url : String) (t : Moment) :
    Bool × Breakers :=
  let breakers := t.others breakers
  let (allowed, cb) := (breakers url).allow cfg t.now
  (allowed, Function.update breakers url cb)

/-- `RecordSuccess` or `RecordFailure` of the breaker of a URL. -/
def Breakers.record (cfg : BreakerConfig) (t : Moment) (breakers : Breakers)
    (entry : String × Bool) : Breakers :=
  let breakers := t.others breakers
  let cb := breakers entry.1
  Function.update breakers entry.1
    (if entry.2 then cb.recordSuccess cfg else cb.recordFailure cfg t.now)

/-- What the breakers were used for in one attempt: the URL whose breaker let the request through,
the URL contacted, and the results recorded. -/
structure Admission where
  admitted : Option String
  contacted : Option String
  records : List (String × Bool)
  deriving DecidableEq

/-- A request that was let through has one record, on the breaker of the URL contacted, or if none
was, of the URL it was for. Nothing else is recorded. -/
def Admission.Exact (a : Admission) : Prop :=
  match a.admitted with
  | none => a.records = []
  | some url => ∃ success, a.records = [(a.contacted.getD url, success)]

/-! ## `Factory.Do` -/

/-- What is around a call of `Factory.Do`. -/
structure FactoryCall where
  asked : Moment
  settled : Moment
  exchange : Exchange

/-- The URL that an exchange contacts. -/
def contacted (url : String) : Exchange → Option String
  | .unbuildable _ => none
  | _ => some url

/-- `Factory.Do`, with or without a registry of breakers. -/
def factoryRun (cfg : BreakerConfig) (breakers : Option Breakers) (baseURL : String)
    (e : FactoryCall) : Except String (ℕ × Bytes) × Option Breakers × Admission :=
  match breakers with
  | none =>
    (Amf.factoryDo baseURL (some e.exchange), none, ⟨none, contacted baseURL e.exchange, []⟩)
  | some breakers =>
    match breakers.ask cfg baseURL e.asked with
    | (false, breakers) => (Amf.factoryDo baseURL none, some breakers, ⟨none, none, []⟩)
    | (true, breakers) =>
      let records := (e.exchange.recorded.map fun success => (baseURL, success)).toList
      (Amf.factoryDo baseURL (some e.exchange),
        some (records.foldl (Breakers.record cfg e.settled) breakers),
        ⟨some baseURL, contacted baseURL e.exchange, records⟩)

/-! ## `ForwardRequest` -/

/-- A scan for live pods and the random number for the choice. -/
structure PodScan where
  pods : PodRegistry
  now : UnixTime
  fault : Option String
  rand : ℕ

def PodScan.selectRandomLivePod (scan : PodScan) : Except String String :=
  scan.pods.selectRandomLivePod scan.now scan.fault scan.rand

/-- What is around an attempt: the scans, the uses of the breakers and what becomes of a request. -/
structure BizAttempt where
  scan : PodScan
  altScan : PodScan
  asked : Moment
  altAsked : Moment
  settled : Moment
  exchange : HttpRequest → Outcome

structure BizRegistry where
  staticURL : String
  retryCfg : RetryConfig
  breakerCfg : BreakerConfig

def newBizRegistry (staticURL : String) (retryCfg : RetryConfig)
    (failureThreshold recoveryTimeout successThreshold : ℤ) : BizRegistry where
  staticURL := staticURL
  retryCfg := retryCfg.withDefaults
  breakerCfg := newBreakerConfig failureThreshold recoveryTimeout successThreshold

structure BizRequest where
  path : String
  method : String
  body : Bytes
  requestID : String
  gpsi : String
  supi : String

def BizRequest.to (r : BizRequest) (targetURL : String) : HttpRequest where
  method := r.method
  url := Bytes.ofString (targetURL ++ r.path)
  headers := ("Content-Type", "application/json") ::
    [("X-Request-ID", r.requestID), ("X-NSSAA-GPSI", r.gpsi), ("X-NSSAA-SUPI", r.supi)].filter
      fun header => header.2 ≠ ""
  body := r.body

/-- The variables of `ForwardRequest`, with the breakers and the books. -/
structure Forward where
  attempt : ℕ
  breakers : Breakers
  captured : Captured
  books : List Admission

namespace BizRegistry

variable (b : BizRegistry) (e : BizAttempt) (r : BizRequest)

def firstURL : String :=
  match e.scan.selectRandomLivePod with
  | .ok podURL => podURL
  | .error _ => b.staticURL

/-- The URL whose breaker lets the request through. -/
def selectTarget (breakers : Breakers) : Option String × Breakers :=
  match breakers.ask b.breakerCfg (b.firstURL e) e.asked with
  | (true, breakers) => (some (b.firstURL e), breakers)
  | (false, breakers) =>
    match e.altScan.selectRandomLivePod with
    | .error _ => (none, breakers)
    | .ok altURL =>
      match breakers.ask b.breakerCfg altURL e.altAsked with
      | (true, breakers) => (some altURL, breakers)
      | (false, breakers) => (none, breakers)

def errBreakerOpen : String := "circuit breaker open, no live pods"

/-- What the closure returns for a request to `targetURL`, what it captures and what it records. A
failure is recorded on the breaker of `targetURL`, a success on the breaker that was asked first. -/
def send (targetURL : String) (c : Captured) :
    Except String Unit × Captured × List (String × Bool) :=
  match e.exchange (r.to targetURL) with
  | .unbuildable err => (.error err, c, [])
  | .failed err => (.error err, { c with lastErr := some err }, [(targetURL, false)])
  | .response status body =>
    let c := { c with lastStatus := status, lastBody := body }
    if 400 ≤ status ∧ status < 500 then (.ok (), c, [(b.firstURL e, true)])
    else if isRetryable status then
      (.error (serverError status), { c with lastErr := some (serverError status) },
        [(targetURL, false)])
    else (.ok (), c, [(b.firstURL e, true)])

def contactedURL (targetURL : String) : Option String :=
  match e.exchange (r.to targetURL) with
  | .unbuildable _ => none
  | _ => some targetURL

def forwardOnce (attempts : ℕ → BizAttempt) (s : Forward) : Except String Unit × Forward :=
  let e := attempts s.attempt
  match b.selectTarget e s.breakers with
  | (none, breakers) =>
    (.error errBreakerOpen,
      { attempt := s.attempt + 1
        breakers := breakers
        captured := { s.captured with lastErr := some errBreakerOpen }
        books := s.books ++ [⟨none, none, []⟩] })
  | (some targetURL, breakers) =>
    let (result, captured, records) := b.send e r targetURL s.captured
    (result,
      { attempt := s.attempt + 1
        breakers := records.foldl (Breakers.record b.breakerCfg e.settled) breakers
        captured := captured
        books := s.books ++ [⟨some targetURL, contactedURL e r targetURL, records⟩] })

def start (breakers : Breakers) : Forward := ⟨0, breakers, Captured.initial, []⟩

def forwardRequest (attempts : ℕ → BizAttempt) (done : ℕ → Option String) (breakers : Breakers) :
    Returned × Forward :=
  let (result, s) := retry (b.forwardOnce r attempts) done b.retryCfg.maxAttempts (start breakers)
  (s.captured.returned result, s)

end BizRegistry

/-! ## The books -/

namespace BizRegistry

variable (b : BizRegistry) (r : BizRequest) (attempts : ℕ → BizAttempt)

def admission (s : Forward) : Admission :=
  match (b.selectTarget (attempts s.attempt) s.breakers).1 with
  | none => ⟨none, none, []⟩
  | some targetURL =>
    ⟨some targetURL, contactedURL (attempts s.attempt) r targetURL,
      (b.send (attempts s.attempt) r targetURL s.captured).2.2⟩

theorem forwardOnce_books (s : Forward) :
    (b.forwardOnce r attempts s).2.books = s.books ++ [b.admission r attempts s] := by
  unfold forwardOnce admission
  dsimp only
  rcases b.selectTarget (attempts s.attempt) s.breakers with ⟨_ | targetURL, breakers⟩
  · rfl
  · rfl

theorem afterAttempts_books (s : Forward) (m : ℕ) :
    (afterAttempts (b.forwardOnce r attempts) s m).books = s.books ++
      (List.range m).map fun k =>
        b.admission r attempts (afterAttempts (b.forwardOnce r attempts) s k) := by
  induction m with
  | zero => simp [afterAttempts]
  | succ m ih =>
    show (b.forwardOnce r attempts _).2.books = _
    rw [forwardOnce_books, ih, List.range_succ, List.map_append, List.append_assoc]
    rfl

theorem forwardRequest_books (done : ℕ → Option String) (breakers : Breakers) :
    (b.forwardRequest r attempts done breakers).2.books =
      (List.range (callsOfDo (b.forwardOnce r attempts) done b.retryCfg.maxAttempts
        (start breakers))).map fun k =>
        b.admission r attempts (afterAttempts (b.forwardOnce r attempts) (start breakers) k) := by
  have hran := ran_retry (b.forwardOnce r attempts) done b.retryCfg.maxAttempts (start breakers)
  show (retry (b.forwardOnce r attempts) done b.retryCfg.maxAttempts (start breakers)).2.books = _
  rw [hran.state, afterAttempts_books]
  rfl

/-- What keeps the books of an attempt exact: a request that is let through can be built, and if it
goes to another pod than the first, it is not answered below 500. -/
def Accountable (s : Forward) : Prop :=
  ∀ targetURL, (b.selectTarget (attempts s.attempt) s.breakers).1 = some targetURL →
    match (attempts s.attempt).exchange (r.to targetURL) with
    | .unbuildable _ => False
    | .failed _ => True
    | .response status _ => status < 500 → targetURL = b.firstURL (attempts s.attempt)

variable (e : BizAttempt) (targetURL : String) (c : Captured)

theorem send_eq_receive :
    ((b.send e r targetURL c).1, (b.send e r targetURL c).2.1) =
      c.receive (e.exchange (r.to targetURL)) := by
  unfold send Captured.receive
  cases e.exchange (r.to targetURL) with
  | unbuildable err => rfl
  | failed err => rfl
  | response status body =>
    dsimp only
    by_cases h4xx : 400 ≤ status ∧ status < 500
    · rw [if_pos h4xx, if_pos h4xx]
    · simp only [if_neg h4xx, isRetryable_iff h4xx]
      split_ifs <;> rfl

theorem send_records_response {status : ℕ} {body : Bytes}
    (h : e.exchange (r.to targetURL) = .response status body) :
    (b.send e r targetURL c).2.2 =
      if status < 500 then [(b.firstURL e, true)] else [(targetURL, false)] := by
  simp only [send, h]
  by_cases h4xx : 400 ≤ status ∧ status < 500
  · rw [if_pos h4xx, if_pos h4xx.2]
  · simp only [if_neg h4xx, isRetryable_iff h4xx]
    by_cases hlt : status < 500
    · rw [if_neg (Nat.not_le.mpr hlt), if_pos hlt]
    · rw [if_pos (Nat.not_lt.mp hlt), if_neg hlt]

theorem admission_exact_iff (s : Forward) :
    (b.admission r attempts s).Exact ↔ b.Accountable r attempts s := by
  unfold admission Accountable Admission.Exact
  rcases (b.selectTarget (attempts s.attempt) s.breakers).1 with _ | targetURL
  · simp
  · simp only [Option.some.injEq, forall_eq']
    unfold contactedURL
    rcases h : (attempts s.attempt).exchange (r.to targetURL) with err | err | ⟨status, body⟩
    · simp [send, h]
    · simp [send, h]
    · rw [send_records_response b r _ _ _ h]
      split_ifs with hlt
      · simp [hlt, eq_comm]
      · simp [hlt]

end BizRegistry

/-- The books of every run are exact as long as every attempt is accountable, and no longer. In
`Factory.Do` they are exact unless a request is let through and the body of its answer cannot be
read. -/
theorem books_exact_iff (b : BizRegistry) (r : BizRequest) (attempts : ℕ → BizAttempt)
    (done : ℕ → Option String) (breakers : Breakers) (cfg : BreakerConfig)
    (registry : Option Breakers) (baseURL : String) (e : FactoryCall) :
    ((∀ a ∈ (b.forwardRequest r attempts done breakers).2.books, a.Exact) ↔
      ∀ k < callsOfDo (b.forwardOnce r attempts) done b.retryCfg.maxAttempts
        (BizRegistry.start breakers),
        b.Accountable r attempts
          (afterAttempts (b.forwardOnce r attempts) (BizRegistry.start breakers) k)) ∧
    ((factoryRun cfg registry baseURL e).2.2.Exact ↔
      ∀ breakers, registry = some breakers → (breakers.ask cfg baseURL e.asked).1 = true →
        ∀ err, e.exchange ≠ .unreadable err) := by
  constructor
  · rw [BizRegistry.forwardRequest_books]
    simp [BizRegistry.admission_exact_iff]
  · unfold factoryRun Admission.Exact
    rcases registry with _ | breakers
    · simp
    · rcases h : breakers.ask cfg baseURL e.asked with ⟨_ | _, breakers'⟩
      · simp [h]
      · rcases e.exchange with err | err | err | ⟨status, body⟩ <;>
          simp [h, Exchange.recorded, contacted]

namespace Sample

def pods : PodRegistry :=
  ⟨[("biz-1", .ok ⟨"http://biz-1:8080", 990⟩), ("biz-2", .ok ⟨"http://biz-2:8080", 990⟩)],
    Aaa.Sample.podIDs_nodup⟩

def scan (rand : ℕ) : PodScan := ⟨pods, Aaa.Sample.time, none, rand⟩

def moment : Moment := ⟨1, id⟩

/-- The first pod is chosen first, and the second pod then. -/
def attempt (outcome : Outcome) : BizAttempt :=
  ⟨scan 0, scan 1, moment, moment, moment, fun _ => outcome⟩

def registry : BizRegistry := newBizRegistry "http://biz:8080" defaultRetryConfig 0 0 0

def request : BizRequest := ⟨"/eap", "POST", [], "", "", ""⟩

def breakers : Breakers :=
  Function.update (fun _ => newCircuitBreaker) "http://biz-1:8080" ⟨.stateOpen, 5, 0, 0⟩

end Sample

open Sample in
/-- The second pod answers, and the success is recorded on the breaker of the first. `Factory.Do`
records nothing for an answer whose body cannot be read. -/
theorem success_on_other_breaker :
    (registry.forwardRequest request (fun _ => attempt (.response 200 []))
      (fun _ => none) breakers).2.books =
      [⟨some "http://biz-2:8080", some "http://biz-2:8080", [("http://biz-1:8080", true)]⟩] ∧
    (factoryRun (newBreakerConfig 0 0 0) (some fun _ => newCircuitBreaker) "http://amf:8080"
      ⟨moment, moment, .unreadable "unexpected EOF"⟩).2.2 =
      ⟨some "http://amf:8080", some "http://amf:8080", []⟩ ∧
    ¬ ∀ a ∈ (registry.forwardRequest request
      (fun _ => attempt (.response 200 [])) (fun _ => none) breakers).2.books,
      a.Exact := by
  have hbooks : (registry.forwardRequest request
      (fun _ => attempt (.response 200 [])) (fun _ => none) breakers).2.books =
      [⟨some "http://biz-2:8080", some "http://biz-2:8080", [("http://biz-1:8080", true)]⟩] := by
    decide +kernel
  refine ⟨hbooks, by decide +kernel, ?_⟩
  intro hall
  rw [hbooks] at hall
  obtain ⟨success, hrecords⟩ := hall _ (List.mem_singleton.mpr rfl)
  simp at hrecords

/-! ## The reports -/

namespace BizRegistry

variable (b : BizRegistry) (r : BizRequest) (attempts : ℕ → BizAttempt)

def outcome (s : Forward) : Outcome :=
  match (b.selectTarget (attempts s.attempt) s.breakers).1 with
  | none => .failed errBreakerOpen
  | some targetURL => (attempts s.attempt).exchange (r.to targetURL)

theorem forwardOnce_receive (s : Forward) :
    ((b.forwardOnce r attempts s).1, (b.forwardOnce r attempts s).2.captured) =
      s.captured.receive (b.outcome r attempts s) := by
  unfold forwardOnce outcome
  dsimp only
  rcases b.selectTarget (attempts s.attempt) s.breakers with ⟨_ | targetURL, breakers⟩
  · rfl
  · exact b.send_eq_receive r (attempts s.attempt) targetURL s.captured

def outcomes (breakers : Breakers) (k : ℕ) : Outcome :=
  b.outcome r attempts (afterAttempts (b.forwardOnce r attempts) (start breakers) k)

end BizRegistry

/-- **Failures reported.** Each of the clients reports its failures exactly if the last attempt is
not answered 429 and some attempt can be built. -/
theorem clients_faithful_iff (b : BizRegistry) (r : BizRequest) (attempts : ℕ → BizAttempt)
    (done : ℕ → Option String) (breakers : Breakers) (p : ProxyClient) (c : NfClient)
    (env : Surroundings) (targetNF method : String) (path body : Bytes) :
    (Faithful (b.outcomes r attempts breakers)
        (callsOfDo (b.forwardOnce r attempts) done b.retryCfg.maxAttempts
          (BizRegistry.start breakers))
        (b.forwardRequest r attempts done breakers).1 ↔
      Reportable (b.outcomes r attempts breakers) done (allowed b.retryCfg.maxAttempts)) ∧
    (Faithful (p.outcomes env targetNF method path body)
        (attemptsMade (p.outcomes env targetNF method path body) env.done p.retryCfg)
        (p.call env targetNF method path body) ↔
      Reportable (p.outcomes env targetNF method path body) env.done
        (allowed p.retryCfg.maxAttempts)) ∧
    (Faithful (c.outcomes env method path body)
        (attemptsMade (c.outcomes env method path body) env.done c.retryCfg)
        (c.doRequest env method path body) ↔
      Reportable (c.outcomes env method path body) env.done
        (allowed c.retryCfg.maxAttempts)) := by
  refine ⟨?_, callWithRetry_faithful_iff _ _ _, callWithRetry_faithful_iff _ _ _⟩
  exact @returned_faithful_iff _ (b.forwardOnce r attempts) Forward.captured
    (b.outcome r attempts) (b.forwardOnce_receive r attempts) done b.retryCfg.maxAttempts
    (BizRegistry.start breakers) rfl

/-- A request that cannot be built is reported as a success with status 0, and a 429 as a success,
though it is to be retried. -/
theorem failure_reported_as_success :
    let client := newProxyClient [] defaultRetryConfig
    let env : Surroundings :=
      ⟨none, fun _ _ => .unbuildable "net/http: invalid method", fun _ => none⟩
    client.callNRF env "A B" [] [] = ⟨0, [], none⟩ ∧
    ¬ Faithful (client.outcomes env "nrf" "A B" [] [])
      (attemptsMade (client.outcomes env "nrf" "A B" [] []) env.done client.retryCfg)
      (client.callNRF env "A B" [] []) ∧
    (NfClient.mk [] defaultRetryConfig).doRequest
      ⟨none, fun _ _ => .response 429 [], fun _ => none⟩ "GET" [] [] = ⟨429, [], none⟩ ∧
    isRetryable 429 = true := by
  intro client env
  have hcall : client.callNRF env "A B" [] [] = ⟨0, [], none⟩ := by decide
  refine ⟨hcall, ?_, by decide, by decide⟩
  intro h
  obtain ⟨k, status, body, -, hresponse, -⟩ := h.err_iff.mp (by rw [hcall])
  exact nomatch hresponse

end NssAAF.HttpClient
