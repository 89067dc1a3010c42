import NssAAF.Resilience.Backoff
import NssAAF.Lib.Bytes

/-!
# Clients that forward requests

`ProxyClient.call` of `internal/httpclient/proxy.go` and `nfClient.Do` of
`cmd/http-gateway/internal/proxy/proxy.go` send a request in a retry loop. The closure they retry
leaves its findings in variables of the function around it, and not every path through the closure
sets them: a request that cannot be built leaves `lastErr` as it was. What the function returns is
read from these variables.

`returned_faithful_iff` says when a function of this kind reports its failures: if an attempt was
made that could be built, and the last one was not answered 429, which is not retried.
-/

namespace NssAAF.HttpClient

open Resilience

structure HttpRequest where
  method : String
  url : Bytes
  headers : List (String × String)
  body : Bytes
  deriving DecidableEq

/-- What becomes of a request. What could be read of a body counts as the body. -/
inductive Outcome
  | unbuildable (err : String)
  | failed (err : String)
  | response (status : ℕ) (body : Bytes)
  deriving DecidableEq

/-- The variables that the closure sets. -/
structure Captured where
  lastErr : Option String
  lastStatus : ℕ
  lastBody : Bytes
  deriving DecidableEq

structure Returned where
  status : ℕ
  body : Bytes
  err : Option String
  deriving DecidableEq

def serverError (status : ℕ) : String := "server error: " ++ toString status

namespace Captured

def initial : Captured := ⟨none, 0, []⟩

def receive (c : Captured) : Outcome → Except String Unit × Captured
  | .unbuildable err => (.error err, c)
  | .failed err => (.error err, { c with lastErr := some err })
  | .response status body =>
    let c := { c with lastStatus := status, lastBody := body }
    if 400 ≤ status ∧ status < 500 then (.ok (), c)
    else if status ≥ 500 then
      (.error (serverError status), { c with lastErr := some (serverError status) })
    else (.ok (), c)

/-- What the function returns after the loop. -/
def returned (c : Captured) : Except String Unit → Returned
  | .ok () => ⟨c.lastStatus, c.lastBody, none⟩
  | .error _ => ⟨c.lastStatus, c.lastBody, c.lastErr⟩

end Captured

/-- The variables, with the number of attempts so far. -/
structure Calling where
  attempt : ℕ
  captured : Captured
  deriving DecidableEq

/-- An attempt. `outcomes k` is the outcome of attempt `k`. -/
def callOnce (outcomes : ℕ → Outcome) (s : Calling) : Except String Unit × Calling :=
  let (result, captured) := s.captured.receive (outcomes s.attempt)
  (result, ⟨s.attempt + 1, captured⟩)

def Calling.initial : Calling := ⟨0, Captured.initial⟩

/-- A request in a retry loop. -/
def callWithRetry (outcomes : ℕ → Outcome) (done : ℕ → Option String) (cfg : RetryConfig) :
    Returned :=
  let (result, s) := retry (callOnce outcomes) done cfg.maxAttempts Calling.initial
  s.captured.returned result

/-- What is around a call: the request identifier of its context, the outcome of each attempt and
the error of the context after each. -/
structure Surroundings where
  requestID : Option String
  exchange : ℕ → HttpRequest → Outcome
  done : ℕ → Option String

structure ProxyClient where
  gatewayURL : Bytes
  retryCfg : RetryConfig

def newProxyClient (gatewayURL : Bytes) (retryCfg : RetryConfig) : ProxyClient :=
  ⟨gatewayURL, retryCfg.withDefaults⟩

/-- The request of `ProxyClient.call`. -/
def ProxyClient.request (p : ProxyClient) (requestID : Option String) (targetNF : String)
    (method : String) (path body : Bytes) : HttpRequest where
  method := method
  url := p.gatewayURL ++ Bytes.ofString "/internal/" ++ Bytes.ofString targetNF ++ path
  headers := ("Content-Type", "application/json") ::
    (requestID.toList.filter (· ≠ "")).map fun id => ("X-Request-ID", id)
  body := body

def ProxyClient.outcomes (p : ProxyClient) (env : Surroundings) (targetNF : String)
    (method : String) (path body : Bytes) (attempt : ℕ) : Outcome :=
  env.exchange attempt (p.request env.requestID targetNF method path body)

def ProxyClient.call (p : ProxyClient) (env : Surroundings) (targetNF : String) (method : String)
    (path body : Bytes) : Returned :=
  callWithRetry (p.outcomes env targetNF method path body) env.done p.retryCfg

def ProxyClient.callNRF (p : ProxyClient) (env : Surroundings) := p.call env "nrf"

def ProxyClient.callUDM (p : ProxyClient) (env : Surroundings) := p.call env "udm"

def ProxyClient.callAMF (p : ProxyClient) (env : Surroundings) := p.call env "amf"

structure NfClient where
  baseURL : Bytes
  retryCfg : RetryConfig

/-- The request of `nfClient.Do`: a slash at the end of the base URL is dropped. -/
def NfClient.request (c : NfClient) (method : String) (path body : Bytes) : HttpRequest where
  method := method
  url := (if c.baseURL.getLast? = some 47 then c.baseURL.dropLast else c.baseURL) ++ path
  headers := [("Content-Type", "application/json")]
  body := body

def NfClient.outcomes (c : NfClient) (env : Surroundings) (method : String) (path body : Bytes)
    (attempt : ℕ) : Outcome :=
  env.exchange attempt (c.request method path body)

def NfClient.doRequest (c : NfClient) (env : Surroundings) (method : String) (path body : Bytes) :
    Returned :=
  callWithRetry (c.outcomes env method path body) env.done c.retryCfg

/-! ## What an attempt leaves -/

theorem isRetryable_iff {status : ℕ} (h : ¬ (400 ≤ status ∧ status < 500)) :
    isRetryable status = true ↔ status ≥ 500 := by
  simp only [isRetryable, Bool.or_eq_true, decide_eq_true_eq, beq_iff_eq]
  omega

/-- A response that ends the loop: its status is below 500. -/
def Outcome.Final : Outcome → Prop
  | .response status _ => status < 500
  | _ => False

def Outcome.IsUnbuildable : Outcome → Prop
  | .unbuildable _ => True
  | _ => False

theorem Outcome.ne_of_not_final {o : Outcome} (h : ¬ o.Final) (body : Bytes) :
    o ≠ .response 429 body := by
  rintro rfl
  exact h (by decide : 429 < 500)

theorem Outcome.Final.exists_response {o : Outcome} (h : o.Final) :
    ∃ status body, o = .response status body ∧ status < 500 := by
  cases o with
  | unbuildable err => exact h.elim
  | failed err => exact h.elim
  | response status body => exact ⟨status, body, rfl, h⟩

namespace Captured

variable (c : Captured)

theorem receive_ok_iff (o : Outcome) : (c.receive o).1 = .ok () ↔ o.Final := by
  cases o with
  | unbuildable err => simp [receive, Outcome.Final]
  | failed err => simp [receive, Outcome.Final]
  | response status body =>
    simp only [receive, Outcome.Final]
    split_ifs <;> simp <;> omega

theorem receive_lastErr_of_not_final {o : Outcome} (hfinal : ¬ o.Final) :
    (c.receive o).2.lastErr = none ↔ o.IsUnbuildable ∧ c.lastErr = none := by
  cases o with
  | unbuildable err => simp [receive, Outcome.IsUnbuildable]
  | failed err => simp [receive, Outcome.IsUnbuildable]
  | response status body =>
    have hge : status ≥ 500 := Nat.not_lt.mp hfinal
    have hnot : ¬ (400 ≤ status ∧ status < 500) := by omega
    simp [receive, Outcome.IsUnbuildable, hge, hnot]

theorem receive_response (status : ℕ) (body : Bytes) :
    (c.receive (.response status body)).2.lastStatus = status ∧
      (c.receive (.response status body)).2.lastBody = body := by
  simp only [receive]
  split_ifs <;> exact ⟨rfl, rfl⟩

end Captured

/-! ## Faithful reports -/

/-- Attempt `k` of at most `n` is the last one: none before it ends the loop, and it ends the loop,
or the context is done, or there is no other. -/
structure IsLast (outcomes : ℕ → Outcome) (done : ℕ → Option String) (n k : ℕ) : Prop where
  lt : k < n
  before : ∀ j < k, ¬ (outcomes j).Final ∧ done j = none
  stops : (outcomes k).Final ∨ done k ≠ none ∨ k + 1 = n

theorem IsLast.unique {outcomes : ℕ → Outcome} {done : ℕ → Option String} {n j k : ℕ}
    (hj : IsLast outcomes done n j) (hk : IsLast outcomes done n k) : j = k := by
  -- The reason why the earlier one is the last contradicts what holds before the later one.
  have hle : ∀ {i l : ℕ}, IsLast outcomes done n i → IsLast outcomes done n l → l ≤ i := by
    intro i l hi hl
    by_contra hlt
    have hbefore := hl.before i (by omega)
    rcases hi.stops with hfinal | hdone | hn
    · exact hbefore.1 hfinal
    · exact hdone hbefore.2
    · have := hl.lt
      omega
  exact Nat.le_antisymm (hle hk hj) (hle hj hk)

/-- After `made` attempts the error is nil just if the last attempt received a response that is not
to be retried, and then that response is returned. -/
structure Faithful (outcomes : ℕ → Outcome) (made : ℕ) (r : Returned) : Prop where
  err_iff : r.err = none ↔ ∃ k status body,
    k + 1 = made ∧ outcomes k = .response status body ∧ isRetryable status = false
  response : ∀ k status body, k + 1 = made → outcomes k = .response status body →
    isRetryable status = false → r.status = status ∧ r.body = body

/-- The last attempt is not answered 429, and some attempt can be built. -/
def Reportable (outcomes : ℕ → Outcome) (done : ℕ → Option String) (n : ℕ) : Prop :=
  ∃ k, IsLast outcomes done n k ∧ (∀ body, outcomes k ≠ .response 429 body) ∧
    ∃ j ≤ k, ¬ (outcomes j).IsUnbuildable

theorem reportable_iff {outcomes : ℕ → Outcome} {done : ℕ → Option String} {n k : ℕ}
    (hk : IsLast outcomes done n k) :
    Reportable outcomes done n ↔ (∀ body, outcomes k ≠ .response 429 body) ∧
      ∃ j ≤ k, ¬ (outcomes j).IsUnbuildable := by
  constructor
  · rintro ⟨k', hk', h⟩
    obtain rfl := hk'.unique hk
    exact h
  · intro h
    exact ⟨k, hk, h⟩

theorem isRetryable_eq_false_iff (status : ℕ) :
    isRetryable status = false ↔ status < 500 ∧ status ≠ 429 := by
  simp [isRetryable]

section Closure

-- A closure that handles its captured variables as `receive` says, whatever else its state is.
variable {σ : Type*} {fn : σ → Except String Unit × σ} {captured : σ → Captured}
  {outcome : σ → Outcome}
  (hfn : ∀ s, ((fn s).1, captured (fn s).2) = (captured s).receive (outcome s))

include hfn

theorem closure_ok_iff (s : σ) : (fn s).1 = .ok () ↔ (outcome s).Final := by
  have h := congrArg Prod.fst (hfn s)
  dsimp only at h
  rw [h]
  exact (captured s).receive_ok_iff _

theorem isLast_of_callsOfDo {done : ℕ → Option String} {maxAttempts : ℤ} {s : σ} {k : ℕ}
    (hk : k + 1 = callsOfDo fn done maxAttempts s) :
    IsLast (fun k => outcome (afterAttempts fn s k)) done (allowed maxAttempts) k := by
  have hran := ran_retry fn done maxAttempts s
  rw [← hk] at hran
  have hok := fun j => closure_ok_iff hfn (afterAttempts fn s j)
  refine ⟨hran.le, ?_, ?_⟩
  · intro j hj
    refine ⟨?_, by simpa using hran.alive j (by omega)⟩
    rw [← hok j]
    exact (failsAt_iff_ne_ok fn s j).mp (hran.fails j (by omega))
  · rcases Nat.lt_or_eq_of_le hran.le with hlt | heq
    · rcases hran.stops k rfl hlt with hsuccess | hdone
      · exact .inl ((hok k).mp hsuccess)
      · exact .inr (.inl (by simpa using hdone))
    · exact .inr (.inr heq)

theorem lastErr_eq_none_iff {s : σ} (hs : (captured s).lastErr = none) {m : ℕ}
    (hfinal : ∀ j < m, ¬ (outcome (afterAttempts fn s j)).Final) :
    (captured (afterAttempts fn s m)).lastErr = none ↔
      ∀ j < m, (outcome (afterAttempts fn s j)).IsUnbuildable := by
  induction m with
  | zero => simp [afterAttempts, hs]
  | succ m ih =>
    have hstep : captured (afterAttempts fn s (m + 1)) =
        ((captured (afterAttempts fn s m)).receive (outcome (afterAttempts fn s m))).2 :=
      congrArg Prod.snd (hfn (afterAttempts fn s m))
    rw [hstep, Captured.receive_lastErr_of_not_final _ (hfinal m (Nat.lt_succ_self m)),
      ih fun j hj => hfinal j (Nat.lt_succ_of_lt hj), Nat.forall_lt_succ_right, and_comm]

theorem faithful_of_final {s : σ} {k status : ℕ} {body : Bytes}
    (hk : outcome (afterAttempts fn s k) = .response status body) (hlt : status < 500) :
    Faithful (fun k => outcome (afterAttempts fn s k)) (k + 1)
      ((captured (afterAttempts fn s (k + 1))).returned (.ok ())) ↔ status ≠ 429 := by
  have hstep : captured (afterAttempts fn s (k + 1)) =
      ((captured (afterAttempts fn s k)).receive (.response status body)).2 := by
    rw [← hk]
    exact congrArg Prod.snd (hfn (afterAttempts fn s k))
  have hleft := (captured (afterAttempts fn s k)).receive_response status body
  rw [← hstep] at hleft
  constructor
  · intro h
    obtain ⟨k', status', body', hk', hresponse, hretry⟩ := h.err_iff.mp rfl
    obtain rfl : k' = k := by omega
    rw [hk, Outcome.response.injEq] at hresponse
    rw [hresponse.1]
    exact ((isRetryable_eq_false_iff _).mp hretry).2
  · intro hne
    refine ⟨⟨fun _ => ⟨k, status, body, rfl, hk, ?_⟩, fun _ => rfl⟩, ?_⟩
    · exact (isRetryable_eq_false_iff _).mpr ⟨hlt, hne⟩
    · intro k' status' body' hk' hresponse _
      obtain rfl : k' = k := by omega
      rw [hk, Outcome.response.injEq] at hresponse
      rw [← hresponse.1, ← hresponse.2]
      exact hleft

omit hfn in
theorem faithful_of_not_final {outcomes : ℕ → Outcome} {k : ℕ} (hfinal : ¬ (outcomes k).Final)
    (r : Returned) : Faithful outcomes (k + 1) r ↔ r.err ≠ none := by
  have hno : ∀ k' status body, k' + 1 = k + 1 → outcomes k' = .response status body →
      isRetryable status = false → False := by
    intro k' status body hk' hresponse hretry
    obtain rfl : k' = k := by omega
    rw [hresponse] at hfinal
    exact hfinal ((isRetryable_eq_false_iff status).mp hretry).1
  constructor
  · intro h hnil
    obtain ⟨k', status, body, hk', hresponse, hretry⟩ := h.err_iff.mp hnil
    exact hno k' status body hk' hresponse hretry
  · intro hne
    refine ⟨⟨fun hnil => absurd hnil hne, ?_⟩, ?_⟩
    · rintro ⟨k', status, body, hk', hresponse, hretry⟩
      exact absurd (hno k' status body hk' hresponse hretry) id
    · intro k' status body hk' hresponse hretry
      exact absurd (hno k' status body hk' hresponse hretry) id

omit hfn in
/-- Without an attempt there is no error to return. -/
theorem not_faithful_of_no_call {s : σ} (hs : (captured s).lastErr = none)
    (result : Except String Unit) :
    ¬ Faithful (fun k => outcome (afterAttempts fn s k)) 0 ((captured s).returned result) := by
  intro h
  have hnil : ((captured s).returned result).err = none := by
    cases result with
    | ok => rfl
    | error err => exact hs
  obtain ⟨k, -, -, hk, -⟩ := h.err_iff.mp hnil
  exact absurd hk (Nat.succ_ne_zero k)

theorem faithful_iff_of_last {done : ℕ → Option String} {n k : ℕ} {s : σ}
    (hs : (captured s).lastErr = none)
    (hk : IsLast (fun k => outcome (afterAttempts fn s k)) done n k) {result : Except String Unit}
    (hresult : result = .ok () ↔ (outcome (afterAttempts fn s k)).Final) :
    Faithful (fun k => outcome (afterAttempts fn s k)) (k + 1)
      ((captured (afterAttempts fn s (k + 1))).returned result) ↔
    (∀ body, outcome (afterAttempts fn s k) ≠ .response 429 body) ∧
      ∃ j ≤ k, ¬ (outcome (afterAttempts fn s j)).IsUnbuildable := by
  by_cases hfinal : (outcome (afterAttempts fn s k)).Final
  · obtain ⟨status, body, ho, hlt⟩ := hfinal.exists_response
    rw [hresult.mpr hfinal, faithful_of_final hfn ho hlt, ho]
    constructor
    · intro hne
      refine ⟨by simpa using hne, k, Nat.le_refl k, ?_⟩
      rw [ho]
      exact id
    · rintro ⟨hne, -⟩ rfl
      exact hne body rfl
  · have hnil : ((captured (afterAttempts fn s (k + 1))).returned result).err =
        (captured (afterAttempts fn s (k + 1))).lastErr := by
      cases result with
      | ok => exact absurd (hresult.mp rfl) hfinal
      | error err => rfl
    have hbefore : ∀ j < k + 1, ¬ (outcome (afterAttempts fn s j)).Final := by
      intro j hj
      rcases Nat.lt_succ_iff_lt_or_eq.mp hj with hlt | rfl
      · exact (hk.before j hlt).1
      · exact hfinal
    rw [faithful_of_not_final hfinal, hnil, Ne, lastErr_eq_none_iff hfn hs hbefore,
      and_iff_right (Outcome.ne_of_not_final hfinal)]
    simp only [not_forall, exists_prop, Nat.lt_succ_iff]

theorem returned_faithful_iff (done : ℕ → Option String) (maxAttempts : ℤ) {s : σ}
    (hs : (captured s).lastErr = none) :
    Faithful (fun k => outcome (afterAttempts fn s k)) (callsOfDo fn done maxAttempts s)
      ((captured (retry fn done maxAttempts s).2).returned (retry fn done maxAttempts s).1) ↔
    Reportable (fun k => outcome (afterAttempts fn s k)) done (allowed maxAttempts) := by
  have hran := ran_retry fn done maxAttempts s
  rw [hran.state]
  rcases hm : callsOfDo fn done maxAttempts s with _ | k
  · rw [hm] at hran
    refine iff_of_false (not_faithful_of_no_call hs _) ?_
    rintro ⟨k, hk, -⟩
    exact absurd (hran.pos (Nat.zero_lt_of_lt hk.lt)) (Nat.lt_irrefl 0)
  · have hk := isLast_of_callsOfDo hfn hm.symm
    rw [hm] at hran
    have hresult : (retry fn done maxAttempts s).1 = .ok () ↔
        (outcome (afterAttempts fn s k)).Final := by
      rw [hran.ok_iff, ← closure_ok_iff hfn]
      exact ⟨fun ⟨n, hn, h⟩ => Nat.succ_injective hn ▸ h, fun h => ⟨k, rfl, h⟩⟩
    rw [faithful_iff_of_last hfn hs hk hresult, reportable_iff hk]

end Closure

theorem afterAttempts_callOnce (outcomes : ℕ → Outcome) (k : ℕ) :
    (afterAttempts (callOnce outcomes) Calling.initial k).attempt = k := by
  induction k with
  | zero => rfl
  | succ k ih => exact congrArg (· + 1) ih

def attemptsMade (outcomes : ℕ → Outcome) (done : ℕ → Option String) (cfg : RetryConfig) : ℕ :=
  callsOfDo (callOnce outcomes) done cfg.maxAttempts Calling.initial

theorem callWithRetry_faithful_iff (outcomes : ℕ → Outcome) (done : ℕ → Option String)
    (cfg : RetryConfig) :
    Faithful outcomes (attemptsMade outcomes done cfg) (callWithRetry outcomes done cfg) ↔
      Reportable outcomes done (allowed cfg.maxAttempts) := by
  have h := @returned_faithful_iff _ (callOnce outcomes) Calling.captured
    (fun s => outcomes s.attempt) (fun _ => rfl) done cfg.maxAttempts Calling.initial rfl
  simp only [afterAttempts_callOnce] at h
  exact h

theorem exists_isLast (outcomes : ℕ → Outcome) (done : ℕ → Option String) {cfg : RetryConfig}
    (hpos : 0 < allowed cfg.maxAttempts) :
    ∃ k, attemptsMade outcomes done cfg = k + 1 ∧
      IsLast outcomes done (allowed cfg.maxAttempts) k := by
  have hran := ran_retry (callOnce outcomes) done cfg.maxAttempts Calling.initial
  obtain ⟨k, hk⟩ := Nat.exists_eq_succ_of_ne_zero (Nat.pos_iff_ne_zero.mp (hran.pos hpos))
  have hlast := @isLast_of_callsOfDo _ (callOnce outcomes) Calling.captured
    (fun s => outcomes s.attempt) (fun _ => rfl) done cfg.maxAttempts Calling.initial k hk.symm
  simp only [afterAttempts_callOnce] at hlast
  exact ⟨k, hk, hlast⟩

theorem callWithRetry_of_isLast {outcomes : ℕ → Outcome} {done : ℕ → Option String}
    {cfg : RetryConfig} {k status : ℕ} {body : Bytes}
    (hk : IsLast outcomes done (allowed cfg.maxAttempts) k)
    (ho : outcomes k = .response status body) (hlt : status < 500) :
    callWithRetry outcomes done cfg = ⟨status, body, none⟩ := by
  have hran := ran_retry (callOnce outcomes) done cfg.maxAttempts Calling.initial
  obtain ⟨k', hmade, hlast⟩ := exists_isLast outcomes done (Nat.zero_lt_of_lt hk.lt)
  obtain rfl := hlast.unique hk
  unfold attemptsMade at hmade
  rw [hmade] at hran
  have hstep : (callOnce outcomes (afterAttempts (callOnce outcomes) Calling.initial k')) =
      (.ok (), ⟨k' + 1, ((afterAttempts (callOnce outcomes) Calling.initial k').captured.receive
        (.response status body)).2⟩) := by
    have hok := ((afterAttempts (callOnce outcomes) Calling.initial k').captured.receive_ok_iff
      (.response status body)).mpr hlt
    simp only [callOnce, afterAttempts_callOnce, ho]
    rw [← hok]
  have hsuccess := hran.ok_iff.mpr ⟨k', rfl, congrArg Prod.fst hstep⟩
  have hstate : (retry (callOnce outcomes) done cfg.maxAttempts Calling.initial).2.captured =
      ((afterAttempts (callOnce outcomes) Calling.initial k').captured.receive
        (.response status body)).2 := by
    rw [hran.state]
    exact congrArg (fun r => r.2.captured) hstep
  have hleft := (afterAttempts (callOnce outcomes) Calling.initial k').captured.receive_response
    status body
  unfold callWithRetry
  rcases hresult : retry (callOnce outcomes) done cfg.maxAttempts Calling.initial with ⟨result, s⟩
  rw [hresult] at hsuccess hstate
  dsimp only at hsuccess hstate ⊢
  rw [hsuccess, hstate, Captured.returned, hleft.1, hleft.2]

theorem callWithRetry_err_of_not_final {outcomes : ℕ → Outcome} {done : ℕ → Option String}
    {cfg : RetryConfig} (hpos : 0 < allowed cfg.maxAttempts)
    (hno : ∀ k, ¬ (outcomes k).Final ∧ ¬ (outcomes k).IsUnbuildable) :
    (callWithRetry outcomes done cfg).err ≠ none := by
  obtain ⟨k, hmade, hlast⟩ := exists_isLast outcomes done hpos
  have hfaithful := (callWithRetry_faithful_iff outcomes done cfg).mpr
    ⟨k, hlast, Outcome.ne_of_not_final (hno k).1, k, Nat.le_refl k, (hno k).2⟩
  rw [hmade, faithful_of_not_final (hno k).1] at hfaithful
  exact hfaithful

end NssAAF.HttpClient
