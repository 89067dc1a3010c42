import NssAAF.HttpClient.Proxy
import NssAAF.Resilience.Requests
import NssAAF.Aaa.Forward

/-!
# The two clients of the AAA gateway

`NativeAAAClient.ForwardEAP` of `internal/httpclient/native_aaa.go` posts to the AAA gateway in a
retry loop behind a circuit breaker, `istioAAAClient.ForwardEAP` of
`internal/httpclient/istio_aaa.go` posts once. The native client reads the body of every answer
that is not retried as a response, whatever its status, and it wants the body to be one JSON
document. The other client accepts status 200 only, and reads the first JSON value of the body.

`aaa_clients_agree_iff` says for which answers they agree.
-/

namespace NssAAF.HttpClient

open Resilience Aaa

/-- The JSON of the messages between Biz and the AAA gateway. `unmarshal` reads a document and
`decode` the first value of a stream: a document is such a value. -/
structure AaaJson where
  marshal : AaaForwardRequest → Except String Bytes
  unmarshal : Bytes → Except String AaaForwardResponse
  decode : Bytes → Except String AaaForwardResponse
  decode_of_unmarshal : ∀ b r, unmarshal b = .ok r → decode b = .ok r

/-- What is around a call of the native client: what `Allow` of the breaker answers, what becomes of
each post and the error of the context after it. -/
structure NativeCall where
  admitted : Bool
  exchange : ℕ → Bytes → Exchange
  done : ℕ → Option String

/-- What `doPost` returns. -/
def doPost : Exchange → Except String (Bytes × ℕ)
  | .unbuildable err | .unanswered err | .unreadable err => .error err
  | .answered status body => .ok (body, status)

section Native

variable (json : AaaJson) (aaaGatewayURL : String) (cfg : RetryConfig)

/-- `NativeAAAClient.ForwardEAP`. Without an attempt there is no error, and no response either. -/
def nativeForwardEAP (env : NativeCall) (req : AaaForwardRequest) :
    Except String (Option AaaForwardResponse) :=
  match json.marshal req with
  | .error err => .error ("failed to marshal request: " ++ err)
  | .ok body =>
    if env.admitted then
      match retry (forwardAttempt fun n => doPost (env.exchange n body)) env.done cfg.maxAttempts
        ⟨0, [], none, 0⟩ with
      | (.error _, s) =>
        match s.lastErr with
        | some err => .error err
        | none => .ok none
      | (.ok (), s) =>
        match json.unmarshal s.lastBody with
        | .error err => .error ("failed to unmarshal response: " ++ err)
        | .ok resp => .ok (some resp)
    else .error ("circuit breaker open for " ++ aaaGatewayURL)

def istioForwardEAP (deadlineExceeded : Bool) (req : AaaForwardRequest)
    (exchange : Bytes → Outcome) : Except String AaaForwardResponse :=
  match json.marshal req with
  | .error err => .error ("failed to marshal request: " ++ err)
  | .ok body =>
    match exchange body with
    | .unbuildable err => .error ("failed to create request: " ++ err)
    | .failed err =>
      if deadlineExceeded then .error "context deadline exceeded"
      else .error ("aaa gateway unavailable: " ++ err)
    | .response status body =>
      if status ≠ 200 then .error ("aaa gateway returned " ++ toString status)
      else
        match json.decode body with
        | .error err => .error ("failed to decode response: " ++ err)
        | .ok resp => .ok resp

end Native

/-! ## The last attempt -/

section Last

variable (posts : ℕ → Except String (Bytes × ℕ))

theorem afterAttempts_posted (k : ℕ) :
    (afterAttempts (forwardAttempt posts) ⟨0, [], none, 0⟩ k).posted = k := by
  induction k with
  | zero => rfl
  | succ k ih =>
    have hstep : ∀ s, (forwardAttempt posts s).2.posted = s.posted + 1 := by
      intro s
      unfold forwardAttempt
      rcases posts s.posted with err | ⟨respBody, status⟩
      · rfl
      · dsimp only
        split_ifs <;> rfl
    exact (hstep _).trans (congrArg (· + 1) ih)

theorem forwardAttempt_answered {s : Forwarding} {body : Bytes} {status : ℕ}
    (h : posts s.posted = .ok (body, status)) :
    ((forwardAttempt posts s).1 = .ok () ↔ status < 500) ∧
      (forwardAttempt posts s).2.lastBody = body ∧
      (500 ≤ status → (forwardAttempt posts s).2.lastErr ≠ none) := by
  unfold forwardAttempt
  rw [h]
  dsimp only
  by_cases h4xx : 400 ≤ status ∧ status < 500
  · rw [if_pos h4xx]
    exact ⟨by simp [h4xx.2], rfl, fun hge => by omega⟩
  · rw [if_neg h4xx]
    by_cases hge : 500 ≤ status
    · rw [if_pos ((isRetryable_iff h4xx).mpr hge)]
      exact ⟨by simp [hge], rfl, fun _ => by simp⟩
    · rw [if_neg (mt (isRetryable_iff h4xx).mp hge)]
      exact ⟨by simp [Nat.not_le.mp hge], rfl, fun h => absurd h hge⟩

theorem retry_of_answered {done : ℕ → Option String} {maxAttempts : ℤ} {k status : ℕ}
    {body : Bytes}
    (hlast : callsOfDo (forwardAttempt posts) done maxAttempts ⟨0, [], none, 0⟩ = k + 1)
    (hanswer : posts k = .ok (body, status)) :
    ((retry (forwardAttempt posts) done maxAttempts ⟨0, [], none, 0⟩).1 = .ok () ↔
        status < 500) ∧
      (retry (forwardAttempt posts) done maxAttempts ⟨0, [], none, 0⟩).2.lastBody = body ∧
      (500 ≤ status →
        (retry (forwardAttempt posts) done maxAttempts ⟨0, [], none, 0⟩).2.lastErr ≠ none) := by
  have hran := ran_retry (forwardAttempt posts) done maxAttempts ⟨0, [], none, 0⟩
  rw [hlast] at hran
  have hposted : posts (afterAttempts (forwardAttempt posts) ⟨0, [], none, 0⟩ k).posted =
      .ok (body, status) := by
    rw [afterAttempts_posted, hanswer]
  obtain ⟨hok, hleft⟩ := forwardAttempt_answered posts hposted
  rw [hran.state]
  refine ⟨?_, hleft⟩
  rw [hran.ok_iff, ← hok]
  exact ⟨fun ⟨n, hn, h⟩ => Nat.succ_injective hn ▸ h, fun h => ⟨k, rfl, h⟩⟩

end Last

section Agreement

variable {json : AaaJson} {aaaGatewayURL : String} {cfg : RetryConfig} {env : NativeCall}
  {req : AaaForwardRequest} {body : Bytes}

/-- The attempts of the native client for the body of a request. -/
def nativeAttempts (cfg : RetryConfig) (env : NativeCall) (body : Bytes) : ℕ :=
  callsOfDo (forwardAttempt fun n => doPost (env.exchange n body)) env.done cfg.maxAttempts
    ⟨0, [], none, 0⟩

theorem nativeForwardEAP_of_answered (hreq : json.marshal req = .ok body)
    (hadmitted : env.admitted = true) {k status : ℕ} {answer : Bytes}
    (hlast : nativeAttempts cfg env body = k + 1)
    (hanswer : env.exchange k body = .answered status answer) (resp : Option AaaForwardResponse) :
    nativeForwardEAP json aaaGatewayURL cfg env req = .ok resp ↔
      status < 500 ∧ ∃ r, resp = some r ∧ json.unmarshal answer = .ok r := by
  obtain ⟨hok, hbody, herr⟩ := retry_of_answered (fun n => doPost (env.exchange n body)) hlast
    (by rw [hanswer]; rfl)
  unfold nativeForwardEAP
  rw [hreq]
  dsimp only
  rw [if_pos hadmitted]
  rcases hretry : retry (forwardAttempt fun n => doPost (env.exchange n body)) env.done
    cfg.maxAttempts ⟨0, [], none, 0⟩ with ⟨err | _, s⟩
  · -- The last status is at least 500, and the loop has left an error.
    rw [hretry] at hok herr
    have hge : ¬ status < 500 := fun hlt => nomatch hok.mpr hlt
    obtain ⟨err, hs⟩ := Option.ne_none_iff_exists'.mp (herr (Nat.not_lt.mp hge))
    dsimp only at hs ⊢
    simp [hs, hge]
  · rw [hretry] at hok hbody
    dsimp only at hbody
    have hlt : status < 500 := hok.mp rfl
    dsimp only
    rw [hbody]
    rcases json.unmarshal answer with err | r
    · simp
    · simp [hlt, eq_comm]

theorem istioForwardEAP_of_answered (hreq : json.marshal req = .ok body) (deadlineExceeded : Bool)
    (status : ℕ) (answer : Bytes) (r : AaaForwardResponse) :
    istioForwardEAP json deadlineExceeded req (fun _ => .response status answer) = .ok r ↔
      status = 200 ∧ json.decode answer = .ok r := by
  unfold istioForwardEAP
  rw [hreq]
  dsimp only
  by_cases hstatus : status = 200
  · rw [if_neg (not_not.mpr hstatus)]
    rcases json.decode answer with err | r'
    · simp
    · simp [hstatus]
  · rw [if_pos hstatus]
    simp [hstatus]

end Agreement

/-- The native client returns a response without error just if the other client would for this
answer, and then the same one. -/
def ClientsAgree (json : AaaJson) (aaaGatewayURL : String) (cfg : RetryConfig) (env : NativeCall)
    (req : AaaForwardRequest) (deadlineExceeded : Bool) (status : ℕ) (answer : Bytes) : Prop :=
  ∀ resp, nativeForwardEAP json aaaGatewayURL cfg env req = .ok resp ↔
    ∃ r, resp = some r ∧
      istioForwardEAP json deadlineExceeded req (fun _ => .response status answer) = .ok r

/-- **The two clients.** They agree on the answer to the last attempt exactly if its status is at
least 500, or its status is 200 and its body is not followed by other text, or its status is another
one and its body is no response. -/
theorem aaa_clients_agree_iff (json : AaaJson) (aaaGatewayURL : String) (cfg : RetryConfig)
    (env : NativeCall) (req : AaaForwardRequest) (deadlineExceeded : Bool) (body : Bytes)
    (hreq : json.marshal req = .ok body) (hadmitted : env.admitted = true) (k status : ℕ)
    (answer : Bytes) (hlast : nativeAttempts cfg env body = k + 1)
    (hanswer : env.exchange k body = .answered status answer) :
    ClientsAgree json aaaGatewayURL cfg env req deadlineExceeded status answer ↔
      500 ≤ status ∨
      (status = 200 ∧ ∀ r, json.decode answer = .ok r → ∃ r', json.unmarshal answer = .ok r') ∨
      (status ≠ 200 ∧ ∀ r, json.unmarshal answer ≠ .ok r) := by
  unfold ClientsAgree
  simp only [nativeForwardEAP_of_answered hreq hadmitted hlast hanswer,
    istioForwardEAP_of_answered hreq]
  constructor
  · intro hagree
    by_cases hlt : status < 500
    · right
      by_cases hstatus : status = 200
      · refine .inl ⟨hstatus, fun r hr => ?_⟩
        obtain ⟨-, r', -, hr'⟩ := (hagree (some r)).mpr ⟨r, rfl, hstatus, hr⟩
        exact ⟨r', hr'⟩
      · refine .inr ⟨hstatus, fun r hr => ?_⟩
        obtain ⟨-, -, h200, -⟩ := (hagree (some r)).mp ⟨hlt, r, rfl, hr⟩
        exact hstatus h200
    · exact .inl (Nat.not_lt.mp hlt)
  · intro hcond resp
    constructor
    · rintro ⟨hlt, r, rfl, hr⟩
      rcases hcond with hge | ⟨hstatus, -⟩ | ⟨-, hno⟩
      · exact absurd hlt (Nat.not_lt.mpr hge)
      · exact ⟨r, rfl, hstatus, json.decode_of_unmarshal answer r hr⟩
      · exact absurd hr (hno r)
    · rintro ⟨r, rfl, hstatus, hr⟩
      rcases hcond with hge | ⟨-, hwhole⟩ | ⟨hne, -⟩
      · omega
      · obtain ⟨r', hr'⟩ := hwhole r hr
        -- A document is the first value of its text, so the two readings are one.
        have hsame := json.decode_of_unmarshal answer r' hr'
        rw [hr, Except.ok.injEq] at hsame
        exact ⟨by omega, r, rfl, hsame ▸ hr'⟩
      · exact absurd hstatus hne

namespace Sample

def response : AaaForwardResponse := ⟨"", "", "", none⟩

def readObject (b : Bytes) : Except String AaaForwardResponse :=
  if b = [123, 125] then .ok response else .error "unexpected end of JSON input"

def readFirst (b : Bytes) : Except String AaaForwardResponse :=
  if b.take 2 = [123, 125] then .ok response else .error "EOF"

theorem readFirst_of_readObject (b : Bytes) (r : AaaForwardResponse)
    (h : readObject b = .ok r) : readFirst b = .ok r := by
  unfold readObject at h
  split_ifs at h with hb
  rw [hb, ← h]
  rfl

def member (name value : String) : String := "\"" ++ name ++ "\":\"" ++ value ++ "\""

/-- The document of a RADIUS request whose texts need no escape. -/
def document (req : AaaForwardRequest) : Bytes :=
  Bytes.ofString ("\x7b" ++ ",".intercalate
    [member "v" req.version, member "sessionId" req.sessionID, member "authCtxId" req.authCtxID,
      member "gpsi" req.gpsi, member "transportType" "RADIUS", "\"sst\":" ++ toString req.sst.toNat,
      member "sd" req.sd, member "direction" "CLIENT_INITIATED",
      member "payload" (Base64.encodeToString req.payload)] ++ "\x7d")

/-- Of the responses only the empty object is read. -/
def json : AaaJson :=
  ⟨fun req => .ok (document req), readObject, readFirst, readFirst_of_readObject⟩

def forwardRequest : AaaForwardRequest :=
  ⟨"1.0", "nssAAF;1;auth1", "auth1", "msisdn-8613800138000", .radius, 1, "FFFFFF", [2, 1, 0, 4]⟩

/-- The gateway gives every post the same answer. -/
def answering (status : ℕ) : NativeCall :=
  ⟨true, fun _ _ => .answered status [123, 125], fun _ => none⟩

end Sample

open Sample in
/-- The clients agree on a response with status 200. -/
theorem aaa_clients_agree_ok :
    nativeAttempts defaultRetryConfig (answering 200) (document forwardRequest) = 1 ∧
      ClientsAgree json "http://aaa-gw" defaultRetryConfig (answering 200) forwardRequest false 200
        [123, 125] :=
  ⟨rfl, (aaa_clients_agree_iff json "http://aaa-gw" defaultRetryConfig (answering 200)
    forwardRequest false (document forwardRequest) rfl rfl 0 200 [123, 125] rfl rfl).mpr
    (.inr (.inl ⟨rfl, fun _ _ => ⟨response, rfl⟩⟩))⟩

open Sample in
/-- The native client takes a 403 with a JSON body for a successful answer. -/
theorem forbidden_taken_as_response :
    nativeForwardEAP json "http://aaa-gw" defaultRetryConfig (answering 403) forwardRequest =
      .ok (some response) ∧
    istioForwardEAP json false forwardRequest (fun _ => .response 403 [123, 125]) =
      .error "aaa gateway returned 403" ∧
    ¬ ClientsAgree json "http://aaa-gw" defaultRetryConfig (answering 403) forwardRequest false 403
      [123, 125] := by
  have hnative : nativeForwardEAP json "http://aaa-gw" defaultRetryConfig (answering 403)
      forwardRequest = .ok (some response) := by rfl
  have histio : istioForwardEAP json false forwardRequest (fun _ => .response 403 [123, 125]) =
      .error "aaa gateway returned 403" := by rfl
  refine ⟨hnative, histio, ?_⟩
  intro hagree
  obtain ⟨r, -, hr⟩ := (hagree (some response)).mp hnative
  rw [histio] at hr
  exact nomatch hr

end NssAAF.HttpClient
