import NssAAF.Aaa.CoAPackets
import NssAAF.Aaa.Registry
import NssAAF.Biz.AaaSession
import NssAAF.Biz.Revocation

/-!
# The way of a server-initiated message

A message that the AAA server sends on its own is registered by the gateway, posted to Biz, handled
there by the coordinator, and answered by the gateway when its `Wait` returns. This module puts the
parts together: `forwardToBiz` and `HandleServerInitiatedResponse` of
`internal/aaa/gateway/gateway.go`, the answers of `diameter_forward.go` and `radius_handler.go`, the
endpoint of `cmd/biz/main.go`, and the routes of `cmd/aaa-gateway/main.go`.

* `success_agrees_iff`: for which results both transports agree on what success is.
* `biz_result_never_carried`: what Biz answers does not reach the AAA server.
-/

namespace NssAAF.Aaa

open NssAAF.Radius NssAAF.Biz Transducer

/-! ## Messages and answers -/

inductive ServerMessageKind
  | asr
  | rar
  | str
  | coa
  | dm
  deriving DecidableEq

def ServerMessageKind.bizType : ServerMessageKind → Biz.MessageType
  | .asr => .asr
  | .rar => .rar
  | .str => .other "STR"
  | .coa => .coa
  | .dm => .other "DM"

/-- A message of the AAA server, which is taken to be of the session "unknown" if a Diameter message
names none. -/
structure ServerMessage where
  kind : ServerMessageKind
  sessionID : String
  raw : Bytes
  deriving DecidableEq

/-- The Result-Code of a Diameter answer, and the AVP with its payload if there is one. -/
structure DiameterAnswer where
  resultCode : UInt32
  payload : Option (ℕ × Bytes)
  deriving DecidableEq

def avpExperimentalResult : ℕ := 297
def avpCodeEAPPayload : ℕ := 209

/-- The answer with the result of a response, and with its payload in the given AVP. -/
def sendWithResult (payloadAVP : ℕ) (resp : ServerInitiatedResponse) : DiameterAnswer :=
  ⟨resp.resultCode, resp.payload.map fun payload => (payloadAVP, payload)⟩

def sendASAWithResult : ServerInitiatedResponse → DiameterAnswer :=
  sendWithResult avpExperimentalResult

def sendRAAWithResult : ServerInitiatedResponse → DiameterAnswer := sendWithResult avpCodeEAPPayload

def sendSTAWithResult : ServerInitiatedResponse → DiameterAnswer := sendWithResult avpCodeEAPPayload

inductive ServerAnswer
  | diameter (answer : DiameterAnswer)
  | radius (answer : Answer)
  deriving DecidableEq

/-- The answer to a message with a response. -/
def ServerMessage.answer (secret : Bytes) (fuel : ℕ) (m : ServerMessage)
    (resp : ServerInitiatedResponse) : ServerAnswer :=
  match m.kind with
  | .asr => .diameter (sendASAWithResult resp)
  | .rar => .diameter (sendRAAWithResult resp)
  | .str => .diameter (sendSTAWithResult resp)
  | .coa | .dm => .radius (sendCoAResponse fuel secret m.raw resp.resultCode)

/-! ## Biz -/

/-- The body of an answer of Biz. The coordinator does not set the type, the result code and the
error cause. -/
structure ServerInitiatedBody extends AaaServerInitiatedResponse where
  messageType : String
  resultCode : UInt32
  errorCause : String
  deriving DecidableEq

def ServerInitiatedBody.ofResponse (resp : AaaServerInitiatedResponse) : ServerInitiatedBody :=
  { resp with messageType := "", resultCode := 0, errorCause := "" }

/-- A pod of Biz, with what its environment chooses for one message. -/
structure BizPod where
  coordinator : Coordinator
  enc : Storage.Encryptor
  reading : Option String
  changing : Option String
  writing : Storage.Writing
  table : Storage.NssaaTable

def statusOK : ℕ := 200
def statusBadGateway : ℕ := 502

/-- The endpoint of Biz: the status, and the body of a success. -/
def BizPod.handleServerInitiated (pod : BizPod) (req : AaaServerInitiatedRequest) :
    ℕ × Option ServerInitiatedBody :=
  match (pod.coordinator.handle req pod.enc pod.reading pod.changing pod.writing pod.table).1 with
  | .error _ => (statusBadGateway, none)
  | .ok result => (statusOK, some (.ofResponse result.response))

/-- What the registry is given for a body that is delivered. An empty payload is nil. -/
def ServerInitiatedBody.delivered (body : ServerInitiatedBody) : ServerInitiatedResponse :=
  ⟨body.authCtxID, body.resultCode, if body.payload = [] then none else some body.payload,
    body.errorCause⟩

/-- The coordinator can produce the response that is delivered. -/
def Produced (resp : ServerInitiatedResponse) : Prop :=
  ∃ (pod : BizPod) (req : AaaServerInitiatedRequest) (body : ServerInitiatedBody),
    pod.handleServerInitiated req = (statusOK, some body) ∧ body.delivered = resp

theorem resultCode_of_handled {pod : BizPod} {req : AaaServerInitiatedRequest} {status : ℕ}
    {body : ServerInitiatedBody} (h : pod.handleServerInitiated req = (status, some body)) :
    body.resultCode = 0 := by
  unfold BizPod.handleServerInitiated at h
  split at h
  · cases h
  · cases h
    rfl

/-! ## Success on both transports -/

section Success

variable {secret raw pkt : Bytes} {fuel : ℕ} {resultCode : UInt32}

theorem getD_zero_copyAt (dst : Bytes) (i : ℕ) (src : Bytes) :
    (dst.copyAt (i + 1) src).getD 0 0 = dst.getD 0 0 := by
  cases dst with
  | nil => simp [Bytes.copyAt, Bytes.copy]
  | cons a dst => simp [Bytes.copyAt]

theorem getD_zero_of_replaced {reqRaw respPkt mac : Bytes}
    (h : replaceMessageAuthenticator fuel reqRaw respPkt mac = .sent pkt) :
    pkt.getD 0 0 = respPkt.getD 0 0 := by
  unfold replaceMessageAuthenticator at h
  split at h
  · cases h
  · cases h
    rfl
  · cases h
  · split_ifs at h
    cases h
    exact getD_zero_copyAt ..

theorem Answer.getD_zero_of_authenticated {reqAuth : Bytes} {answer : Answer}
    (h : answer.authenticated secret reqAuth = .sent pkt) :
    ∃ pkt', answer = .sent pkt' ∧ pkt.getD 0 0 = pkt'.getD 0 0 := by
  cases answer with
  | sent pkt' =>
    refine ⟨pkt', rfl, ?_⟩
    unfold authenticated at h
    dsimp only at h
    split_ifs at h
    · cases h
      exact getD_zero_copyAt ..
    · cases h
      rfl
  | tooShort => cases h
  | outOfBounds => cases h
  | running => cases h

theorem code_of_sent (h : sendCoAResponse fuel secret raw resultCode = .sent pkt) :
    pkt.getD 0 0 = writtenCode resultCode := by
  unfold sendCoAResponse at h
  have hcode : (if resultCode = 0 then radiusCoAACK else radiusCoANAK) = writtenCode resultCode :=
    rfl
  rw [hcode] at h
  by_cases hlen : raw.length < 20
  · rw [if_pos hlen] at h
    cases h
  · rw [if_neg hlen] at h
    have hset : (raw.set 0 (writtenCode resultCode)).getD 0 0 = writtenCode resultCode := by
      cases raw with
      | nil => simp at hlen
      | cons a raw => rfl
    obtain ⟨pkt', hpkt', hsame⟩ := Answer.getD_zero_of_authenticated h
    rw [hsame]
    split_ifs at hpkt' with hma
    · rw [getD_zero_of_replaced hpkt']
      exact hset
    · cases hpkt'
      exact hset

theorem writtenCode_eq_ack_iff : writtenCode resultCode = radiusCoAACK ↔ resultCode = 0 := by
  unfold writtenCode
  by_cases h : resultCode = 0
  · simp [h]
  · simp [h, radiusCoAACK, radiusCoANAK]

end Success

/-- The two transports answer alike: the RADIUS answer is an ACK exactly if the Diameter answers say
success, and both are if the coordinator produced the response. -/
structure Agrees (pkt : Bytes) (resp : ServerInitiatedResponse) : Prop where
  same : ∀ payloadAVP, pkt.getD 0 0 = radiusCoAACK ↔
    (sendWithResult payloadAVP resp).resultCode = resultCodeSuccess
  success : Produced resp → pkt.getD 0 0 = radiusCoAACK ∧
    ∀ payloadAVP, (sendWithResult payloadAVP resp).resultCode = resultCodeSuccess

/-- **Success.** For a response and the RADIUS packet that is sent for it, the transports agree
exactly if the result code is neither 0, which only RADIUS takes for success, nor 2001, which only
Diameter does. -/
theorem success_agrees_iff (secret raw : Bytes) {pkt : Bytes} (fuel : ℕ)
    (resp : ServerInitiatedResponse)
    (h : sendCoAResponse fuel secret raw resp.resultCode = .sent pkt) :
    Agrees pkt resp ↔ resp.resultCode ≠ 0 ∧ resp.resultCode ≠ resultCodeSuccess := by
  have hack : pkt.getD 0 0 = radiusCoAACK ↔ resp.resultCode = 0 := by
    rw [code_of_sent h, writtenCode_eq_ack_iff]
  constructor
  · rintro ⟨hsame, -⟩
    have hiff : resp.resultCode = 0 ↔ resp.resultCode = resultCodeSuccess :=
      hack.symm.trans (hsame 0)
    have hne : (0 : UInt32) ≠ resultCodeSuccess := by decide
    refine ⟨fun hzero => ?_, fun hsuccess => ?_⟩
    · exact hne (hzero.symm.trans (hiff.mp hzero))
    · exact hne ((hiff.mpr hsuccess).symm.trans hsuccess)
  · rintro ⟨hzero, hsuccess⟩
    refine ⟨fun _ => iff_of_false (fun hcode => hzero (hack.mp hcode)) hsuccess, ?_⟩
    rintro ⟨pod, req, body, hbody, rfl⟩
    exact absurd (resultCode_of_handled hbody) hzero

namespace Sample

def plainAnswer (resultCode : UInt32) : Bytes :=
  withResponseAuthenticator Radius.Sample.secret plainRequest
    (plainRequest.set 0 (writtenCode resultCode))

open Nssaa.Sample in
/-- A pod whose store has the context. -/
def pod : BizPod :=
  ⟨Biz.Sample.coordinator, enc, none, none, writing 2,
    table⟩

/-- What the coordinator returns for an abort. -/
def abortBody : ServerInitiatedBody := ⟨⟨"1.0", "session-1", "ctx", [1]⟩, "", 0, ""⟩

def unknownSession : ServerInitiatedResponse := ⟨"ctx", 5002, none, "unknown session"⟩

theorem sent_plainAnswer (resultCode : UInt32) :
    sendCoAResponse 2 Radius.Sample.secret plainRequest resultCode =
      .sent (plainAnswer resultCode) := by
  obtain ⟨-, -, -, -, hlen, hma, hrun⟩ := plainRequest_read
  exact sendCoAResponse_of_run resultCode (by decide +kernel) hlen hma hrun

theorem handled_abort :
    pod.handleServerInitiated Biz.Sample.abort = (statusOK, some abortBody) := by
  decide +kernel

end Sample

open Sample in
/-- A failure is a failure on both transports. -/
theorem unknown_session_agrees :
    Agrees (plainAnswer 5002) unknownSession :=
  (success_agrees_iff Radius.Sample.secret plainRequest 2 unknownSession
    (sent_plainAnswer 5002)).mpr (by decide)

open Sample in
/-- The coordinator handles an abort with success. On RADIUS the response is an ACK, on Diameter its
result code is 0. -/
theorem coordinator_success_disagrees :
    pod.handleServerInitiated Biz.Sample.abort = (statusOK, some abortBody) ∧
      sendCoAResponse 2 Radius.Sample.secret plainRequest
        abortBody.delivered.resultCode = .sent (plainAnswer 0) ∧
      (plainAnswer 0).getD 0 0 = radiusCoAACK ∧
      (sendASAWithResult abortBody.delivered).resultCode = 0 :=
  ⟨handled_abort, sent_plainAnswer 0, code_of_sent (sent_plainAnswer 0), rfl⟩

/-! ## The gateway -/

/-- What a try of `forwardToBiz` meets: no pod to send to, an error of the connection, another
error, or a pod. -/
inductive Attempt
  | noTarget
  | connectionError
  | otherError
  | reached (pod : BizPod)

/-- What became of a message. The gateway throws the body away; it is kept here to speak about it.
-/
inductive Posted
  | noSession
  | accepted (body : ServerInitiatedBody)
  | deadLetter
  deriving DecidableEq

def serverInitMaxRetries : ℕ := 3

/-- The loop of `forwardToBiz`, with the tries that are left and the number of the next one. -/
def retry (attempts : ℕ → Attempt) (req : AaaServerInitiatedRequest) : ℕ → ℕ → Posted
  | 0, _ => .deadLetter
  | left + 1, attempt =>
    match attempts attempt with
    | .noTarget | .connectionError => retry attempts req left (attempt + 1)
    | .otherError => .deadLetter
    | .reached pod =>
      -- an answer of a pod ends the loop, whatever it is
      match pod.handleServerInitiated req with
      | (status, some body) => if status = statusOK then .accepted body else .deadLetter
      | (_, none) => .deadLetter

def forwardToBiz (version : String) (entry : Option SessionCorrEntry) (m : ServerMessage)
    (attempts : ℕ → Attempt) : Posted :=
  match entry with
  | none => .noSession
  | some entry =>
    retry attempts ⟨version, m.sessionID, entry.authCtxID, m.kind.bizType, m.raw⟩
      serverInitMaxRetries 0

theorem resultCode_of_retry {attempts : ℕ → Attempt} {req : AaaServerInitiatedRequest}
    {left attempt : ℕ} {body : ServerInitiatedBody}
    (h : retry attempts req left attempt = .accepted body) : body.resultCode = 0 := by
  induction left generalizing attempt with
  | zero => cases h
  | succ left ih =>
    unfold retry at h
    split at h
    · exact ih h
    · exact ih h
    · cases h
    · split at h
      · rename_i hpod
        split_ifs at h
        cases h
        exact resultCode_of_handled hpod
      · cases h

theorem resultCode_of_forwardToBiz {version : String} {entry : Option SessionCorrEntry}
    {m : ServerMessage} {attempts : ℕ → Attempt} {body : ServerInitiatedBody}
    (h : forwardToBiz version entry m attempts = .accepted body) : body.resultCode = 0 := by
  cases entry with
  | none => cases h
  | some entry => exact resultCode_of_retry h

inductive HttpHandler
  | handleForward
  | handleHealth
  | vipHealthHandler
  | handleServerInitiatedResponse
  deriving DecidableEq

def route (path : String) : Option HttpHandler :=
  if path = "/aaa/forward" then some .handleForward
  else if path = "/health" then some .handleHealth
  else if path = "/health/vip" then some .vipHealthHandler
  else none

theorem route_ne (path : String) : route path ≠ some .handleServerInitiatedResponse := by
  unfold route
  split_ifs <;> simp

/-- A body is delivered under its type, or as an abort if it has none. -/
def ServerInitiatedRegistry.handleServerInitiatedResponse (r : ServerInitiatedRegistry)
    (body : ServerInitiatedBody) : ServerInitiatedRegistry :=
  r.complete body.sessionID (if body.messageType = "" then "ASR" else body.messageType)
    body.delivered

/-- A message that arrived, and what became of it once it is forwarded. -/
structure ServerFlow where
  message : ServerMessage
  posted : Option Posted
  deriving DecidableEq

structure ReversePath where
  registry : ServerInitiatedRegistry
  flows : ℕ → Option ServerFlow

def newReversePath : ReversePath := ⟨newServerInitiatedRegistry, fun _ => none⟩

/-- What the goroutines of a registered request do. -/
inductive Wake
  | tell
  | receive
  | timer
  | expire
  deriving DecidableEq

def Wake.event (n : ℕ) : Wake → RegistryEvent
  | .tell => .tell n
  | .receive => .receive n
  | .timer => .timer n
  | .expire => .expire n

/-- A message arrives and is registered, it is forwarded, one of its goroutines acts, or an HTTP
request with a body comes in. -/
inductive ReverseEvent
  | arrive (n : ℕ) (m : ServerMessage)
  | forward (n : ℕ) (entry : Option SessionCorrEntry) (attempts : ℕ → Attempt)
  | wake (n : ℕ) (w : Wake)
  | request (path : String) (body : ServerInitiatedBody)

namespace ReversePath

section Step

variable (version : String) (secret : Bytes) (fuel : ℕ) (p : ReversePath)

def setFlow (n : ℕ) (f : ServerFlow) : ReversePath :=
  { p with flows := Function.update p.flows n (some f) }

def arrive (n : ℕ) (m : ServerMessage) : ReversePath :=
  match p.flows n with
  | some _ => p
  | none =>
    { p.setFlow n ⟨m, none⟩ with
      registry := (p.registry.step (.register n m.sessionID m.kind.bizType.string)).2 }

def forward (n : ℕ) (entry : Option SessionCorrEntry) (attempts : ℕ → Attempt) : ReversePath :=
  match p.flows n with
  | some ⟨m, none⟩ => p.setFlow n ⟨m, some (forwardToBiz version entry m attempts)⟩
  | _ => p

/-- `Wait` is called when `forwardToBiz` is back. The answer is sent when it returns. -/
def wake (n : ℕ) (w : Wake) : Option (ℕ × ServerAnswer) × ReversePath :=
  match p.flows n with
  | none => (none, p)
  | some f =>
    if w = .tell ∨ f.posted ≠ none then
      let next := p.registry.step (w.event n)
      (next.1.map fun out => (n, f.message.answer secret fuel out.2), { p with registry := next.2 })
    else (none, p)

def request (path : String) (body : ServerInitiatedBody) : ReversePath :=
  match route path with
  | some .handleServerInitiatedResponse =>
    { p with registry := p.registry.handleServerInitiatedResponse body }
  | _ => p

/-- One event, with the answer that is sent to the AAA server. -/
def step : ReverseEvent → Option (ℕ × ServerAnswer) × ReversePath
  | .arrive n m => (none, p.arrive n m)
  | .forward n entry attempts => (none, p.forward version n entry attempts)
  | .wake n w => p.wake secret fuel n w
  | .request path body => (none, p.request path body)

end Step

end ReversePath

/-! ## What the AAA server learns -/

def Undeliverable (resp : ServerInitiatedResponse) : Prop :=
  resp.resultCode = resultCodeUnableToDeliver ∧ resp.payload = none

def Unserved (r : ServerInitiatedRegistry) : Prop :=
  ∀ n rc resp, r.channels n = some rc → rc.response = some resp → Undeliverable resp

section Unserved

variable {r r' : ServerInitiatedRegistry} {e : RegistryEvent}
  {out : Option (ℕ × ServerInitiatedResponse)}

theorem unserved_new : Unserved newServerInitiatedRegistry := by
  intro n rc resp hrc
  cases hrc

theorem Unserved.setChannel (h : Unserved r) (n : ℕ) {rc : ResponseChannel}
    (hrc : ∀ resp, rc.response = some resp → Undeliverable resp) :
    Unserved (r.setChannel n rc) := by
  intro m rc' resp hm hresp
  by_cases hmn : m = n
  · rw [ServerInitiatedRegistry.setChannel_channels, if_pos hmn] at hm
    obtain rfl := Option.some.inj hm
    exact hrc resp hresp
  · rw [ServerInitiatedRegistry.setChannel_channels, if_neg hmn] at hm
    exact h m rc' resp hm hresp

/-- Only `Complete` puts a response of Biz into a channel, so `Wait` returns none without it. -/
theorem Unserved.moves (h : Unserved r) (he : ∀ s t resp, e ≠ .complete s t resp)
    (hm : r.Moves e out r') :
    Unserved r' ∧ ∀ n resp, out = some (n, resp) → Undeliverable resp := by
  cases hm with
  | idle => exact ⟨h, nofun⟩
  | registered hn hkey => exact ⟨Unserved.setChannel h _ nofun, nofun⟩
  | duplicated hn hkey => exact ⟨Unserved.setChannel h _ nofun, nofun⟩
  | told hn hdup hempty =>
    refine ⟨h.setChannel _ fun resp hresp => ?_, nofun⟩
    obtain rfl := Option.some.inj hresp
    exact ⟨rfl, rfl⟩
  | completed hkey hn => exact absurd rfl (he _ _ _)
  | dropped hkey hn => exact absurd rfl (he _ _ _)
  | received hn hwait hresp =>
    refine ⟨h.setChannel _ nofun, fun n resp hout => ?_⟩
    cases hout
    exact h _ _ _ hn hresp
  | fired hn hwait => exact ⟨h.setChannel _ fun resp hresp => h _ _ _ hn hresp, nofun⟩
  | expired hn hwait =>
    refine ⟨Unserved.setChannel h _ fun resp hresp => h _ _ _ hn hresp, fun n resp hout => ?_⟩
    cases hout
    exact ⟨rfl, rfl⟩

end Unserved

theorem Wake.event_ne (w : Wake) (n : ℕ) (s t : String) (resp : ServerInitiatedResponse) :
    w.event n ≠ .complete s t resp := by
  cases w <;> simp [Wake.event]

namespace ReversePath

section Runs

variable {version : String} {secret : Bytes} {fuel n : ℕ} {p : ReversePath}

/-- No response of Biz is in the registry, and what Biz answered with 200 has the result code 0. -/
structure Discarding (p : ReversePath) : Prop where
  unserved : Unserved p.registry
  accepted : ∀ n f body, p.flows n = some f → f.posted = some (.accepted body) →
    body.resultCode = 0

theorem discarding_new : Discarding newReversePath := ⟨unserved_new, nofun⟩

theorem Discarding.setFlow (h : Discarding p) (n : ℕ) {f : ServerFlow}
    (hf : ∀ body, f.posted = some (.accepted body) → body.resultCode = 0) :
    Discarding (p.setFlow n f) := by
  refine ⟨h.unserved, fun m f' body hm hbody => ?_⟩
  dsimp only [ReversePath.setFlow] at hm
  rw [Function.update_apply] at hm
  by_cases hmn : m = n
  · rw [if_pos hmn] at hm
    obtain rfl := Option.some.inj hm
    exact hf body hbody
  · rw [if_neg hmn] at hm
    exact h.accepted m f' body hm hbody

theorem Discarding.arrive (h : Discarding p) (n : ℕ) (m : ServerMessage) :
    Discarding (p.arrive n m) := by
  unfold ReversePath.arrive
  split
  · exact h
  · have hreg := h.unserved.moves (fun _ _ _ he => by cases he) (p.registry.step_moves
      (.register n m.sessionID m.kind.bizType.string))
    have hflows := h.setFlow n (f := ⟨m, none⟩) fun _ hbody => by cases hbody
    exact ⟨hreg.1, hflows.accepted⟩

theorem Discarding.forward (h : Discarding p) (n : ℕ) (entry : Option SessionCorrEntry)
    (attempts : ℕ → Attempt) : Discarding (p.forward version n entry attempts) := by
  unfold ReversePath.forward
  split
  · refine h.setFlow n fun body hbody => ?_
    exact resultCode_of_forwardToBiz (Option.some.inj hbody)
  · exact h

theorem Discarding.wake (h : Discarding p) (n : ℕ) (w : Wake) :
    Discarding (p.wake secret fuel n w).2 := by
  unfold ReversePath.wake
  split
  · exact h
  · split_ifs
    · exact ⟨(h.unserved.moves (w.event_ne n) (p.registry.step_moves _)).1, h.accepted⟩
    · exact h

/-- No route leads to the handler that would deliver. -/
theorem request_eq (p : ReversePath) (path : String) (body : ServerInitiatedBody) :
    p.request path body = p := by
  unfold request
  split
  · rename_i hroute
    exact absurd hroute (route_ne path)
  · rfl

theorem Discarding.step (h : Discarding p) (e : ReverseEvent) :
    Discarding (p.step version secret fuel e).2 := by
  cases e with
  | arrive n m => exact h.arrive n m
  | forward n entry attempts => exact h.forward n entry attempts
  | wake n w => exact h.wake n w
  | request path body =>
    dsimp only [ReversePath.step]
    rw [request_eq]
    exact h

theorem Discarding.answer (h : Discarding p) {e : ReverseEvent} {a : ServerAnswer}
    (hout : (p.step version secret fuel e).1 = some (n, a)) :
    ∃ f resp, p.flows n = some f ∧ Undeliverable resp ∧ a = f.message.answer secret fuel resp := by
  cases e with
  | arrive => cases hout
  | forward => cases hout
  | request => cases hout
  | wake m w =>
    dsimp only [ReversePath.step, ReversePath.wake] at hout
    cases hf : p.flows m with
    | none =>
      rw [hf] at hout
      cases hout
    | some f =>
      rw [hf] at hout
      dsimp only at hout
      split_ifs at hout
      obtain ⟨⟨k, resp⟩, hreg, heq⟩ := Option.map_eq_some_iff.mp hout
      have hundel := (h.unserved.moves (w.event_ne m) (p.registry.step_moves _)).2 k resp hreg
      cases heq
      exact ⟨f, resp, hf, hundel, rfl⟩

end Runs

end ReversePath

/-- The answer has the result and the payload of the body. A RADIUS answer has room for the result
only. -/
def ServerAnswer.Carries : ServerAnswer → ServerInitiatedBody → Prop
  | .diameter answer, body =>
    answer.resultCode = body.resultCode ∧ answer.payload.map Prod.snd = body.delivered.payload
  | .radius answer, body => ∃ pkt, answer = .sent pkt ∧ pkt.getD 0 0 = writtenCode body.resultCode

theorem not_carries_of_undeliverable {secret : Bytes} {fuel : ℕ} {m : ServerMessage}
    {resp : ServerInitiatedResponse} {body : ServerInitiatedBody} (hresp : Undeliverable resp)
    (hbody : body.resultCode = 0) : ¬ (m.answer secret fuel resp).Carries body := by
  have hne : resp.resultCode ≠ body.resultCode := by
    rw [hresp.1, hbody]
    decide
  unfold ServerMessage.answer
  cases m.kind with
  | asr => exact fun h => hne h.1
  | rar => exact fun h => hne h.1
  | str => exact fun h => hne h.1
  | coa | dm =>
    rintro ⟨pkt, hpkt, hcode⟩
    rw [code_of_sent hpkt, hresp.1, hbody] at hcode
    revert hcode
    decide

/-- **The result of Biz.** In no run does an answer to the AAA server carry the result with which
Biz answered the message. -/
theorem biz_result_never_carried (version : String) (secret : Bytes) (fuel : ℕ)
    (es : List ReverseEvent) :
    ∀ st ∈ trace (ReversePath.step version secret fuel) newReversePath es,
      ∀ n a f body, st.output = some (n, a) → st.pre.flows n = some f →
        f.posted = some (.accepted body) → ¬ a.Carries body := by
  intro st hst n a f body hout hf hposted
  have hd : st.pre.Discarding := inv_of_mem_trace (I := ReversePath.Discarding)
    (C := fun _ => True) (fun p e hp _ => hp.step e) ReversePath.discarding_new
    (fun _ _ => trivial) hst
  rw [output_of_mem_trace hst] at hout
  obtain ⟨f', resp, hf', hresp, rfl⟩ := hd.answer hout
  exact not_carries_of_undeliverable hresp (hd.accepted n f body hf hposted)

namespace Sample

def abortMessage : ServerMessage := ⟨.asr, "session-1", [1]⟩

def abortRun : List ReverseEvent :=
  [.arrive 0 abortMessage,
    .forward 0 (some ⟨"ctx", "msisdn-1", "biz-1", 1, "000001", 1⟩) fun _ => .reached pod,
    .wake 0 .timer, .wake 0 .expire]

end Sample

theorem Sample.posted_abort (entry : SessionCorrEntry) (h : entry.authCtxID = "ctx") :
    forwardToBiz "1.0" (some entry) Sample.abortMessage (fun _ => .reached Sample.pod) =
      .accepted Sample.abortBody := by
  have hreq : AaaServerInitiatedRequest.mk "1.0" Sample.abortMessage.sessionID entry.authCtxID
      Sample.abortMessage.kind.bizType Sample.abortMessage.raw = Biz.Sample.abort := by
    rw [h]
    rfl
  unfold forwardToBiz serverInitMaxRetries retry
  dsimp only
  rw [hreq, Sample.handled_abort]
  rfl

open Sample in
/-- Biz has handled the abort, and the AAA server is told that it could not be delivered. -/
theorem abort_unable_to_deliver :
    ((trace (ReversePath.step "1.0" [] 0) newReversePath abortRun).map Record.output =
        [none, none, none, some (0, .diameter ⟨resultCodeUnableToDeliver, none⟩)]) ∧
      (final (ReversePath.step "1.0" [] 0) newReversePath abortRun).flows 0 =
        some ⟨abortMessage, some (.accepted abortBody)⟩ := by
  refine ⟨rfl, ?_⟩
  rw [← posted_abort ⟨"ctx", "msisdn-1", "biz-1", 1, "000001", 1⟩ rfl]
  rfl

open Sample in
theorem abort_result_not_carried :
    ¬ (ServerAnswer.diameter ⟨resultCodeUnableToDeliver, none⟩).Carries abortBody := by
  refine biz_result_never_carried "1.0" [] 0 abortRun
    (record (ReversePath.step "1.0" [] 0)
      (final (ReversePath.step "1.0" [] 0) newReversePath (abortRun.take 3))
      (.wake 0 .expire)) ?_ 0 _ ⟨abortMessage, some (.accepted abortBody)⟩ _ ?_ ?_ rfl
  · exact (mem_trace _).mpr ⟨abortRun.take 3, .wake 0 .expire, [], rfl, rfl⟩
  · rfl
  · rw [← posted_abort ⟨"ctx", "msisdn-1", "biz-1", 1, "000001", 1⟩ rfl]
    rfl

end NssAAF.Aaa
