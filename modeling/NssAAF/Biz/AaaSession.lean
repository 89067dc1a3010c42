import NssAAF.Biz.AaaClient
import NssAAF.Radius.MessageAuth
import NssAAF.Lib.Transducer

/-!
# The sessions of the AAA server

The rounds of the contexts as the AAA server sees them. Biz makes a new session identifier for each
round. The gateway notes in Redis which context it belongs to, and sends the payload with it as the
Session-Id of Diameter, or without it over RADIUS. When the AAA server begins an exchange, the
gateway looks for the session it names.

`aaa_session_continuous` says for which rounds a context is one session of the AAA server.
-/

namespace NssAAF.Biz

open Aaa Radius Transducer

/-! ## The correlation entries -/

structure SessionCorrEntry where
  authCtxID : String
  gpsi : String
  podID : String
  sst : UInt8
  sd : String
  createdAt : ℤ
  deriving DecidableEq

def sessionCorrKey (sessionID : String) : String := "nssaa:session:" ++ sessionID

/-- The entries of Redis, each with its last millisecond. -/
abbrev CorrStore : Type := String → Option (SessionCorrEntry × ℤ)

def defaultPayloadTTL : ℤ := 600 * Eap.second

def writeSessionCorr (now : ℤ) (sessionID : String) (entry : SessionCorrEntry) (store : CorrStore) :
    CorrStore :=
  fun key =>
    if key = sessionCorrKey sessionID then some (entry, Lease.lastMillis now defaultPayloadTTL)
    else store key

def getSessionCorr (now : ℤ) (sessionID : String) (store : CorrStore) : Option SessionCorrEntry :=
  match store (sessionCorrKey sessionID) with
  | none => none
  | some (entry, expires) => if Lease.millis now ≤ expires then some entry else none

/-! ## Rounds -/

/-- A Diameter-EAP-Request, without the AVPs of the configuration. -/
structure DER where
  sessionID : String
  userName : String
  eapPayload : Bytes
  sst : UInt8
  sd : String
  deriving DecidableEq

def buildDERMessage (sessionID : String) (eapPayload : Bytes) (sst : UInt8) (sd gpsi : String) :
    DER :=
  ⟨sessionID, gpsi, eapPayload, sst, sd⟩

/-- What reaches the AAA server in a round. -/
inductive Wire
  | accessRequest (p : Radius.Packet) (answer : Except String Radius.Packet)
  | der (m : DER)

/-- Biz and the gateway: the client of Biz, and the secret and the name of the gateway. -/
structure Deployment where
  client : HttpAAAClient
  secret : Bytes
  hostname : String

/-- A call of `SendEAP`, with what the environment chooses for it: the clocks of Biz and of Redis,
the failures of Redis and of the Diameter connection, the random part of a RADIUS request, and what
is received for it. -/
structure Round where
  session : Eap.Session
  payload : Bytes
  bizNow : ℤ
  redisNow : ℤ
  corrFault : Option String
  derFault : Option String
  nonce : Nonce
  exchange : Radius.Packet → Except String Radius.Packet

namespace Deployment

variable (d : Deployment)

def request (r : Round) : AaaForwardRequest := d.client.forwardRequest r.bizNow r.session r.payload

def wire (r : Round) : Option Wire :=
  let req := d.request r
  match req.transportType with
  | .radius =>
    match (newClient d.secret r.nonce r.exchange).requestPacket
        (.ofAttributes (RadiusForwarder.attributes req.payload req.sst req.sd req.gpsi)) with
    | .error _ => none
    | .ok p => some (.accessRequest p (r.exchange p))
  | .diameter =>
    match r.derFault with
    | some _ => none
    | none => some (.der (buildDERMessage req.sessionID req.payload req.sst req.sd req.gpsi))
  | .other _ => none

/-- One round: the session is noted, and then the payload is sent. -/
def step (store : CorrStore) (r : Round) : Option Wire × CorrStore :=
  let req := d.request r
  match r.corrFault with
  | some _ => (none, store)
  | none =>
    (d.wire r, writeSessionCorr r.redisNow req.sessionID
      ⟨req.authCtxID, req.gpsi, d.hostname, req.sst, req.sd, r.redisNow / Eap.second⟩ store)

end Deployment

/-! ## One session -/

abbrev Delivery : Type := Record CorrStore Round (Option Wire)

def Delivery.der (id : String) (r : Delivery) : Option DER :=
  match r.output with
  | some (.der m) => if r.input.session.authCtxID = id then some m else none
  | _ => none

def Delivery.accessRequest (id : String) (r : Delivery) : Option Radius.Packet :=
  match r.output with
  | some (.accessRequest p _) => if r.input.session.authCtxID = id then some p else none
  | _ => none

def Delivery.challenge (id : String) (r : Delivery) : Option Radius.Packet :=
  match r.output with
  | some (.accessRequest _ (.ok pkt)) =>
    if r.input.session.authCtxID = id ∧ pkt.code = codeAccessChallenge then some pkt else none
  | _ => none

def lastChallenge (id : String) (h : List Delivery) : Option Radius.Packet :=
  (h.filterMap (Delivery.challenge id)).getLast?

/-- A message at time `now` that names the session `sessionID` is taken for one of `id`. -/
def ResolvesTo (id : String) (now : ℤ) (store : CorrStore) (sessionID : String) : Prop :=
  (getSessionCorr now sessionID store).map SessionCorrEntry.authCtxID = some id

/-- The rounds of `id` are one session for the AAA server, and at time `now` the gateway knows it
by the identifiers that the server can name. -/
structure Continuous (id : String) (now : ℤ) (h : List Delivery) (store : CorrStore) : Prop where
  sameSessionID : ∀ r ∈ h, ∀ r' ∈ h, ∀ m m', r.der id = some m → r'.der id = some m' →
    m.sessionID = m'.sessionID
  repeatsState : ∀ h₁ r h₂ p pkt, h = h₁ ++ r :: h₂ → r.accessRequest id = some p →
    lastChallenge id h₁ = some pkt → p.lookup attrState = pkt.lookup attrState
  resolvesSessionID : ∀ r ∈ h, ∀ m, r.der id = some m → ResolvesTo id now store m.sessionID
  resolvesState : ∀ r ∈ h, ∀ pkt state, r.challenge id = some pkt →
    pkt.lookup attrState = some state → ResolvesTo id now store state.text

/-! ## What a round does -/

section Rounds

variable {d : Deployment} {store : CorrStore} {r : Round} {id : String} {now : ℤ}

/-- The context can be read off a session identifier. -/
theorem authCtxID_of_sessionID_eq {t t' : ℤ} {id' : String}
    (h : sessionID t id = sessionID t' id') : id = id' := by
  have hlist := congrArg String.toList h
  unfold sessionID at hlist
  simp only [String.toList_append, List.append_assoc] at hlist
  have hcut := congrArg (Scan.cut ';') (List.append_cancel_left hlist)
  rw [show ";".toList = [';'] from rfl, List.singleton_append, List.singleton_append,
    Scan.cut_append (Scan.not_mem_toString_int rfl (by decide) t),
    Scan.cut_append (Scan.not_mem_toString_int rfl (by decide) t'), Prod.mk.injEq,
    Option.some.injEq] at hcut
  exact String.toList_inj.mp hcut.2

theorem sessionCorrKey_inj {a b : String} (h : sessionCorrKey a = sessionCorrKey b) : a = b :=
  (String.append_right_inj _).mp h

/-- What a round can send. -/
inductive Deployment.Sends (d : Deployment) (r : Round) : Wire → Prop
  | accessRequest (p : Radius.Packet) (ht : (d.request r).transportType = .radius)
      (hp : (newClient d.secret r.nonce r.exchange).requestPacket
        (.ofAttributes (RadiusForwarder.attributes (d.request r).payload (d.request r).sst
          (d.request r).sd (d.request r).gpsi)) = .ok p) :
    Sends d r (.accessRequest p (r.exchange p))
  | der (ht : (d.request r).transportType = .diameter) :
    Sends d r (.der (buildDERMessage (d.request r).sessionID (d.request r).payload
      (d.request r).sst (d.request r).sd (d.request r).gpsi))

theorem Deployment.sends_of_wire {w : Wire} (h : d.wire r = some w) : d.Sends r w := by
  unfold wire at h
  dsimp only at h
  split at h
  · rename_i ht
    split at h
    · cases h
    · rename_i p hp
      cases h
      exact .accessRequest p ht hp
  · rename_i ht
    split at h
    · cases h
    · cases h
      exact .der ht
  · cases h

theorem Deployment.sends_of_step {w : Wire} (h : (d.step store r).1 = some w) :
    r.corrFault = none ∧ d.Sends r w := by
  unfold step at h
  cases hc : r.corrFault with
  | some err => rw [hc] at h; cases h
  | none =>
    rw [hc] at h
    exact ⟨rfl, sends_of_wire h⟩

theorem Deployment.Sends.of_der {m : DER} (h : d.Sends r (.der m)) :
    (d.request r).transportType = .diameter ∧
      m.sessionID = sessionID r.bizNow r.session.authCtxID := by
  cases h with
  | der ht => exact ⟨ht, rfl⟩

theorem Deployment.Sends.of_accessRequest {p : Radius.Packet}
    {answer : Except String Radius.Packet} (h : d.Sends r (.accessRequest p answer)) :
    (d.request r).transportType = .radius ∧ p.lookup attrState = none ∧ answer = r.exchange p := by
  cases h with
  | accessRequest _ ht hp =>
    refine ⟨ht, Client.lookup_state_of_requestPacket ?_ hp, rfl⟩
    rw [RadiusForwarder.ofAttributes_attributes]
    rfl

/-- The gateway knows the session of the round of `id` at time `t`. -/
def Noted (id : String) (now t : ℤ) (store : CorrStore) : Prop :=
  ∃ entry expires, store (sessionCorrKey (sessionID t id)) = some (entry, expires) ∧
    entry.authCtxID = id ∧ Lease.millis now ≤ expires

theorem Noted.resolvesTo {t : ℤ} (h : Noted id now t store) :
    ResolvesTo id now store (sessionID t id) := by
  obtain ⟨entry, expires, hkey, hid, hnow⟩ := h
  unfold ResolvesTo getSessionCorr
  rw [hkey]
  dsimp only
  rw [if_pos hnow, Option.map_some, hid]

theorem noted_step_self (hc : r.corrFault = none) (hid : r.session.authCtxID = id)
    (hnow : Lease.millis now ≤ Lease.lastMillis r.redisNow defaultPayloadTTL) :
    Noted id now r.bizNow (d.step store r).2 := by
  subst hid
  unfold Deployment.step
  rw [hc]
  exact ⟨_, _, if_pos rfl, rfl, hnow⟩

theorem Noted.step {t : ℤ} (h : Noted id now t store)
    (hnow : r.session.authCtxID = id →
      Lease.millis now ≤ Lease.lastMillis r.redisNow defaultPayloadTTL) :
    Noted id now t (d.step store r).2 := by
  obtain ⟨entry, expires, hkey, hid, hlive⟩ := h
  unfold Deployment.step
  cases hc : r.corrFault with
  | some err => exact ⟨entry, expires, hkey, hid, hlive⟩
  | none =>
    by_cases hsame : sessionCorrKey (sessionID t id) =
        sessionCorrKey (sessionID r.bizNow r.session.authCtxID)
    · have hctx := authCtxID_of_sessionID_eq (sessionCorrKey_inj hsame)
      exact ⟨_, _, if_pos hsame, hctx.symm, hnow hctx.symm⟩
    · exact ⟨entry, expires, (if_neg hsame).trans hkey, hid, hlive⟩

end Rounds

/-! ## Runs -/

section Runs

variable {d : Deployment} {store : CorrStore} {rounds : List Round} {id : String} {now : ℤ}
  {r : Delivery}

theorem Delivery.der_eq_some {m : DER} (h : r.der id = some m) :
    r.output = some (.der m) ∧ r.input.session.authCtxID = id := by
  unfold Delivery.der at h
  split at h
  · rename_i m' hout
    split_ifs at h with hid
    cases h
    exact ⟨hout, hid⟩
  · cases h

theorem Delivery.accessRequest_eq_some {p : Radius.Packet} (h : r.accessRequest id = some p) :
    ∃ answer, r.output = some (.accessRequest p answer) := by
  unfold Delivery.accessRequest at h
  split at h
  · rename_i p' answer hout
    split_ifs at h with hid
    cases h
    exact ⟨answer, hout⟩
  · cases h

theorem Delivery.challenge_eq_some {pkt : Radius.Packet} (h : r.challenge id = some pkt) :
    ∃ p, r.output = some (.accessRequest p (.ok pkt)) ∧ r.input.session.authCtxID = id ∧
      pkt.code = codeAccessChallenge := by
  unfold Delivery.challenge at h
  split at h
  · rename_i p pkt' hout
    split_ifs at h with hid
    cases h
    exact ⟨p, hout, hid⟩
  · cases h

theorem noted_of_mem_trace
    (hnow : ∀ r ∈ rounds, r.session.authCtxID = id →
      Lease.millis now ≤ Lease.lastMillis r.redisNow defaultPayloadTTL) :
    ∀ r ∈ trace d.step store rounds, ∀ m, Delivery.der id r = some m →
      Noted id now r.input.bizNow (final d.step store rounds) := by
  refine history_inv (J := fun h store => ∀ r ∈ h, ∀ m, Delivery.der id r = some m →
      Noted id now r.input.bizNow store)
    (C := fun r => r.input.session.authCtxID = id →
      Lease.millis now ≤ Lease.lastMillis r.input.redisNow defaultPayloadTTL)
    ?_ (fun r hr => absurd hr List.not_mem_nil) fun r hr => hnow _ (input_mem_of_mem_trace hr)
  intro h store i hJ hc r hr m hm
  rcases List.mem_append.mp hr with hr | hr
  · exact (hJ r hr m hm).step hc
  · rw [List.mem_singleton.mp hr] at hm ⊢
    obtain ⟨hout, hid⟩ := Delivery.der_eq_some hm
    exact noted_step_self (Deployment.sends_of_step hout).1 hid (hc hid)

theorem exchange_of_challenge {pkt : Radius.Packet} (hr : r ∈ trace d.step store rounds)
    (h : r.challenge id = some pkt) :
    r.input ∈ rounds ∧ r.input.session.authCtxID = id ∧
      (d.request r.input).transportType = .radius ∧ (∃ p, r.input.exchange p = .ok pkt) ∧
      pkt.code = codeAccessChallenge := by
  obtain ⟨p, hout, hid, hcode⟩ := Delivery.challenge_eq_some h
  rw [output_of_mem_trace hr] at hout
  obtain ⟨ht, -, hx⟩ := (Deployment.sends_of_step hout).2.of_accessRequest
  exact ⟨input_mem_of_mem_trace hr, hid, ht, ⟨p, hx.symm⟩, hcode⟩

end Runs

/-- **One session for the AAA server.** The rounds of a context are one session of the AAA server if
its Diameter rounds read the same time, no Access-Challenge for it has a State, and the server names
the session within ten minutes, by the milliseconds of Redis. -/
theorem aaa_session_continuous (d : Deployment) (store : CorrStore) (rounds : List Round)
    (id : String) (now : ℤ)
    (hclock : ∀ r ∈ rounds, ∀ r' ∈ rounds, r.session.authCtxID = id → r'.session.authCtxID = id →
      (d.request r).transportType = .diameter → (d.request r').transportType = .diameter →
      r.bizNow = r'.bizNow)
    (hstate : ∀ r ∈ rounds, r.session.authCtxID = id → (d.request r).transportType = .radius →
      ∀ p pkt, r.exchange p = .ok pkt → pkt.code = codeAccessChallenge →
      pkt.lookup attrState = none)
    (hnow : ∀ r ∈ rounds, r.session.authCtxID = id →
      Lease.millis now ≤ Lease.lastMillis r.redisNow defaultPayloadTTL) :
    Continuous id now (trace d.step store rounds) (final d.step store rounds) := by
  have hchallenge : ∀ r ∈ trace d.step store rounds, ∀ pkt, Delivery.challenge id r = some pkt →
      pkt.lookup attrState = none := by
    intro r hr pkt hpkt
    obtain ⟨hmem, hid, ht, ⟨p, hx⟩, hcode⟩ := exchange_of_challenge hr hpkt
    exact hstate r.input hmem hid ht p pkt hx hcode
  have hder : ∀ r ∈ trace d.step store rounds, ∀ m, Delivery.der id r = some m →
      r.input.session.authCtxID = id ∧ (d.request r.input).transportType = .diameter ∧
        m.sessionID = sessionID r.input.bizNow id := by
    intro r hr m hm
    obtain ⟨hout, hid⟩ := Delivery.der_eq_some hm
    rw [output_of_mem_trace hr] at hout
    obtain ⟨ht, hm'⟩ := (Deployment.sends_of_step hout).2.of_der
    exact ⟨hid, ht, hid ▸ hm'⟩
  refine ⟨?_, ?_, ?_, ?_⟩
  · intro r hr r' hr' m m' hm hm'
    obtain ⟨hid, ht, hsess⟩ := hder r hr m hm
    obtain ⟨hid', ht', hsess'⟩ := hder r' hr' m' hm'
    rw [hsess, hsess', hclock r.input (input_mem_of_mem_trace hr) r'.input
      (input_mem_of_mem_trace hr') hid hid' ht ht']
  · intro h₁ r h₂ p pkt htrace hp hlast
    have hr : r ∈ trace d.step store rounds := by
      rw [htrace]
      exact List.mem_append_right _ (List.mem_cons_self ..)
    obtain ⟨answer, hout⟩ := Delivery.accessRequest_eq_some hp
    rw [output_of_mem_trace hr] at hout
    obtain ⟨r', hr', hpkt⟩ := List.mem_filterMap.mp (List.mem_of_getLast? hlast)
    have hmem : r' ∈ trace d.step store rounds := by
      rw [htrace]
      exact List.mem_append_left _ hr'
    rw [(Deployment.sends_of_step hout).2.of_accessRequest.2.1, hchallenge r' hmem pkt hpkt]
  · intro r hr m hm
    rw [(hder r hr m hm).2.2]
    exact (noted_of_mem_trace hnow r hr m hm).resolvesTo
  · intro r hr pkt state hpkt hstate'
    rw [hchallenge r hr pkt hpkt] at hstate'
    cases hstate'

namespace Sample

/-- Slices of type 1 go over RADIUS, and all others over Diameter. -/
def deployment : Deployment where
  client := ⟨"1.0", some ⟨some ⟨0, "", "DIAMETER"⟩, [⟨1, "", "RADIUS"⟩], []⟩,
    fun _ => .error "not used"⟩
  secret := Radius.Sample.secret
  hostname := "aaa-gw-1"

/-- An Access-Challenge with a State. -/
def challenge : Radius.Packet :=
  ⟨codeAccessChallenge, 7, List.replicate 16 0, [⟨attrState, [115, 49]⟩], List.length_replicate,
    by decide, by decide⟩

def round (sst : UInt8) (now : ℤ) : Round where
  session := Nssaa.eapSession now "ctx" "msisdn-1" sst "000001"
  payload := [2, 1, 0, 6, 1, 97]
  bizNow := now
  redisNow := now
  corrFault := none
  derFault := none
  nonce := Radius.Sample.nonce
  exchange := fun _ => .ok challenge

/-- An Access-Challenge without a State. -/
def bareChallenge : Radius.Packet :=
  ⟨codeAccessChallenge, 7, List.replicate 16 0, [], List.length_replicate,
    Radius.value_length_nil, Radius.length_header_le⟩

/-- Two rounds over RADIUS that are challenged without a State, and two over Diameter in which Biz
reads the same time. -/
def steady : List Round :=
  [{ round 1 1 with exchange := fun _ => .ok bareChallenge },
    { round 1 2 with exchange := fun _ => .ok bareChallenge }, round 2 3,
    { round 2 3 with redisNow := 4 }]

def deliveries (rounds : List Round) : List Delivery := trace deployment.step (fun _ => none) rounds

end Sample

open Sample in
/-- Four rounds of a context that are one session, with two challenges. -/
theorem steady_rounds_continuous :
    (deliveries steady).map
        (fun r => ((r.der "ctx").map DER.sessionID, (r.challenge "ctx").isSome)) =
      [(none, true), (none, true), (some "nssAAF;3;ctx", false), (some "nssAAF;3;ctx", false)] ∧
    Continuous "ctx" 5 (deliveries steady)
      (final deployment.step (fun _ => none) steady) := by
  refine ⟨by decide +kernel, aaa_session_continuous deployment (fun _ => none) steady
    "ctx" 5 (by decide +kernel) ?_ (by decide +kernel)⟩
  intro r hr _ ht p pkt hpkt _
  simp only [steady, List.mem_cons, List.not_mem_nil, or_false] at hr
  rcases hr with rfl | rfl | rfl | rfl
  · cases hpkt
    rfl
  · cases hpkt
    rfl
  · exact absurd ht (by decide +kernel)
  · exact absurd ht (by decide +kernel)

open Sample in
/-- Two rounds of a context are two sessions of a Diameter server. A RADIUS server gets no State
back, and the State that it named is no session of the gateway. -/
theorem two_rounds_two_sessions :
    ¬ Continuous "ctx" 3 (deliveries [round 2 1, round 2 2])
      (final deployment.step (fun _ => none) [round 2 1, round 2 2]) ∧
    (deliveries [round 2 1, round 2 2]).map
        (fun r => (r.der "ctx").map DER.sessionID) =
      [some "nssAAF;1;ctx", some "nssAAF;2;ctx"] ∧
    (deliveries [round 1 1, round 1 2]).map
        (fun r => ((r.accessRequest "ctx").map fun p => p.lookup attrState,
          (r.challenge "ctx").map fun pkt => pkt.lookup attrState)) =
      [(some none, some (some [115, 49])), (some none, some (some [115, 49]))] ∧
    getSessionCorr 3 (Bytes.text [115, 49]) (final deployment.step (fun _ => none)
      [round 1 1, round 1 2]) = none := by
  refine ⟨fun hc => ?_, by decide +kernel, by decide +kernel, by decide +kernel⟩
  have h₁ : Delivery.der "ctx" (record deployment.step (fun _ => none) (round 2 1)) =
      some ⟨"nssAAF;1;ctx", "msisdn-1", [2, 1, 0, 6, 1, 97], 0, ""⟩ := by decide +kernel
  have h₂ : Delivery.der "ctx" (record deployment.step
      (final deployment.step (fun _ => none) [round 2 1]) (round 2 2)) =
      some ⟨"nssAAF;2;ctx", "msisdn-1", [2, 1, 0, 6, 1, 97], 0, ""⟩ := by decide +kernel
  have hsame := hc.sameSessionID _ (List.mem_cons_self ..) _
    (List.mem_cons_of_mem _ (List.mem_cons_self ..)) _ _ h₁ h₂
  exact absurd hsame (by decide +kernel)

end NssAAF.Biz
