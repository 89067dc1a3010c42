import NssAAF.Radius.Client
import NssAAF.Eap.Verdict

/-!
# The gateway's way to the AAA server

The forwarding of an EAP payload by `internal/aaa/gateway`: the gateway notes which session the
payload belongs to and hands the payload to the forwarder of the transport. The RADIUS forwarder
returns the answer of the server in the wire format of RADIUS, and the engine reads it as an EAP
packet.

Both formats start with a code, an identifier and a length, and the codes mean different things.
`radius_verdict_iff` says for which answers of the server the engine's verdict is not inverted.
-/

namespace NssAAF.Aaa

open NssAAF.Radius

/-- The RADIUS forwarder. It has no client if it was not configured. -/
structure RadiusForwarder where
  client : Option Client

def RadiusForwarder.attributes (eapPayload : Bytes) (sst : UInt8) (sd gpsi : String) :
    List Attribute :=
  [makeStringAttribute attrUserName gpsi,
    makeStringAttribute attrCallingStationID gpsi,
    makeIntegerAttribute attrServiceType serviceTypeAuthenticateOnly,
    makeIntegerAttribute attrNASPortType nasPortTypeVirtual,
    make3GPPSNSSAIAttribute sst sd] ++
  (fragmentEAPMessage eapPayload 253).map (makeAttribute attrEAPMessage)

def RadiusForwarder.forward (rf : RadiusForwarder) (eapPayload : Bytes) (sst : UInt8)
    (sd gpsi : String) : Except String Bytes :=
  match rf.client with
  | none => .error "radius_forward: client not configured"
  | some c => c.sendAccessRequest (attributes eapPayload sst sd gpsi)

/-- The request the client sends carries the user twice and the whole payload. The slice is lost:
the adapter does not look into vendor-specific attributes. -/
theorem RadiusForwarder.ofAttributes_attributes (eapPayload : Bytes) (sst : UInt8)
    (sd gpsi : String) :
    AccessRequest.ofAttributes (attributes eapPayload sst sd gpsi) =
      { AccessRequest.empty with
        userName := Bytes.ofString gpsi
        callingStationID := Bytes.ofString gpsi
        eapMessage := eapPayload } := by
  unfold AccessRequest.ofAttributes attributes
  rw [List.foldl_append, AccessRequest.foldl_set_eapMessage,
    flatten_fragmentEAPMessage eapPayload (by decide)]
  rfl

/-- How the gateway reaches the AAA server. -/
inductive TransportType
  | radius
  | diameter
  | other (name : String)
  deriving DecidableEq

structure AaaForwardRequest where
  version : String
  sessionID : String
  authCtxID : String
  gpsi : String
  transportType : TransportType
  sst : UInt8
  sd : String
  payload : Bytes

structure AaaForwardResponse where
  version : String
  sessionID : String
  authCtxID : String
  payload : Option Bytes

/-- The gateway. `corrFault` is the failure of Redis when the session is noted, and `diamForward`
is the Diameter forwarder. -/
structure Gateway where
  version : String
  corrFault : Option String
  radiusForwarder : RadiusForwarder
  diamForward : AaaForwardRequest → Except String (Option Bytes)

namespace Gateway

variable (g : Gateway) (req : AaaForwardRequest)

/-- Forwards to the AAA server and returns its answer. -/
def forwardEAP : Except String AaaForwardResponse :=
  match g.corrFault with
  | some err => .error ("aaa-gateway: failed to write session corr: " ++ err)
  | none =>
    let response : Except String (Option Bytes) :=
      match req.transportType with
      | .radius =>
        ((g.radiusForwarder.forward req.payload req.sst req.sd req.gpsi).map some).mapError
          ("aaa-gateway: forward failed: " ++ ·)
      | .diameter => (g.diamForward req).mapError ("aaa-gateway: forward failed: " ++ ·)
      | .other name => .error ("aaa-gateway: unknown transport type: " ++ name)
    response.map fun payload => ⟨g.version, req.sessionID, req.authCtxID, payload⟩

/-- What the engine gets for a payload that it sends through the gateway. -/
def sendEAP : Except String (Option Bytes) := (g.forwardEAP req).map AaaForwardResponse.payload

structure Answered (pkt : Packet) : Prop where
  noted : g.corrFault = none
  radius : req.transportType = .radius
  exchanged : ∃ c p, g.radiusForwarder.client = some c ∧
    c.requestPacket (.ofAttributes
      (RadiusForwarder.attributes req.payload req.sst req.sd req.gpsi)) = .ok p ∧
    c.exchange p = .ok pkt

variable {g req}

theorem sendEAP_of_answered {pkt : Packet} (h : g.Answered req pkt) :
    g.sendEAP req = .ok (some pkt.encode) := by
  obtain ⟨c, p, hc, hp, hx⟩ := h.exchanged
  unfold sendEAP forwardEAP RadiusForwarder.forward
  rw [h.noted, h.radius, hc]
  dsimp only
  rw [Client.sendAccessRequest_eq hp hx]
  rfl

end Gateway

/-! ## A RADIUS packet read as an EAP packet -/

open NssAAF.Eap

theorem code_of_parse_encode {pkt : Radius.Packet} {q : Eap.Packet}
    (h : parse pkt.encode = .ok q) : q.code = pkt.code := by
  obtain ⟨hi, lo, body, hd, -, -⟩ := parse_ok_header h
  exact (List.cons.inj hd).1.symm

theorem parse_encode {pkt : Radius.Packet}
    (hc : pkt.code = codeSuccess ∨ pkt.code = codeFailure) :
    ∃ q, parse pkt.encode = .ok q ∧ q.code = pkt.code := by
  have hle := pkt.length_le
  have hlen : (Bytes.uint16 (UInt8.ofNat ((20 + (encodeAttributes pkt.attributes).length) / 256))
      (UInt8.ofNat (20 + (encodeAttributes pkt.attributes).length))).toNat =
      (pkt.authenticator ++ encodeAttributes pkt.attributes).length + 4 := by
    rw [Bytes.toNat_uint16_putUint16 (by omega), List.length_append, pkt.authenticator_length]
    omega
  exact ⟨_, parse_code_of_header hlen hc, rfl⟩

/-- The engine reports what the RADIUS server decided: it accepts only what the server accepted,
and it fails what the server rejected. -/
structure NotInverted (pkt : Radius.Packet) (o : Outcome) : Prop where
  accepted : o.result = .success ∨ o.session.map Session.state = some .done →
    pkt.code = codeAccessAccept
  rejected : pkt.code = codeAccessReject →
    o.result = .failure ∧ o.session.map Session.state = some .failed

/-- The code of an Access-Reject is the code of an EAP-Success. -/
theorem codeAccessReject_eq : codeAccessReject = codeSuccess := rfl

/-- **The verdict over RADIUS.** A packet of the exchange is forwarded through the gateway, and the
RADIUS server answers with `pkt`. The verdict of the engine is not inverted exactly if the answer
is not an Access-Reject. -/
theorem radius_verdict_iff {e : Engine} {env : Env} {id : String} {g : Gateway}
    {req : AaaForwardRequest} {pkt : Radius.Packet} (hx : e.stateOf id = some .eapExchange)
    (hsent : (e.process env id req.payload).1.sent = some req.payload)
    (hans : env.answer = g.sendEAP req) (hpkt : g.Answered req pkt) :
    NotInverted pkt (e.process env id req.payload).1 ↔ pkt.code ≠ codeAccessReject := by
  obtain ⟨-, s, p, s', hfw⟩ := (e.process_processed env id req.payload).forwarded hsent
  rw [Engine.stateOf_eq (Engine.session_of_get hfw.found.get), Option.some.injEq] at hx
  rw [Gateway.sendEAP_of_answered hpkt] at hans
  have hr : e.reply env = some pkt.encode := Engine.reply_eq_some_iff.mpr ⟨hfw.configured, hans⟩
  have hsession := hfw.advances.outcome_session
  constructor
  · -- an Access-Reject is read as a Success
    intro h hc
    obtain ⟨q, hq, hcode⟩ := parse_encode (Or.inl (hc.trans codeAccessReject_eq))
    have hv : s.verdict pkt.encode = .success :=
      Session.verdict_eq_success_iff.mpr ⟨hx, q, hq, hcode.trans (hc.trans codeAccessReject_eq)⟩
    have hres := hfw.advances.result_eq_verdict hfw.admits hr (fun _ => ⟨q, hq⟩)
    have := h.accepted (Or.inl (hres.trans hv))
    rw [hc] at this
    revert this
    decide
  · intro hc
    have hno : (e.process env id req.payload).1.result ≠ .success := by
      intro hv
      obtain ⟨-, -, -, -, r, q, hr', hq, hcode, -⟩ := hfw.advances.of_success hv
      rw [hr, Option.some.injEq] at hr'
      subst hr'
      exact hc ((code_of_parse_encode hq).symm.trans hcode)
    refine ⟨?_, fun h => absurd h hc⟩
    rintro (hv | hdone)
    · exact absurd hv hno
    · rw [hsession, Option.map_some, Option.some.injEq] at hdone
      exact absurd (hfw.advances.of_done (by rw [hx]; decide) hdone) hno

/-! ### A server that always gives the same answer -/

namespace Sample

def packet (code : Radius.Code) : Radius.Packet :=
  ⟨code, 7, List.replicate 16 0, [], rfl, nofun, by decide⟩

def client (code : Radius.Code) : Radius.Client where
  nonce := ⟨7, List.replicate 16 0, rfl⟩
  hmac := fun _ => List.replicate 16 0
  exchange := fun _ => .ok (packet code)

def gateway (code : Radius.Code) : Gateway :=
  ⟨"1.0", none, ⟨some (client code)⟩, fun _ => .error "diameter: not connected"⟩

def request : AaaForwardRequest :=
  ⟨"1.0", "nssAAF;1;ctx", "ctx", "msisdn-1", .radius, 0, "", Eap.Sample.response⟩

open Eap.Sample in
def outcome (code : Radius.Code) : Outcome :=
  (opened.process (env 2 ((gateway code).sendEAP request)) "ctx"
    response).1

theorem answered (code : Radius.Code) : (gateway code).Answered request (packet code) := by
  -- the request does not depend on the answer
  have hok : ((client 0).requestPacket (.ofAttributes (RadiusForwarder.attributes
      Eap.Sample.response 0 "" "msisdn-1"))).isOk = true := by decide +kernel
  cases hp : (client 0).requestPacket (.ofAttributes (RadiusForwarder.attributes
      Eap.Sample.response 0 "" "msisdn-1")) with
  | error err => rw [hp] at hok; cases hok
  | ok p => exact ⟨rfl, rfl, client code, p, rfl, hp, rfl⟩

end Sample

open Sample in
/-- The server rejects, and the engine accepts. -/
theorem access_reject_is_accepted :
    (packet codeAccessReject).code = codeAccessReject ∧
      (gateway codeAccessReject).sendEAP request =
        .ok (some (packet codeAccessReject).encode) ∧
      (outcome codeAccessReject).result = .success ∧
      (outcome codeAccessReject).session.map Session.state = some .done := by
  refine ⟨rfl, Gateway.sendEAP_of_answered (answered _), ?_⟩
  decide +kernel

/-- The server challenges, and the exchange goes on. -/
theorem access_challenge_not_inverted :
    NotInverted (Sample.packet codeAccessChallenge) (Sample.outcome codeAccessChallenge) :=
  (radius_verdict_iff (by decide +kernel) (by decide +kernel) rfl
    (Sample.answered codeAccessChallenge)).mpr (by decide)

end NssAAF.Aaa
