import NssAAF.Aaa.Forward

/-!
# What the RADIUS server receives

The forwarder cuts the EAP payload into attributes and wraps the slice in a vendor-specific one. The
adapter puts the pieces together again, and the client adds the payload as one attribute.

* `payload_sent_iff`: a payload is sent exactly if it fits into one attribute.
* `slice_sent_iff`: the adapter does not recognise the slice, so only the zero slice survives.
-/

namespace NssAAF.Aaa

open NssAAF.Radius

/-! ## The payload -/

/-- The EAP-Message attributes of the packet are within their bounds and hold the payload. -/
structure Carries (p : Radius.Packet) (payload : Bytes) : Prop where
  value_length_le : ∀ attr ∈ p.attributes, attr.type = attrEAPMessage → attr.value.length ≤ 253
  assembled : assembleEAPMessage p.attributes = payload

/-- `Forward` hands the packet `p` to the network: whatever is there, what it returns is the answer
to `p`. -/
def Hands (c : Client) (payload : Bytes) (sst : UInt8) (sd gpsi : String) (p : Radius.Packet) :
    Prop :=
  ∀ exchange, RadiusForwarder.forward ⟨some { c with exchange }⟩ payload sst sd gpsi =
    ((exchange p).mapError ("AccessRequest: Exchange: " ++ ·)).map Radius.Packet.encode

section Payload

variable {c : Client} {payload : Bytes} {sst : UInt8} {sd gpsi : String}

theorem hands_of_requestPacket {p : Radius.Packet}
    (hp : c.requestPacket (.ofAttributes (RadiusForwarder.attributes payload sst sd gpsi)) =
      .ok p) :
    Hands c payload sst sd gpsi p := by
  intro exchange
  have hp' : Client.requestPacket { c with exchange }
      (.ofAttributes (RadiusForwarder.attributes payload sst sd gpsi)) = .ok p := hp
  unfold RadiusForwarder.forward
  dsimp only
  rw [Client.sendAccessRequest_of_requestPacket hp']

theorem requestPacket_of_hands {p : Radius.Packet} (h : Hands c payload sst sd gpsi p) :
    ∃ q, c.requestPacket (.ofAttributes (RadiusForwarder.attributes payload sst sd gpsi)) =
      .ok q := by
  have hok := h fun _ => .ok p
  obtain ⟨resp, hresp, -⟩ := Results.of_bind_ok hok
  obtain ⟨q, hq, -⟩ := Results.of_bind_ok hresp
  exact ⟨q, hq⟩

theorem fits_iff (hgpsi : (Bytes.ofString gpsi).length ≤ maxValueLength) :
    (AccessRequest.ofAttributes (RadiusForwarder.attributes payload sst sd gpsi)).Fits ↔
      payload.length ≤ maxValueLength := by
  rw [RadiusForwarder.ofAttributes_attributes]
  exact ⟨fun h => h.eapMessage, fun h => ⟨hgpsi, Nat.zero_le _, hgpsi, Nat.zero_le _, h⟩⟩

end Payload

/-- **Payloads over RADIUS.** The whole EAP payload reaches the network exactly if it fits into one
attribute. -/
theorem payload_sent_iff (c : Client) (payload : Bytes) (sst : UInt8) (sd gpsi : String)
    (hgpsi : (Bytes.ofString gpsi).length ≤ maxValueLength) :
    (∃ p, Hands c payload sst sd gpsi p ∧ Carries p payload) ↔ payload.length ≤ maxValueLength := by
  constructor
  · rintro ⟨p, hp, -⟩
    exact (fits_iff hgpsi).mp (Client.exists_requestPacket_iff.mp (requestPacket_of_hands hp))
  · intro hle
    obtain ⟨p, mac, hp, hattrs⟩ := c.requestPacket_of_fits ((fits_iff hgpsi).mpr hle)
    refine ⟨p, hands_of_requestPacket hp, fun attr hattr _ => p.value_length attr hattr, ?_⟩
    rw [hattrs, assembleEAPMessage_setMessageAuthenticator,
      AccessRequest.assembleEAPMessage_attributeList, RadiusForwarder.ofAttributes_attributes]

namespace Sample

/-- A fragment of 254 octets of a TLS handshake. -/
def longResponse : Bytes := [2, 2, 0, 254, 13, 0] ++ List.replicate 248 22

end Sample

open Eap.Sample in
theorem response_sent_whole :
    ∃ p, Hands (Sample.client 0) response 1 "000001" "msisdn-1" p ∧
      Carries p response :=
  (payload_sent_iff (Sample.client 0) response 1 "000001" "msisdn-1"
    (by decide +kernel)).mpr (by decide)

open Sample in
/-- A payload of 254 octets is cut into two pieces, put together again, and not sent. -/
theorem long_response_not_sent :
    (fragmentEAPMessage longResponse 253).map List.length = [253, 1] ∧
    RadiusForwarder.forward ⟨some (client codeAccessChallenge)⟩ longResponse 1
        "000001" "msisdn-1" = .error "AccessRequest: EAPMessage: value too long" ∧
    ¬ ∃ p, Hands (client codeAccessChallenge) longResponse 1 "000001" "msisdn-1" p ∧
      Carries p longResponse := by
  refine ⟨by decide +kernel, by decide +kernel, ?_⟩
  rintro ⟨p, hp, -⟩
  have hfits := Client.exists_requestPacket_iff.mp (requestPacket_of_hands hp)
  exact absurd ((fits_iff (by decide +kernel)).mp hfits) (by decide +kernel)

/-! ## The slice -/

/-- The request names the slice and, twice, the user. -/
structure Names (req : AccessRequest) (sst : UInt8) (sd gpsi : String) : Prop where
  sst : req.nssai.sst = sst
  sd : Hex.decodeString sd = some [req.nssai.sd.1, req.nssai.sd.2.1, req.nssai.sd.2.2]
  userName : req.userName = Bytes.ofString gpsi
  callingStationID : req.callingStationID = Bytes.ofString gpsi

theorem decodeString_eq_zeros_iff {sd : String} :
    Hex.decodeString sd = some [0, 0, 0] ↔ sd = "000000" := by
  unfold Hex.decodeString
  rw [show ([0, 0, 0] : Bytes) = List.replicate 3 0 from rfl, Hex.decode_eq_zeros_iff,
    ← String.toList_inj]
  rfl

/-- **Slices over RADIUS.** The client's request names the slice and the user that were forwarded
exactly if the slice is the zero slice. -/
theorem slice_sent_iff (payload : Bytes) (sst : UInt8) (sd gpsi : String) :
    Names (.ofAttributes (RadiusForwarder.attributes payload sst sd gpsi)) sst sd gpsi ↔
      sst = 0 ∧ sd = "000000" := by
  rw [RadiusForwarder.ofAttributes_attributes]
  constructor
  · intro h
    exact ⟨h.sst.symm, decodeString_eq_zeros_iff.mp h.sd⟩
  · rintro ⟨rfl, hsd⟩
    exact ⟨rfl, decodeString_eq_zeros_iff.mpr hsd, rfl, rfl⟩

open Eap.Sample in
/-- The slice 1/000001 is sent as the slice 0/000000. -/
theorem slice_one_not_sent :
    (AccessRequest.ofAttributes
        (RadiusForwarder.attributes response 1 "000001" "msisdn-1")).nssai = .zero ∧
    ¬ Names (.ofAttributes (RadiusForwarder.attributes response 1 "000001" "msisdn-1"))
      1 "000001" "msisdn-1" := by
  have hzero : (AccessRequest.ofAttributes
      (RadiusForwarder.attributes response 1 "000001" "msisdn-1")).nssai = .zero := by
    rw [RadiusForwarder.ofAttributes_attributes]
    rfl
  refine ⟨hzero, fun h => ?_⟩
  have hsst := h.sst
  rw [hzero] at hsst
  revert hsst
  decide

end NssAAF.Aaa
