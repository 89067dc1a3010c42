import NssAAF.Lib.Loop
import NssAAF.Radius.Area

/-!
# Patching the Message-Authenticator

`patchMessageAuthenticator` of `internal/radius/layeh/client.go` encodes the packet, looks for the
Message-Authenticator in the octets with a walk of its own, and writes the keyed hash into the
packet. The walk goes on by the length octet, whatever that is, so it is a loop that may not end.

* `patchMessageAuthenticator_eq`: on attributes that end with a Message-Authenticator the walk ends
  at it.
* `access_request_authenticated`: what `AccessRequest` sends verifies.
-/

namespace NssAAF.Radius

def errMAUnset : String := "layeh: Message-Authenticator not set after packet construction"

/-- The body of the walk: the offset of the Message-Authenticator, or that there is none. -/
def patchStep (wire : Bytes) (i : ℕ) : ℕ ⊕ Option ℕ :=
  if i + 1 < wire.length then
    let attrType := wire.getD i 0
    let attrLen := (wire.getD (i + 1) 0).toNat
    if attrType = attrMessageAuthenticator ∧ attrLen = 18 then .inr (some i)
    else .inl (i + attrLen)
  else .inr none

/-- How the patching ends. -/
inductive Patch
  | running
  | outOfBounds
  | failed (err : String)
  | patched (attrs : List Attribute)
  deriving DecidableEq

/-- Computes the Message-Authenticator over the encoded packet and writes it into the first
attribute of that type. -/
def patchMessageAuthenticator (fuel : ℕ) (hmac : Bytes → Bytes) (code : Code) (n : Nonce)
    (attrs : List Attribute) : Patch :=
  if attrs.any Attribute.isMessageAuthenticator = false then .failed errMAUnset
  else
    match Packet.ofAttributes code n attrs with
    | .error err => .failed ("Encode: " ++ err)
    | .ok pkt =>
      match Loop.run (patchStep pkt.encode) fuel 20 with
      | none => .running
      | some none => .failed errMAUnset
      | some (some maOffset) =>
        if pkt.encode.length < maOffset + 18 then .outOfBounds
        else
          let zeroed := pkt.encode.copyAt (maOffset + 2) zeroAuthenticator
          .patched (setMessageAuthenticator (hmac zeroed) attrs)

/-! ## The walk -/

section Walk

variable {wire : Bytes} {attrs before : List Attribute}

theorem patchStep_of_readsAt {pos : ℕ} {attr : Attribute} {next : Bytes}
    (hno : attr.type ≠ attrMessageAuthenticator) (h : ReadsAt wire pos attr next) :
    patchStep wire pos = .inl (pos + (2 + attr.value.length)) := by
  have hroom := h.room
  unfold patchStep
  rw [if_pos (by omega), h.type, h.length]
  dsimp only
  rw [if_neg fun hma => hno hma.1]

theorem patchStep_of_authenticator {pos : ℕ} {value next : Bytes} (hvalue : value.length = 16)
    (h : ReadsAt wire pos ⟨attrMessageAuthenticator, value⟩ next) :
    patchStep wire pos = .inr (some pos) := by
  obtain ⟨htype, hlength, hroom, -, -⟩ := h
  dsimp only at htype hlength hroom
  unfold patchStep
  rw [if_pos (by omega), htype, hlength]
  dsimp only
  rw [if_pos ⟨rfl, by omega⟩]

/-- The walk comes to the first Message-Authenticator, past whatever stands in the values before
it. -/
theorem run_patchStep (hfit : ∀ attr ∈ before, attr.value.length ≤ maxValueLength)
    (hno : ∀ attr ∈ before, attr.type ≠ attrMessageAuthenticator) {value rest : Bytes}
    (hvalue : value.length = 16)
    (hwire : wire.drop 20 =
      encodeAttributes before ++ (encodeAttributes [⟨attrMessageAuthenticator, value⟩] ++ rest))
    {fuel : ℕ} (hfuel : before.length < fuel) :
    Loop.run (patchStep wire) fuel 20 = some (some (20 + (encodeAttributes before).length)) := by
  have hlast : value.length ≤ maxValueLength := by
    rw [hvalue]
    decide
  obtain ⟨k, rfl⟩ : ∃ k, fuel = k + 1 + before.length := ⟨fuel - 1 - before.length, by omega⟩
  rw [walk_skip (fun fuel pos attr next hno h => Loop.run_succ_of_inl
    (patchStep_of_readsAt hno h) fuel) hfit hno hwire]
  have hreads : ReadsAt wire (20 + (encodeAttributes before).length)
      ⟨attrMessageAuthenticator, value⟩ rest :=
    readsAt_of_drop_eq hlast (Bytes.drop_add_of_drop_eq hwire)
  exact Loop.run_succ_of_inr (patchStep_of_authenticator hvalue hreads) k

end Walk

/-! ## The packet that is sent -/

def Packet.header (pkt : Packet) : Bytes :=
  pkt.code :: pkt.identifier ::
    (Bytes.putUint16 (20 + (encodeAttributes pkt.attributes).length) ++ pkt.authenticator)

theorem Packet.encode_eq (pkt : Packet) :
    pkt.encode = pkt.header ++ encodeAttributes pkt.attributes := by
  unfold Packet.encode Packet.header
  rw [List.cons_append, List.cons_append]

theorem Packet.encode_eq_cutPacket {pkt : Packet} {before after : List Attribute} {value : Bytes}
    (hattrs : pkt.attributes = before ++ ⟨attrMessageAuthenticator, value⟩ :: after)
    (hvalue : value.length = 16) :
    pkt.encode = cutPacket pkt.header before 18 value (encodeAttributes after) := by
  rw [pkt.encode_eq, hattrs, cutPacket_eq pkt.header before after hvalue]

theorem Packet.length_header (pkt : Packet) : pkt.header.length = 20 := by
  unfold Packet.header
  simp only [List.length_cons, List.length_append, pkt.authenticator_length]
  rfl

section Sending

variable {code : Code} {n : Nonce} {attrs before after : List Attribute} {pkt : Packet}

theorem Packet.ofAttributes_eq_ok_iff :
    Packet.ofAttributes code n attrs = .ok pkt ↔
      pkt.code = code ∧ pkt.identifier = n.identifier ∧ pkt.authenticator = n.authenticator ∧
        pkt.attributes = attrs ∧ 20 + (encodeAttributes attrs).length ≤ maxPacketLength := by
  unfold Packet.ofAttributes
  constructor
  · intro h
    split_ifs at h with hfits
    obtain rfl := Except.ok.inj h
    exact ⟨rfl, rfl, rfl, rfl, hfits.2⟩
  · obtain ⟨code', identifier, authenticator, attributes, hauth, hvalue, hle⟩ := pkt
    rintro ⟨rfl, rfl, rfl, rfl, hlength⟩
    rw [dif_pos ⟨hvalue, hlength⟩]

theorem setMessageAuthenticator_cut
    (hno : ∀ attr ∈ before, attr.type ≠ attrMessageAuthenticator) {value mac : Bytes}
    (hlength : mac.length = value.length) (after : List Attribute) :
    setMessageAuthenticator mac (before ++ ⟨attrMessageAuthenticator, value⟩ :: after) =
      before ++ ⟨attrMessageAuthenticator, mac⟩ :: after := by
  induction before with
  | nil =>
    rw [List.nil_append, List.nil_append, setMessageAuthenticator, if_pos rfl]
    unfold Bytes.copy
    rw [← hlength, List.take_length, hlength, List.drop_length, List.append_nil]
  | cons attr before ih =>
    rw [List.forall_mem_cons] at hno
    rw [List.cons_append, setMessageAuthenticator, if_neg hno.1, ih hno.2, List.cons_append]

/-- **The patch.** The walk ends at the first Message-Authenticator, and the keyed hash of the
packet in which that is zero takes its place. -/
theorem patchMessageAuthenticator_eq {hmac : Bytes → Bytes} (hmac16 : ∀ b, (hmac b).length = 16)
    (hno : ∀ attr ∈ before, attr.type ≠ attrMessageAuthenticator) {value : Bytes}
    (hvalue : value.length = 16)
    (hpkt : Packet.ofAttributes code n (before ++ ⟨attrMessageAuthenticator, value⟩ :: after) =
      .ok pkt) {fuel : ℕ} (hfuel : before.length < fuel) :
    patchMessageAuthenticator fuel hmac code n
        (before ++ ⟨attrMessageAuthenticator, value⟩ :: after) =
      .patched (before ++ ⟨attrMessageAuthenticator, hmac (cutPacket pkt.header before 18
        zeroAuthenticator (encodeAttributes after))⟩ :: after) := by
  obtain ⟨-, -, -, hattrs, -⟩ := Packet.ofAttributes_eq_ok_iff.mp hpkt
  have hfit := pkt.value_length
  rw [hattrs] at hfit
  have hpresent : (before ++ ⟨attrMessageAuthenticator, value⟩ :: after).any
      Attribute.isMessageAuthenticator ≠ false := by
    simp [Attribute.isMessageAuthenticator]
  have hwire := Packet.encode_eq_cutPacket hattrs hvalue
  have hdrop : pkt.encode.drop 20 = encodeAttributes before ++
      (encodeAttributes [⟨attrMessageAuthenticator, value⟩] ++ encodeAttributes after) := by
    rw [pkt.encode_eq, ← pkt.length_header, List.drop_left, hattrs, ← encodeAttributes_append,
      ← encodeAttributes_append, List.singleton_append]
  have hrun := run_patchStep (fun attr hattr => hfit attr (List.mem_append_left _ hattr)) hno
    hvalue hdrop hfuel
  have hroom : ¬ pkt.encode.length < 20 + (encodeAttributes before).length + 18 := by
    rw [hwire]
    exact room_cutPacket pkt.length_header hvalue
  unfold patchMessageAuthenticator
  rw [if_neg hpresent, hpkt]
  dsimp only
  rw [hrun]
  dsimp only
  rw [if_neg hroom, setMessageAuthenticator_cut hno ((hmac16 _).trans hvalue.symm), hwire,
    copyAt_cutPacket before 18 (encodeAttributes after) pkt.length_header hvalue
      length_zeroAuthenticator]

/-- The attributes of a request end with its only Message-Authenticator. -/
theorem AccessRequest.attributeList_cut (req : AccessRequest) :
    ∃ before, req.attributeList = before ++ [⟨attrMessageAuthenticator, zeroAuthenticator⟩] ∧
      ∀ attr ∈ before, attr.type ≠ attrMessageAuthenticator := by
  refine ⟨[⟨attrUserName, req.userName⟩] ++
    optionalAttribute attrNASIdentifier req.nasIdentifier ++
    optionalAttribute attrCallingStationID req.callingStationID ++
    optionalAttribute attrState req.state ++ optionalAttribute attrEAPMessage req.eapMessage ++
    [nssaiAttribute req.nssai], ?_, fun attr hattr => ?_⟩
  · unfold attributeList
    rw [List.append_assoc _ [nssaiAttribute req.nssai]]
    rfl
  · simp only [List.mem_append, List.mem_singleton, mem_optionalAttribute] at hattr
    have htypes : attr.type = attrUserName ∨ attr.type = attrNASIdentifier ∨
        attr.type = attrCallingStationID ∨ attr.type = attrState ∨ attr.type = attrEAPMessage ∨
        attr.type = attrVendorSpecific := by
      rcases hattr with ((((rfl | ⟨rfl, -⟩) | ⟨rfl, -⟩) | ⟨rfl, -⟩) | ⟨rfl, -⟩) | rfl <;>
        simp [nssaiAttribute]
    rcases htypes with h | h | h | h | h | h <;> rw [h] <;> decide

theorem length_encodeAttributes_cut (before after : List Attribute) {value value' : Bytes}
    (hlength : value.length = value'.length) :
    (encodeAttributes (before ++ ⟨attrMessageAuthenticator, value⟩ :: after)).length =
      (encodeAttributes (before ++ ⟨attrMessageAuthenticator, value'⟩ :: after)).length := by
  rw [encodeAttributes_append, encodeAttributes_append, encodeAttributes_cons,
    encodeAttributes_cons, List.length_append, List.length_append]
  simp only [List.length_cons, List.length_append, hlength]

theorem Packet.ofAttributes_replaced {value mac : Bytes} (hvalue : value.length = 16)
    (hmac : mac.length = 16)
    (hpkt : Packet.ofAttributes code n (before ++ ⟨attrMessageAuthenticator, value⟩ :: after) =
      .ok pkt) :
    ∃ sent, Packet.ofAttributes code n (before ++ ⟨attrMessageAuthenticator, mac⟩ :: after) =
        .ok sent ∧
      sent.header = pkt.header := by
  obtain ⟨hcode, hid, hauth, hattrs, hle⟩ := Packet.ofAttributes_eq_ok_iff.mp hpkt
  have hsame := length_encodeAttributes_cut before after (hvalue.trans hmac.symm)
  have hfit : ∀ attr ∈ before ++ ⟨attrMessageAuthenticator, mac⟩ :: after,
      attr.value.length ≤ maxValueLength := by
    have hold := pkt.value_length
    rw [hattrs] at hold
    simp only [List.mem_append, List.mem_cons] at hold ⊢
    rintro attr (hattr | rfl | hattr)
    · exact hold attr (Or.inl hattr)
    · show mac.length ≤ maxValueLength
      rw [hmac]
      decide
    · exact hold attr (Or.inr (Or.inr hattr))
  rw [hsame] at hle
  refine ⟨⟨code, n.identifier, n.authenticator, _, n.length, hfit, ?_⟩, ?_, ?_⟩
  · unfold maxPacketLength at hle
    omega
  · exact Packet.ofAttributes_eq_ok_iff.mpr ⟨rfl, rfl, rfl, rfl, hle⟩
  · unfold Packet.header
    rw [hcode, hid, hauth, hattrs, hsame]

theorem Client.requestPacket_eq {secret : Bytes} {req : AccessRequest}
    (hattrs : req.attributes =
      .ok (before ++ [⟨attrMessageAuthenticator, zeroAuthenticator⟩]))
    (hno : ∀ attr ∈ before, attr.type ≠ attrMessageAuthenticator) {built sent : Packet}
    (hbuilt : Packet.ofAttributes codeAccessRequest n
      (before ++ [⟨attrMessageAuthenticator, zeroAuthenticator⟩]) = .ok built)
    (hsent : Packet.ofAttributes codeAccessRequest n (before ++ [⟨attrMessageAuthenticator,
      Md5.hmac secret (cutPacket built.header before 18 zeroAuthenticator [])⟩]) = .ok sent)
    (exchange : Packet → Except String Packet) :
    (newClient secret n exchange).requestPacket req = .ok sent := by
  obtain ⟨-, -, -, hattributes, -⟩ := Packet.ofAttributes_eq_ok_iff.mp hbuilt
  have hwire : built.encode = cutPacket built.header before 18 zeroAuthenticator [] :=
    Packet.encode_eq_cutPacket hattributes length_zeroAuthenticator
  unfold Client.requestPacket
  rw [hattrs]
  simp only [Results.bind_eq_ok_iff, Results.mapError_eq_ok_iff]
  refine ⟨_, rfl, built, hbuilt, ?_⟩
  show Packet.ofAttributes _ n (setMessageAuthenticator (Md5.hmac secret _) _) = _
  rw [setMessageAuthenticator_cut hno ((Md5.length_hmac ..).trans length_zeroAuthenticator.symm),
    hwire]
  exact hsent

end Sending

/-- **Outgoing requests.** When a request is built and encoded, the patch ends, and what is encoded
then verifies with the secret. Only the Message-Authenticator differs from what was added, and it is
the packet that the client sends. -/
theorem access_request_authenticated (secret : Bytes) (n : Nonce) (req : AccessRequest)
    {attrs : List Attribute} (hattrs : req.attributes = .ok attrs) {built : Packet}
    (hbuilt : Packet.ofAttributes codeAccessRequest n attrs = .ok built) :
    ∃ before mac sent,
      attrs = before ++ [⟨attrMessageAuthenticator, zeroAuthenticator⟩] ∧
      (∀ attr ∈ before, attr.type ≠ attrMessageAuthenticator) ∧
      (∀ fuel, attrs.length ≤ fuel →
        patchMessageAuthenticator fuel (Md5.hmac secret) codeAccessRequest n attrs =
          .patched (before ++ [⟨attrMessageAuthenticator, mac⟩])) ∧
      Packet.ofAttributes codeAccessRequest n (before ++ [⟨attrMessageAuthenticator, mac⟩]) =
        .ok sent ∧
      verifyMessageAuthenticator sent.encode secret = true ∧
      decodeAttributes (sent.encode.drop 20) =
        .ok (before ++ [⟨attrMessageAuthenticator, mac⟩]) ∧
      ∀ exchange, (newClient secret n exchange).requestPacket req = .ok sent := by
  obtain ⟨hreq, rfl⟩ := AccessRequest.attributes_eq_ok_iff.mp hattrs
  obtain ⟨before, hlist, hno⟩ := req.attributeList_cut
  rw [hlist] at hbuilt
  have hzero := length_zeroAuthenticator
  obtain ⟨-, -, -, hattributes, -⟩ := Packet.ofAttributes_eq_ok_iff.mp hbuilt
  have hfit : ∀ attr ∈ before, attr.value.length ≤ maxValueLength := by
    intro attr hattr
    exact built.value_length attr (hattributes ▸ List.mem_append_left _ hattr)
  obtain ⟨sent, hsent, hheader⟩ := Packet.ofAttributes_replaced hzero
    (Md5.length_hmac secret (cutPacket built.header before 18 zeroAuthenticator [])) hbuilt
  obtain ⟨-, -, -, hpatched, -⟩ := Packet.ofAttributes_eq_ok_iff.mp hsent
  have hencode : sent.encode = cutPacket built.header before 18
      (Md5.hmac secret (cutPacket built.header before 18 zeroAuthenticator [])) [] := by
    rw [Packet.encode_eq_cutPacket hpatched (Md5.length_hmac ..), hheader]
    rfl
  refine ⟨before, _, sent, hlist, hno, fun fuel hfuel => ?_, hsent, ?_, ?_, fun exchange => ?_⟩
  · rw [hlist, List.length_append, List.length_singleton] at hfuel
    rw [hlist]
    exact patchMessageAuthenticator_eq (Md5.length_hmac secret) hno hzero hbuilt hfuel
  · rw [hencode]
    exact (verifyMessageAuthenticator_cutPacket built.length_header hfit hno (by decide)
      (Md5.length_hmac ..)).mpr rfl
  · rw [hencode]
    exact decodeAttributes_cutPacket built.length_header hfit (List.forall_mem_nil _)
      (Md5.length_hmac ..)
  · rw [hlist] at hattrs
    exact Client.requestPacket_eq hattrs hno hbuilt hsent exchange

open Sample in
theorem access_request_authenticated_identity :
    ∃ before mac sent,
      identityRequest.attributeList =
        before ++ [⟨attrMessageAuthenticator, zeroAuthenticator⟩] ∧
      Packet.ofAttributes codeAccessRequest nonce
        (before ++ [⟨attrMessageAuthenticator, mac⟩]) = .ok sent ∧
      verifyMessageAuthenticator sent.encode secret = true := by
  have hfits : identityRequest.Fits := by constructor <;> decide +kernel
  obtain ⟨built, hbuilt, -⟩ := Packet.ofAttributes_eq_ok codeAccessRequest nonce
    (fun _ => hfits.length_le) identityRequest.length_attributeList_le
  obtain ⟨before, mac, sent, hlist, -, -, hsent, hverifies, -⟩ :=
    access_request_authenticated secret nonce identityRequest
      (AccessRequest.attributes_eq_ok_iff.mpr ⟨hfits, rfl⟩) hbuilt
  exact ⟨before, mac, sent, hlist, hsent, hverifies⟩

end NssAAF.Radius
