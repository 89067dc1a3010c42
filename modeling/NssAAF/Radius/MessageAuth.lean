import NssAAF.Radius.Client
import NssAAF.Lib.Md5

/-!
# Authenticated packets

The Message-Authenticator of `internal/radius/message_auth.go`, and what it means for an answer to
be bound to its request. The client of `internal/radius/layeh/client.go` asks its library not to
verify the Response Authenticator, and does not look at the Message-Authenticator of an answer.
`answer_bound_iff` says for which answers this does no harm.
-/

namespace NssAAF.Radius

/-! ## The Message-Authenticator of a packet -/

/-- The offset of the first Message-Authenticator, searched from `offset`. A packet of at most
`fuel` octets is searched to its end. -/
def findMessageAuthenticatorFrom (packet : Bytes) : ℕ → ℕ → Option ℕ
  | 0, _ => none
  | fuel + 1, offset =>
    if offset + 1 < packet.length then
      let attrType := packet.getD offset 0
      let attrLen := (packet.getD (offset + 1) 0).toNat
      if attrLen < 2 then none
      else if attrType = attrMessageAuthenticator then some offset
      else findMessageAuthenticatorFrom packet fuel (offset + attrLen)
    else none

def findMessageAuthenticator (packet : Bytes) : Option ℕ :=
  findMessageAuthenticatorFrom packet packet.length 20

def hasMessageAuthenticator (packet : Bytes) : Bool := (findMessageAuthenticator packet).isSome

/-- The Message-Authenticator is the keyed hash of the packet in which it is zero. -/
def verifyMessageAuthenticator (packet secret : Bytes) : Bool :=
  match findMessageAuthenticator packet with
  | none => false
  | some offset =>
    if packet.length < offset + 18 then false
    else
      let storedMA := (packet.drop (offset + 2)).take 16
      let zeroed := packet.copyAt (offset + 2) (List.replicate 16 0)
      storedMA = Md5.hmac secret zeroed

/-! ## Answers -/

/-- The packet with another authenticator in its header. -/
def Packet.encodeWith (pkt : Packet) (authenticator : Bytes) : Bytes :=
  pkt.code :: pkt.identifier ::
    (Bytes.putUint16 (20 + (encodeAttributes pkt.attributes).length) ++ authenticator ++
      encodeAttributes pkt.attributes)

/-- The answer is bound to the request with the authenticator `request`: its Response Authenticator
is the hash of the answer, the request's authenticator and the secret, or it has a
Message-Authenticator that verifies with the request's authenticator in the header. -/
def Packet.BoundTo (pkt : Packet) (secret request : Bytes) : Prop :=
  pkt.authenticator = Md5.sum (pkt.encodeWith request ++ secret) ∨
    verifyMessageAuthenticator (pkt.encodeWith request) secret = true

instance (pkt : Packet) (secret request : Bytes) : Decidable (pkt.BoundTo secret request) :=
  inferInstanceAs (Decidable (_ ∨ _))

/-- The client of a secret. The library returns every packet that arrives with the identifier of the
request. -/
def newClient (secret : Bytes) (nonce : Nonce) (exchange : Packet → Except String Packet) :
    Client :=
  ⟨nonce, Md5.hmac secret, exchange⟩

theorem Client.accessRequest_of_fits {c : Client} {req : AccessRequest} {pkt : Packet}
    (h : req.Fits) (hpkt : ∀ p, c.exchange p = .ok pkt) :
    c.accessRequest req = .ok (parseAccessResponse pkt) := by
  obtain ⟨p, -, hp, -⟩ := c.requestPacket_of_fits h
  unfold accessRequest
  rw [hp]
  simp only [Results.bind_eq_ok_iff, Results.mapError_eq_ok_iff]
  exact ⟨p, rfl, pkt, hpkt p, rfl⟩

theorem Client.fits_of_accessRequest {c : Client} {req : AccessRequest} {resp : AccessResponse}
    (h : c.accessRequest req = .ok resp) : req.Fits := by
  obtain ⟨p, hp, -⟩ := Results.of_bind_ok h
  exact Client.exists_requestPacket_iff.mp ⟨p, hp⟩

/-- **Answers to an Access-Request.** When `pkt` arrives, the client returns only what is bound to
the request exactly if `pkt` is bound to it, or the request cannot be sent. -/
theorem answer_bound_iff (secret : Bytes) (nonce : Nonce) (req : AccessRequest) (pkt : Packet) :
    (∀ resp, (newClient secret nonce fun _ => .ok pkt).accessRequest req = .ok resp →
        resp.packet.BoundTo secret nonce.authenticator) ↔
      pkt.BoundTo secret nonce.authenticator ∨ ¬ req.Fits := by
  constructor
  · intro h
    by_cases hfits : req.Fits
    · exact Or.inl (h _ (Client.accessRequest_of_fits hfits fun _ => rfl))
    · exact Or.inr hfits
  · rintro (hbound | hno) resp hresp
    · have hfits := Client.fits_of_accessRequest hresp
      rw [Client.accessRequest_of_fits hfits fun _ => rfl, Except.ok.injEq] at hresp
      rw [← hresp]
      exact hbound
    · exact absurd (Client.fits_of_accessRequest hresp) hno

theorem value_length_nil : ∀ attr ∈ ([] : List Attribute), attr.value.length ≤ maxValueLength :=
  List.forall_mem_nil _

theorem length_header_le : 20 + (encodeAttributes []).length ≤ 4096 := by decide

/-- An Access-Accept without attributes, made without the secret. -/
def forgedAccept (identifier fill : UInt8) : Packet :=
  ⟨codeAccessAccept, identifier, List.replicate 16 fill, [], List.length_replicate,
    value_length_nil, length_header_le⟩

namespace Sample

def secret : Bytes := Bytes.ofString "testing123"

def nonce : Nonce := ⟨7, List.replicate 16 9, List.length_replicate⟩

/-- The request for an identity. -/
def identityRequest : AccessRequest :=
  { AccessRequest.empty with
    userName := Bytes.ofString "msisdn-1"
    callingStationID := Bytes.ofString "msisdn-1"
    eapMessage := [2, 1, 0, 6, 1, 97] }

end Sample

open Sample in
/-- An Access-Accept of code, identifier and zeros is returned, and is not bound to the request. -/
theorem unauthenticated_accept_is_returned :
    (∃ resp, (newClient secret nonce fun _ => .ok (forgedAccept 7 0)).accessRequest
          identityRequest = .ok resp ∧
        resp.code = codeAccessAccept ∧ resp.packet = forgedAccept 7 0) ∧
      (forgedAccept 7 0).identifier = nonce.identifier ∧
      ¬ (forgedAccept 7 0).BoundTo secret nonce.authenticator := by
  have hfits : identityRequest.Fits := by constructor <;> decide +kernel
  exact ⟨⟨_, Client.accessRequest_of_fits hfits fun _ => rfl, rfl, rfl⟩, rfl, by decide +kernel⟩

end NssAAF.Radius
