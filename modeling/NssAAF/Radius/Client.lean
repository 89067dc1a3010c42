import NssAAF.Radius.Attribute
import NssAAF.Lib.Results
import Mathlib.Data.List.Basic

/-!
# The RADIUS client

The client of `internal/radius/layeh/client.go` and the adapter of
`internal/radius/adapter/client.go` that gives it the interface of the gateway. The network, the
random numbers and the keyed hash of the RADIUS library are fields of the client.

`Packet.encode` is the wire format of RFC 2865, which the library is taken to produce.
-/

namespace NssAAF.Radius

/-- A RADIUS packet that has a wire format. -/
structure Packet where
  code : Code
  identifier : UInt8
  authenticator : Bytes
  attributes : List Attribute
  authenticator_length : authenticator.length = 16
  value_length : ∀ attr ∈ attributes, attr.value.length ≤ maxValueLength
  length_le : 20 + (encodeAttributes attributes).length ≤ 4096

/-- The wire format: code, identifier, length, authenticator and attributes. -/
def Packet.encode (pkt : Packet) : Bytes :=
  pkt.code :: pkt.identifier ::
    (Bytes.putUint16 (20 + (encodeAttributes pkt.attributes).length) ++ pkt.authenticator ++
      encodeAttributes pkt.attributes)

def Packet.lookup (pkt : Packet) (type : UInt8) : Option Bytes :=
  (pkt.attributes.find? fun attr => attr.type = type).map Attribute.value

/-- A slice: its type and its differentiator, zero if there is none. -/
structure NSSAI where
  sst : UInt8
  sd : UInt8 × UInt8 × UInt8
  deriving DecidableEq

def NSSAI.zero : NSSAI := ⟨0, 0, 0, 0⟩

def NSSAI.pack (n : NSSAI) : Bytes := [n.sst, n.sd.1, n.sd.2.1, n.sd.2.2]

structure AccessRequest where
  userName : Bytes
  nssai : NSSAI
  nasIdentifier : Bytes
  callingStationID : Bytes
  state : Bytes
  eapMessage : Bytes
  deriving DecidableEq

def AccessRequest.empty : AccessRequest := ⟨[], .zero, [], [], [], []⟩

/-- What is taken out of an answer, and the packet itself. -/
structure AccessResponse where
  code : Code
  eapMessage : Bytes
  state : Bytes
  message : Bytes
  packet : Packet

structure Nonce where
  identifier : UInt8
  authenticator : Bytes
  length : authenticator.length = 16

/-- The client. `hmac` is HMAC-MD5 with the secret, and `exchange` is the datagram sent to the
server and the packet received, or the failure. -/
structure Client where
  nonce : Nonce
  hmac : Bytes → Bytes
  exchange : Packet → Except String Packet

/-! ## Building the request -/

def addAttribute (what tooLong : String) (type : UInt8) (value : Bytes) :
    Except String (List Attribute) :=
  if maxValueLength < value.length then .error ("AccessRequest: " ++ what ++ ": " ++ tooLong)
  else .ok [⟨type, value⟩]

def addString (what : String) : UInt8 → Bytes → Except String (List Attribute) :=
  addAttribute what "string too long"

def addBytes (what : String) : UInt8 → Bytes → Except String (List Attribute) :=
  addAttribute what "value too long"

/-- The S-NSSAI as the library writes it: the vendor in four octets, then type, length, value. -/
def nssaiAttribute (n : NSSAI) : Attribute :=
  ⟨attrVendorSpecific, Bytes.putUint32 vendorID3GPP ++ [vendorTypeSNSSAI, 6] ++ n.pack⟩

/-- The attributes of the request, the Message-Authenticator last and zero. -/
def AccessRequest.attributes (req : AccessRequest) : Except String (List Attribute) := do
  let userName ← addString "UserName" attrUserName req.userName
  let nasIdentifier ←
    if req.nasIdentifier ≠ [] then
      addString "NASIdentifier" attrNASIdentifier req.nasIdentifier
    else pure []
  let callingStationID ←
    if req.callingStationID ≠ [] then
      addString "CallingStationID" attrCallingStationID req.callingStationID
    else pure []
  let state ← if req.state ≠ [] then addBytes "State" attrState req.state else pure []
  let eapMessage ←
    if req.eapMessage ≠ [] then addBytes "EAPMessage" attrEAPMessage req.eapMessage else pure []
  return userName ++ nasIdentifier ++ callingStationID ++ state ++ eapMessage ++
    [nssaiAttribute req.nssai, ⟨attrMessageAuthenticator, List.replicate 16 0⟩]

/-- The largest packet the library sends. -/
def maxPacketLength : ℕ := 4095

/-- A packet of the given attributes, unless it is too long to be sent. -/
def Packet.ofAttributes (code : Code) (n : Nonce) (attrs : List Attribute) : Except String Packet :=
  if h : (∀ attr ∈ attrs, attr.value.length ≤ maxValueLength) ∧
      20 + (encodeAttributes attrs).length ≤ maxPacketLength then
    .ok ⟨code, n.identifier, n.authenticator, attrs, n.length, h.1,
      Nat.le_trans h.2 (by unfold maxPacketLength; omega)⟩
  else .error "encoded packet is too long"

/-- Puts `mac` in the place of the first Message-Authenticator. -/
def setMessageAuthenticator (mac : Bytes) : List Attribute → List Attribute
  | [] => []
  | attr :: attrs =>
    if attr.type = attrMessageAuthenticator then ⟨attr.type, attr.value.copy mac⟩ :: attrs
    else attr :: setMessageAuthenticator mac attrs

/-- The request with its Message-Authenticator: the keyed hash of the packet in which it is
zero. -/
def Client.requestPacket (c : Client) (req : AccessRequest) : Except String Packet := do
  let attrs ← req.attributes
  let zeroed ← (Packet.ofAttributes codeAccessRequest c.nonce attrs).mapError
    ("AccessRequest: patchMessageAuthenticator: Encode: " ++ ·)
  let patched := setMessageAuthenticator (c.hmac zeroed.encode) attrs
  (Packet.ofAttributes codeAccessRequest c.nonce patched).mapError
    ("AccessRequest: Exchange: " ++ ·)

def parseAccessResponse (pkt : Packet) : AccessResponse where
  code := pkt.code
  eapMessage := (pkt.lookup attrEAPMessage).getD []
  state := (pkt.lookup attrState).getD []
  message := (pkt.lookup attrReplyMessage).getD []
  packet := pkt

def Client.accessRequest (c : Client) (req : AccessRequest) : Except String AccessResponse := do
  let pkt ← c.requestPacket req
  let response ← (c.exchange pkt).mapError ("AccessRequest: Exchange: " ++ ·)
  return parseAccessResponse response

/-! ## The adapter -/

/-- The slice of a 3GPP attribute. A differentiator that does not decode is zero. -/
def nssaiOf (value : Bytes) : NSSAI :=
  match decodeSnssaiVSA value with
  | .error _ => .zero
  | .ok (sst, sd) =>
    match Hex.decodeString sd with
    | some (a :: b :: c :: _) => ⟨sst, a, b, c⟩
    | _ => ⟨sst, 0, 0, 0⟩

/-- Takes one attribute over into the request. Other types are ignored. -/
def AccessRequest.set (req : AccessRequest) (attr : Attribute) : AccessRequest :=
  if attr.type = attrUserName then { req with userName := attr.value }
  else if attr.type = attrCallingStationID then { req with callingStationID := attr.value }
  else if attr.type = attrNASIdentifier then { req with nasIdentifier := attr.value }
  else if attr.type = attrState then { req with state := attr.value }
  else if attr.type = attrEAPMessage then { req with eapMessage := req.eapMessage ++ attr.value }
  else if attr.type = attr3GPPSNSSAI then { req with nssai := nssaiOf attr.value }
  else req

def AccessRequest.ofAttributes (attrs : List Attribute) : AccessRequest :=
  attrs.foldl AccessRequest.set .empty

/-- Sends the attributes in an Access-Request and returns the answer in its wire format. -/
def Client.sendAccessRequest (c : Client) (attrs : List Attribute) : Except String Bytes := do
  let resp ← c.accessRequest (.ofAttributes attrs)
  return resp.packet.encode

/-! ## What is sent -/

def optionalAttribute (type : UInt8) (value : Bytes) : List Attribute :=
  if value ≠ [] then [⟨type, value⟩] else []

theorem addAttribute_eq_ok_iff {what tooLong : String} {type : UInt8} {value : Bytes}
    {attrs : List Attribute} :
    addAttribute what tooLong type value = .ok attrs ↔
      value.length ≤ maxValueLength ∧ [⟨type, value⟩] = attrs := by
  unfold addAttribute
  split_ifs with h
  · exact iff_of_false nofun fun hle => absurd hle.1 (Nat.not_le_of_lt h)
  · rw [Except.ok.injEq, and_iff_right (Nat.le_of_not_lt h)]

theorem addOptional_bind_eq_ok_iff {what tooLong : String} {type : UInt8} {value : Bytes}
    {next : List Attribute → Except String (List Attribute)} {attrs : List Attribute} :
    (if value ≠ [] then addAttribute what tooLong type value >>= next else pure [] >>= next) =
        .ok attrs ↔
      value.length ≤ maxValueLength ∧ next (optionalAttribute type value) = .ok attrs := by
  unfold optionalAttribute
  split_ifs with h
  · simp only [Results.bind_eq_ok_iff, addAttribute_eq_ok_iff, and_assoc, exists_and_left,
      exists_eq_left']
  · rw [not_not.mp h, List.length_nil, and_iff_right (Nat.zero_le _)]
    rfl

/-- Every value of the request fits into one attribute. -/
structure AccessRequest.Fits (req : AccessRequest) : Prop where
  userName : req.userName.length ≤ maxValueLength
  nasIdentifier : req.nasIdentifier.length ≤ maxValueLength
  callingStationID : req.callingStationID.length ≤ maxValueLength
  state : req.state.length ≤ maxValueLength
  eapMessage : req.eapMessage.length ≤ maxValueLength

def AccessRequest.attributeList (req : AccessRequest) : List Attribute :=
  [⟨attrUserName, req.userName⟩] ++ optionalAttribute attrNASIdentifier req.nasIdentifier ++
    optionalAttribute attrCallingStationID req.callingStationID ++
    optionalAttribute attrState req.state ++ optionalAttribute attrEAPMessage req.eapMessage ++
    [nssaiAttribute req.nssai, ⟨attrMessageAuthenticator, List.replicate 16 0⟩]

theorem AccessRequest.attributes_eq_ok_iff {req : AccessRequest} {attrs : List Attribute} :
    req.attributes = .ok attrs ↔ req.Fits ∧ req.attributeList = attrs := by
  unfold attributes addString addBytes
  rw [Results.bind_eq_ok_iff]
  simp only [addAttribute_eq_ok_iff, addOptional_bind_eq_ok_iff, and_assoc, exists_and_left,
    exists_eq_left']
  constructor
  · rintro ⟨h₁, h₂, h₃, h₄, h₅, h⟩
    exact ⟨⟨h₁, h₂, h₃, h₄, h₅⟩, Except.ok.inj h⟩
  · rintro ⟨h, rfl⟩
    exact ⟨h.userName, h.nasIdentifier, h.callingStationID, h.state, h.eapMessage, rfl⟩

theorem length_optionalAttribute_le (type : UInt8) (value : Bytes) :
    (optionalAttribute type value).length ≤ 1 := by
  unfold optionalAttribute
  split_ifs
  · exact Nat.le_refl 1
  · exact Nat.zero_le 1

theorem mem_optionalAttribute {type : UInt8} {value : Bytes} {attr : Attribute} :
    attr ∈ optionalAttribute type value ↔ attr = ⟨type, value⟩ ∧ value ≠ [] := by
  unfold optionalAttribute
  split_ifs with h
  · rw [List.mem_singleton, and_iff_left h]
  · exact iff_of_false List.not_mem_nil fun hattr => h hattr.2

theorem AccessRequest.mem_attributeList {req : AccessRequest} {attr : Attribute} :
    attr ∈ req.attributeList ↔ attr = ⟨attrUserName, req.userName⟩ ∨
      (attr = ⟨attrNASIdentifier, req.nasIdentifier⟩ ∧ req.nasIdentifier ≠ []) ∨
      (attr = ⟨attrCallingStationID, req.callingStationID⟩ ∧ req.callingStationID ≠ []) ∨
      (attr = ⟨attrState, req.state⟩ ∧ req.state ≠ []) ∨
      (attr = ⟨attrEAPMessage, req.eapMessage⟩ ∧ req.eapMessage ≠ []) ∨
      attr = nssaiAttribute req.nssai ∨
      attr = ⟨attrMessageAuthenticator, List.replicate 16 0⟩ := by
  unfold attributeList
  simp only [List.mem_append, List.mem_cons, List.not_mem_nil, or_false, or_assoc,
    mem_optionalAttribute]

theorem AccessRequest.Fits.length_le {req : AccessRequest} (h : req.Fits) {attr : Attribute}
    (hattr : attr ∈ req.attributeList) : attr.value.length ≤ maxValueLength := by
  rcases mem_attributeList.mp hattr with
    rfl | ⟨rfl, -⟩ | ⟨rfl, -⟩ | ⟨rfl, -⟩ | ⟨rfl, -⟩ | rfl | rfl
  · exact h.userName
  · exact h.nasIdentifier
  · exact h.callingStationID
  · exact h.state
  · exact h.eapMessage
  · show 10 ≤ maxValueLength
    decide
  · decide

theorem AccessRequest.length_attributeList_le (req : AccessRequest) :
    req.attributeList.length ≤ 7 := by
  have h₁ := length_optionalAttribute_le attrNASIdentifier req.nasIdentifier
  have h₂ := length_optionalAttribute_le attrCallingStationID req.callingStationID
  have h₃ := length_optionalAttribute_le attrState req.state
  have h₄ := length_optionalAttribute_le attrEAPMessage req.eapMessage
  unfold attributeList
  simp only [List.length_append, List.length_cons, List.length_nil]
  omega

theorem length_encodeAttributes_le {attrs : List Attribute}
    (h : ∀ attr ∈ attrs, attr.value.length ≤ maxValueLength) :
    (encodeAttributes attrs).length ≤ 255 * attrs.length := by
  induction attrs with
  | nil => decide
  | cons attr attrs ih =>
    have hattr := h attr (List.mem_cons_self ..)
    have hrest := ih fun a ha => h a (List.mem_cons_of_mem _ ha)
    rw [encodeAttributes_cons, List.length_cons, List.length_cons, List.length_append,
      List.length_cons]
    unfold maxValueLength at hattr
    omega

theorem Packet.ofAttributes_eq_ok {attrs : List Attribute} (code : Code) (n : Nonce)
    (h : ∀ attr ∈ attrs, attr.value.length ≤ maxValueLength) (hn : attrs.length ≤ 7) :
    ∃ pkt, Packet.ofAttributes code n attrs = .ok pkt ∧ pkt.attributes = attrs := by
  have hlen := length_encodeAttributes_le h
  unfold Packet.ofAttributes
  rw [dif_pos ⟨h, by unfold maxPacketLength; omega⟩]
  exact ⟨_, rfl, rfl⟩

theorem exists_of_mem_setMessageAuthenticator {mac : Bytes} {attrs : List Attribute}
    {attr : Attribute} (h : attr ∈ setMessageAuthenticator mac attrs) :
    ∃ a ∈ attrs, attr.type = a.type ∧ attr.value.length = a.value.length := by
  induction attrs with
  | nil => cases h
  | cons a attrs ih =>
    unfold setMessageAuthenticator at h
    split_ifs at h
    · rcases List.mem_cons.mp h with rfl | h
      · exact ⟨a, List.mem_cons_self .., rfl, Bytes.length_copy ..⟩
      · exact ⟨attr, List.mem_cons_of_mem _ h, rfl, rfl⟩
    · rcases List.mem_cons.mp h with rfl | h
      · exact ⟨attr, List.mem_cons_self .., rfl, rfl⟩
      · obtain ⟨b, hb, hlike⟩ := ih h
        exact ⟨b, List.mem_cons_of_mem _ hb, hlike⟩

theorem length_setMessageAuthenticator (mac : Bytes) (attrs : List Attribute) :
    (setMessageAuthenticator mac attrs).length = attrs.length := by
  induction attrs with
  | nil => rfl
  | cons a attrs ih =>
    unfold setMessageAuthenticator
    split_ifs
    · rfl
    · rw [List.length_cons, ih, List.length_cons]

theorem Client.requestPacket_of_fits (c : Client) {req : AccessRequest} (h : req.Fits) :
    ∃ p mac, c.requestPacket req = .ok p ∧
      p.attributes = setMessageAuthenticator mac req.attributeList := by
  obtain ⟨zeroed, hzeroed, -⟩ := Packet.ofAttributes_eq_ok codeAccessRequest c.nonce
    (fun _ => h.length_le) req.length_attributeList_le
  have hpatched : ∀ attr ∈ setMessageAuthenticator (c.hmac zeroed.encode) req.attributeList,
      attr.value.length ≤ maxValueLength := by
    intro attr hattr
    obtain ⟨a, ha, -, hlen⟩ := exists_of_mem_setMessageAuthenticator hattr
    rw [hlen]
    exact h.length_le ha
  obtain ⟨p, hp, hattrs⟩ := Packet.ofAttributes_eq_ok codeAccessRequest c.nonce hpatched
    (by rw [length_setMessageAuthenticator]; exact req.length_attributeList_le)
  refine ⟨p, c.hmac zeroed.encode, ?_, hattrs⟩
  unfold requestPacket
  rw [AccessRequest.attributes_eq_ok_iff.mpr ⟨h, rfl⟩]
  simp only [Results.bind_eq_ok_iff, Results.mapError_eq_ok_iff]
  exact ⟨_, rfl, zeroed, hzeroed, hp⟩

theorem assembleEAPMessage_append (as bs : List Attribute) :
    assembleEAPMessage (as ++ bs) = assembleEAPMessage as ++ assembleEAPMessage bs :=
  List.flatMap_append ..

theorem assembleEAPMessage_optionalAttribute (type : UInt8) (value : Bytes) :
    assembleEAPMessage (optionalAttribute type value) =
      if type = attrEAPMessage then value else [] := by
  unfold optionalAttribute assembleEAPMessage
  by_cases h : value = []
  · rw [if_neg (not_not.mpr h), h, List.flatMap_nil, ite_self]
  · rw [if_pos h, List.flatMap_singleton]

theorem assembleEAPMessage_setMessageAuthenticator (mac : Bytes) (attrs : List Attribute) :
    assembleEAPMessage (setMessageAuthenticator mac attrs) = assembleEAPMessage attrs := by
  induction attrs with
  | nil => rfl
  | cons attr attrs ih =>
    unfold setMessageAuthenticator
    unfold assembleEAPMessage at ih ⊢
    split_ifs with h
    · have hno : attrMessageAuthenticator ≠ attrEAPMessage := by decide
      rw [List.flatMap_cons, List.flatMap_cons, h, if_neg hno, if_neg hno]
    · rw [List.flatMap_cons, List.flatMap_cons, ih]

theorem AccessRequest.assembleEAPMessage_attributeList (req : AccessRequest) :
    assembleEAPMessage req.attributeList = req.eapMessage := by
  unfold attributeList
  simp only [assembleEAPMessage_append, assembleEAPMessage_optionalAttribute]
  exact List.append_nil _

theorem Client.exists_requestPacket_iff {c : Client} {req : AccessRequest} :
    (∃ p, c.requestPacket req = .ok p) ↔ req.Fits := by
  constructor
  · rintro ⟨p, hp⟩
    obtain ⟨attrs, hattrs, -⟩ := Results.of_bind_ok hp
    exact (AccessRequest.attributes_eq_ok_iff.mp hattrs).1
  · intro h
    obtain ⟨p, -, hp, -⟩ := c.requestPacket_of_fits h
    exact ⟨p, hp⟩

theorem Client.attributes_of_requestPacket {c : Client} {req : AccessRequest} {p : Packet}
    (h : c.requestPacket req = .ok p) :
    ∃ mac, p.attributes = setMessageAuthenticator mac req.attributeList := by
  obtain ⟨p', mac, hp', hattrs⟩ :=
    c.requestPacket_of_fits (Client.exists_requestPacket_iff.mp ⟨p, h⟩)
  rw [h, Except.ok.injEq] at hp'
  exact ⟨mac, hp' ▸ hattrs⟩

theorem AccessRequest.type_ne_state {req : AccessRequest} (hreq : req.state = [])
    {attr : Attribute} (h : attr ∈ req.attributeList) : attr.type ≠ attrState := by
  rcases mem_attributeList.mp h with
    rfl | ⟨rfl, -⟩ | ⟨rfl, -⟩ | ⟨-, hne⟩ | ⟨rfl, -⟩ | rfl | rfl
  · show attrUserName ≠ attrState
    decide
  · show attrNASIdentifier ≠ attrState
    decide
  · show attrCallingStationID ≠ attrState
    decide
  · exact absurd hreq hne
  · show attrEAPMessage ≠ attrState
    decide
  · show attrVendorSpecific ≠ attrState
    decide
  · decide

theorem Client.lookup_state_of_requestPacket {c : Client} {req : AccessRequest} {p : Packet}
    (hreq : req.state = []) (h : c.requestPacket req = .ok p) : p.lookup attrState = none := by
  obtain ⟨mac, hattrs⟩ := Client.attributes_of_requestPacket h
  unfold Packet.lookup
  rw [Option.map_eq_none_iff, List.find?_eq_none]
  intro attr hattr
  rw [hattrs] at hattr
  obtain ⟨a, ha, htype, -⟩ := exists_of_mem_setMessageAuthenticator hattr
  rw [decide_eq_true_eq, htype]
  exact AccessRequest.type_ne_state hreq ha

/-! ## What comes back -/

theorem Client.sendAccessRequest_of_requestPacket {c : Client} {attrs : List Attribute}
    {req : Packet} (hreq : c.requestPacket (.ofAttributes attrs) = .ok req) :
    c.sendAccessRequest attrs =
      ((c.exchange req).mapError ("AccessRequest: Exchange: " ++ ·)).map Packet.encode := by
  unfold sendAccessRequest accessRequest
  rw [hreq]
  show (do
    let response ← (c.exchange req).mapError ("AccessRequest: Exchange: " ++ ·)
    return parseAccessResponse response : Except String AccessResponse) >>= _ = _
  cases c.exchange req <;> rfl

theorem Client.sendAccessRequest_eq {c : Client} {attrs : List Attribute} {req pkt : Packet}
    (hreq : c.requestPacket (.ofAttributes attrs) = .ok req) (hpkt : c.exchange req = .ok pkt) :
    c.sendAccessRequest attrs = .ok pkt.encode := by
  rw [Client.sendAccessRequest_of_requestPacket hreq, hpkt]
  rfl

theorem AccessRequest.foldl_set_eapMessage (req : AccessRequest) (frags : List Bytes) :
    (frags.map (makeAttribute attrEAPMessage)).foldl AccessRequest.set req =
      { req with eapMessage := req.eapMessage ++ frags.flatten } := by
  induction frags generalizing req with
  | nil => rw [List.map_nil, List.foldl_nil, List.flatten_nil, List.append_nil]
  | cons frag frags ih =>
    have hset : req.set (makeAttribute attrEAPMessage frag) =
        { req with eapMessage := req.eapMessage ++ frag } := rfl
    rw [List.map_cons, List.foldl_cons, hset, ih, List.flatten_cons, List.append_assoc]

end NssAAF.Radius
