import NssAAF.Radius.MessageAuth
import Mathlib.Data.List.GetD

/-!
# The attribute area of a packet

`DecodeAttributes` and `FindMessageAuthenticator` walk through the attributes of a packet on their
own. Here is what they see in a packet whose attributes are given, and what
`AddMessageAuthenticator` makes of it.

* `decodeAttributes_eq_ok_iff`: what decodes is an encoding.
* `findMessageAuthenticator_front`: the search finds the first Message-Authenticator.
* `message_authenticator_verifies_iff`: for which packets the attribute that is added verifies.
-/

namespace NssAAF.Radius

/-! ## Decoding -/

theorem decodeAttributesFrom_eq_ok {fuel offset : ℕ} {data : Bytes} {attrs : List Attribute}
    (h : decodeAttributesFrom fuel offset data = .ok attrs) :
    encodeAttributes attrs = data ∧ ∀ attr ∈ attrs, attr.value.length ≤ maxValueLength := by
  induction fuel generalizing offset data attrs with
  | zero =>
    cases data with
    | nil =>
      cases h
      simp [encodeAttributes]
    | cons a data => cases h
  | succ fuel ih =>
    match data with
    | [] =>
      cases h
      simp [encodeAttributes]
    | [_] => cases h
    | type :: length :: rest =>
      unfold decodeAttributesFrom at h
      split_ifs at h with hshort hlong
      obtain ⟨attrs', hattrs', h⟩ := Results.of_bind_ok h
      obtain rfl := Except.ok.inj h
      obtain ⟨hdata, hfit⟩ := ih hattrs'
      have hlt := length.toNat_lt
      have htake : (rest.take (length.toNat - 2)).length = length.toNat - 2 := by
        rw [List.length_take]
        omega
      constructor
      · have hlen : UInt8.ofNat (2 + (length.toNat - 2)) = length := by
          rw [Nat.add_sub_cancel' (by omega), UInt8.ofNat_toNat]
        rw [encodeAttributes_cons, htake, hlen, hdata, List.take_append_drop]
      · intro attr hattr
        rcases List.mem_cons.mp hattr with rfl | hattr
        · show (rest.take (length.toNat - 2)).length ≤ maxValueLength
          unfold maxValueLength
          omega
        · exact hfit attr hattr

/-- **Decoding.** The octets that decode are the encodings of attributes that fit. -/
theorem decodeAttributes_eq_ok_iff {data : Bytes} {attrs : List Attribute} :
    decodeAttributes data = .ok attrs ↔
      encodeAttributes attrs = data ∧ ∀ attr ∈ attrs, attr.value.length ≤ maxValueLength := by
  constructor
  · exact decodeAttributesFrom_eq_ok
  · rintro ⟨rfl, hfit⟩
    exact decodeAttributes_encodeAttributes hfit

/-- The attributes are cut at the first one of its type. -/
structure CutAt (attrs before : List Attribute) (attr : Attribute) (after : List Attribute) :
    Prop where
  eq : attrs = before ++ attr :: after
  first : ∀ a ∈ before, a.type ≠ attr.type

theorem exists_cutAt (type : UInt8) (attrs : List Attribute) :
    (∀ attr ∈ attrs, attr.type ≠ type) ∨
      ∃ before value after, CutAt attrs before ⟨type, value⟩ after := by
  induction attrs with
  | nil => exact Or.inl (List.forall_mem_nil _)
  | cons attr attrs ih =>
    by_cases hattr : attr.type = type
    · subst hattr
      exact Or.inr ⟨[], attr.value, attrs, rfl, List.forall_mem_nil _⟩
    · rcases ih with hnone | ⟨before, value, after, rfl, hbefore⟩
      · exact Or.inl (List.forall_mem_cons.mpr ⟨hattr, hnone⟩)
      · exact Or.inr ⟨attr :: before, value, after, rfl,
          List.forall_mem_cons.mpr ⟨hattr, hbefore⟩⟩

section First

variable {attrs before after : List Attribute} {attr : Attribute} {type : UInt8}

theorem find?_type_of_no (hno : ∀ attr ∈ attrs, attr.type ≠ type) :
    attrs.find? (fun attr => attr.type = type) = none := by
  rw [List.find?_eq_none]
  simpa using hno

theorem findIdx?_type_of_no (hno : ∀ attr ∈ attrs, attr.type ≠ type) :
    attrs.findIdx? (fun attr => attr.type = type) = none := by
  rw [List.findIdx?_eq_none_iff]
  simpa using hno

theorem CutAt.find?_type (h : CutAt attrs before attr after) :
    attrs.find? (fun a => a.type = attr.type) = some attr := by
  rw [h.eq, List.find?_append, find?_type_of_no h.first]
  simp

theorem CutAt.findIdx?_type (h : CutAt attrs before attr after) :
    attrs.findIdx? (fun a => a.type = attr.type) = some before.length := by
  rw [h.eq, List.findIdx?_append, findIdx?_type_of_no h.first]
  simp [List.findIdx?_cons]

end First

/-! ## Finding the Message-Authenticator -/

section Finding

variable {packet header rest : Bytes} {attrs : List Attribute}

theorem toNat_lengthOctet {attr : Attribute} (h : attr.value.length ≤ maxValueLength) :
    (UInt8.ofNat (2 + attr.value.length)).toNat = 2 + attr.value.length := by
  unfold maxValueLength at h
  rw [UInt8.toNat_ofNat']
  omega

/-- What a walker reads at the offset of an attribute, and where it goes on. -/
structure ReadsAt (packet : Bytes) (pos : ℕ) (attr : Attribute) (next : Bytes) : Prop where
  type : packet.getD pos 0 = attr.type
  length : (packet.getD (pos + 1) 0).toNat = 2 + attr.value.length
  room : pos + (2 + attr.value.length) ≤ packet.length
  value : (packet.drop (pos + 2)).take attr.value.length = attr.value
  next : packet.drop (pos + (2 + attr.value.length)) = next

theorem readsAt_of_drop_eq {pos : ℕ} {attr : Attribute} (hfit : attr.value.length ≤ maxValueLength)
    (h : packet.drop pos = encodeAttributes (attr :: attrs) ++ rest) :
    ReadsAt packet pos attr (encodeAttributes attrs ++ rest) := by
  rw [encodeAttributes_cons, List.cons_append, List.cons_append, List.append_assoc] at h
  have hlength := Bytes.drop_succ_of_drop_eq h
  have hvalue := Bytes.drop_succ_of_drop_eq hlength
  have hroom := Bytes.length_of_drop_eq h (List.cons_ne_nil _ _)
  simp only [List.length_cons, List.length_append] at hroom
  refine ⟨Bytes.getD_of_drop_eq h, ?_, by omega, ?_, ?_⟩
  · rw [Bytes.getD_of_drop_eq hlength, toNat_lengthOctet hfit]
  · rw [hvalue, List.take_left]
  · rw [← Bytes.drop_add_of_drop_eq hvalue]
    congr 1
    omega

/-- A walker that goes on behind each attribute of a kind skips all the attributes of that kind. -/
theorem walk_skip {α : Type} {walk : ℕ → ℕ → α} {skips : Attribute → Prop}
    (hstep : ∀ fuel pos attr next, skips attr → ReadsAt packet pos attr next →
      walk (fuel + 1) pos = walk fuel (pos + (2 + attr.value.length)))
    (hfit : ∀ attr ∈ attrs, attr.value.length ≤ maxValueLength)
    (hskips : ∀ attr ∈ attrs, skips attr) {pos : ℕ}
    (h : packet.drop pos = encodeAttributes attrs ++ rest) (fuel : ℕ) :
    walk (fuel + attrs.length) pos = walk fuel (pos + (encodeAttributes attrs).length) := by
  induction attrs generalizing pos with
  | nil => rfl
  | cons attr attrs ih =>
    have hreads := readsAt_of_drop_eq (hfit attr List.mem_cons_self) h
    have hend : pos + (2 + attr.value.length) + (encodeAttributes attrs).length =
        pos + (encodeAttributes (attr :: attrs)).length := by
      rw [encodeAttributes_cons, List.length_cons, List.length_cons, List.length_append]
      omega
    rw [List.length_cons, ← Nat.add_assoc,
      hstep _ _ attr _ (hskips attr List.mem_cons_self) hreads,
      ih (fun a ha => hfit a (List.mem_cons_of_mem _ ha))
        (fun a ha => hskips a (List.mem_cons_of_mem _ ha)) hreads.next, hend]

theorem findMessageAuthenticatorFrom_step (fuel pos : ℕ) (attr : Attribute) (next : Bytes)
    (hno : attr.type ≠ attrMessageAuthenticator) (h : ReadsAt packet pos attr next) :
    findMessageAuthenticatorFrom packet (fuel + 1) pos =
      findMessageAuthenticatorFrom packet fuel (pos + (2 + attr.value.length)) := by
  have hroom := h.room
  nth_rewrite 1 [findMessageAuthenticatorFrom]
  rw [if_pos (by omega), h.type, h.length]
  dsimp only
  rw [if_neg (by omega), if_neg hno]

theorem length_le_length_encodeAttributes (attrs : List Attribute) :
    attrs.length ≤ (encodeAttributes attrs).length := by
  induction attrs with
  | nil => simp
  | cons attr attrs ih =>
    rw [encodeAttributes_cons]
    simp only [List.length_cons, List.length_append]
    omega

/-- The search reaches what stands behind the attributes of other types. -/
theorem findMessageAuthenticator_eq (hheader : header.length = 20)
    (hfit : ∀ attr ∈ attrs, attr.value.length ≤ maxValueLength)
    (hno : ∀ attr ∈ attrs, attr.type ≠ attrMessageAuthenticator) (rest : Bytes) :
    findMessageAuthenticator (header ++ (encodeAttributes attrs ++ rest)) =
      findMessageAuthenticatorFrom (header ++ (encodeAttributes attrs ++ rest))
        (20 + (encodeAttributes attrs).length - attrs.length + rest.length)
        (20 + (encodeAttributes attrs).length) := by
  have hle := length_le_length_encodeAttributes attrs
  have hdrop : (header ++ (encodeAttributes attrs ++ rest)).drop 20 =
      encodeAttributes attrs ++ rest := by
    rw [← hheader, List.drop_left]
  rw [← walk_skip findMessageAuthenticatorFrom_step hfit hno hdrop]
  unfold findMessageAuthenticator
  congr 1
  simp only [List.length_append]
  omega

theorem findMessageAuthenticator_front (hheader : header.length = 20)
    (hfit : ∀ attr ∈ attrs, attr.value.length ≤ maxValueLength)
    (hno : ∀ attr ∈ attrs, attr.type ≠ attrMessageAuthenticator) {length : UInt8}
    (hlength : 2 ≤ length.toNat) (rest : Bytes) :
    findMessageAuthenticator
        (header ++ (encodeAttributes attrs ++ attrMessageAuthenticator :: length :: rest)) =
      some (20 + (encodeAttributes attrs).length) := by
  have hdrop : (header ++
      (encodeAttributes attrs ++ attrMessageAuthenticator :: length :: rest)).drop
        (20 + (encodeAttributes attrs).length) = attrMessageAuthenticator :: length :: rest := by
    rw [← hheader, ← List.append_assoc, ← List.length_append, List.drop_left]
  have htype := Bytes.getD_of_drop_eq hdrop
  have hoctet := Bytes.getD_of_drop_eq (Bytes.drop_succ_of_drop_eq hdrop)
  have htotal := Bytes.length_of_drop_eq hdrop (List.cons_ne_nil _ _)
  rw [findMessageAuthenticator_eq hheader hfit hno]
  simp only [List.length_cons] at htotal ⊢
  unfold findMessageAuthenticatorFrom
  rw [if_pos (by omega), htype, hoctet]
  dsimp only
  rw [if_neg (by omega), if_pos rfl]

theorem findMessageAuthenticator_eq_none (hheader : header.length = 20)
    (hfit : ∀ attr ∈ attrs, attr.value.length ≤ maxValueLength)
    (hno : ∀ attr ∈ attrs, attr.type ≠ attrMessageAuthenticator) :
    findMessageAuthenticator (header ++ encodeAttributes attrs) = none := by
  have hsearch := findMessageAuthenticator_eq hheader hfit hno []
  rw [List.append_nil] at hsearch
  rw [hsearch]
  unfold findMessageAuthenticatorFrom
  split
  · rfl
  · rw [if_neg]
    rw [List.length_append]
    omega

end Finding

/-! ## Verifying -/

/-- A packet cut at its first Message-Authenticator: the attributes before it, its length octet, the
sixteen octets behind that, and the rest. -/
def cutPacket (header : Bytes) (before : List Attribute) (length : UInt8) (value rest : Bytes) :
    Bytes :=
  header ++ (encodeAttributes before ++ attrMessageAuthenticator :: length :: (value ++ rest))

/-- The octets of a Message-Authenticator that is not yet computed. -/
def zeroAuthenticator : Bytes := List.replicate 16 0

section Verifying

variable {header secret value value' rest : Bytes} {before after attrs : List Attribute}
  {length : UInt8}

theorem length_zeroAuthenticator : zeroAuthenticator.length = 16 := List.length_replicate

theorem length_cutPacket (hheader : header.length = 20) (hvalue : value.length = 16) :
    (cutPacket header before length value rest).length =
      20 + (encodeAttributes before).length + 18 + rest.length := by
  unfold cutPacket
  simp only [List.length_append, List.length_cons, hheader, hvalue]
  omega

theorem room_cutPacket (hheader : header.length = 20) (hvalue : value.length = 16) :
    ¬ (cutPacket header before length value rest).length <
      20 + (encodeAttributes before).length + 18 := by
  rw [length_cutPacket hheader hvalue]
  omega

theorem drop_cutPacket (hheader : header.length = 20) :
    (cutPacket header before length value rest).drop (20 + (encodeAttributes before).length + 2) =
      value ++ rest := by
  unfold cutPacket
  rw [← hheader, ← List.append_assoc, ← List.length_append, ← List.drop_drop, List.drop_left]
  rfl

theorem copyAt_cutPacket (before : List Attribute) (length : UInt8) (rest : Bytes)
    (hheader : header.length = 20) (hvalue : value.length = 16) (hvalue' : value'.length = 16) :
    (cutPacket header before length value rest).copyAt (20 + (encodeAttributes before).length + 2)
        value' =
      cutPacket header before length value' rest := by
  have hcut : ∀ v, cutPacket header before length v rest =
      (header ++ encodeAttributes before ++ [attrMessageAuthenticator, length]) ++ (v ++ rest) := by
    intro v
    simp [cutPacket]
  have hoffset : 20 + (encodeAttributes before).length + 2 =
      (header ++ encodeAttributes before ++ [attrMessageAuthenticator, length]).length := by
    simp [hheader, Nat.add_assoc]
  rw [hcut value, hcut value', hoffset, Bytes.copyAt_append (hvalue'.trans hvalue.symm)]

variable (hheader : header.length = 20)
  (hfit : ∀ attr ∈ before, attr.value.length ≤ maxValueLength)
  (hno : ∀ attr ∈ before, attr.type ≠ attrMessageAuthenticator)
  (hlength : 2 ≤ length.toNat)

include hheader hfit hno hlength in
theorem findMessageAuthenticator_cutPacket :
    findMessageAuthenticator (cutPacket header before length value rest) =
      some (20 + (encodeAttributes before).length) :=
  findMessageAuthenticator_front hheader hfit hno hlength (value ++ rest)

include hheader hfit hno hlength in
theorem verifyMessageAuthenticator_cutPacket (hvalue : value.length = 16) :
    verifyMessageAuthenticator (cutPacket header before length value rest) secret = true ↔
      value = Md5.hmac secret (cutPacket header before length zeroAuthenticator rest) := by
  have hstored : (value ++ rest).take 16 = value := by
    rw [← hvalue, List.take_left]
  have hzeroed := copyAt_cutPacket before length rest hheader hvalue length_zeroAuthenticator
  unfold verifyMessageAuthenticator
  rw [findMessageAuthenticator_cutPacket hheader hfit hno hlength]
  dsimp only
  rw [if_neg (room_cutPacket hheader hvalue), drop_cutPacket hheader, hstored]
  show decide (value = Md5.hmac secret (Bytes.copyAt _ _ zeroAuthenticator)) = true ↔ _
  rw [hzeroed, decide_eq_true_iff]

end Verifying

/-- The packet with its Message-Authenticator set to zeros, as far as its value goes. -/
def zeroMessageAuthenticator (packet : Bytes) : Bytes :=
  match findMessageAuthenticator packet with
  | none => packet
  | some offset => packet.copyAt (offset + 2) zeroAuthenticator

def computeMessageAuthenticator (packet secret : Bytes) : Bytes :=
  Md5.hmac secret (zeroMessageAuthenticator packet)

theorem zeroMessageAuthenticator_of_find {packet : Bytes} {offset : ℕ}
    (h : findMessageAuthenticator packet = some offset) :
    zeroMessageAuthenticator packet = packet.copyAt (offset + 2) zeroAuthenticator := by
  unfold zeroMessageAuthenticator
  rw [h]

theorem verifyMessageAuthenticator_iff {packet secret : Bytes} :
    verifyMessageAuthenticator packet secret = true ↔
      ∃ offset, findMessageAuthenticator packet = some offset ∧ offset + 18 ≤ packet.length ∧
        (packet.drop (offset + 2)).take 16 = computeMessageAuthenticator packet secret := by
  unfold verifyMessageAuthenticator computeMessageAuthenticator
  cases hfind : findMessageAuthenticator packet with
  | none => simp
  | some offset =>
    rw [zeroMessageAuthenticator_of_find hfind]
    by_cases hroom : packet.length < offset + 18
    · have hshort : ¬ offset + 18 ≤ packet.length := by omega
      simp [hroom, hshort]
    · have henough : offset + 18 ≤ packet.length := by omega
      simp [hroom, henough, zeroAuthenticator]

theorem findMessageAuthenticatorFrom_congr {packet packet' : Bytes}
    (hlength : packet.length = packet'.length) (hdrop : packet.drop 20 = packet'.drop 20)
    {fuel pos : ℕ} (hpos : 20 ≤ pos) :
    findMessageAuthenticatorFrom packet fuel pos =
      findMessageAuthenticatorFrom packet' fuel pos := by
  have hget : ∀ i, 20 ≤ i → packet.getD i 0 = packet'.getD i 0 := by
    intro i hi
    have hsame : (packet.drop 20).getD (i - 20) 0 = (packet'.drop 20).getD (i - 20) 0 := by
      rw [hdrop]
    simpa [List.getD_eq_getElem?_getD, hi] using hsame
  induction fuel generalizing pos with
  | zero => rfl
  | succ fuel ih =>
    unfold findMessageAuthenticatorFrom
    rw [hlength, hget pos hpos, hget (pos + 1) (by omega)]
    dsimp only
    rw [ih (by omega)]

theorem findMessageAuthenticator_congr {packet packet' : Bytes}
    (hlength : packet.length = packet'.length) (hdrop : packet.drop 20 = packet'.drop 20) :
    findMessageAuthenticator packet = findMessageAuthenticator packet' := by
  unfold findMessageAuthenticator
  rw [hlength]
  exact findMessageAuthenticatorFrom_congr hlength hdrop (Nat.le_refl 20)

/-! ## Adding -/

/-- Adds a Message-Authenticator, or replaces the one that is there. Without the octets of its value
there is an index out of bounds, which is `none`. The attribute that is appended has the keyed hash
of the packet without it. -/
def addMessageAuthenticator (packet secret : Bytes) : Option Bytes :=
  match findMessageAuthenticator packet with
  | some offset =>
    if packet.length < offset + 18 then none
    else
      let result := packet.copyAt (offset + 2) zeroAuthenticator
      some (result.copyAt (offset + 2) (Md5.hmac secret result))
  | none => some (packet ++ attrMessageAuthenticator :: 18 :: Md5.hmac secret packet)

/-- A packet with the given attributes, in which a Message-Authenticator has its sixteen octets. -/
structure WellFormed (packet : Bytes) (attrs : List Attribute) : Prop where
  header : 20 ≤ packet.length
  decodes : decodeAttributes (packet.drop 20) = .ok attrs
  authenticator : ∀ attr ∈ attrs, attr.type = attrMessageAuthenticator → attr.value.length = 16

/-- The length in the header is the length of the packet. -/
def HasTrueLength (packet : Bytes) : Prop :=
  (Bytes.uint16 (packet.getD 2 0) (packet.getD 3 0)).toNat = packet.length

instance (packet : Bytes) : Decidable (HasTrueLength packet) := inferInstanceAs (Decidable (_ = _))

def Attribute.isMessageAuthenticator (attr : Attribute) : Bool :=
  attr.type == attrMessageAuthenticator

/-- What is asked of a packet to which a Message-Authenticator was added: it verifies, its length is
still true, and its other attributes are those of the packet. -/
structure Signs (packet : Bytes) (attrs : List Attribute) (secret result : Bytes) : Prop where
  verifies : verifyMessageAuthenticator result secret = true
  length : HasTrueLength packet → HasTrueLength result
  attributes : ∃ attrs', decodeAttributes (result.drop 20) = .ok attrs' ∧
    attrs'.eraseP Attribute.isMessageAuthenticator = attrs.eraseP Attribute.isMessageAuthenticator

section Adding

variable {packet secret header value rest : Bytes} {attrs before : List Attribute} {length : UInt8}

theorem addMessageAuthenticator_cutPacket (hheader : header.length = 20)
    (hfit : ∀ attr ∈ before, attr.value.length ≤ maxValueLength)
    (hno : ∀ attr ∈ before, attr.type ≠ attrMessageAuthenticator) (hlength : 2 ≤ length.toNat)
    (hvalue : value.length = 16) :
    addMessageAuthenticator (cutPacket header before length value rest) secret =
      some (cutPacket header before length
        (Md5.hmac secret (cutPacket header before length zeroAuthenticator rest)) rest) := by
  unfold addMessageAuthenticator
  rw [findMessageAuthenticator_cutPacket hheader hfit hno hlength]
  dsimp only
  rw [if_neg (room_cutPacket hheader hvalue),
    copyAt_cutPacket before length rest hheader hvalue length_zeroAuthenticator,
    copyAt_cutPacket before length rest hheader length_zeroAuthenticator (Md5.length_hmac ..)]

theorem packet_eq_of_decodes (hlen : 20 ≤ packet.length)
    (hdec : decodeAttributes (packet.drop 20) = .ok attrs) :
    packet = packet.take 20 ++ encodeAttributes attrs ∧ (packet.take 20).length = 20 ∧
      ∀ attr ∈ attrs, attr.value.length ≤ maxValueLength := by
  obtain ⟨hdata, hfit⟩ := decodeAttributes_eq_ok_iff.mp hdec
  refine ⟨?_, List.length_take_of_le hlen, hfit⟩
  rw [hdata, List.take_append_drop]

theorem WellFormed.packet_eq (h : WellFormed packet attrs) :
    packet = packet.take 20 ++ encodeAttributes attrs ∧ (packet.take 20).length = 20 ∧
      ∀ attr ∈ attrs, attr.value.length ≤ maxValueLength :=
  packet_eq_of_decodes h.header h.decodes

theorem encodeAttributes_append (attrs attrs' : List Attribute) :
    encodeAttributes (attrs ++ attrs') = encodeAttributes attrs ++ encodeAttributes attrs' :=
  List.flatMap_append

theorem cutPacket_eq (header : Bytes) (before after : List Attribute) (hvalue : value.length = 16) :
    header ++ encodeAttributes (before ++ ⟨attrMessageAuthenticator, value⟩ :: after) =
      cutPacket header before 18 value (encodeAttributes after) := by
  unfold cutPacket
  rw [encodeAttributes_append, encodeAttributes_cons]
  simp only [hvalue]
  rfl

theorem eraseP_cut {before : List Attribute}
    (hno : ∀ attr ∈ before, attr.type ≠ attrMessageAuthenticator) (value : Bytes)
    (after : List Attribute) :
    (before ++ ⟨attrMessageAuthenticator, value⟩ :: after).eraseP
        Attribute.isMessageAuthenticator = before ++ after := by
  have hbefore : ∀ attr ∈ before, ¬ attr.isMessageAuthenticator = true := by
    intro attr hattr h
    exact hno attr hattr (beq_iff_eq.mp h)
  have hfirst : Attribute.isMessageAuthenticator ⟨attrMessageAuthenticator, value⟩ = true :=
    beq_self_eq_true attrMessageAuthenticator
  rw [List.eraseP_append_right _ hbefore, List.eraseP_cons_of_pos hfirst]

theorem findMessageAuthenticator_of_cutAt {after : List Attribute} (hlen : 20 ≤ packet.length)
    (hdec : decodeAttributes (packet.drop 20) = .ok attrs)
    (hcut : CutAt attrs before ⟨attrMessageAuthenticator, value⟩ after) :
    findMessageAuthenticator packet = some (20 + (encodeAttributes before).length) := by
  obtain ⟨hpacket, hheader, hfit⟩ := packet_eq_of_decodes hlen hdec
  obtain ⟨rfl, hno⟩ := hcut
  have hoctet := toNat_lengthOctet
    (hfit ⟨attrMessageAuthenticator, value⟩ (List.mem_append_right _ List.mem_cons_self))
  rw [hpacket, encodeAttributes_append, encodeAttributes_cons]
  exact findMessageAuthenticator_front hheader
    (fun attr hattr => hfit attr (List.mem_append_left _ hattr)) hno (by omega) _

theorem findMessageAuthenticator_of_none (hlen : 20 ≤ packet.length)
    (hdec : decodeAttributes (packet.drop 20) = .ok attrs)
    (hno : ∀ attr ∈ attrs, attr.type ≠ attrMessageAuthenticator) :
    findMessageAuthenticator packet = none := by
  obtain ⟨hpacket, hheader, hfit⟩ := packet_eq_of_decodes hlen hdec
  rw [hpacket]
  exact findMessageAuthenticator_eq_none hheader hfit hno

/-- The offset of the first Message-Authenticator of decoded attributes, from the start of the
packet. -/
def authenticatorOffset (attrs : List Attribute) : Option ℕ :=
  (attrs.findIdx? fun attr => attr.type = attrMessageAuthenticator).map fun i =>
    20 + (encodeAttributes (attrs.take i)).length

theorem findMessageAuthenticator_of_decodes (hlen : 20 ≤ packet.length)
    (hdec : decodeAttributes (packet.drop 20) = .ok attrs) :
    findMessageAuthenticator packet = authenticatorOffset attrs := by
  unfold authenticatorOffset
  rcases exists_cutAt attrMessageAuthenticator attrs with hno | ⟨before, value, after, hcut⟩
  · rw [findMessageAuthenticator_of_none hlen hdec hno, findIdx?_type_of_no hno]
    rfl
  · rw [findMessageAuthenticator_of_cutAt hlen hdec hcut, hcut.findIdx?_type, Option.map_some,
      hcut.eq, List.take_left]

theorem hasTrueLength_append (hheader : header.length = 20) (body : Bytes) :
    HasTrueLength (header ++ body) ↔
      (Bytes.uint16 (header.getD 2 0) (header.getD 3 0)).toNat = 20 + body.length := by
  unfold HasTrueLength
  rw [List.getD_append _ _ _ _ (by omega), List.getD_append _ _ _ _ (by omega),
    List.length_append, hheader]

theorem decodeAttributes_cutPacket {before after : List Attribute} (hheader : header.length = 20)
    (hbefore : ∀ attr ∈ before, attr.value.length ≤ maxValueLength)
    (hafter : ∀ attr ∈ after, attr.value.length ≤ maxValueLength) (hvalue : value.length = 16) :
    decodeAttributes ((cutPacket header before 18 value (encodeAttributes after)).drop 20) =
      .ok (before ++ ⟨attrMessageAuthenticator, value⟩ :: after) := by
  rw [← cutPacket_eq header before after hvalue, ← hheader, List.drop_left]
  apply decodeAttributes_encodeAttributes
  intro attr hattr
  simp only [List.mem_append, List.mem_cons] at hattr
  rcases hattr with hattr | rfl | hattr
  · exact hbefore attr hattr
  · simp [hvalue, maxValueLength]
  · exact hafter attr hattr

theorem signs_replaced {before after : List Attribute} {mac : Bytes} (hheader : header.length = 20)
    (hbefore : ∀ attr ∈ before, attr.value.length ≤ maxValueLength)
    (hafter : ∀ attr ∈ after, attr.value.length ≤ maxValueLength)
    (hno : ∀ attr ∈ before, attr.type ≠ attrMessageAuthenticator) (hvalue : value.length = 16)
    (hmac : mac =
      Md5.hmac secret (cutPacket header before 18 zeroAuthenticator (encodeAttributes after))) :
    Signs (cutPacket header before 18 value (encodeAttributes after))
      (before ++ ⟨attrMessageAuthenticator, value⟩ :: after) secret
      (cutPacket header before 18 mac (encodeAttributes after)) := by
  have hlen : mac.length = 16 := by rw [hmac, Md5.length_hmac]
  refine ⟨?_, ?_, _, decodeAttributes_cutPacket hheader hbefore hafter hlen, ?_⟩
  · exact (verifyMessageAuthenticator_cutPacket hheader hbefore hno (by decide) hlen).mpr hmac
  · unfold cutPacket
    simp [hasTrueLength_append hheader, hvalue, hlen]
  · rw [eraseP_cut hno, eraseP_cut hno]

/-- The Message-Authenticator that is appended verifies only by a coincidence of two keyed hashes,
and it makes a true length false. -/
theorem signs_appended_iff (secret : Bytes) (hheader : header.length = 20)
    (hfit : ∀ attr ∈ attrs, attr.value.length ≤ maxValueLength)
    (hno : ∀ attr ∈ attrs, attr.type ≠ attrMessageAuthenticator) {mac : Bytes}
    (hmac : mac.length = 16) :
    Signs (header ++ encodeAttributes attrs) attrs secret (cutPacket header attrs 18 mac []) ↔
      ¬ HasTrueLength (header ++ encodeAttributes attrs) ∧
        mac = Md5.hmac secret (cutPacket header attrs 18 zeroAuthenticator []) := by
  have hverify : verifyMessageAuthenticator (cutPacket header attrs 18 mac []) secret = true ↔
      mac = Md5.hmac secret (cutPacket header attrs 18 zeroAuthenticator []) :=
    verifyMessageAuthenticator_cutPacket hheader hfit hno (by decide) hmac
  have hlonger : HasTrueLength (header ++ encodeAttributes attrs) →
      ¬ HasTrueLength (cutPacket header attrs 18 mac []) := by
    unfold cutPacket
    rw [hasTrueLength_append hheader, hasTrueLength_append hheader]
    simp only [List.length_append, List.length_cons, hmac]
    omega
  have herase : attrs.eraseP Attribute.isMessageAuthenticator = attrs :=
    List.eraseP_of_forall_not fun attr hattr h => hno attr hattr (beq_iff_eq.mp h)
  constructor
  · intro h
    exact ⟨fun htrue => hlonger htrue (h.length htrue), hverify.mp h.verifies⟩
  · rintro ⟨hfalse, heq⟩
    refine ⟨hverify.mpr heq, fun htrue => absurd htrue hfalse, _,
      decodeAttributes_cutPacket hheader hfit (List.forall_mem_nil _) hmac, ?_⟩
    rw [eraseP_cut hno, List.append_nil, herase]

end Adding

/-- **The Message-Authenticator that is added.** In a well-formed packet, what
`AddMessageAuthenticator` adds verifies, leaves the length true and the other attributes as they
are, exactly if there was a Message-Authenticator before; otherwise the length field must be false
and two keyed hashes the same. -/
theorem message_authenticator_verifies_iff {packet : Bytes} {attrs : List Attribute}
    (secret : Bytes) (h : WellFormed packet attrs) :
    (∃ result, addMessageAuthenticator packet secret = some result ∧
        Signs packet attrs secret result) ↔
      hasMessageAuthenticator packet = true ∨
        (¬ HasTrueLength packet ∧ Md5.hmac secret packet =
          Md5.hmac secret (packet ++ attrMessageAuthenticator :: 18 :: zeroAuthenticator)) := by
  obtain ⟨hpacket, hheader, hfit⟩ := h.packet_eq
  generalize packet.take 20 = header at hpacket hheader
  rcases exists_cutAt attrMessageAuthenticator attrs with hno | ⟨before, value, after, rfl, hno⟩
  · have hfind : findMessageAuthenticator packet = none := by
      rw [hpacket]
      exact findMessageAuthenticator_eq_none hheader hfit hno
    have hcut : ∀ mac, packet ++ attrMessageAuthenticator :: 18 :: mac =
        cutPacket header attrs 18 mac [] := by
      intro mac
      simp [hpacket, cutPacket]
    have hmac := Md5.length_hmac secret packet
    have hiff := signs_appended_iff secret hheader hfit hno hmac
    rw [← hpacket] at hiff
    unfold addMessageAuthenticator hasMessageAuthenticator
    rw [hfind, hcut, hcut]
    simp only [Option.some.injEq, exists_eq_left', hiff, Option.isSome_none, Bool.false_eq_true,
      false_or]
  · have hvalue := h.authenticator _ (List.mem_append_right _ (List.mem_cons_self ..)) rfl
    have hbefore : ∀ attr ∈ before, attr.value.length ≤ maxValueLength :=
      fun attr hattr => hfit attr (List.mem_append_left _ hattr)
    have hafter : ∀ attr ∈ after, attr.value.length ≤ maxValueLength :=
      fun attr hattr => hfit attr (List.mem_append_right _ (List.mem_cons_of_mem _ hattr))
    rw [cutPacket_eq header before after hvalue] at hpacket
    subst hpacket
    refine iff_of_true ⟨_, addMessageAuthenticator_cutPacket hheader hbefore hno (by decide) hvalue,
      signs_replaced hheader hbefore hafter hno hvalue rfl⟩ (Or.inl ?_)
    unfold hasMessageAuthenticator
    rw [findMessageAuthenticator_cutPacket hheader hbefore hno (by decide)]
    rfl

namespace Sample

def unsignedRequest : Bytes :=
  [43, 9, 0, 34] ++ List.replicate 16 5 ++ [24, 14] ++ Bytes.ofString "nssAAF;1;ctx"

/-- The same request with room for a Message-Authenticator. -/
def zeroedRequest : Bytes :=
  [43, 9, 0, 52] ++ List.replicate 16 5 ++ [24, 14] ++ Bytes.ofString "nssAAF;1;ctx" ++
    [80, 18] ++ zeroAuthenticator

def stateAttribute : Attribute := ⟨attrState, Bytes.ofString "nssAAF;1;ctx"⟩

theorem wellFormed_unsignedRequest : WellFormed unsignedRequest [stateAttribute] :=
  ⟨by decide, by decide +kernel, by decide +kernel⟩

theorem wellFormed_zeroedRequest :
    WellFormed zeroedRequest [stateAttribute, ⟨attrMessageAuthenticator, zeroAuthenticator⟩] :=
  ⟨by decide, by decide +kernel, by decide +kernel⟩

end Sample

open Sample in
/-- A Message-Authenticator of zeros is replaced by one that verifies. -/
theorem replaced_authenticator_verifies :
    ∃ result, addMessageAuthenticator zeroedRequest secret = some result ∧
      Signs zeroedRequest
        [stateAttribute, ⟨attrMessageAuthenticator, zeroAuthenticator⟩] secret
        result :=
  (message_authenticator_verifies_iff secret wellFormed_zeroedRequest).mpr
    (Or.inl (by decide +kernel))

open Sample in
/-- The Message-Authenticator that is appended to a request with a State does not verify, and the
length field of the result is that of the request. -/
theorem appended_authenticator_does_not_verify :
    WellFormed unsignedRequest [stateAttribute] ∧
      HasTrueLength unsignedRequest ∧
      ∃ result, addMessageAuthenticator unsignedRequest secret = some result ∧
        verifyMessageAuthenticator result secret = false ∧ ¬ HasTrueLength result :=
  ⟨wellFormed_unsignedRequest, by decide +kernel,
    unsignedRequest ++ attrMessageAuthenticator :: 18 ::
      Md5.hmac secret unsignedRequest,
    by decide +kernel, by decide +kernel, by decide +kernel⟩

end NssAAF.Radius
