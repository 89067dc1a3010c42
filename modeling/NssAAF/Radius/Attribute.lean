import NssAAF.Lib.Bytes
import NssAAF.Lib.Hex
import NssAAF.Lib.Results

/-!
# RADIUS attributes

The attributes of `internal/radius/attribute.go` and the vendor-specific attribute of
`internal/radius/vsa.go`. On the wire an attribute is its type, its length and its value.
-/

namespace NssAAF.Radius

abbrev Code : Type := UInt8

def codeAccessRequest : Code := 1
def codeAccessAccept : Code := 2
def codeAccessReject : Code := 3
def codeAccessChallenge : Code := 11

def attrUserName : UInt8 := 1
def attrServiceType : UInt8 := 6
def attrReplyMessage : UInt8 := 18
def attrState : UInt8 := 24
def attrVendorSpecific : UInt8 := 26
def attrCallingStationID : UInt8 := 31
def attrNASIdentifier : UInt8 := 32
def attrNASPortType : UInt8 := 61
def attrEAPMessage : UInt8 := 79
def attrMessageAuthenticator : UInt8 := 80

/-- The S-NSSAI of 3GPP. It is a vendor type, but the adapter looks for it among the types. -/
def attr3GPPSNSSAI : UInt8 := 200

def serviceTypeAuthenticateOnly : UInt32 := 8
def nasPortTypeVirtual : UInt32 := 5
def vendorID3GPP : UInt32 := 10415
def vendorTypeSNSSAI : UInt8 := 200

structure Attribute where
  type : UInt8
  value : Bytes
  deriving DecidableEq

/-- The largest value the length octet leaves room for. -/
def maxValueLength : ℕ := 253

def encodeAttributes (attrs : List Attribute) : Bytes :=
  attrs.flatMap fun attr => attr.type :: UInt8.ofNat (2 + attr.value.length) :: attr.value

inductive DecodeError
  | truncated (offset : ℕ)
  | invalidLength (type : UInt8) (length : ℕ)
  | beyondData (type : UInt8) (length remaining : ℕ)
  deriving DecidableEq

def DecodeError.text : DecodeError → String
  | .truncated offset => "radius: attribute truncated at offset " ++ toString offset
  | .invalidLength type length =>
    "radius: attribute type=" ++ toString type.toNat ++ " has invalid length " ++ toString length
  | .beyondData type length remaining =>
    "radius: attribute type=" ++ toString type.toNat ++ " extends beyond data: len=" ++
      toString length ++ ", remaining=" ++ toString remaining

/-- Decodes the attributes of `data`, which starts at `offset` and has at most `fuel` octets. -/
def decodeAttributesFrom : ℕ → ℕ → Bytes → Except DecodeError (List Attribute)
  | _, _, [] => .ok []
  | 0, offset, _ => .error (.truncated offset)
  | _ + 1, offset, [_] => .error (.truncated offset)
  | fuel + 1, offset, type :: length :: rest =>
    if length.toNat < 2 then .error (.invalidLength type length.toNat)
    else if rest.length + 2 < length.toNat then
      .error (.beyondData type length.toNat (rest.length + 2))
    else do
      let attrs ← decodeAttributesFrom fuel (offset + length.toNat) (rest.drop (length.toNat - 2))
      return ⟨type, rest.take (length.toNat - 2)⟩ :: attrs

def decodeAttributes (data : Bytes) : Except DecodeError (List Attribute) :=
  decodeAttributesFrom data.length 0 data

theorem encodeAttributes_cons (attr : Attribute) (attrs : List Attribute) :
    encodeAttributes (attr :: attrs) =
      attr.type :: UInt8.ofNat (2 + attr.value.length) ::
        (attr.value ++ encodeAttributes attrs) := by
  unfold encodeAttributes
  rw [List.flatMap_cons, List.cons_append, List.cons_append]

theorem decodeAttributesFrom_encodeAttributes {attrs : List Attribute}
    (h : ∀ attr ∈ attrs, attr.value.length ≤ maxValueLength) {fuel : ℕ}
    (hf : (encodeAttributes attrs).length ≤ fuel) (offset : ℕ) :
    decodeAttributesFrom fuel offset (encodeAttributes attrs) = .ok attrs := by
  induction attrs generalizing fuel offset with
  | nil =>
    show decodeAttributesFrom fuel offset [] = .ok []
    unfold decodeAttributesFrom
    rfl
  | cons attr attrs ih =>
    have hval := h attr (List.mem_cons_self ..)
    unfold maxValueLength at hval
    have hlen : (UInt8.ofNat (2 + attr.value.length)).toNat = 2 + attr.value.length := by
      rw [UInt8.toNat_ofNat']
      omega
    rw [encodeAttributes_cons, List.length_cons, List.length_cons, List.length_append] at hf
    obtain ⟨fuel, rfl⟩ : ∃ k, fuel = k + 1 := ⟨fuel - 1, by omega⟩
    rw [encodeAttributes_cons]
    unfold decodeAttributesFrom
    rw [hlen, if_neg (by omega), if_neg (by rw [List.length_append]; omega),
      Nat.add_sub_cancel_left, List.drop_left, List.take_left,
      ih (fun a ha => h a (List.mem_cons_of_mem _ ha)) (by omega)]
    rfl

theorem decodeAttributes_encodeAttributes {attrs : List Attribute}
    (h : ∀ attr ∈ attrs, attr.value.length ≤ maxValueLength) :
    decodeAttributes (encodeAttributes attrs) = .ok attrs :=
  decodeAttributesFrom_encodeAttributes h (Nat.le_refl _) 0

theorem decodeAttributesFrom_ok {fuel offset : ℕ} {type length : UInt8} {rest : Bytes}
    {attrs : List Attribute}
    (h : decodeAttributesFrom (fuel + 1) offset (type :: length :: rest) = .ok attrs) :
    2 ≤ length.toNat ∧ length.toNat ≤ rest.length + 2 ∧
      ∃ tail, attrs = ⟨type, rest.take (length.toNat - 2)⟩ :: tail ∧
        decodeAttributesFrom fuel (offset + length.toNat) (rest.drop (length.toNat - 2)) =
          .ok tail := by
  unfold decodeAttributesFrom at h
  split_ifs at h with h2 hle
  obtain ⟨tail, htail, h⟩ := Results.of_bind_ok h
  cases h
  exact ⟨by omega, by omega, tail, rfl, htail⟩

theorem encodeAttributes_of_decodeAttributesFrom {fuel offset : ℕ} {data : Bytes}
    {attrs : List Attribute} (h : decodeAttributesFrom fuel offset data = .ok attrs) :
    encodeAttributes attrs = data := by
  induction fuel generalizing offset data attrs with
  | zero =>
    match data with
    | [] =>
      cases h
      rfl
    | _ :: _ => cases h
  | succ fuel ih =>
    match data with
    | [] =>
      cases h
      rfl
    | [_] => cases h
    | type :: length :: rest =>
      obtain ⟨h2, hle, tail, rfl, htail⟩ := decodeAttributesFrom_ok h
      have hlen : (rest.take (length.toNat - 2)).length = length.toNat - 2 := by
        rw [List.length_take]
        omega
      have hoctet : UInt8.ofNat (2 + (length.toNat - 2)) = length := by
        rw [show 2 + (length.toNat - 2) = length.toNat by omega]
        exact UInt8.ofNat_toNat
      rw [encodeAttributes_cons, hlen, hoctet, ih htail, List.take_append_drop]

theorem encodeAttributes_decodeAttributes {data : Bytes} {attrs : List Attribute}
    (h : decodeAttributes data = .ok attrs) : encodeAttributes attrs = data :=
  encodeAttributes_of_decodeAttributesFrom h

/-! ## Making attributes -/

def makeAttribute (type : UInt8) (value : Bytes) : Attribute := ⟨type, value⟩

def makeStringAttribute (type : UInt8) (value : String) : Attribute := ⟨type, Bytes.ofString value⟩

def makeIntegerAttribute (type : UInt8) (value : UInt32) : Attribute :=
  ⟨type, Bytes.putUint32 value⟩

/-- A vendor-specific attribute, with the vendor in three octets, lowest first. -/
def encodeVSA (vendorID : UInt32) (vendorType : UInt8) (data : Bytes) : Attribute where
  type := attrVendorSpecific
  value :=
    [vendorID.toUInt8, (vendorID >>> 8).toUInt8, (vendorID >>> 16).toUInt8, vendorType] ++ data

/-- The slice type and the three octets of the differentiator, zero if it is none. -/
def encodeSnssaiVSA (sst : UInt8) (sd : String) : Bytes :=
  match Hex.decodeString sd with
  | some [a, b, c] => [sst, a, b, c]
  | _ => [sst, 0, 0, 0]

/-- The slice type and the differentiator in digits of upper case, empty if there is none. -/
def decodeSnssaiVSA : Bytes → Except String (UInt8 × String)
  | [] => .error "radius: SNSSAI VSA data too short: 0 bytes"
  | sst :: a :: b :: c :: _ => .ok (sst, (Hex.encodeToString [a, b, c]).toUpper)
  | sst :: _ => .ok (sst, "")

def make3GPPSNSSAIAttribute (sst : UInt8) (sd : String) : Attribute :=
  encodeVSA vendorID3GPP vendorTypeSNSSAI (encodeSnssaiVSA sst sd)

structure VSA where
  vendorID : UInt32
  vendorType : UInt8
  data : Bytes
  deriving DecidableEq

def decodeVSA (attr : Attribute) : Except String VSA :=
  if attr.type ≠ attrVendorSpecific then .error "radius: invalid VSA: not a VSA"
  else
    match attr.value with
    | a :: b :: c :: vendorType :: d :: ds =>
      .ok ⟨a.toUInt32 ||| b.toUInt32 <<< 8 ||| c.toUInt32 <<< 16, vendorType, d :: ds⟩
    | value =>
      .error ("radius: invalid VSA: VSA data too short: " ++ toString value.length ++
        " bytes (min 5)")

theorem toNat_vendorID (a b c : UInt8) :
    (a.toUInt32 ||| b.toUInt32 <<< 8 ||| c.toUInt32 <<< 16).toNat =
      a.toNat + 256 * b.toNat + 65536 * c.toNat := by
  have ha := a.toNat_lt
  have hb : (b.toUInt32 <<< 8).toNat = b.toNat <<< 8 := by
    have := b.toNat_lt
    simp
    omega
  have hc : (c.toUInt32 <<< 16).toNat = c.toNat <<< 16 := by
    have := c.toNat_lt
    simp
    omega
  have hlow : b.toNat <<< 8 + a.toNat < 2 ^ 16 := by
    have := b.toNat_lt
    rw [Nat.shiftLeft_eq]
    omega
  rw [UInt32.toNat_or, UInt32.toNat_or, hb, hc, UInt8.toNat_toUInt32, Nat.or_comm a.toNat,
    ← Nat.shiftLeft_add_eq_or_of_lt ha, Nat.or_comm, ← Nat.shiftLeft_add_eq_or_of_lt hlow,
    Nat.shiftLeft_eq, Nat.shiftLeft_eq]
  omega

theorem decodeVSA_encodeVSA_iff (vendorID : UInt32) (vendorType : UInt8) (data : Bytes) :
    decodeVSA (encodeVSA vendorID vendorType data) = .ok ⟨vendorID, vendorType, data⟩ ↔
      vendorID < 16777216 ∧ data ≠ [] := by
  have hoctets : vendorID.toUInt8.toNat + 256 * (vendorID >>> 8).toUInt8.toNat +
      65536 * (vendorID >>> 16).toUInt8.toNat = vendorID.toNat % 16777216 := by
    simp [Nat.shiftRight_eq_div_pow]
    omega
  cases data with
  | nil => simp [decodeVSA, encodeVSA]
  | cons d ds =>
    simp only [decodeVSA, encodeVSA, List.cons_append, List.nil_append, ne_eq, not_true_eq_false,
      if_false, Except.ok.injEq, VSA.mk.injEq, and_true, reduceCtorEq, not_false_eq_true]
    rw [← UInt32.toNat_inj, toNat_vendorID, hoctets, UInt32.lt_iff_toNat_lt]
    exact ⟨fun h => h ▸ Nat.mod_lt _ (by decide), Nat.mod_eq_of_lt⟩

theorem encodeVSA_of_decodeVSA {attr : Attribute} {vsa : VSA} (hdecode : decodeVSA attr = .ok vsa) :
    encodeVSA vsa.vendorID vsa.vendorType vsa.data = attr := by
  obtain ⟨type, value⟩ := attr
  unfold decodeVSA at hdecode
  dsimp only at hdecode
  split_ifs at hdecode with htype
  rw [not_not] at htype
  subst htype
  split at hdecode
  · next a b c vendorType d ds =>
    cases hdecode
    have ha := a.toNat_lt
    have hb := b.toNat_lt
    have hc := c.toNat_lt
    have hvendorID := toNat_vendorID a b c
    generalize a.toUInt32 ||| b.toUInt32 <<< 8 ||| c.toUInt32 <<< 16 = vendorID at hvendorID ⊢
    unfold encodeVSA
    simp [← UInt8.toNat_inj, Nat.shiftRight_eq_div_pow, hvendorID]
    omega
  · cases hdecode

/-- **Vendor-specific attributes.** What is encoded is decoded just if there are data and the vendor
fits into three octets; what is decoded was encoded. -/
theorem vsa_codec :
    (∀ vendorID vendorType data,
      decodeVSA (encodeVSA vendorID vendorType data) = .ok ⟨vendorID, vendorType, data⟩ ↔
        vendorID < 16777216 ∧ data ≠ []) ∧
    ∀ attr vsa, decodeVSA attr = .ok vsa →
      encodeVSA vsa.vendorID vsa.vendorType vsa.data = attr :=
  ⟨decodeVSA_encodeVSA_iff, fun _ _ => encodeVSA_of_decodeVSA⟩

theorem vsa_codec_snssai :
    decodeVSA (make3GPPSNSSAIAttribute 1 "000001") = .ok ⟨10415, 200, [1, 0, 0, 1]⟩ :=
  (vsa_codec.1 10415 200 [1, 0, 0, 1]).mpr (by decide)

/-! ## EAP messages in attributes -/

/-- Cuts an EAP message into pieces that fit into attributes. -/
def fragmentEAPMessage (payload : Bytes) (maxSize : ℕ) : List Bytes :=
  if payload.length ≤ maxSize then [payload] else Bytes.pieces maxSize payload.length payload

def assembleEAPMessage (attrs : List Attribute) : Bytes :=
  attrs.flatMap fun attr => if attr.type = attrEAPMessage then attr.value else []

theorem flatten_fragmentEAPMessage (payload : Bytes) {maxSize : ℕ} (h : 0 < maxSize) :
    (fragmentEAPMessage payload maxSize).flatten = payload := by
  unfold fragmentEAPMessage
  split_ifs
  · rw [List.flatten_singleton]
  · exact Bytes.flatten_pieces h (Nat.le_refl _)

theorem length_le_of_mem_fragmentEAPMessage {payload frag : Bytes} {maxSize : ℕ}
    (h : frag ∈ fragmentEAPMessage payload maxSize) : frag.length ≤ maxSize := by
  unfold fragmentEAPMessage at h
  split_ifs at h with hle
  · rw [List.mem_singleton.mp h]
    exact hle
  · exact Bytes.length_le_of_mem_pieces h

theorem assembleEAPMessage_map (frags : List Bytes) :
    assembleEAPMessage (frags.map (makeAttribute attrEAPMessage)) = frags.flatten := by
  unfold assembleEAPMessage makeAttribute
  rw [List.flatMap_map, List.flatMap_def]
  simp

theorem assembleEAPMessage_filter (attrs : List Attribute) :
    assembleEAPMessage (attrs.filter fun attr => attr.type = attrEAPMessage) =
      assembleEAPMessage attrs := by
  induction attrs with
  | nil => rfl
  | cons attr attrs ih =>
    by_cases h : attr.type = attrEAPMessage
    · rw [List.filter_cons_of_pos (by simpa using h)]
      unfold assembleEAPMessage at ih ⊢
      rw [List.flatMap_cons, List.flatMap_cons, ih]
    · rw [List.filter_cons_of_neg (by simpa using h), ih]
      unfold assembleEAPMessage
      rw [List.flatMap_cons, if_neg h, List.nil_append]

/-- The attributes are the pieces of an EAP message, in their order, with attributes of other types
among them. -/
structure Carries (payload : Bytes) (maxSize : ℕ) (attrs : List Attribute) : Prop where
  pieces : attrs.filter (fun attr => attr.type = attrEAPMessage) =
    (fragmentEAPMessage payload maxSize).map (makeAttribute attrEAPMessage)
  others : ∀ attr ∈ attrs, attr.type ≠ attrEAPMessage → attr.value.length ≤ maxValueLength

namespace Carries

variable {payload : Bytes} {maxSize : ℕ} {attrs : List Attribute}

theorem length_le (h : Carries payload maxSize attrs) (hle : maxSize ≤ maxValueLength) :
    ∀ attr ∈ attrs, attr.value.length ≤ maxValueLength := by
  intro attr hattr
  by_cases ht : attr.type = attrEAPMessage
  · have hmem : attr ∈ attrs.filter fun attr => attr.type = attrEAPMessage :=
      List.mem_filter.mpr ⟨hattr, by simpa using ht⟩
    rw [h.pieces] at hmem
    obtain ⟨frag, hfrag, rfl⟩ := List.mem_map.mp hmem
    exact Nat.le_trans (length_le_of_mem_fragmentEAPMessage hfrag) hle
  · exact h.others attr hattr ht

theorem assembleEAPMessage_eq (h : Carries payload maxSize attrs) (hpos : 0 < maxSize) :
    assembleEAPMessage attrs = payload := by
  rw [← assembleEAPMessage_filter, h.pieces, assembleEAPMessage_map,
    flatten_fragmentEAPMessage payload hpos]

/-- The message is put together again, whatever else was encoded and decoded with it. -/
theorem assembleEAPMessage_decoded (h : Carries payload maxSize attrs) (hpos : 0 < maxSize)
    (hle : maxSize ≤ maxValueLength) :
    (decodeAttributes (encodeAttributes attrs)).map assembleEAPMessage = .ok payload := by
  rw [decodeAttributes_encodeAttributes (h.length_le hle)]
  show Except.ok (assembleEAPMessage attrs) = Except.ok payload
  rw [h.assembleEAPMessage_eq hpos]

end Carries

/-- **The attribute codec.** What is encoded is decoded, if every value fits; what is decoded was
encoded; and an EAP message comes through, whatever else is sent with it. -/
theorem attribute_codec (attrs : List Attribute) (data payload : Bytes) :
    ((∀ attr ∈ attrs, attr.value.length ≤ maxValueLength) →
        decodeAttributes (encodeAttributes attrs) = .ok attrs) ∧
      (∀ as, decodeAttributes data = .ok as → encodeAttributes as = data) ∧
      (Carries payload maxValueLength attrs →
        (decodeAttributes (encodeAttributes attrs)).map assembleEAPMessage = .ok payload) := by
  refine ⟨fun h => decodeAttributes_encodeAttributes h,
    fun as h => encodeAttributes_decodeAttributes h, fun h => ?_⟩
  exact h.assembleEAPMessage_decoded (by decide) (Nat.le_refl _)

namespace Sample

/-- A message of 260 octets. -/
def long : Bytes := [2, 7, 1, 4, 13] ++ List.replicate 255 9

/-- A state stands between the two pieces of the message. -/
def mixed : List Attribute :=
  [makeAttribute attrUserName [117, 101], makeAttribute attrEAPMessage (long.take 253),
    makeAttribute attrState [9], makeAttribute attrEAPMessage (long.drop 253)]

end Sample

open Sample in
theorem attribute_codec_mixed :
    decodeAttributes (encodeAttributes mixed) = .ok mixed ∧
      encodeAttributes [makeAttribute attrState [9]] = [24, 3, 9] ∧
      (decodeAttributes (encodeAttributes mixed)).map assembleEAPMessage = .ok long :=
  ⟨(attribute_codec mixed [24, 3, 9] long).1 (by decide +kernel),
    (attribute_codec mixed [24, 3, 9] long).2.1 _ (by rfl),
    (attribute_codec mixed [24, 3, 9] long).2.2 ⟨by decide +kernel, by decide +kernel⟩⟩

end NssAAF.Radius
