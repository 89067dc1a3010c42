import NssAAF.Radius.Attribute
import NssAAF.Api.Common

/-!
# The octets of an S-NSSAI

There are three encoders of a slice: `EncodeSnssaiVSA` of `internal/radius/vsa.go`,
`EncodeSnssaiAVP` of `internal/diameter/snssai_avp.go` with its decoder in
`internal/diameter/eap_avp.go`, and the type `SNSSAI` of `internal/diameter/messages/snssai.go`. The
last two leave out a differentiator that is absent and refuse one that is not six hexadecimal
digits; the first one writes zeros in both cases.

`one_format_iff`: the three agree exactly on the differentiators that the API accepts.
-/

namespace NssAAF.Diameter

/-! ## The AVP -/

def vendorID3GPP : UInt32 := 10415

def avp3GPPSNSSAI : UInt32 := 200

def mbit : UInt8 := 0x40
def vbit : UInt8 := 0x80

/-- The value of an AVP: octets, or a value of another type. -/
inductive AvpData
  | octetString (os : Bytes)
  | other (type : String)
  deriving DecidableEq

structure Avp where
  code : UInt32
  flags : UInt8
  vendorID : UInt32
  data : AvpData
  deriving DecidableEq

def errInvalidSD : String := "SNSSAI SD must be exactly 6 hexadecimal characters"

def parseSDToBytes (sd : String) : Except String Bytes :=
  if sd.utf8ByteSize ≠ 6 then .error errInvalidSD
  else
    match Hex.decodeString sd with
    | none => .error errInvalidSD
    | some b => if b.length ≠ 3 then .error errInvalidSD else .ok b

def newSnssaiAVP (data : Bytes) : Avp :=
  ⟨avp3GPPSNSSAI, mbit ||| vbit, vendorID3GPP, .octetString data⟩

def encodeSnssaiAVP (sst : UInt8) (sd : String) : Except String Avp :=
  if sd = "" then .ok (newSnssaiAVP [sst])
  else
    match parseSDToBytes sd with
    | .error err => .error ("diameter: invalid SNSSAI SD " ++ Api.quote sd ++ ": " ++ err)
    | .ok sdBytes => .ok (newSnssaiAVP (sst :: sdBytes))

def hexChars : List Char := "0123456789ABCDEF".toList

def hexPair (v : UInt8) : List Char :=
  [hexChars.getD (v >>> 4).toNat '0', hexChars.getD (v &&& 0x0F).toNat '0']

def encodeHex (b : Bytes) : String := String.ofList (b.flatMap hexPair)

/-- Reads the slice of a message. `findAVPs` gives the AVPs of the message with a code and a
vendor. -/
def decodeSnssaiAVP (findAVPs : UInt32 → UInt32 → Except String (List Avp)) :
    Except String (UInt8 × String) :=
  match findAVPs avp3GPPSNSSAI vendorID3GPP with
  | .error err => .error ("diameter: FindAVPs failed: " ++ err)
  | .ok [] => .ok (0, "")
  | .ok (avp :: _) =>
    match avp.data with
    | .other type => .error ("diameter: 3GPP-S-NSSAI AVP has unexpected type " ++ type)
    | .octetString [] =>
      .error "diameter: 3GPP-S-NSSAI AVP too short: need at least 1 byte for SST"
    | .octetString (sst :: a :: b :: c :: _) => .ok (sst, encodeHex [a, b, c])
    | .octetString (sst :: _) => .ok (sst, "")

/-! ## The type of the messages -/

structure SNSSAI where
  sst : UInt8
  sd : UInt8 × UInt8 × UInt8
  hasSD : Bool
  deriving DecidableEq

namespace SNSSAI

def zero : SNSSAI := ⟨0, (0, 0, 0), false⟩

def errInvalidSST : String := "SNSSAI SST must be in range 0-255"

def new (sst : UInt8) (sd : String) : Except String SNSSAI :=
  if 255 < sst then .error errInvalidSST
  else if sd = "" then .ok ⟨sst, (0, 0, 0), false⟩
  else if sd.utf8ByteSize ≠ 6 then .error errInvalidSD
  else
    match Hex.decodeString sd with
    | some [a, b, c] => .ok ⟨sst, (a, b, c), true⟩
    | _ => .error errInvalidSD

def marshalBinary (s : SNSSAI) : Bytes :=
  s.sst :: (if s.hasSD then [s.sd.1, s.sd.2.1, s.sd.2.2] else [])

def unmarshalBinary (s : SNSSAI) : Bytes → Except String SNSSAI
  | [] => .error "SNSSAI: need at least 1 byte for SST"
  | sst :: a :: b :: c :: _ => .ok ⟨sst, (a, b, c), true⟩
  | sst :: _ => .ok { s with sst }

def sdString (s : SNSSAI) : String :=
  if s.hasSD then Hex.encodeToString [s.sd.1, s.sd.2.1, s.sd.2.2] else ""

end SNSSAI

/-! ## Three codecs -/

/-- An encoder of slices with its decoder. -/
structure SnssaiCodec where
  encode : UInt8 → String → Except String Bytes
  decode : Bytes → Except String (UInt8 × String)

def radiusCodec : SnssaiCodec where
  encode sst sd := .ok (Radius.encodeSnssaiVSA sst sd)
  decode := Radius.decodeSnssaiVSA

def Avp.octets (avp : Avp) : Bytes :=
  match avp.data with
  | .octetString os => os
  | .other _ => []

/-- The decoder reads a message in which the AVP is found. -/
def diameterCodec : SnssaiCodec where
  encode sst sd := (encodeSnssaiAVP sst sd).map Avp.octets
  decode data := decodeSnssaiAVP fun _ _ => .ok [newSnssaiAVP data]

def messagesCodec : SnssaiCodec where
  encode sst sd := (SNSSAI.new sst sd).map SNSSAI.marshalBinary
  decode data := (SNSSAI.zero.unmarshalBinary data).map fun s => (s.sst, s.sdString)

def snssaiCodecs : List SnssaiCodec := [radiusCodec, diameterCodec, messagesCodec]

/-- Two texts are the same up to the case of their letters. -/
def SameUpToCase (s t : String) : Prop := s.toList.map Char.toLower = t.toList.map Char.toLower

instance : DecidableRel SameUpToCase := fun s t =>
  inferInstanceAs (Decidable (s.toList.map Char.toLower = t.toList.map Char.toLower))

/-- The encoders all refuse the slice, or they all give the same octets, from which every decoder
reads the slice. -/
def OneFormat (sst : UInt8) (sd : String) : Prop :=
  (∀ codec ∈ snssaiCodecs, ∃ err, codec.encode sst sd = .error err) ∨
    ∃ octets, ∀ codec ∈ snssaiCodecs, codec.encode sst sd = .ok octets ∧
      ∃ sd', codec.decode octets = .ok (sst, sd') ∧ SameUpToCase sd' sd

/-! ### Six digits -/

theorem isHexDigit_iff {c : Char} : Api.isHexDigit c = true ↔ (Hex.value? c).isSome := by
  have hdigit : c.isDigit = true ↔ '0' ≤ c ∧ c ≤ '9' := by
    unfold Char.isDigit
    rw [Bool.and_eq_true, decide_eq_true_eq, decide_eq_true_eq]
    rfl
  rw [Hex.value?_isSome_iff]
  unfold Api.isHexDigit
  simp only [Bool.or_eq_true, Bool.and_eq_true, decide_eq_true_eq, hdigit]
  tauto

/-- The API accepts the differentiators that stand for three octets. -/
theorem sdMatches_iff {sd : String} :
    Api.sdMatches sd = true ↔ ∃ a b c, Hex.decodeString sd = some [a, b, c] := by
  have hthree : (∃ a b c, Hex.decodeString sd = some [a, b, c]) ↔
      ∃ octets, Hex.decode sd.toList = some octets ∧ octets.length = 3 := by
    constructor
    · rintro ⟨a, b, c, h⟩
      exact ⟨[a, b, c], h, rfl⟩
    · rintro ⟨octets, h, hlen⟩
      obtain ⟨a, b, c, rfl⟩ := List.length_eq_three.mp hlen
      exact ⟨a, b, c, h⟩
  rw [hthree, Hex.decode_isSome_iff]
  unfold Api.sdMatches
  simp only [Bool.and_eq_true, beq_iff_eq, List.all_eq_true, isHexDigit_iff]

/-! ### Digits and their case -/

theorem toLower_hexChars {n : ℕ} (h : n < 16) :
    (hexChars.getD n '0').toLower = Hex.digit (UInt8.ofNat n) := by
  have hall : ∀ n < 16, (hexChars.getD n '0').toLower = Hex.digit (UInt8.ofNat n) := by decide
  exact hall n h

theorem toLower_toUpper_digit {v : UInt8} (h : v.toNat < 16) :
    (Hex.digit v).toUpper.toLower = Hex.digit v := by
  have hall : ∀ n < 16, (Hex.digit (UInt8.ofNat n)).toUpper.toLower =
      Hex.digit (UInt8.ofNat n) := by decide
  have hv := hall v.toNat h
  rwa [UInt8.ofNat_toNat] at hv

theorem toLower_digit {v : UInt8} (h : v.toNat < 16) : (Hex.digit v).toLower = Hex.digit v := by
  have hall : ∀ n < 16, (Hex.digit (UInt8.ofNat n)).toLower = Hex.digit (UInt8.ofNat n) := by
    decide
  have hv := hall v.toNat h
  rwa [UInt8.ofNat_toNat] at hv

theorem toNat_div_lt (v : UInt8) : (v / 16).toNat < 16 := by
  have h := v.toNat_lt
  rw [UInt8.toNat_div]
  show v.toNat / 16 < 16
  omega

theorem toNat_mod_lt (v : UInt8) : (v % 16).toNat < 16 := by
  rw [UInt8.toNat_mod]
  exact Nat.mod_lt _ (by decide)

theorem map_toLower_hexPair (v : UInt8) :
    (hexPair v).map Char.toLower = [Hex.digit (v / 16), Hex.digit (v % 16)] := by
  have hdiv : (v >>> 4).toNat = (v / 16).toNat := by
    rw [UInt8.toNat_shiftRight, UInt8.toNat_div]
    exact Nat.shiftRight_eq_div_pow v.toNat 4
  have hmod : (v &&& 0x0F).toNat = (v % 16).toNat := by
    rw [UInt8.toNat_and, UInt8.toNat_mod]
    exact Nat.and_two_pow_sub_one_eq_mod v.toNat 4
  unfold hexPair
  rw [hdiv, hmod, List.map_cons, List.map_cons, List.map_nil,
    toLower_hexChars (toNat_div_lt v), toLower_hexChars (toNat_mod_lt v), UInt8.ofNat_toNat,
    UInt8.ofNat_toNat]

theorem sameUpToCase_of_digits {sd text : String} {b : Bytes} (h : Hex.decodeString sd = some b)
    (htext : text.toList.map Char.toLower =
      b.flatMap fun x => [Hex.digit (x / 16), Hex.digit (x % 16)]) : SameUpToCase text sd := by
  unfold SameUpToCase
  rw [htext, Hex.digits_of_decode h]

theorem map_toLower_encodeHex (b : Bytes) :
    (encodeHex b).toList.map Char.toLower =
      b.flatMap fun x => [Hex.digit (x / 16), Hex.digit (x % 16)] := by
  unfold encodeHex
  rw [String.toList_ofList, List.map_flatMap]
  congr 1
  funext v
  exact map_toLower_hexPair v

theorem map_toLower_encodeToString (b : Bytes) :
    (Hex.encodeToString b).toList.map Char.toLower =
      b.flatMap fun x => [Hex.digit (x / 16), Hex.digit (x % 16)] := by
  unfold Hex.encodeToString
  rw [String.toList_ofList, List.map_flatMap]
  congr 1
  funext v
  rw [List.map_cons, List.map_cons, List.map_nil, toLower_digit (toNat_div_lt v),
    toLower_digit (toNat_mod_lt v)]

theorem map_toLower_toUpper_encodeToString (b : Bytes) :
    (Hex.encodeToString b).toUpper.toList.map Char.toLower =
      b.flatMap fun x => [Hex.digit (x / 16), Hex.digit (x % 16)] := by
  unfold String.toUpper Hex.encodeToString
  rw [String.toList_map, String.toList_ofList, List.map_map, List.map_flatMap]
  congr 1
  funext v
  rw [List.map_cons, List.map_cons, List.map_nil, Function.comp_apply, Function.comp_apply,
    toLower_toUpper_digit (toNat_div_lt v), toLower_toUpper_digit (toNat_mod_lt v)]

/-! ### What each of them does -/

section Six

variable {sd : String} {a b c : UInt8} (h : Hex.decodeString sd = some [a, b, c]) (sst : UInt8)

include h

theorem ne_empty : sd ≠ "" := by
  rintro rfl
  cases h

theorem parseSDToBytes_ok : parseSDToBytes sd = .ok [a, b, c] := by
  have hsize : sd.utf8ByteSize = 6 := Hex.utf8ByteSize_of_decode h
  unfold parseSDToBytes
  rw [if_neg (not_not.mpr hsize), h]
  rfl

theorem radiusCodec_encode : radiusCodec.encode sst sd = .ok [sst, a, b, c] := by
  show Except.ok (Radius.encodeSnssaiVSA sst sd) = _
  unfold Radius.encodeSnssaiVSA
  rw [h]

theorem diameterCodec_encode : diameterCodec.encode sst sd = .ok [sst, a, b, c] := by
  show (encodeSnssaiAVP sst sd).map Avp.octets = _
  unfold encodeSnssaiAVP
  rw [if_neg (ne_empty h), parseSDToBytes_ok h]
  rfl

theorem messagesCodec_encode : messagesCodec.encode sst sd = .ok [sst, a, b, c] := by
  have hsst : ¬ 255 < sst := by
    have hlt := sst.toNat_lt
    rw [UInt8.lt_iff_toNat_lt]
    show ¬ 255 < sst.toNat
    omega
  have hsize : sd.utf8ByteSize = 6 := Hex.utf8ByteSize_of_decode h
  show (SNSSAI.new sst sd).map SNSSAI.marshalBinary = _
  unfold SNSSAI.new
  rw [if_neg hsst, if_neg (ne_empty h), if_neg (not_not.mpr hsize), h]
  rfl

/-- Six digits are written and read alike by all of them. -/
theorem oneFormat_of_digits : OneFormat sst sd := by
  refine Or.inr ⟨[sst, a, b, c], fun codec hcodec => ?_⟩
  simp only [snssaiCodecs, List.mem_cons, List.not_mem_nil, or_false] at hcodec
  rcases hcodec with rfl | rfl | rfl
  · exact ⟨radiusCodec_encode h sst, _, rfl,
      sameUpToCase_of_digits h (map_toLower_toUpper_encodeToString _)⟩
  · exact ⟨diameterCodec_encode h sst, _, rfl, sameUpToCase_of_digits h (map_toLower_encodeHex _)⟩
  · exact ⟨messagesCodec_encode h sst, _, rfl,
      sameUpToCase_of_digits h (map_toLower_encodeToString _)⟩

end Six

/-- The Diameter encoder takes no other differentiators than six digits and the absent one. -/
theorem encodeSnssaiAVP_ok {sst : UInt8} {sd : String} {avp : Avp}
    (h : encodeSnssaiAVP sst sd = .ok avp) :
    (sd = "" ∧ avp = newSnssaiAVP [sst]) ∨ ∃ a b c, Hex.decodeString sd = some [a, b, c] := by
  unfold encodeSnssaiAVP at h
  split_ifs at h with hsd
  · exact Or.inl ⟨hsd, (Except.ok.inj h).symm⟩
  · right
    unfold parseSDToBytes at h
    split at h
    · cases h
    · next sdBytes hparse =>
      split_ifs at hparse with hsize
      split at hparse
      · cases hparse
      · next octets hdecode =>
        split_ifs at hparse with hlen
        obtain ⟨a, b, c, rfl⟩ := List.length_eq_three.mp (not_not.mp hlen)
        exact ⟨a, b, c, hdecode⟩

/-- If they agree, the differentiator has six digits: RADIUS refuses nothing, and writes an absent
one as zeros. -/
theorem digits_of_oneFormat {sst : UInt8} {sd : String} (h : OneFormat sst sd) :
    ∃ a b c, Hex.decodeString sd = some [a, b, c] := by
  rcases h with hreject | ⟨octets, hall⟩
  · obtain ⟨err, herr⟩ := hreject radiusCodec (by simp [snssaiCodecs])
    cases herr
  · have hradius := (hall radiusCodec (by simp [snssaiCodecs])).1
    have hdiameter := (hall diameterCodec (by simp [snssaiCodecs])).1
    obtain ⟨avp, havp, hoctets⟩ := Results.of_map_ok hdiameter
    rcases encodeSnssaiAVP_ok havp with ⟨rfl, rfl⟩ | hdigits
    · have hlong : octets = [sst, 0, 0, 0] := (Except.ok.inj hradius).symm
      rw [hlong] at hoctets
      cases hoctets
    · exact hdigits

/-- **One format.** The three encoders agree, and what they write is read back, exactly if the
differentiator has six hexadecimal digits. -/
theorem one_format_iff (sst : UInt8) (sd : String) :
    OneFormat sst sd ↔ Api.sdMatches sd = true := by
  rw [sdMatches_iff]
  constructor
  · exact digits_of_oneFormat
  · rintro ⟨a, b, c, h⟩
    exact oneFormat_of_digits h sst

theorem absent_sd_is_zero :
    ¬ OneFormat 1 "" ∧ radiusCodec.encode 1 "" = radiusCodec.encode 1 "000000" ∧
      diameterCodec.encode 1 "" = .ok [1] ∧ ¬ OneFormat 1 "12345G" ∧
      radiusCodec.encode 1 "12345G" = .ok [1, 0, 0, 0] := by
  refine ⟨fun h => ?_, rfl, rfl, fun h => ?_, rfl⟩
  · exact absurd (sdMatches_iff.mpr (digits_of_oneFormat h)) (by decide)
  · exact absurd (sdMatches_iff.mpr (digits_of_oneFormat h)) (by decide)

end NssAAF.Diameter
