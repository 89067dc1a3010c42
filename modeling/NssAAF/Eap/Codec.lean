import NssAAF.Lib.Bytes

/-!
# EAP packets

The wire format of `internal/eap/codec.go` and the code points of `internal/eap/state.go`. A
packet is a four-octet header (code, identifier, length), for a Request or a Response one type
octet, and the data. `parse` accepts a string only if its length field is its length.

`parse_code_of_header` is what the rest of the development needs of the parser: a string of the
length its header announces, with the code of a Success or a Failure, is such a packet whatever
follows the header.
-/

namespace NssAAF.Eap

abbrev Code : Type := UInt8

def codeRequest : Code := 1
def codeResponse : Code := 2
def codeSuccess : Code := 3
def codeFailure : Code := 4

def Code.IsValid (c : Code) : Prop := codeRequest ≤ c ∧ c ≤ codeFailure

instance : DecidablePred Code.IsValid := fun c =>
  inferInstanceAs (Decidable (codeRequest ≤ c ∧ c ≤ codeFailure))

/-- The name of a code in log lines and error texts. -/
def Code.string (c : Code) : String :=
  if c = codeRequest then "REQUEST"
  else if c = codeResponse then "RESPONSE"
  else if c = codeSuccess then "SUCCESS"
  else if c = codeFailure then "FAILURE"
  else "UNKNOWN(" ++ toString c.toNat ++ ")"

abbrev Method : Type := UInt8

def methodIdentity : Method := 1
def methodTLS : Method := 13

def maxEAPSize : ℕ := 65535

/-- A decoded packet. `type` is zero for a Success or a Failure. -/
structure Packet where
  code : Code
  id : UInt8
  length : UInt16
  type : UInt8
  data : Bytes
  rawData : Bytes
  deriving DecidableEq

inductive ParseError
  | tooShort (got : ℕ)
  | unexpectedLength (length got : ℕ)
  | tooLarge (length : ℕ)
  | invalidCode (code : Code)
  | missingType
  deriving DecidableEq

def ParseError.text : ParseError → String
  | .tooShort got => "eap: invalid packet: need at least 4 bytes, got " ++ toString got
  | .unexpectedLength length got =>
    "eap: unexpected length: header says " ++ toString length ++ ", got " ++ toString got ++
      " bytes"
  | .tooLarge length =>
    "eap: invalid packet: " ++ toString length ++ " bytes exceeds max " ++ toString maxEAPSize
  | .invalidCode code => "eap: invalid packet: code=" ++ toString code.toNat
  | .missingType => "eap: invalid packet: missing type field"

/-- Only a Request and a Response have a type octet. -/
def Code.HasType (c : Code) : Prop := c = codeRequest ∨ c = codeResponse

instance : DecidablePred Code.HasType := fun c =>
  inferInstanceAs (Decidable (c = codeRequest ∨ c = codeResponse))

theorem Code.success_or_failure {c : Code} (hv : c.IsValid) (ht : ¬ c.HasType) :
    c = codeSuccess ∨ c = codeFailure := by
  obtain ⟨h1, h2⟩ := hv
  unfold HasType at ht
  simp only [codeRequest, codeResponse, codeSuccess, codeFailure, UInt8.le_iff_toNat_le,
    ← UInt8.toNat_inj, UInt8.reduceToNat] at *
  omega

def parse (data : Bytes) : Except ParseError Packet :=
  match data with
  | code :: id :: hi :: lo :: body =>
    let length := Bytes.uint16 hi lo
    if length.toNat ≠ data.length then .error (.unexpectedLength length.toNat data.length)
    else if maxEAPSize < length.toNat then .error (.tooLarge length.toNat)
    else if ¬ Code.IsValid code then .error (.invalidCode code)
    else if Code.HasType code then
      match body with
      | [] => .error .missingType
      | type :: rest => .ok ⟨code, id, length, type, rest, data⟩
    else .ok ⟨code, id, length, 0, body, data⟩
  | _ => .error (.tooShort data.length)

/-- Serialises a packet. Data that does not fit is cut off. -/
def encode (p : Packet) : Bytes :=
  let header := if p.code.HasType then 5 else 4
  let length := min (header + p.data.length) maxEAPSize
  let type := if p.code.HasType then [p.type] else []
  p.code :: p.id :: (Bytes.putUint16 length ++ type ++ p.data.take (length - header))

/-- A packet with the given fields and its own encoding as raw data. -/
def build (code : Code) (id : UInt8) (length : UInt16) (type : UInt8) (data : Bytes) : Packet :=
  { code, id, length, type, data, rawData := encode ⟨code, id, length, type, data, []⟩ }

def buildRequest (id : UInt8) (method : Method) (data : Bytes) : Packet :=
  build codeRequest id (5 + UInt16.ofNat data.length) method data

def buildResponse (id : UInt8) (method : Method) (data : Bytes) : Packet :=
  build codeResponse id (5 + UInt16.ofNat data.length) method data

def buildSuccess (id : UInt8) : Packet := build codeSuccess id 4 0 []

def buildFailure (id : UInt8) : Packet := build codeFailure id 4 0 []

/-! ## What is accepted -/

/-- What follows the header of a packet. -/
def Packet.body (p : Packet) : Bytes := (if p.code.HasType then [p.type] else []) ++ p.data

theorem Packet.length_body (p : Packet) :
    p.body.length = (if p.code.HasType then 1 else 0) + p.data.length := by
  unfold body
  rw [List.length_append]
  split_ifs <;> rfl

theorem parse_ok_cases {data : Bytes} {p : Packet} (h : parse data = .ok p) :
    ∃ hi lo, data = p.code :: p.id :: hi :: lo :: p.body ∧
      (Bytes.uint16 hi lo).toNat = data.length ∧ p.code.IsValid := by
  unfold parse at h
  split at h
  · rename_i code id hi lo body
    dsimp only at h
    split_ifs at h with hl hm hv ht
    · split at h
      · cases h
      · cases h
        refine ⟨hi, lo, ?_, not_not.mp hl, hv⟩
        unfold Packet.body
        rw [if_pos ht, List.singleton_append]
    · cases h
      refine ⟨hi, lo, ?_, not_not.mp hl, hv⟩
      unfold Packet.body
      rw [if_neg ht, List.nil_append]
  · cases h

theorem parse_ok_header {data : Bytes} {p : Packet} (h : parse data = .ok p) :
    ∃ hi lo body, data = p.code :: p.id :: hi :: lo :: body ∧
      (Bytes.uint16 hi lo).toNat = data.length ∧ p.code.IsValid := by
  obtain ⟨hi, lo, hdata, hl, hv⟩ := parse_ok_cases h
  exact ⟨hi, lo, p.body, hdata, hl, hv⟩

/-- A string of the announced length whose first octet is the code of a Success or a Failure is
accepted as one, whatever stands behind the header. -/
theorem parse_code_of_header {code id hi lo : UInt8} {body : Bytes}
    (hl : (Bytes.uint16 hi lo).toNat = body.length + 4)
    (hc : code = codeSuccess ∨ code = codeFailure) :
    parse (code :: id :: hi :: lo :: body) =
      .ok ⟨code, id, Bytes.uint16 hi lo, 0, body, code :: id :: hi :: lo :: body⟩ := by
  have hlt := (Bytes.uint16 hi lo).toNat_lt
  have hv : Code.IsValid code := by rcases hc with rfl | rfl <;> decide
  have ht : ¬ Code.HasType code := by rcases hc with rfl | rfl <;> decide
  unfold parse
  dsimp only
  rw [if_neg (by simpa using hl), if_neg (by unfold maxEAPSize; omega), if_neg (not_not.mpr hv),
    if_neg ht]

/-! ## Round trips -/

theorem encode_eq {p : Packet} (h : 4 + p.body.length ≤ maxEAPSize) :
    encode p = p.code :: p.id :: (Bytes.putUint16 (4 + p.body.length) ++ p.body) := by
  have hlen := p.length_body
  have hheader : (if p.code.HasType then 5 else 4) + p.data.length = 4 + p.body.length := by
    rw [hlen]
    split_ifs <;> omega
  have hrest : 4 + p.body.length - (if p.code.HasType then 5 else 4) = p.data.length := by omega
  unfold encode
  dsimp only
  rw [hheader, Nat.min_eq_left h, hrest, List.take_length, List.append_assoc]
  rfl

theorem length_encode {p : Packet} (h : 4 + p.body.length ≤ maxEAPSize) :
    (encode p).length = 4 + p.body.length := by
  rw [encode_eq h]
  simp only [Bytes.putUint16, List.length_cons, List.length_append, List.length_nil]
  omega

theorem encode_of_parse {data : Bytes} {p : Packet} (h : parse data = .ok p) : encode p = data := by
  obtain ⟨hi, lo, hdata, hl, -⟩ := parse_ok_cases h
  have hlt := (Bytes.uint16 hi lo).toNat_lt
  have hlen : data.length = 4 + p.body.length := by
    rw [hdata]
    simp only [List.length_cons]
    omega
  rw [encode_eq (by unfold maxEAPSize; omega), ← hlen, ← hl, Bytes.putUint16_toNat_uint16, hdata]
  rfl

theorem parse_of_body {p : Packet} {hi lo : UInt8} (hv : p.code.IsValid)
    (ht : ¬ p.code.HasType → p.type = 0)
    (hl : (Bytes.uint16 hi lo).toNat = 4 + p.body.length) :
    parse (p.code :: p.id :: hi :: lo :: p.body) =
      .ok ⟨p.code, p.id, Bytes.uint16 hi lo, p.type, p.data,
        p.code :: p.id :: hi :: lo :: p.body⟩ := by
  have hlt := (Bytes.uint16 hi lo).toNat_lt
  have hlen : (Bytes.uint16 hi lo).toNat = (p.code :: p.id :: hi :: lo :: p.body).length := by
    simp only [List.length_cons]
    omega
  unfold parse
  dsimp only
  rw [if_neg (not_not.mpr hlen), if_neg (by unfold maxEAPSize; omega), if_neg (not_not.mpr hv)]
  by_cases hc : p.code.HasType
  · have hbody : p.body = p.type :: p.data := by
      unfold Packet.body
      rw [if_pos hc, List.singleton_append]
    rw [if_pos hc, hbody]
  · have hbody : p.body = p.data := by
      unfold Packet.body
      rw [if_neg hc, List.nil_append]
    rw [if_neg hc, hbody, ht hc]

theorem parse_encode {p : Packet} (hv : p.code.IsValid) (ht : ¬ p.code.HasType → p.type = 0)
    (h : 4 + p.body.length ≤ maxEAPSize) :
    parse (encode p) =
      .ok { p with length := UInt16.ofNat (encode p).length, rawData := encode p } := by
  have hnat : 4 + p.body.length < 65536 := by
    unfold maxEAPSize at h
    omega
  have hl := Bytes.toNat_uint16_putUint16 hnat
  have hword : Bytes.uint16 (UInt8.ofNat ((4 + p.body.length) / 256))
      (UInt8.ofNat (4 + p.body.length)) = UInt16.ofNat (encode p).length := by
    apply UInt16.toNat_inj.mp
    rw [hl, length_encode h, UInt16.toNat_ofNat', Nat.mod_eq_of_lt hnat]
  rw [← hword, encode_eq h]
  exact parse_of_body hv ht hl

/-- **The codec is a bijection.** What is accepted is written as it was read, and a packet with a
valid code that fits is read as it was written, with the length of its encoding. -/
theorem codec_round_trip (data : Bytes) (p : Packet) :
    (∀ q, parse data = .ok q → encode q = data) ∧
      (p.code.IsValid → (p.code = codeSuccess ∨ p.code = codeFailure → p.type = 0) →
        (if p.code.HasType then 5 else 4) + p.data.length ≤ maxEAPSize →
        ∃ q, parse (encode p) = .ok q ∧ q.code = p.code ∧ q.id = p.id ∧ q.type = p.type ∧
          q.data = p.data ∧ q.length.toNat = (encode p).length) := by
  refine ⟨fun q hq => encode_of_parse hq, fun hv ht hfit => ?_⟩
  have hbody : 4 + p.body.length ≤ maxEAPSize := by
    rw [p.length_body]
    split_ifs at hfit ⊢ <;> omega
  have hzero : ¬ p.code.HasType → p.type = 0 := by
    intro hc
    apply ht
    exact Code.success_or_failure hv hc
  refine ⟨_, parse_encode hv hzero hbody, rfl, rfl, rfl, rfl, ?_⟩
  show (UInt16.ofNat (encode p).length).toNat = (encode p).length
  have hlen := length_encode hbody
  unfold maxEAPSize at hbody
  rw [UInt16.toNat_ofNat']
  omega

theorem codec_round_trip_identity :
    encode (buildSuccess 7) = [3, 7, 0, 4] ∧
      ∃ q, parse (encode (buildRequest 7 methodIdentity [65, 66])) = .ok q ∧ q.code = codeRequest ∧
        q.id = 7 ∧ q.type = methodIdentity ∧ q.data = [65, 66] ∧ q.length.toNat = 7 :=
  ⟨(codec_round_trip [3, 7, 0, 4] (buildRequest 7 methodIdentity [65, 66])).1 _ (by rfl),
    (codec_round_trip [3, 7, 0, 4] (buildRequest 7 methodIdentity [65, 66])).2 (by decide)
      (by decide) (by decide)⟩

/-! ## Packets that are built -/

/-- The largest data of a Request or a Response. -/
def maxDataSize : ℕ := 65530

/-- A built packet announces its length and is read with the data that it was built for. -/
structure Packet.Delivers (p : Packet) (data : Bytes) : Prop where
  length : p.length.toNat = p.rawData.length
  data : ∃ q, parse p.rawData = .ok q ∧ q.data = data

theorem length_encode_le (p : Packet) : (encode p).length ≤ maxEAPSize := by
  have hlen := p.length_body
  by_cases h : 4 + p.body.length ≤ maxEAPSize
  · rw [length_encode h]
    exact h
  · -- the data is cut off
    unfold encode maxEAPSize
    unfold maxEAPSize at h
    simp only [Bytes.putUint16, List.length_cons, List.length_append, List.length_nil,
      List.length_take]
    split_ifs at hlen ⊢ <;> simp only [List.length_cons, List.length_nil] <;> omega

theorem length_of_parse {raw : Bytes} {q : Packet} (h : parse raw = .ok q)
    (ht : q.code.HasType) : raw.length = 5 + q.data.length := by
  obtain ⟨hi, lo, hraw, -, -⟩ := parse_ok_cases h
  have hbody := q.length_body
  rw [if_pos ht] at hbody
  rw [hraw]
  simp only [List.length_cons, hbody]
  omega

theorem delivers_build_iff {code : Code} (ht : code.HasType) (hv : code.IsValid) (id : UInt8)
    (method : Method) (data : Bytes) :
    (build code id (5 + UInt16.ofNat data.length) method data).Delivers data ↔
      data.length ≤ maxDataSize := by
  have hbody : (Packet.mk code id (5 + UInt16.ofNat data.length) method data []).body.length =
      1 + data.length := by
    rw [Packet.length_body, if_pos ht]
  have hle := length_encode_le ⟨code, id, 5 + UInt16.ofNat data.length, method, data, []⟩
  constructor
  · rintro ⟨-, q, hq, hdata⟩
    obtain ⟨hi, lo, hraw, -, -⟩ := parse_ok_cases hq
    have hcode : code = q.code := (List.cons.inj hraw).1
    have hlen := length_of_parse hq (hcode ▸ ht)
    change (encode _).length = 5 + q.data.length at hlen
    rw [hlen, hdata] at hle
    unfold maxEAPSize at hle
    unfold maxDataSize
    omega
  · intro hfit
    unfold maxDataSize at hfit
    have hfits : 4 + (Packet.mk code id (5 + UInt16.ofNat data.length) method data []).body.length ≤
        maxEAPSize := by
      rw [hbody]
      unfold maxEAPSize
      omega
    refine ⟨?_, _, parse_encode hv (absurd ht) hfits, rfl⟩
    show (5 + UInt16.ofNat data.length).toNat = (encode _).length
    rw [length_encode hfits, hbody, UInt16.toNat_add, UInt16.toNat_ofNat']
    have hfive : (5 : UInt16).toNat = 5 := rfl
    omega

/-- **No silent truncation.** A Request or a Response delivers its data if and only if the data is
no longer than `maxDataSize`. Larger data is cut off without an error. -/
theorem built_packets_deliver_iff (id : UInt8) (method : Method) (data : Bytes) :
    ((buildRequest id method data).Delivers data ↔ data.length ≤ maxDataSize) ∧
      ((buildResponse id method data).Delivers data ↔ data.length ≤ maxDataSize) :=
  ⟨delivers_build_iff (by decide) (by decide) id method data,
    delivers_build_iff (by decide) (by decide) id method data⟩

/-- One octet too many: the length field is zero and the last octet is missing. -/
theorem built_packets_cut_off :
    (buildRequest 1 methodTLS (List.replicate 65531 0)).length = 0 ∧
      (buildRequest 1 methodTLS (List.replicate 65531 0)).rawData.length ≤ 65535 ∧
      ¬ (buildRequest 1 methodTLS (List.replicate 65531 0)).Delivers (List.replicate 65531 0) ∧
      ¬ (buildResponse 1 methodTLS (List.replicate 65531 0)).Delivers (List.replicate 65531 0) := by
  have hlong : ¬ (List.replicate 65531 (0 : UInt8)).length ≤ maxDataSize := by
    rw [List.length_replicate]
    decide
  refine ⟨?_, length_encode_le _, ?_, ?_⟩
  · show 5 + UInt16.ofNat (List.replicate 65531 (0 : UInt8)).length = 0
    rw [List.length_replicate]
    rfl
  · exact fun h => hlong ((delivers_build_iff (by decide) (by decide) 1 methodTLS _).mp h)
  · exact fun h => hlong ((delivers_build_iff (by decide) (by decide) 1 methodTLS _).mp h)

end NssAAF.Eap
