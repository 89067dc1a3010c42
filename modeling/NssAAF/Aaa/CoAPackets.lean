import NssAAF.Aaa.CoA
import NssAAF.Radius.Area

/-!
# The packets of a change of authorization

Three walkers look at the attributes of a datagram: `extractSessionID` of
`internal/aaa/gateway/radius_handler.go`, `FindMessageAuthenticator`, and `DecodeAttributes`, which
the handler does not call. `accepted_datagram_authentic_iff` says when a datagram that the first two
let through is also good for the third. The answer is made from the octets of the request, and
`coa_answer_valid` says when it is the packet that the server waits for.
-/

namespace NssAAF.Aaa

open NssAAF.Radius

def radiusDisconnectRequest : UInt8 := 40

/-- The session and the type of a datagram that is taken for a request of the server. Other
datagrams are dropped. -/
def handlePacket (sharedSecret raw : Bytes) : Option (Bytes × String) :=
  if raw.length < 4 then none
  else if raw.getD 0 0 = radiusCoARequest ∨ raw.getD 0 0 = radiusDisconnectRequest then
    handleServerInitiated sharedSecret raw
  else none

/-! ## Accepted datagrams -/

/-- The attributes of a datagram decode, the first Message-Authenticator has sixteen octets and they
are the keyed hash of the datagram in which they are zero, and the session is the first State. -/
structure Authentic (secret raw : Bytes) (attrs : List Attribute) (sessionID : Bytes) : Prop where
  decodes : decodeAttributes (raw.drop 20) = .ok attrs
  authenticator : ∃ before value after, CutAt attrs before ⟨attrMessageAuthenticator, value⟩ after ∧
    value.length = 16 ∧ value = Md5.hmac secret (raw.take 20 ++
      encodeAttributes (before ++ ⟨attrMessageAuthenticator, zeroAuthenticator⟩ :: after))
  session : ∃ before after, CutAt attrs before ⟨attrState, sessionID⟩ after

section Accepting

variable {secret raw : Bytes} {attrs before after : List Attribute}

theorem extractSessionIDFrom_step (fuel pos : ℕ) (attr : Attribute) (next : Bytes)
    (hno : attr.type ≠ attrState) (h : ReadsAt raw pos attr next) :
    extractSessionIDFrom raw (fuel + 1) pos =
      extractSessionIDFrom raw fuel (pos + (2 + attr.value.length)) := by
  have hroom := h.room
  nth_rewrite 1 [extractSessionIDFrom]
  rw [if_pos (by omega), h.type, h.length]
  dsimp only
  rw [if_neg (by omega), if_neg hno]

theorem extractSessionID_eq (hlen : 20 ≤ raw.length) {rest : Bytes}
    (hfit : ∀ attr ∈ before, attr.value.length ≤ maxValueLength)
    (hno : ∀ attr ∈ before, attr.type ≠ attrState)
    (hdrop : raw.drop 20 = encodeAttributes before ++ rest) :
    extractSessionID raw =
      extractSessionIDFrom raw (raw.length - before.length)
        (20 + (encodeAttributes before).length) := by
  have hle := length_le_length_encodeAttributes before
  have htotal : raw.length - 20 = (encodeAttributes before).length + rest.length := by
    rw [← List.length_drop, hdrop, List.length_append]
  rw [← walk_skip extractSessionIDFrom_step hfit hno hdrop]
  unfold extractSessionID
  rw [if_neg (by omega), Nat.sub_add_cancel (by omega)]

theorem extractSessionID_of_no_state (hlen : 20 ≤ raw.length)
    (hdec : decodeAttributes (raw.drop 20) = .ok attrs)
    (hno : ∀ attr ∈ attrs, attr.type ≠ attrState) : extractSessionID raw = [] := by
  obtain ⟨hdata, hfit⟩ := decodeAttributes_eq_ok_iff.mp hdec
  -- nothing is left behind the attributes
  have htotal : raw.length = 20 + (encodeAttributes attrs).length := by
    rw [hdata, List.length_drop]
    omega
  rw [← List.append_nil (encodeAttributes attrs)] at hdata
  rw [extractSessionID_eq hlen hfit hno hdata.symm]
  unfold extractSessionIDFrom
  split
  · rfl
  · rw [if_neg (by omega)]

theorem extractSessionID_of_cutAt (hlen : 20 ≤ raw.length)
    (hdec : decodeAttributes (raw.drop 20) = .ok attrs) {value : Bytes}
    (hcut : CutAt attrs before ⟨attrState, value⟩ after) : extractSessionID raw = value := by
  obtain ⟨hdata, hfit⟩ := decodeAttributes_eq_ok_iff.mp hdec
  obtain ⟨rfl, hno⟩ := hcut
  rw [encodeAttributes_append] at hdata
  have hbefore : ∀ attr ∈ before, attr.value.length ≤ maxValueLength :=
    fun attr hattr => hfit attr (List.mem_append_left _ hattr)
  have hstate : value.length ≤ maxValueLength :=
    hfit ⟨attrState, value⟩ (List.mem_append_right _ List.mem_cons_self)
  have hrest : raw.drop (20 + (encodeAttributes before).length) =
      encodeAttributes (⟨attrState, value⟩ :: after) ++ [] := by
    rw [List.append_nil]
    exact Bytes.drop_add_of_drop_eq hdata.symm
  obtain ⟨htype, hlength, hroom, hread, -⟩ := readsAt_of_drop_eq hstate hrest
  dsimp only at htype hlength hroom hread
  have hle := length_le_length_encodeAttributes before
  rw [extractSessionID_eq hlen hbefore hno hdata.symm]
  obtain ⟨fuel, hfuel⟩ : ∃ fuel, raw.length - before.length = fuel + 1 :=
    ⟨raw.length - before.length - 1, by omega⟩
  rw [hfuel]
  unfold extractSessionIDFrom
  rw [if_pos (by omega), htype, hlength]
  dsimp only
  rw [if_neg (by omega), if_pos rfl, Nat.add_sub_cancel_left, hread]

theorem session_of_decodes (hlen : 20 ≤ raw.length)
    (hdec : decodeAttributes (raw.drop 20) = .ok attrs) (hne : extractSessionID raw ≠ []) :
    ∃ before after, CutAt attrs before ⟨attrState, extractSessionID raw⟩ after := by
  rcases exists_cutAt attrState attrs with hno | ⟨before, value, after, hcut⟩
  · exact absurd (extractSessionID_of_no_state hlen hdec hno) hne
  · rw [extractSessionID_of_cutAt hlen hdec hcut]
    exact ⟨before, after, hcut⟩

theorem handleServerInitiated_eq_some_iff (hsecret : secret ≠ []) {sessionID : Bytes}
    {msgType : String} :
    handleServerInitiated secret raw = some (sessionID, msgType) ↔
      extractSessionID raw ≠ [] ∧ verifyMessageAuthenticator raw secret = true ∧
        sessionID = extractSessionID raw ∧
        msgType = (if raw.getD 0 0 = radiusCoARequest then "COA" else "DM") := by
  have hhas : verifyMessageAuthenticator raw secret = true →
      hasMessageAuthenticator raw = true := by
    intro hverify
    obtain ⟨offset, hfind, -⟩ := verifyMessageAuthenticator_iff.mp hverify
    simp [hasMessageAuthenticator, hfind]
  unfold handleServerInitiated
  by_cases hsession : extractSessionID raw = []
  · simp [hsession]
  · by_cases hverify : verifyMessageAuthenticator raw secret = true
    · simp [hsession, hsecret, hverify, hhas hverify, eq_comm]
    · simp [hsession, hsecret, hverify]

end Accepting

/-- **The walkers agree.** Where the attributes of a datagram decode, the session is the value of
the first State, and the search finds the offset of the first Message-Authenticator. -/
theorem attribute_walkers_agree {raw : Bytes} {attrs : List Attribute} (hlen : 20 ≤ raw.length)
    (hdec : decodeAttributes (raw.drop 20) = .ok attrs) :
    extractSessionID raw =
        ((attrs.find? fun attr => attr.type = attrState).map Attribute.value).getD [] ∧
      findMessageAuthenticator raw = authenticatorOffset attrs := by
  refine ⟨?_, findMessageAuthenticator_of_decodes hlen hdec⟩
  rcases exists_cutAt attrState attrs with hno | ⟨before, value, after, hcut⟩
  · rw [extractSessionID_of_no_state hlen hdec hno, find?_type_of_no hno]
    rfl
  · rw [extractSessionID_of_cutAt hlen hdec hcut, hcut.find?_type]
    rfl

namespace Sample

/-- A header, a State of two octets and a Message-Authenticator of only one. -/
def stateAndAuthenticator : Bytes :=
  List.replicate 20 0 ++ [24, 4, 65, 66] ++ [80, 3, 9]

end Sample

theorem attribute_walkers_agree_on_sample :
    extractSessionID Sample.stateAndAuthenticator = [65, 66] ∧
      findMessageAuthenticator Sample.stateAndAuthenticator = some 24 :=
  attribute_walkers_agree (by decide)
    (show decodeAttributes (Sample.stateAndAuthenticator.drop 20) =
      .ok [⟨attrState, [65, 66]⟩, ⟨attrMessageAuthenticator, [9]⟩] by decide)

/-- **What is forwarded.** With a shared secret, a datagram is registered and forwarded only if it
is authentic, exactly if it has no session, or its Message-Authenticator does not verify, or its
attributes decode and the first Message-Authenticator has sixteen octets. -/
theorem accepted_datagram_authentic_iff (secret raw : Bytes) (hsecret : secret ≠ []) :
    (∀ sessionID msgType, handleServerInitiated secret raw = some (sessionID, msgType) →
        ∃ attrs, Authentic secret raw attrs sessionID) ↔
      extractSessionID raw = [] ∨ verifyMessageAuthenticator raw secret = false ∨
        ∃ attrs before value after, decodeAttributes (raw.drop 20) = .ok attrs ∧
          CutAt attrs before ⟨attrMessageAuthenticator, value⟩ after ∧ value.length = 16 := by
  simp only [handleServerInitiated_eq_some_iff hsecret]
  constructor
  · intro h
    by_cases hsession : extractSessionID raw = []
    · exact Or.inl hsession
    · by_cases hverify : verifyMessageAuthenticator raw secret = true
      · obtain ⟨attrs, hauth⟩ := h _ _ ⟨hsession, hverify, rfl, rfl⟩
        obtain ⟨before, value, after, hcut, hvalue, -⟩ := hauth.authenticator
        exact Or.inr (Or.inr ⟨attrs, before, value, after, hauth.decodes, hcut, hvalue⟩)
      · exact Or.inr (Or.inl (eq_false_of_ne_true hverify))
  · rintro hcond sessionID msgType ⟨hsession, hverify, rfl, -⟩
    rcases hcond with hnone | hbad | ⟨attrs, before, value, after, hdec, hcut, hvalue⟩
    · exact absurd hnone hsession
    · rw [hverify] at hbad
      cases hbad
    · have hlen : 20 ≤ raw.length := by
        by_contra hshort
        apply hsession
        unfold extractSessionID
        rw [if_pos (by omega)]
      refine ⟨attrs, hdec, ⟨before, value, after, hcut, hvalue, ?_⟩,
        session_of_decodes hlen hdec hsession⟩
      obtain ⟨hdata, hfit⟩ := decodeAttributes_eq_ok_iff.mp hdec
      have hheader : (raw.take 20).length = 20 := by
        rw [List.length_take]
        omega
      obtain ⟨rfl, hno⟩ := hcut
      have hbefore : ∀ attr ∈ before, attr.value.length ≤ maxValueLength :=
        fun attr hattr => hfit attr (List.mem_append_left _ hattr)
      rw [← List.take_append_drop 20 raw, ← hdata, cutPacket_eq _ before after hvalue,
        verifyMessageAuthenticator_cutPacket hheader hbefore hno (by decide) hvalue] at hverify
      rw [cutPacket_eq _ before after length_zeroAuthenticator]
      exact hverify

namespace Sample

/-- A request whose Message-Authenticator has the given length octet, with octets behind it. The
keyed hash is over all of it. -/
def signedRequest (code length : UInt8) (back : Bytes) : Bytes :=
  let front :=
    [code, 9, 0, 52] ++ List.replicate 16 5 ++ state ++ [attrMessageAuthenticator, length]
  front ++ Md5.hmac Radius.Sample.secret (front ++ zeroAuthenticator ++ back) ++ back

def plainAuthenticator : Bytes := (plainRequest.drop 36).take 16

open Radius.Sample in
theorem plainRequest_read :
    handleServerInitiated secret plainRequest =
        some (Bytes.ofString "nssAAF;1;ctx", "COA") ∧
      handlePacket secret plainRequest ≠ none ∧
      decodeAttributes (plainRequest.drop 20) =
        .ok [stateAttribute, ⟨attrMessageAuthenticator, plainAuthenticator⟩] ∧
      plainAuthenticator.length = 16 ∧ ¬ plainRequest.length < 20 ∧
      hasMessageAuthenticator plainRequest = true ∧
      Loop.run (avpStep plainRequest) 2 20 = some .nowhere := by
  decide +kernel

end Sample

open Sample Radius.Sample in
/-- The plain request is accepted and authentic. -/
theorem plain_request_authentic :
    ∃ attrs, Authentic secret plainRequest attrs
      (Bytes.ofString "nssAAF;1;ctx") := by
  obtain ⟨hread, -, hdecode, hlength, -⟩ := plainRequest_read
  have hcut : CutAt [stateAttribute,
      ⟨attrMessageAuthenticator, plainAuthenticator⟩] [stateAttribute]
      ⟨attrMessageAuthenticator, plainAuthenticator⟩ [] := ⟨rfl, by decide +kernel⟩
  exact (accepted_datagram_authentic_iff secret plainRequest
    (by decide +kernel)).mpr (Or.inr (Or.inr ⟨_, _, _, _, hdecode, hcut, hlength⟩)) _ "COA" hread

open Sample in
/-- A datagram whose last attribute is longer than what is left is accepted, and so is one whose
Message-Authenticator has the length 2. -/
theorem malformed_datagrams_accepted :
    (handleServerInitiated Radius.Sample.secret (signedRequest 43 18 [1, 40]) =
        some (Bytes.ofString "nssAAF;1;ctx", "COA") ∧
      decodeAttributes ((signedRequest 43 18 [1, 40]).drop 20) =
        .error (.beyondData 1 40 2)) ∧
    handleServerInitiated Radius.Sample.secret (signedRequest 43 2 []) =
        some (Bytes.ofString "nssAAF;1;ctx", "COA") ∧
      findMessageAuthenticator (signedRequest 43 2 []) = some 34 ∧
      (signedRequest 43 2 []).getD 35 0 = 2 := by
  decide +kernel

/-! ## Answers -/

def codeDisconnectACK : UInt8 := 41
def codeDisconnectNAK : UInt8 := 42

def answerCodes (code : UInt8) : List UInt8 :=
  if code = radiusCoARequest then [radiusCoAACK, radiusCoANAK]
  else [codeDisconnectACK, codeDisconnectNAK]

def requestAuthenticator (raw : Bytes) : Bytes := (raw.drop 4).take 16

/-- What the server asks of the answer to its request: a code of the request's kind, the request's
identifier, the Response Authenticator, and a Message-Authenticator, if there is one, that verifies
with the authenticator of the request in the header. -/
structure ValidAnswer (secret raw pkt : Bytes) : Prop where
  code : pkt.getD 0 0 ∈ answerCodes (raw.getD 0 0)
  identifier : pkt.getD 1 0 = raw.getD 1 0
  responseAuthenticator : (pkt.drop 4).take 16 =
    Md5.sum (pkt.take 4 ++ requestAuthenticator raw ++ pkt.drop 20 ++ secret)
  messageAuthenticator : hasMessageAuthenticator pkt = true →
    verifyMessageAuthenticator (pkt.take 4 ++ requestAuthenticator raw ++ pkt.drop 20) secret = true

/-- The code octet that the handler writes, for requests of both kinds. -/
def writtenCode (resultCode : UInt32) : UInt8 :=
  if resultCode = 0 then radiusCoAACK else radiusCoANAK

/-- The octets of an answer before its Response Authenticator is there: those of the request with
another code, and with the keyed hash at the record that the search found. -/
def Found.answer (secret raw : Bytes) (resultCode : UInt32) : Found → Bytes
  | .at i => Bytes.copyAt (raw.set 0 (writtenCode resultCode)) (i + 6)
      ((Md5.hmac secret ((raw.set 0 (writtenCode resultCode)).take 4 ++ [0, 0, 0, 0] ++
        requestAuthenticator raw ++ raw.drop 20)).take 16)
  | _ => raw.set 0 (writtenCode resultCode)

def withResponseAuthenticator (secret raw answer : Bytes) : Bytes :=
  answer.copyAt 4
    (Md5.sum (answer.take 4 ++ requestAuthenticator raw ++ answer.drop 20 ++ secret))

section Answering

variable {secret raw answer : Bytes} {fuel : ℕ} {found : Found}

theorem Answer.authenticated_of_secret (hsecret : secret ≠ []) :
    (Answer.sent answer).authenticated secret (requestAuthenticator raw) =
      .sent (withResponseAuthenticator secret raw answer) :=
  if_pos hsecret

theorem sendCoAResponse_of_run (resultCode : UInt32) (hsecret : secret ≠ [])
    (hlen : ¬ raw.length < 20) (hma : hasMessageAuthenticator raw = true)
    (hrun : Loop.run (avpStep raw) fuel 20 = some found) :
    sendCoAResponse fuel secret raw resultCode =
      .sent (withResponseAuthenticator secret raw (found.answer secret raw resultCode)) := by
  unfold sendCoAResponse replaceMessageAuthenticator
  rw [if_neg hlen, hma, hrun]
  dsimp only
  rw [if_pos rfl]
  rcases inBounds_of_run hrun with rfl | ⟨i, rfl, hroom⟩
  · exact Answer.authenticated_of_secret hsecret
  · dsimp only
    rw [if_pos (by rw [List.length_set]; omega)]
    exact Answer.authenticated_of_secret hsecret

theorem withResponseAuthenticator_eq (hlen : 20 ≤ answer.length) :
    withResponseAuthenticator secret raw answer = answer.take 4 ++
      (Md5.sum (answer.take 4 ++ requestAuthenticator raw ++ answer.drop 20 ++ secret) ++
        answer.drop 20) := by
  unfold withResponseAuthenticator
  rw [Bytes.copyAt_eq (by rw [Md5.length_sum]; omega), Md5.length_sum]

/-- The Response Authenticator is right in every answer. The rest is asked of the octets without
it. -/
theorem validAnswer_iff (hlen : 20 ≤ answer.length) :
    ValidAnswer secret raw (withResponseAuthenticator secret raw answer) ↔
      answer.getD 0 0 ∈ answerCodes (raw.getD 0 0) ∧ answer.getD 1 0 = raw.getD 1 0 ∧
        (hasMessageAuthenticator answer = true → verifyMessageAuthenticator
          (answer.take 4 ++ requestAuthenticator raw ++ answer.drop 20) secret = true) := by
  have hdigest := Md5.length_sum
    (answer.take 4 ++ requestAuthenticator raw ++ answer.drop 20 ++ secret)
  have hpkt : withResponseAuthenticator secret raw answer = _ := withResponseAuthenticator_eq hlen
  have hfour : (answer.take 4).length = 4 := by
    rw [List.length_take]
    omega
  generalize withResponseAuthenticator secret raw answer = pkt at hpkt ⊢
  have htake : pkt.take 4 = answer.take 4 := by
    rw [hpkt, List.take_left' hfour]
  have hmiddle : (pkt.drop 4).take 16 =
      Md5.sum (answer.take 4 ++ requestAuthenticator raw ++ answer.drop 20 ++ secret) := by
    rw [hpkt, List.drop_left' hfour, List.take_left' hdigest]
  have hdrop : pkt.drop 20 = answer.drop 20 := by
    rw [hpkt, ← List.append_assoc, List.drop_left' (by rw [List.length_append]; omega)]
  have hlength : pkt.length = answer.length := by
    rw [hpkt, List.length_append, List.length_append, hfour, hdigest, List.length_drop]
    omega
  have hget : ∀ i, i < 4 → pkt.getD i 0 = answer.getD i 0 := by
    intro i hi
    have hsame : (pkt.take 4).getD i 0 = (answer.take 4).getD i 0 := by rw [htake]
    simpa [List.getD_eq_getElem?_getD, List.getElem?_take, hi] using hsame
  have hhas : hasMessageAuthenticator pkt = hasMessageAuthenticator answer := by
    unfold hasMessageAuthenticator
    rw [findMessageAuthenticator_congr hlength hdrop]
  constructor
  · rintro ⟨hcode, hid, -, hma⟩
    rw [hget 0 (by omega)] at hcode
    rw [hget 1 (by omega)] at hid
    rw [hhas, htake, hdrop] at hma
    exact ⟨hcode, hid, hma⟩
  · rintro ⟨hcode, hid, hma⟩
    refine ⟨?_, ?_, ?_, ?_⟩
    · rw [hget 0 (by omega)]
      exact hcode
    · rw [hget 1 (by omega)]
      exact hid
    · rw [hmiddle, htake, hdrop]
    · rw [hhas, htake, hdrop]
      exact hma

theorem Found.length_answer (secret raw : Bytes) (found : Found) (resultCode : UInt32) :
    (found.answer secret raw resultCode).length = raw.length := by
  cases found with
  | «at» i =>
    unfold answer
    rw [Bytes.length_copyAt, List.length_set]
  | nowhere => exact List.length_set
  | outOfBounds => exact List.length_set

theorem Found.code_answer (hlen : 20 ≤ raw.length) (found : Found) (resultCode : UInt32) :
    (found.answer secret raw resultCode).getD 0 0 = writtenCode resultCode := by
  cases raw with
  | nil => simp at hlen
  | cons code rest => cases found <;> rfl

theorem writtenCode_mem_iff (resultCode : UInt32) (code : UInt8) :
    writtenCode resultCode ∈ answerCodes code ↔ code = radiusCoARequest := by
  unfold writtenCode answerCodes
  by_cases hcode : code = radiusCoARequest
  · by_cases hresult : resultCode = 0 <;> simp [hcode, hresult]
  · by_cases hresult : resultCode = 0
    · simp [hcode, hresult, radiusCoAACK, codeDisconnectACK, codeDisconnectNAK]
    · simp [hcode, hresult, radiusCoANAK, codeDisconnectACK, codeDisconnectNAK]

/-- A request with another code keeps its Message-Authenticator, which then verifies only if the
keyed hash is the same for both codes. -/
theorem verify_set_iff (hverify : verifyMessageAuthenticator raw secret = true) (code : UInt8) :
    verifyMessageAuthenticator (raw.set 0 code) secret = true ↔
      computeMessageAuthenticator (raw.set 0 code) secret =
        computeMessageAuthenticator raw secret := by
  obtain ⟨offset, hfind, hroom, hstored⟩ := verifyMessageAuthenticator_iff.mp hverify
  have hdrop : ∀ n, (raw.set 0 code).drop (n + 1) = raw.drop (n + 1) :=
    fun n => List.drop_set_of_lt (Nat.succ_pos n)
  have hfind' : findMessageAuthenticator (raw.set 0 code) = some offset := by
    rw [← hfind]
    exact findMessageAuthenticator_congr List.length_set (hdrop 19)
  rw [verifyMessageAuthenticator_iff, ← hstored]
  constructor
  · rintro ⟨offset', hoffset', -, hsame⟩
    obtain rfl : offset = offset' := Option.some.inj (hfind'.symm.trans hoffset')
    rw [← hsame, hdrop]
  · intro hsame
    refine ⟨offset, hfind', ?_, ?_⟩
    · rw [List.length_set]
      exact hroom
    · rw [hsame, hdrop]

theorem set_eq (raw : Bytes) (code : UInt8) :
    (raw.set 0 code).take 4 ++ requestAuthenticator raw ++ (raw.set 0 code).drop 20 =
      raw.set 0 code := by
  have hauth : requestAuthenticator raw = ((raw.set 0 code).drop 4).take 16 := by
    unfold requestAuthenticator
    rw [List.drop_set_of_lt (by omega)]
  have hrest : (raw.set 0 code).drop 20 = ((raw.set 0 code).drop 4).drop 16 := by
    rw [List.drop_drop]
  rw [hauth, hrest, List.append_assoc, List.take_append_drop, List.take_append_drop]

theorem validAnswer_nowhere_iff (resultCode : UInt32) (hlen : 20 ≤ raw.length)
    (hverify : verifyMessageAuthenticator raw secret = true) :
    ValidAnswer secret raw
        (withResponseAuthenticator secret raw (Found.nowhere.answer secret raw resultCode)) ↔
      raw.getD 0 0 = radiusCoARequest ∧
        computeMessageAuthenticator (raw.set 0 (writtenCode resultCode)) secret =
          computeMessageAuthenticator raw secret := by
  obtain ⟨offset, hfind, -⟩ := verifyMessageAuthenticator_iff.mp hverify
  have hhas : hasMessageAuthenticator (raw.set 0 (writtenCode resultCode)) = true := by
    unfold hasMessageAuthenticator
    rw [findMessageAuthenticator_congr List.length_set (List.drop_set_of_lt (by omega)), hfind]
    rfl
  have hid : (raw.set 0 (writtenCode resultCode)).getD 1 0 = raw.getD 1 0 := by
    cases raw <;> rfl
  have hlength := Found.length_answer secret raw .nowhere resultCode
  rw [validAnswer_iff (by omega), Found.code_answer hlen, writtenCode_mem_iff]
  show _ ∧ (raw.set 0 _).getD 1 0 = _ ∧ (hasMessageAuthenticator (raw.set 0 _) = true → _) ↔ _
  rw [hid, eq_self_iff_true, true_and, hhas, eq_self_iff_true, true_imp_iff]
  have hanswer : Found.nowhere.answer secret raw resultCode =
      raw.set 0 (writtenCode resultCode) := rfl
  rw [hanswer, set_eq, verify_set_iff hverify]

end Answering

/-- The search of the handler comes to a place where it finds what it looks for. -/
def FindsRecord (raw : Bytes) : Prop :=
  ∃ i, Visits raw i ∧ i + 26 ≤ raw.length ∧ Bytes.uint16LE raw i = 80

def NeverEnds (raw : Bytes) : Prop := ∃ i, Visits raw i ∧ Stuck raw i

theorem findsRecord_of_run {raw : Bytes} {fuel i : ℕ}
    (h : Loop.run (avpStep raw) fuel 20 = some (.at i)) : FindsRecord raw := by
  obtain ⟨j, hj, hstep⟩ := Loop.exists_of_run h
  rw [avpStep_eq] at hstep
  split_ifs at hstep with hroom hcode
  · exact ⟨j, visits_iff.mpr hj, hroom, hcode⟩
  · cases hstep

theorem not_findsRecord_of_run {raw : Bytes} {fuel : ℕ}
    (h : Loop.run (avpStep raw) fuel 20 = some .nowhere) : ¬ FindsRecord raw := by
  rintro ⟨i, hvisits, hroom, hcode⟩
  have hstep : avpStep raw i = .inr (.at i) := by
    rw [avpStep_eq, if_pos hroom, if_pos hcode]
  cases Loop.eq_of_run (visits_iff.mp hvisits) hstep h

/-- Whatever is sent as the answer to a request is a valid answer. -/
def AnswersValidly (secret raw : Bytes) (resultCode : UInt32) : Prop :=
  ∀ fuel pkt, sendCoAResponse fuel secret raw resultCode = .sent pkt → ValidAnswer secret raw pkt

/-- The keyed hash of the request is the same with the code of the answer. -/
def SameHash (secret raw : Bytes) (resultCode : UInt32) : Prop :=
  computeMessageAuthenticator (raw.set 0 (writtenCode resultCode)) secret =
    computeMessageAuthenticator raw secret

instance (secret raw : Bytes) (resultCode : UInt32) : Decidable (SameHash secret raw resultCode) :=
  inferInstanceAs (Decidable (_ = _))

section Accepted

variable {secret raw : Bytes} {resultCode : UInt32}

theorem verifies_of_handlePacket (hsecret : secret ≠ []) (hacc : handlePacket secret raw ≠ none) :
    20 ≤ raw.length ∧ verifyMessageAuthenticator raw secret = true ∧
      hasMessageAuthenticator raw = true := by
  have hhandled : handleServerInitiated secret raw ≠ none := by
    intro hnone
    apply hacc
    unfold handlePacket
    rw [hnone, ite_self, ite_self]
  obtain ⟨⟨sessionID, msgType⟩, hsome⟩ := Option.ne_none_iff_exists'.mp hhandled
  obtain ⟨-, hverify, -⟩ := (handleServerInitiated_eq_some_iff hsecret).mp hsome
  obtain ⟨offset, hfind, -⟩ := verifyMessageAuthenticator_iff.mp hverify
  refine ⟨Nat.le_of_not_lt (length_of_accepted hhandled), hverify, ?_⟩
  unfold hasMessageAuthenticator
  rw [hfind]
  rfl

theorem exists_run_of_sent (hsecret : secret ≠ []) (hacc : handlePacket secret raw ≠ none)
    {fuel : ℕ} {pkt : Bytes} (hsent : sendCoAResponse fuel secret raw resultCode = .sent pkt) :
    ∃ found, Loop.run (avpStep raw) fuel 20 = some found ∧
      pkt = withResponseAuthenticator secret raw (found.answer secret raw resultCode) := by
  obtain ⟨hlen, -, hma⟩ := verifies_of_handlePacket hsecret hacc
  rcases sendCoAResponse_cases secret fuel resultCode (Nat.not_lt.mpr hlen) hma with
    ⟨-, hrunning⟩ | ⟨found, -, hrun, -⟩
  · rw [hrunning] at hsent
    cases hsent
  · rw [sendCoAResponse_of_run resultCode hsecret (Nat.not_lt.mpr hlen) hma hrun] at hsent
    exact ⟨found, hrun, (Answer.sent.inj hsent).symm⟩

theorem answersValidly_of_neverEnds (hsecret : secret ≠ [])
    (hacc : handlePacket secret raw ≠ none) (h : NeverEnds raw) :
    AnswersValidly secret raw resultCode := by
  intro fuel pkt hsent
  obtain ⟨found, hrun, -⟩ := exists_run_of_sent hsecret hacc hsent
  obtain ⟨i, hvisits, hstuck⟩ := h
  exact absurd hstuck (halts_avpStep_iff.mp ⟨fuel, found, hrun⟩ i hvisits)

theorem answersValidly_of_sameHash (hsecret : secret ≠ [])
    (hacc : handlePacket secret raw ≠ none) (hcode : raw.getD 0 0 = radiusCoARequest)
    (hfinds : ¬ FindsRecord raw) (hsame : SameHash secret raw resultCode) :
    AnswersValidly secret raw resultCode := by
  obtain ⟨hlen, hverify, -⟩ := verifies_of_handlePacket hsecret hacc
  intro fuel pkt hsent
  obtain ⟨found, hrun, rfl⟩ := exists_run_of_sent hsecret hacc hsent
  rcases inBounds_of_run hrun with rfl | ⟨i, rfl, -⟩
  · exact (validAnswer_nowhere_iff resultCode hlen hverify).mpr ⟨hcode, hsame⟩
  · exact absurd (findsRecord_of_run hrun) hfinds

/-- A search that ends leads to an answer, which has the code of a CoA and, if nothing was found,
the Message-Authenticator of the request. -/
theorem of_answersValidly (hsecret : secret ≠ []) (hacc : handlePacket secret raw ≠ none)
    (hends : ¬ NeverEnds raw) (h : AnswersValidly secret raw resultCode) :
    raw.getD 0 0 = radiusCoARequest ∧ (FindsRecord raw ∨ SameHash secret raw resultCode) := by
  obtain ⟨hlen, hverify, hma⟩ := verifies_of_handlePacket hsecret hacc
  obtain ⟨fuel, found, hrun⟩ := halts_avpStep_iff.mpr fun i hvisits hstuck =>
    hends ⟨i, hvisits, hstuck⟩
  have hvalid := h fuel _
    (sendCoAResponse_of_run resultCode hsecret (Nat.not_lt.mpr hlen) hma hrun)
  rcases inBounds_of_run hrun with rfl | ⟨i, rfl, -⟩
  · obtain ⟨hcode, hsame⟩ := (validAnswer_nowhere_iff resultCode hlen hverify).mp hvalid
    exact ⟨hcode, Or.inr hsame⟩
  · have hlength := Found.length_answer secret raw (.at i) resultCode
    obtain ⟨hcode, -⟩ := (validAnswer_iff (by omega)).mp hvalid
    rw [Found.code_answer hlen, writtenCode_mem_iff] at hcode
    exact ⟨hcode, Or.inl (findsRecord_of_run hrun)⟩

end Accepted

/-- **The answer to a CoA or Disconnect.** Let a request be accepted with a shared secret. Every
answer that is sent is valid if none is sent because the search never ends, or if the request is a
CoA-Request, the search finds nothing, and the keyed hash of the request is the same with the code
of the answer. Otherwise one that is sent is not valid, unless the search finds a record in a
CoA-Request, where the handler writes a keyed hash over whatever is there. -/
theorem coa_answer_valid (secret raw : Bytes) (resultCode : UInt32) (hsecret : secret ≠ [])
    (hacc : handlePacket secret raw ≠ none) :
    (NeverEnds raw ∨ (raw.getD 0 0 = radiusCoARequest ∧ ¬ FindsRecord raw ∧
          SameHash secret raw resultCode) →
        AnswersValidly secret raw resultCode) ∧
      (AnswersValidly secret raw resultCode →
        NeverEnds raw ∨ (raw.getD 0 0 = radiusCoARequest ∧
          (FindsRecord raw ∨ SameHash secret raw resultCode))) := by
  constructor
  · rintro (hnever | ⟨hcode, hfinds, hsame⟩)
    · exact answersValidly_of_neverEnds hsecret hacc hnever
    · exact answersValidly_of_sameHash hsecret hacc hcode hfinds hsame
  · intro h
    by_cases hends : NeverEnds raw
    · exact Or.inl hends
    · exact Or.inr (of_answersValidly hsecret hacc hends h)

/-- The answer to the plain request is not valid: it is sent with the Message-Authenticator of the
request. -/
theorem plain_request_not_answered_validly :
    ¬ AnswersValidly Radius.Sample.secret Sample.plainRequest 0 := by
  obtain ⟨-, haccepted, -, -, -, -, hrun⟩ := Sample.plainRequest_read
  intro h
  rcases (coa_answer_valid Radius.Sample.secret Sample.plainRequest 0 (by decide +kernel)
    haccepted).2 h with ⟨i, hvisits, hstuck⟩ | ⟨-, hfinds | hsame⟩
  · exact halts_avpStep_iff.mp ⟨2, _, hrun⟩ i hvisits hstuck
  · exact not_findsRecord_of_run hrun hfinds
  · revert hsame
    decide +kernel

open Sample Radius.Sample in
/-- A Disconnect-Request is accepted and answered with the code of a CoA-ACK. The same request as a
CoA-Request is answered with its own Message-Authenticator, which does not verify. -/
theorem answers_not_valid :
    handlePacket secret (signedRequest 40 18 []) =
        some (Bytes.ofString "nssAAF;1;ctx", "DM") ∧
      (∃ pkt, sendCoAResponse 2 secret (signedRequest 40 18 []) 0 = .sent pkt ∧
        pkt.getD 0 0 = radiusCoAACK) ∧
      ∃ pkt, sendCoAResponse 2 secret (signedRequest 43 18 []) 0 = .sent pkt ∧
        hasMessageAuthenticator pkt = true ∧
        verifyMessageAuthenticator (pkt.take 4 ++
          requestAuthenticator (signedRequest 43 18 []) ++ pkt.drop 20)
          secret = false :=
  ⟨by decide +kernel,
    ⟨withResponseAuthenticator secret (signedRequest 40 18 [])
      ((signedRequest 40 18 []).set 0 44), by decide +kernel, by decide +kernel⟩,
    withResponseAuthenticator secret (signedRequest 43 18 [])
      ((signedRequest 43 18 []).set 0 44), by decide +kernel, by decide +kernel,
    by decide +kernel⟩

end NssAAF.Aaa
