import NssAAF.Radius.MessageAuth
import NssAAF.Lib.Loop

/-!
# Changes of authorization

What `internal/aaa/gateway/radius_handler.go` does with a CoA-Request or Disconnect-Request of the
AAA server: it reads the session from the State attribute, verifies the Message-Authenticator, and
answers with the result of Biz. For the answer it looks for the Message-Authenticator as if the
attributes of the request were records with a code and a length of two octets each, lowest first.

`coa_answer_sent_iff` says for which requests this search comes to an end.
-/

namespace NssAAF.Aaa

open NssAAF.Radius

def radiusCoARequest : UInt8 := 43
def radiusCoAACK : UInt8 := 44
def radiusCoANAK : UInt8 := 45

/-! ## Receiving a request -/

/-- The value of the first State attribute from `pos` on. A packet of at most `fuel` octets is
searched to its end. -/
def extractSessionIDFrom (raw : Bytes) : ℕ → ℕ → Bytes
  | 0, _ => []
  | fuel + 1, pos =>
    if pos + 2 ≤ raw.length then
      let attrType := raw.getD pos 0
      let attrLen := (raw.getD (pos + 1) 0).toNat
      if attrLen < 2 ∨ raw.length < pos + attrLen then []
      else if attrType = attrState then (raw.drop (pos + 2)).take (attrLen - 2)
      else extractSessionIDFrom raw fuel (pos + attrLen)
    else []

def extractSessionID (raw : Bytes) : Bytes :=
  if raw.length < 20 then [] else extractSessionIDFrom raw raw.length 20

/-- The session and the type of a request that is accepted. Without a shared secret nothing is
verified. -/
def handleServerInitiated (sharedSecret raw : Bytes) : Option (Bytes × String) :=
  let sessionID := extractSessionID raw
  if sessionID = [] then none
  else
    let msgType := if raw.getD 0 0 = radiusCoARequest then "COA" else "DM"
    if sharedSecret ≠ [] ∧ !hasMessageAuthenticator raw then none
    else if sharedSecret ≠ [] ∧ !verifyMessageAuthenticator raw sharedSecret then none
    else some (sessionID, msgType)

/-! ## Answering -/

/-- How the search for the Message-Authenticator ends. -/
inductive Found
  | at (i : ℕ)
  | nowhere
  | outOfBounds
  deriving DecidableEq

/-- One step of the search. It goes on behind the record at `i`, by the length that is read
there. -/
def avpStep (reqRaw : Bytes) (i : ℕ) : ℕ ⊕ Found :=
  if i + 26 ≤ reqRaw.length then
    match Bytes.uint16LE? reqRaw i, Bytes.uint16LE? reqRaw (i + 2) with
    | some avpCode, some avpLen => if avpCode = 80 then .inr (.at i) else .inl (i + avpLen)
    | _, _ => .inr .outOfBounds
  else .inr .nowhere

inductive Answer
  | tooShort
  | sent (pkt : Bytes)
  | outOfBounds
  | running
  deriving DecidableEq

/-- The answer with its Message-Authenticator, as far as the search comes in `fuel` steps. -/
def replaceMessageAuthenticator (fuel : ℕ) (reqRaw respPkt computedMA : Bytes) : Answer :=
  match Loop.run (avpStep reqRaw) fuel 20 with
  | none => .running
  | some .nowhere => .sent respPkt
  | some .outOfBounds => .outOfBounds
  | some (.at i) =>
    if i + 22 ≤ respPkt.length then .sent (respPkt.copyAt (i + 6) (computedMA.take 16))
    else .outOfBounds

def Answer.authenticated (sharedSecret reqAuth : Bytes) : Answer → Answer
  | .sent pkt =>
    if sharedSecret ≠ [] then
      .sent (pkt.copyAt 4 (Md5.sum (pkt.take 4 ++ reqAuth ++ pkt.drop 20 ++ sharedSecret)))
    else .sent pkt
  | answer => answer

/-- Answers a request with the result of Biz, in at most `fuel` steps of the search. -/
def sendCoAResponse (fuel : ℕ) (sharedSecret reqRaw : Bytes) (resultCode : UInt32) : Answer :=
  if reqRaw.length < 20 then .tooShort
  else
    let respPkt := reqRaw.set 0 (if resultCode = 0 then radiusCoAACK else radiusCoANAK)
    let reqAuth := (reqRaw.drop 4).take 16
    let answer :=
      if hasMessageAuthenticator reqRaw then
        let computedMA :=
          Md5.hmac sharedSecret (respPkt.take 4 ++ [0, 0, 0, 0] ++ reqAuth ++ reqRaw.drop 20)
        replaceMessageAuthenticator fuel reqRaw respPkt computedMA
      else .sent respPkt
    answer.authenticated sharedSecret reqAuth

/-! ## The search -/

/-- The places that the search comes to: from the first attribute on, behind each record that is not
the one it looks for, as long as there is room. -/
inductive Visits (raw : Bytes) : ℕ → Prop
  | start : Visits raw 20
  | next {i : ℕ} (h : Visits raw i) (hroom : i + 26 ≤ raw.length)
      (hcode : Bytes.uint16LE raw i ≠ 80) : Visits raw (i + Bytes.uint16LE raw (i + 2))

/-- A place with a record of length zero that is not the one the search looks for. -/
def Stuck (raw : Bytes) (i : ℕ) : Prop :=
  i + 26 ≤ raw.length ∧ Bytes.uint16LE raw i ≠ 80 ∧ Bytes.uint16LE raw (i + 2) = 0

section Search

variable {raw : Bytes} {i j : ℕ}

theorem avpStep_eq (raw : Bytes) (i : ℕ) :
    avpStep raw i =
      if i + 26 ≤ raw.length then
        if Bytes.uint16LE raw i = 80 then .inr (.at i) else .inl (i + Bytes.uint16LE raw (i + 2))
      else .inr .nowhere := by
  unfold avpStep Bytes.uint16LE?
  by_cases h : i + 26 ≤ raw.length
  · rw [if_pos h, if_pos h, if_pos (by omega), if_pos (by omega)]
  · rw [if_neg h, if_neg h]

theorem avpStep_eq_inl_iff :
    avpStep raw i = .inl j ↔
      i + 26 ≤ raw.length ∧ Bytes.uint16LE raw i ≠ 80 ∧ i + Bytes.uint16LE raw (i + 2) = j := by
  rw [avpStep_eq]
  split_ifs with hroom hcode
  · exact iff_of_false nofun fun h => h.2.1 hcode
  · rw [Sum.inl.injEq, and_iff_right hroom, and_iff_right hcode]
  · exact iff_of_false nofun fun h => hroom h.1

theorem avpStep_fixed_iff : avpStep raw i = .inl i ↔ Stuck raw i := by
  rw [avpStep_eq_inl_iff]
  unfold Stuck
  rw [Nat.add_eq_left]

theorem avpStep_decreasing (h : avpStep raw i = .inl j) :
    j = i ∨ raw.length - j < raw.length - i := by
  obtain ⟨hroom, -, rfl⟩ := avpStep_eq_inl_iff.mp h
  omega

theorem Visits.of_reaches (hi : Visits raw i) (h : Loop.Reaches (avpStep raw) i j) :
    Visits raw j := by
  induction h with
  | refl => exact hi
  | step hstep _ ih =>
    obtain ⟨hroom, hcode, rfl⟩ := avpStep_eq_inl_iff.mp hstep
    exact ih (hi.next hroom hcode)

theorem visits_iff : Visits raw i ↔ Loop.Reaches (avpStep raw) 20 i := by
  refine ⟨fun h => ?_, Visits.start.of_reaches⟩
  induction h with
  | start => exact .refl 20
  | next _ hroom hcode ih => exact ih.snoc (avpStep_eq_inl_iff.mpr ⟨hroom, hcode, rfl⟩)

theorem halts_avpStep_iff :
    Loop.Halts (avpStep raw) 20 ↔ ∀ i, Visits raw i → ¬ Stuck raw i := by
  rw [Loop.halts_iff fun _ _ => avpStep_decreasing]
  simp only [visits_iff, ← avpStep_fixed_iff]

theorem inBounds_of_run {fuel : ℕ} {found : Found}
    (h : Loop.run (avpStep raw) fuel 20 = some found) :
    found = .nowhere ∨ ∃ i, found = .at i ∧ i + 26 ≤ raw.length := by
  obtain ⟨i, -, hi⟩ := Loop.exists_of_run h
  rw [avpStep_eq] at hi
  split_ifs at hi with hroom
  · exact Or.inr ⟨i, (Sum.inr.inj hi).symm, hroom⟩
  · exact Or.inl (Sum.inr.inj hi).symm

end Search

/-! ## The answer -/

section Answers

variable {fuel : ℕ} {secret raw respPkt : Bytes}

theorem replaceMessageAuthenticator_of_run {found : Found} (computedMA : Bytes)
    (hlen : respPkt.length = raw.length) (hrun : Loop.run (avpStep raw) fuel 20 = some found) :
    ∃ pkt, replaceMessageAuthenticator fuel raw respPkt computedMA = .sent pkt := by
  unfold replaceMessageAuthenticator
  rw [hrun]
  rcases inBounds_of_run hrun with rfl | ⟨i, rfl, hroom⟩
  · exact ⟨respPkt, rfl⟩
  · dsimp only
    rw [if_pos (by omega)]
    exact ⟨_, rfl⟩

theorem replaceMessageAuthenticator_of_running (respPkt computedMA : Bytes)
    (hrun : Loop.run (avpStep raw) fuel 20 = none) :
    replaceMessageAuthenticator fuel raw respPkt computedMA = .running := by
  unfold replaceMessageAuthenticator
  rw [hrun]

theorem Answer.authenticated_sent (secret reqAuth pkt : Bytes) :
    ∃ pkt', (Answer.sent pkt).authenticated secret reqAuth = .sent pkt' := by
  unfold authenticated
  split_ifs
  · exact ⟨_, rfl⟩
  · exact ⟨_, rfl⟩

theorem length_of_accepted (h : handleServerInitiated secret raw ≠ none) : ¬ raw.length < 20 := by
  intro hshort
  apply h
  unfold handleServerInitiated extractSessionID
  rw [if_pos hshort]
  rfl

/-- An answer waits for the search and for nothing else. -/
theorem sendCoAResponse_cases (secret : Bytes) (fuel : ℕ) (resultCode : UInt32)
    (hlen : ¬ raw.length < 20) (hma : hasMessageAuthenticator raw = true) :
    (Loop.run (avpStep raw) fuel 20 = none ∧
        sendCoAResponse fuel secret raw resultCode = .running) ∨
      ∃ found pkt, Loop.run (avpStep raw) fuel 20 = some found ∧
        sendCoAResponse fuel secret raw resultCode = .sent pkt := by
  unfold sendCoAResponse
  rw [if_neg hlen, hma]
  dsimp only
  rw [if_pos rfl]
  cases hrun : Loop.run (avpStep raw) fuel 20 with
  | none =>
    rw [replaceMessageAuthenticator_of_running _ _ hrun]
    exact Or.inl ⟨rfl, rfl⟩
  | some found =>
    obtain ⟨pkt, hpkt⟩ := replaceMessageAuthenticator_of_run (Md5.hmac secret
      ((raw.set 0 (if resultCode = 0 then radiusCoAACK else radiusCoANAK)).take 4 ++ [0, 0, 0, 0] ++
        (raw.drop 4).take 16 ++ raw.drop 20)) (List.length_set ..) hrun
    rw [hpkt]
    obtain ⟨pkt', hpkt'⟩ := Answer.authenticated_sent secret ((raw.drop 4).take 16) pkt
    exact Or.inr ⟨found, pkt', rfl, hpkt'⟩

end Answers

/-- **Answers to a CoA or Disconnect.** The answer to an accepted request with a
Message-Authenticator is sent after finitely many steps without an index out of bounds, exactly if
no place that the search visits has a record of length zero. -/
theorem coa_answer_sent_iff (secret raw : Bytes) (resultCode : UInt32)
    (hacc : handleServerInitiated secret raw ≠ none) (hma : hasMessageAuthenticator raw = true) :
    ((∃ fuel pkt, sendCoAResponse fuel secret raw resultCode = .sent pkt) ∧
        ∀ fuel, sendCoAResponse fuel secret raw resultCode ≠ .outOfBounds) ↔
      ∀ i, Visits raw i → ¬ Stuck raw i := by
  have hcases := fun fuel =>
    sendCoAResponse_cases secret fuel resultCode (length_of_accepted hacc) hma
  rw [← halts_avpStep_iff]
  constructor
  · rintro ⟨⟨fuel, pkt, hsent⟩, -⟩
    rcases hcases fuel with ⟨-, hans⟩ | ⟨found, -, hrun, -⟩
    · rw [hans] at hsent
      cases hsent
    · exact ⟨fuel, found, hrun⟩
  · rintro ⟨fuel, found, hrun⟩
    refine ⟨⟨fuel, ?_⟩, fun fuel' hout => ?_⟩
    · rcases hcases fuel with ⟨hnone, -⟩ | ⟨-, pkt, -, hsent⟩
      · rw [hnone] at hrun
        cases hrun
      · exact ⟨pkt, hsent⟩
    · rcases hcases fuel' with ⟨-, hans⟩ | ⟨-, pkt, -, hans⟩
      · rw [hans] at hout
        cases hout
      · rw [hans] at hout
        cases hout

namespace Sample

/-- A CoA-Request with the given attributes and a Message-Authenticator. -/
def coaRequest (attrs : Bytes) : Bytes :=
  let unsigned := [43, 9] ++ Bytes.putUint16 (38 + attrs.length) ++ List.replicate 16 5 ++ attrs ++
    [80, 18]
  unsigned ++ Md5.hmac Radius.Sample.secret (unsigned ++ List.replicate 16 0)

def state : Bytes := [24, 14] ++ Bytes.ofString "nssAAF;1;ctx"

/-- The request of a server that knows the session by its State. -/
def plainRequest : Bytes := coaRequest state

/-- The same request for the Service-Type Authorize-Only. -/
def authorizeOnly : Bytes := coaRequest ([6, 6, 0, 0, 0, 17] ++ state)

end Sample

open Radius.Sample in
/-- A request whose first attribute is the State is answered. -/
theorem coa_with_state_answered :
    (∃ fuel pkt, sendCoAResponse fuel secret Sample.plainRequest 0 = .sent pkt) ∧
      ∀ fuel, sendCoAResponse fuel secret Sample.plainRequest 0 ≠ .outOfBounds :=
  (coa_answer_sent_iff secret Sample.plainRequest 0 (by decide +kernel)
    (by decide +kernel)).mpr (halts_avpStep_iff.mp ⟨2, .nowhere, by decide +kernel⟩)

open Sample Radius.Sample in
/-- A request whose first attribute is the Service-Type is accepted, and its answer is never
sent. -/
theorem coa_with_service_type_never_answered :
    handleServerInitiated secret authorizeOnly =
        some (Bytes.ofString "nssAAF;1;ctx", "COA") ∧
      hasMessageAuthenticator authorizeOnly = true ∧
      ∀ fuel, sendCoAResponse fuel secret authorizeOnly 0 = .running := by
  have hacc : handleServerInitiated secret authorizeOnly =
      some (Bytes.ofString "nssAAF;1;ctx", "COA") := by decide +kernel
  have hma : hasMessageAuthenticator authorizeOnly = true := by decide +kernel
  -- the value of the Service-Type begins with two zero octets
  have hfix : avpStep authorizeOnly 20 = .inl 20 := by decide +kernel
  refine ⟨hacc, hma, fun fuel => ?_⟩
  have hlen := length_of_accepted (Option.ne_none_iff_exists'.mpr ⟨_, hacc⟩)
  rcases sendCoAResponse_cases secret fuel 0 hlen hma with
    ⟨-, hans⟩ | ⟨found, pkt, hrun, -⟩
  · exact hans
  · rw [Loop.run_eq_none_of_fixed hfix] at hrun
    cases hrun

end NssAAF.Aaa
