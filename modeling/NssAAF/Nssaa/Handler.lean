import NssAAF.Api.Common
import NssAAF.Eap.Session
import NssAAF.Lib.Results
import NssAAF.Storage.Nssaa

/-!
# The slice authentication service

The handler of `internal/api/nssaa/handler.go`. A slice authentication context is created by a
POST and confirmed by PUTs. Both check the request, and forward the EAP message to the AAA server;
if that fails, they answer with the message of the peer itself. A confirmation loads the session
of the context, and saves it with the next message and the status `CONFIRMED`.

`confirm_reflects_aaa_iff` says when a confirmation reflects what the AAA server decided.
-/

namespace NssAAF.Nssaa

open Api Storage

structure Snssai where
  sst : UInt8
  sd : String
  deriving DecidableEq

structure SliceAuthInfo where
  gpsi : String
  snssai : Snssai
  eapIdRsp : Option String
  amfInstanceId : Option String
  reauthNotifUri : Option String
  revocNotifUri : Option String

structure SliceAuthConfirmationData where
  gpsi : String
  snssai : Snssai
  eapMessage : Option String
  deriving DecidableEq

structure SliceAuthContext where
  authCtxId : String
  gpsi : String
  snssai : Snssai
  eapMessage : Option String
  deriving DecidableEq

structure SliceAuthConfirmationResponse where
  gpsi : String
  snssai : Snssai
  eapMessage : Option String
  authResult : Option NssaaStatus
  deriving DecidableEq

/-- A request. The body is what decoding it gave, with whether it has the member `snssai`. -/
structure Request (β : Type) where
  requestID : String
  body : Except String (β × Bool)

/-- The forwarding of an EAP payload to the AAA server, on behalf of an EAP session. -/
abbrev AAARouter : Type := Eap.Session → Bytes → Except String (Option Bytes)

/-- The handler. A rate limiter or an AAA router may not be configured. -/
structure Handler where
  aaa : Option AAARouter
  apiRoot : String
  amfRateLimiter : Option (String → Except String Bool)
  rateLimiter : Option (String → Except String Bool)

def Handler.withAAA (aaa : AAARouter) (h : Handler) : Handler := { h with aaa := some aaa }

/-! ## What creation and confirmation share -/

/-- The EAP session that the AAA router gets: it is made for the call and not stored. -/
def eapSession (now : Time) (authCtxID gpsi : String) (sst : UInt8) (sd : String) : Eap.Session :=
  (Eap.newSession now authCtxID gpsi).withSnssai (toString sst.toNat ++ ":" ++ sd)

/-- The message of the AAA server, or the message of the peer if there is no router or the
forwarding fails. -/
def Handler.nextEap (h : Handler) (session : Eap.Session) (eapPayload : Bytes) : Bytes :=
  match h.aaa with
  | none => eapPayload
  | some sendEAP =>
    match sendEAP session eapPayload with
    | .error _ => eapPayload
    | .ok nextEapBytes => nextEapBytes.getD []

/-- The octets of an EAP message that is required. -/
def decodeEapMessage {α : Type} (field : String) (message : Option String) :
    Except (Response α) Bytes :=
  if message.getD "" = "" then
    .error (writeProblem (validationProblem field (field ++ " is required")))
  else
    match Base64.decodeString (message.getD "") with
    | none =>
      .error (writeProblem
        (validationProblem field (field ++ " must be valid base64-encoded data")))
    | some payload => .ok payload

def readRequestBody {α β : Type} (r : Request β) : Except (Response α) (β × Bool) :=
  r.body.mapError fun err => writeProblem (validationProblem "body" err)

def checkSubscriber {α : Type} (gpsi : String) (snssai : Snssai) (snssaiPresent : Bool) :
    Except (Response α) Unit := do
  (validateGPSI gpsi).mapError writeProblem
  (validateSnssai snssai.sst.toNat snssai.sd !snssaiPresent).mapError writeProblem

/-- What a call did: its answer, the session that the store took from it, and the table after. -/
structure Outcome (α : Type) where
  response : Response α
  saved : Option NssaaSession
  table : NssaaTable

/-- The call ends with an answer before it changes anything. -/
def Outcome.refused {α : Type} (response : Response α) (t : NssaaTable) : Outcome α :=
  ⟨response, none, t⟩

namespace Handler

variable (h : Handler) (enc : Encryptor)

/-! ## Creation -/

/-- The checks of a POST, up to the session it creates. -/
def checkCreate (r : Request SliceAuthInfo) :
    Except (Response SliceAuthContext) (SliceAuthInfo × Bytes) := do
  let (body, snssaiPresent) ← readRequestBody r
  if body.amfInstanceId.any (denies h.amfRateLimiter) then
    throw (write429 60)
  checkSubscriber body.gpsi body.snssai snssaiPresent
  let eapPayload ← decodeEapMessage "eapIdRsp" body.eapIdRsp
  return (body, eapPayload)

def newNssaaSession (now : Time) (authCtxID : String) (body : SliceAuthInfo)
    (eapPayload : Bytes) : NssaaSession where
  authCtxID := authCtxID
  gpsi := body.gpsi
  snssaiSST := body.snssai.sst
  snssaiSD := body.snssai.sd
  amfInstance := body.amfInstanceId.getD ""
  reauthURI := body.reauthNotifUri.getD ""
  revocURI := body.revocNotifUri.getD ""
  eapPayload := eapPayload
  status := .pending
  callbackOwner := "amf"
  hasAIWContext := false
  createdAt := none
  updatedAt := none
  expiresAt := some (now + 5 * 60 * second)

def created (now : Time) (r : Request SliceAuthInfo) (authCtxID : String) (body : SliceAuthInfo)
    (eapPayload : Bytes) : Response SliceAuthContext where
  status := 201
  headers :=
    [("Location", h.apiRoot ++ "/nnssaaf-nssaa/v1/slice-authentications/" ++ authCtxID),
      ("X-Request-ID", r.requestID),
      ("Content-Type", "application/json; charset=utf-8")]
  body := .inr
    { authCtxId := authCtxID
      gpsi := body.gpsi
      snssai := body.snssai
      eapMessage := some (Base64.encodeToString
        (h.nextEap (eapSession now authCtxID body.gpsi body.snssai.sst body.snssai.sd)
          eapPayload)) }

/-- Handles a POST; `authCtxID` is the identifier that is made for the context. -/
def createSliceAuthenticationContext (w : Writing) (authCtxID : String) (r : Request SliceAuthInfo)
    (t : NssaaTable) : Outcome SliceAuthContext :=
  match h.checkCreate r with
  | .error response => .refused response t
  | .ok (body, eapPayload) =>
    let session := newNssaaSession w.now authCtxID body eapPayload
    match t.save enc w session with
    | .error err =>
      .refused (writeProblem (internalServerProblem
        ("failed to create auth context: " ++ err.text))) t
    | .ok t' => ⟨h.created w.now r authCtxID body eapPayload, some session, t'⟩

/-! ## Confirmation -/

/-- The checks of a PUT, up to the session of the context. -/
def checkConfirm (r : Request SliceAuthConfirmationData) (authCtxId : String) :
    Except (Response SliceAuthConfirmationResponse) (SliceAuthConfirmationData × Bytes) := do
  if denies h.rateLimiter ("authctx:" ++ authCtxId) then
    throw (write429 60)
  (validateAuthCtxID authCtxId).mapError fun p =>
    writeProblem (validationProblem "authCtxId" p.error)
  let (body, snssaiPresent) ← readRequestBody r
  checkSubscriber body.gpsi body.snssai snssaiPresent
  let eapPayload ← decodeEapMessage "eapMessage" body.eapMessage
  return (body, eapPayload)

/-- The session that a PUT confirms, from what the store gave for the context. -/
def sessionToConfirm (authCtxId : String) (body : SliceAuthConfirmationData)
    (loaded : Except StoreError NssaaSession) :
    Except (Response SliceAuthConfirmationResponse) NssaaSession :=
  match loaded with
  | .error .sessionNotFound =>
    .error (writeProblem (notFoundProblem
      ("slice authentication context " ++ quote authCtxId ++ " not found")))
  | .error (.failed err) =>
    .error (writeProblem (internalServerProblem ("failed to load auth context: " ++ err)))
  | .ok s =>
    if body.gpsi ≠ s.gpsi then
      .error (writeProblem (validationProblem "gpsi"
        "GPSI does not match the authenticated GPSI for this session"))
    else if s.snssaiSST ≠ body.snssai.sst ∨ s.snssaiSD ≠ body.snssai.sd then
      .error (writeProblem (validationProblem "snssai"
        "S-NSSAI does not match the original session"))
    else .ok s

def confirmEapSession (now : Time) (authCtxId : String) (body : SliceAuthConfirmationData)
    (s : NssaaSession) : Eap.Session :=
  eapSession now authCtxId body.gpsi s.snssaiSST s.snssaiSD

def confirmed (now : Time) (authCtxId : String) (body : SliceAuthConfirmationData)
    (eapPayload : Bytes) (s : NssaaSession) : NssaaSession :=
  { s with
    eapPayload := h.nextEap (confirmEapSession now authCtxId body s) eapPayload
    status := .confirmed }

/-- The rest of the confirmation, from the session that was loaded. -/
def confirm (w : Writing) (r : Request SliceAuthConfirmationData) (authCtxId : String)
    (body : SliceAuthConfirmationData) (eapPayload : Bytes) (s : NssaaSession) (t : NssaaTable) :
    Outcome SliceAuthConfirmationResponse :=
  let session := h.confirmed w.now authCtxId body eapPayload s
  match t.save enc w session with
  | .error err =>
    .refused (writeProblem (internalServerProblem
      ("failed to update auth context: " ++ err.text))) t
  | .ok t' =>
    { response :=
        ⟨200, [("X-Request-ID", r.requestID), ("Content-Type", "application/json; charset=utf-8")],
          .inr ⟨body.gpsi, body.snssai, some (Base64.encodeToString session.eapPayload), none⟩⟩
      saved := some session
      table := t' }

/-- Handles a PUT; `loadFault` is the failure of the store when the session is loaded. -/
def confirmSliceAuthentication (loadFault : Option String) (w : Writing)
    (r : Request SliceAuthConfirmationData) (authCtxId : String) (t : NssaaTable) :
    Outcome SliceAuthConfirmationResponse :=
  match h.checkConfirm r authCtxId with
  | .error response => .refused response t
  | .ok (body, eapPayload) =>
    match sessionToConfirm authCtxId body (t.load enc loadFault authCtxId) with
    | .error response => .refused response t
    | .ok s => h.confirm enc w r authCtxId body eapPayload s t

end Handler

/-! ## What a call does to the table -/

section

variable {h : Handler} {enc : Encryptor} {w : Writing} {t : NssaaTable}

theorem Handler.create_takes {authCtxID : String} {r : Request SliceAuthInfo} :
    t.Takes enc w (h.createSliceAuthenticationContext enc w authCtxID r t).saved
      (h.createSliceAuthenticationContext enc w authCtxID r t).table := by
  unfold createSliceAuthenticationContext
  cases h.checkCreate r with
  | error response => exact .nothing
  | ok p =>
    dsimp only
    cases hs : t.save enc w (newNssaaSession w.now authCtxID p.1 p.2) with
    | error err => exact .nothing
    | ok t' => exact .session hs

theorem Handler.status_of_create {authCtxID : String} {r : Request SliceAuthInfo}
    {s : NssaaSession}
    (hs : (h.createSliceAuthenticationContext enc w authCtxID r t).saved = some s) :
    s.status = .pending := by
  unfold createSliceAuthenticationContext at hs
  split at hs
  · cases hs
  · dsimp only at hs
    split at hs
    · cases hs
    · cases hs
      rfl

/-! A PUT is refused or answered with the next message. -/

variable {r : Request SliceAuthConfirmationData} {authCtxId : String}
  {body : SliceAuthConfirmationData} {eapPayload : Bytes} {s : NssaaSession}

theorem Handler.confirm_of_error {err : StoreError}
    (hs : t.save enc w (h.confirmed w.now authCtxId body eapPayload s) = .error err) :
    h.confirm enc w r authCtxId body eapPayload s t =
      .refused (writeProblem (internalServerProblem
        ("failed to update auth context: " ++ err.text))) t := by
  unfold confirm
  dsimp only
  rw [hs]

theorem Handler.confirm_of_ok {t' : NssaaTable}
    (hs : t.save enc w (h.confirmed w.now authCtxId body eapPayload s) = .ok t') :
    h.confirm enc w r authCtxId body eapPayload s t =
      { response :=
          ⟨200,
            [("X-Request-ID", r.requestID), ("Content-Type", "application/json; charset=utf-8")],
            .inr ⟨body.gpsi, body.snssai, some (Base64.encodeToString
              (h.confirmed w.now authCtxId body eapPayload s).eapPayload), none⟩⟩
        saved := some (h.confirmed w.now authCtxId body eapPayload s)
        table := t' } := by
  unfold confirm
  dsimp only
  rw [hs]

theorem Handler.confirm_takes :
    t.Takes enc w (h.confirm enc w r authCtxId body eapPayload s t).saved
      (h.confirm enc w r authCtxId body eapPayload s t).table := by
  cases hs : t.save enc w (h.confirmed w.now authCtxId body eapPayload s) with
  | error err =>
    rw [confirm_of_error hs]
    exact .nothing
  | ok t' =>
    rw [confirm_of_ok hs]
    exact .session hs

theorem Handler.of_confirm_saved {s' : NssaaSession}
    (hs : (h.confirm enc w r authCtxId body eapPayload s t).saved = some s') :
    s'.status = .confirmed ∧
      ∃ c, (h.confirm enc w r authCtxId body eapPayload s t).response.body = .inr c ∧
        c.eapMessage.bind Base64.decodeString = some s'.eapPayload := by
  cases hw : t.save enc w (h.confirmed w.now authCtxId body eapPayload s) with
  | error err =>
    rw [confirm_of_error hw] at hs
    cases hs
  | ok t' =>
    rw [confirm_of_ok hw] at hs ⊢
    cases hs
    exact ⟨rfl, _, rfl, Base64.decodeString_encodeToString _⟩

end

/-! ## A confirmation and the AAA server -/

/-- The AAA server accepts: its answer is an EAP-Success. -/
def Accepts (answer : Except String (Option Bytes)) : Prop :=
  ∃ b p, answer = .ok (some b) ∧ Eap.parse b = .ok p ∧ p.code = Eap.codeSuccess

/-- The persisted status and payload of a context. -/
def persisted (enc : Encryptor) (authCtxId : String) (t : NssaaTable) :
    Option (NssaaStatus × Bytes) :=
  (t.load enc none authCtxId).toOption.map fun s => (s.status, s.eapPayload)

/-- The answer is a 200 that carries the message of the peer. -/
def Outcome.Echoes (o : Outcome SliceAuthConfirmationResponse) (eapPayload : Bytes) : Prop :=
  o.response.status = 200 ∧
    ∃ c, o.response.body = .inr c ∧ c.eapMessage = some (Base64.encodeToString eapPayload)

/-- A confirmation reflects the answer of the AAA server: it persists `CONFIRMED` only if the
server accepts, and if the forwarding fails it neither changes what is persisted nor echoes the
message of the peer. -/
structure ReflectsAAA (enc : Encryptor) (answer : Except String (Option Bytes)) (eapPayload : Bytes)
    (authCtxId : String) (t : NssaaTable) (o : Outcome SliceAuthConfirmationResponse) : Prop where
  accepted : ∀ s, o.saved = some s → s.status = .confirmed → Accepts answer
  failed : ∀ err, answer = .error err →
    persisted enc authCtxId o.table = persisted enc authCtxId t ∧ ¬ o.Echoes eapPayload

/-- A valid PUT for the stored session `s`. -/
structure Handler.Admits (h : Handler) (enc : Encryptor) (r : Request SliceAuthConfirmationData)
    (authCtxId : String) (t : NssaaTable) (body : SliceAuthConfirmationData) (eapPayload : Bytes)
    (s : NssaaSession) : Prop where
  checked : h.checkConfirm r authCtxId = .ok (body, eapPayload)
  stored : sessionToConfirm authCtxId body (t.load enc none authCtxId) = .ok s

section

variable {h : Handler} {enc : Encryptor} {w : Writing} {r : Request SliceAuthConfirmationData}
  {authCtxId : String} {t : NssaaTable} {body : SliceAuthConfirmationData} {eapPayload : Bytes}
  {s : NssaaSession}

theorem Handler.Admits.outcome (ha : h.Admits enc r authCtxId t body eapPayload s) :
    h.confirmSliceAuthentication enc none w r authCtxId t =
      h.confirm enc w r authCtxId body eapPayload s t := by
  unfold Handler.confirmSliceAuthentication
  rw [ha.checked]
  dsimp only
  rw [ha.stored]

theorem Handler.of_sessionToConfirm {loaded : Except StoreError NssaaSession}
    (hs : sessionToConfirm authCtxId body loaded = .ok s) :
    loaded = .ok s ∧ body.gpsi = s.gpsi := by
  unfold sessionToConfirm at hs
  split at hs
  · cases hs
  · cases hs
  · split_ifs at hs with hgpsi
    cases hs
    exact ⟨rfl, not_not.mp hgpsi⟩

theorem Handler.gpsi_of_checkConfirm (hc : h.checkConfirm r authCtxId = .ok (body, eapPayload)) :
    body.gpsi ≠ "" := by
  unfold checkConfirm at hc
  split_ifs at hc
  · cases hc
  · obtain ⟨-, -, hc⟩ := Results.of_bind_ok hc
    obtain ⟨p, -, hc⟩ := Results.of_bind_ok hc
    obtain ⟨_, hsubscriber, hc⟩ := Results.of_bind_ok hc
    obtain ⟨_, -, hc⟩ := Results.of_bind_ok hc
    cases hc
    obtain ⟨_, hgpsi, -⟩ := Results.of_bind_ok hsubscriber
    exact ne_empty_of_validateGPSI (Results.mapError_eq_ok_iff.mp hgpsi)

variable (h enc w r authCtxId t) in
theorem Handler.confirm_cases (loadFault : Option String) :
    ((h.confirmSliceAuthentication enc loadFault w r authCtxId t).saved = none ∧
      (h.confirmSliceAuthentication enc loadFault w r authCtxId t).table = t) ∨
    ∃ s body eapPayload t', t.load enc loadFault authCtxId = .ok s ∧ s.gpsi ≠ "" ∧
      t.save enc w (h.confirmed w.now authCtxId body eapPayload s) = .ok t' ∧
      (h.confirmSliceAuthentication enc loadFault w r authCtxId t).saved =
        some (h.confirmed w.now authCtxId body eapPayload s) ∧
      (h.confirmSliceAuthentication enc loadFault w r authCtxId t).table = t' := by
  unfold confirmSliceAuthentication
  cases hc : h.checkConfirm r authCtxId with
  | error response => exact Or.inl ⟨rfl, rfl⟩
  | ok p =>
    obtain ⟨body, eapPayload⟩ := p
    dsimp only
    cases hs : sessionToConfirm authCtxId body (t.load enc loadFault authCtxId) with
    | error response => exact Or.inl ⟨rfl, rfl⟩
    | ok s =>
      obtain ⟨hload, heq⟩ := of_sessionToConfirm hs
      have hgpsi : s.gpsi ≠ "" := heq ▸ gpsi_of_checkConfirm hc
      dsimp only
      cases hw : t.save enc w (h.confirmed w.now authCtxId body eapPayload s) with
      | error err =>
        rw [confirm_of_error hw]
        exact Or.inl ⟨rfl, rfl⟩
      | ok t' =>
        rw [confirm_of_ok hw]
        exact Or.inr ⟨s, body, eapPayload, t', hload, hgpsi, hw, rfl, rfl⟩

theorem Handler.Admits.save_ok_iff (ha : h.Admits enc r authCtxId t body eapPayload s) :
    (∃ t', t.save enc w (h.confirmed w.now authCtxId body eapPayload s) = .ok t') ↔
      w.update.Succeeds enc s.gpsi := by
  obtain ⟨hload, -⟩ := of_sessionToConfirm ha.stored
  refine NssaaTable.save_ok_iff ?_
  show t.row s.authCtxID ≠ none
  obtain ⟨row, hrow, -⟩ := NssaaTable.load_ok hload
  rw [NssaaTable.authCtxID_of_load hload, hrow]
  exact Option.some_ne_none row

/-- **Confirmation and the AAA server.** A valid confirmation reflects the answer of the AAA server
exactly if the store cannot update the session, or the server accepts. -/
theorem confirm_reflects_aaa_iff {sendEAP : AAARouter}
    (ha : (h.withAAA sendEAP).Admits enc r authCtxId t body eapPayload s) :
    ReflectsAAA enc (sendEAP (Handler.confirmEapSession w.now authCtxId body s) eapPayload)
        eapPayload authCtxId t
        ((h.withAAA sendEAP).confirmSliceAuthentication enc none w r authCtxId t) ↔
      ¬ w.update.Succeeds enc s.gpsi ∨
      Accepts (sendEAP (Handler.confirmEapSession w.now authCtxId body s) eapPayload) := by
  rw [ha.outcome, ← ha.save_ok_iff]
  cases hs : t.save enc w ((h.withAAA sendEAP).confirmed w.now authCtxId body eapPayload s) with
  | error err =>
    -- the call is refused with a 500 and changes nothing
    rw [Handler.confirm_of_error hs]
    refine iff_of_true ⟨?_, fun _ _ => ⟨rfl, ?_⟩⟩ (Or.inl Results.not_exists_ok)
    · intro s' hs' _
      cases hs'
    · rintro ⟨h200, -⟩
      cases h200
  | ok t' =>
    rw [Handler.confirm_of_ok hs]
    constructor
    · intro hr
      exact Or.inr (hr.accepted _ rfl rfl)
    · rintro (hno | hacc)
      · exact absurd ⟨t', rfl⟩ hno
      · refine ⟨fun _ _ _ => hacc, fun err herr => ?_⟩
        obtain ⟨b, p, hb, -⟩ := hacc
        rw [herr] at hb
        cases hb

end

/-! ### A context that is created and confirmed -/

namespace Sample

/-- A cipher that keeps the plaintext and appends a tag of zeros. -/
def aead : Crypto.Aead :=
  ⟨fun _ _ plaintext => plaintext ++ List.replicate 16 0,
    fun _ _ ciphertext => some (ciphertext.take (ciphertext.length - 16))⟩

def enc : Encryptor := ⟨aead, List.replicate 32 0⟩

def statement : Statement := ⟨.ok (List.replicate 12 0), .ok (List.replicate 12 0), none⟩

def writing (now : Time) : Writing := ⟨now, statement, statement⟩

def base : Handler := ⟨none, "https://nssaaf", none, none⟩

/-- A router that gets the same answer for every payload. -/
def router (answer : Except String (Option Bytes)) : AAARouter := fun _ _ => answer

def snssai : Snssai := ⟨1, "000001"⟩

def message : Bytes := [2, 2, 0, 5, 1]

def createRequest : Request SliceAuthInfo :=
  ⟨"req-1", .ok (⟨"msisdn-84901", snssai, some "AgEABQE=", some "amf-1",
    some "https://amf/reauth", some "https://amf/revoc"⟩, true)⟩

def body : SliceAuthConfirmationData :=
  ⟨"msisdn-84901", snssai, some (Base64.encodeToString message)⟩

def confirmRequest : Request SliceAuthConfirmationData := ⟨"req-2", .ok (body, true)⟩

/-- The table with one context, as creation leaves it. -/
def table : NssaaTable :=
  ((base.withAAA (router (.ok none))).createSliceAuthenticationContext enc (writing 1) "ctx"
    createRequest []).table

/-- The confirmation of that context when the AAA server gives `answer`. -/
def confirmation (answer : Except String (Option Bytes)) :
    Outcome SliceAuthConfirmationResponse :=
  (base.withAAA (router answer)).confirmSliceAuthentication enc none (writing 2) confirmRequest
    "ctx" table

def session : NssaaSession where
  authCtxID := "ctx"
  gpsi := "msisdn-84901"
  snssaiSST := 1
  snssaiSD := "000001"
  amfInstance := "amf-1"
  reauthURI := "https://amf/reauth"
  revocURI := "https://amf/revoc"
  eapPayload := [2, 1, 0, 5, 1]
  status := .pending
  callbackOwner := "amf"
  hasAIWContext := false
  createdAt := some 1
  updatedAt := some 1
  expiresAt := some (1 + 5 * 60 * second)

theorem admits (sendEAP : AAARouter) :
    (base.withAAA sendEAP).Admits enc confirmRequest "ctx" table body message session := by
  constructor
  · -- the checks do not depend on the router
    have hchecked : base.checkConfirm confirmRequest "ctx" = .ok (body, message) := by
      decide +kernel
    exact hchecked
  · decide +kernel

end Sample

open Sample in
/-- The AAA server cannot be reached: the peer gets its own message back with a 200, and the
context is confirmed. -/
theorem unreachable_server_confirms :
    table.statusOf "ctx" = some .pending ∧
      (confirmation (.error "aaa-gateway: connection refused")).response.status = 200 ∧
      (confirmation (.error "aaa-gateway: connection refused")).response.body =
        .inr ⟨"msisdn-84901", snssai, some (Base64.encodeToString message), none⟩ ∧
      (confirmation (.error "aaa-gateway: connection refused")).table.statusOf "ctx" =
        some .confirmed := by
  decide +kernel

/-- The AAA server accepts, and the confirmation reflects it. -/
theorem accepting_server_confirms :
    ReflectsAAA Sample.enc (.ok (some [3, 2, 0, 4])) Sample.message "ctx" Sample.table
      (Sample.confirmation (.ok (some [3, 2, 0, 4]))) :=
  (confirm_reflects_aaa_iff (Sample.admits (Sample.router (.ok (some [3, 2, 0, 4]))))).mpr
    (Or.inr ⟨_, _, rfl, rfl, rfl⟩)

end NssAAF.Nssaa
