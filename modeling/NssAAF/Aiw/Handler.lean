import NssAAF.Nssaa.Handler
import NssAAF.Storage.Aiw

/-!
# The confirmation of an AIW context

The PUT of `internal/api/aiw/handler.go`. It checks the request, loads the session of the context,
and saves it with the EAP message of the request, which is also what it answers with.

`Handler.confirm_cases` says what a PUT does to the table, and what stands behind the status of its
answer.
-/

namespace NssAAF.Aiw

open Api Storage

/-- The body of a PUT. The decoder has read the EAP message from its base64 text. -/
structure AuthConfirmationData where
  supi : String
  eapMessage : Option Bytes
  deriving DecidableEq

structure AuthConfirmationResponse where
  supi : String
  eapMessage : Option Bytes
  authResult : Option NssaaStatus
  pvsInfo : Option (List String)
  deriving DecidableEq

/-- A request. The body is what decoding it gave. -/
structure Request where
  requestID : String
  body : Except String AuthConfirmationData

structure Handler where
  rateLimiter : Option (String → Except String Bool)

/-- What a call did: its answer, the session that the store took from it, and the table after. -/
structure Outcome where
  response : Response AuthConfirmationResponse
  saved : Option AiwSession
  table : AiwTable

/-- The call ends with an answer before it changes anything. -/
def Outcome.refused (response : Response AuthConfirmationResponse) (t : AiwTable) : Outcome :=
  ⟨response, none, t⟩

def requireEapMessage (message : Option Bytes) :
    Except (Response AuthConfirmationResponse) Bytes :=
  match message with
  | none => .error (writeProblem (validationProblem "eapMessage" "eapMessage is required"))
  | some eapPayload =>
    if eapPayload.length = 0 then
      .error (writeProblem (validationProblem "eapMessage" "eapMessage is required"))
    else .ok eapPayload

namespace Handler

variable (h : Handler) (enc : Encryptor)

def checkRate (authCtxId : String) : Except (Response AuthConfirmationResponse) Unit :=
  if denies h.rateLimiter ("aiw:authctx:" ++ authCtxId) then .error (write429 60) else .ok ()

/-- The checks of a PUT, up to the session of the context. -/
def checkConfirm (r : Request) (authCtxId : String) :
    Except (Response AuthConfirmationResponse) (AuthConfirmationData × Bytes) := do
  (validateAuthCtxID authCtxId).mapError fun p =>
    writeProblem (validationProblem "authCtxId" p.error)
  h.checkRate authCtxId
  let body ← r.body.mapError fun err => writeProblem (validationProblem "body" err)
  (validateSUPI body.supi).mapError writeProblem
  let eapPayload ← requireEapMessage body.eapMessage
  return (body, eapPayload)

/-- The session that a PUT confirms, from what the store gave for the context. -/
def sessionToConfirm (authCtxId : String) (body : AuthConfirmationData)
    (loaded : Except StoreError AiwSession) :
    Except (Response AuthConfirmationResponse) AiwSession :=
  match loaded with
  | .error .sessionNotFound =>
    .error (writeProblem (notFoundProblem
      ("authentication context " ++ quote authCtxId ++ " not found")))
  | .error (.failed err) =>
    .error (writeProblem (internalServerProblem ("failed to load auth context: " ++ err)))
  | .ok s =>
    if body.supi ≠ s.supi then
      .error (writeProblem (validationProblem "supi"
        "SUPI does not match the authenticated SUPI for this session"))
    else .ok s

/-- Handles a PUT; `loadFault` is the failure of the store when the session is loaded. -/
def confirmAuthentication (loadFault : Option String) (w : Storage.Aiw.Writing) (r : Request)
    (authCtxId : String) (t : AiwTable) : Outcome :=
  match h.checkConfirm r authCtxId with
  | .error response => .refused response t
  | .ok (body, eapPayload) =>
    match sessionToConfirm authCtxId body (t.load enc loadFault authCtxId) with
    | .error response => .refused response t
    | .ok s =>
      let session := { s with eapPayload := eapPayload }
      match t.save enc w session with
      | .error err =>
        .refused (writeProblem (internalServerProblem
          ("failed to update auth context: " ++ err.text))) t
      | .ok t' =>
        { response :=
            ⟨200,
              [("X-Request-ID", r.requestID), ("Content-Type", "application/json; charset=utf-8")],
              .inr ⟨body.supi, body.eapMessage, none, some []⟩⟩
          saved := some session
          table := t' }

end Handler

/-! ## What a call does to the table -/

section

variable {h : Handler} {enc : Encryptor} {loadFault : Option String} {w : Storage.Aiw.Writing}
  {r : Request} {authCtxId : String} {t : AiwTable} {body : AuthConfirmationData}
  {eapPayload : Bytes} {s : AiwSession}

theorem requireEapMessage_ok {message : Option Bytes}
    (hm : requireEapMessage message = .ok eapPayload) :
    message = some eapPayload ∧ eapPayload ≠ [] := by
  unfold requireEapMessage at hm
  split at hm
  · cases hm
  · split_ifs at hm with hlength
    cases hm
    exact ⟨rfl, fun hnil => hlength (List.length_eq_zero_iff.mpr hnil)⟩

theorem Handler.of_checkConfirm (hc : h.checkConfirm r authCtxId = .ok (body, eapPayload)) :
    r.body = .ok body ∧ body.eapMessage = some eapPayload ∧ body.supi ≠ "" ∧ eapPayload ≠ [] := by
  obtain ⟨-, -, hc⟩ := Results.of_bind_ok hc
  obtain ⟨-, -, hc⟩ := Results.of_bind_ok hc
  obtain ⟨body', hbody, hc⟩ := Results.of_bind_ok hc
  obtain ⟨_, hsupi, hc⟩ := Results.of_bind_ok hc
  obtain ⟨eapPayload', hmessage, hc⟩ := Results.of_bind_ok hc
  cases hc
  obtain ⟨hpayload, hne⟩ := requireEapMessage_ok hmessage
  exact ⟨Results.mapError_eq_ok_iff.mp hbody, hpayload,
    ne_empty_of_validateSUPI (Results.mapError_eq_ok_iff.mp hsupi), hne⟩

theorem Handler.status_of_checkConfirm {response : Response AuthConfirmationResponse}
    (hc : h.checkConfirm r authCtxId = .error response) : 400 ≤ response.status := by
  rcases Results.of_bind_error hc with hid | ⟨-, -, hc⟩
  · obtain ⟨p, -, rfl⟩ := Results.of_mapError_error hid
    exact Nat.le_refl 400
  rcases Results.of_bind_error hc with hrate | ⟨-, -, hc⟩
  · unfold checkRate at hrate
    split_ifs at hrate
    cases hrate
    exact (by decide : 400 ≤ 429)
  rcases Results.of_bind_error hc with hbody | ⟨body, -, hc⟩
  · obtain ⟨err, -, rfl⟩ := Results.of_mapError_error hbody
    exact Nat.le_refl 400
  rcases Results.of_bind_error hc with hsupi | ⟨-, -, hc⟩
  · obtain ⟨p, hp, rfl⟩ := Results.of_mapError_error hsupi
    obtain ⟨field, -, reason, rfl⟩ := isAbout_of_validateSUPI hp
    exact Nat.le_refl 400
  rcases Results.of_bind_error hc with hmessage | ⟨eapPayload, -, hc⟩
  · unfold requireEapMessage at hmessage
    split at hmessage
    · cases hmessage
      exact Nat.le_refl 400
    · split_ifs at hmessage
      cases hmessage
      exact Nat.le_refl 400
  · cases hc

theorem Handler.of_sessionToConfirm {loaded : Except StoreError AiwSession}
    (hs : sessionToConfirm authCtxId body loaded = .ok s) :
    loaded = .ok s ∧ body.supi = s.supi := by
  unfold sessionToConfirm at hs
  split at hs
  · cases hs
  · cases hs
  · split_ifs at hs with hsupi
    cases hs
    exact ⟨rfl, not_not.mp hsupi⟩

theorem Handler.status_of_sessionToConfirm {loaded : Except StoreError AiwSession}
    {response : Response AuthConfirmationResponse}
    (hs : sessionToConfirm authCtxId body loaded = .error response) : 400 ≤ response.status := by
  unfold sessionToConfirm at hs
  split at hs
  · cases hs
    exact (by decide : 400 ≤ 404)
  · cases hs
    exact (by decide : 400 ≤ 500)
  · split_ifs at hs
    cases hs
    exact Nat.le_refl 400

variable (h enc loadFault w r authCtxId t) in
/-- A PUT is refused and changes nothing, or it is answered with 200: its body names the subscriber
of the session, and the session is saved with the EAP message of the body. -/
theorem Handler.confirm_cases :
    (400 ≤ (h.confirmAuthentication enc loadFault w r authCtxId t).response.status ∧
      (h.confirmAuthentication enc loadFault w r authCtxId t).saved = none ∧
      (h.confirmAuthentication enc loadFault w r authCtxId t).table = t) ∨
    ∃ body s eapPayload t', r.body = .ok body ∧ body.eapMessage = some eapPayload ∧
      t.load enc loadFault authCtxId = .ok s ∧ body.supi = s.supi ∧ body.supi ≠ "" ∧
      eapPayload ≠ [] ∧ t.save enc w { s with eapPayload := eapPayload } = .ok t' ∧
      (h.confirmAuthentication enc loadFault w r authCtxId t).response.status = 200 ∧
      (h.confirmAuthentication enc loadFault w r authCtxId t).saved =
        some { s with eapPayload := eapPayload } ∧
      (h.confirmAuthentication enc loadFault w r authCtxId t).table = t' := by
  unfold confirmAuthentication
  cases hc : h.checkConfirm r authCtxId with
  | error response => exact Or.inl ⟨status_of_checkConfirm hc, rfl, rfl⟩
  | ok p =>
    obtain ⟨body, eapPayload⟩ := p
    obtain ⟨hbody, hmessage, hsupi, hne⟩ := of_checkConfirm hc
    dsimp only
    cases hs : sessionToConfirm authCtxId body (t.load enc loadFault authCtxId) with
    | error response => exact Or.inl ⟨status_of_sessionToConfirm hs, rfl, rfl⟩
    | ok s =>
      obtain ⟨hload, heq⟩ := of_sessionToConfirm hs
      dsimp only
      cases hw : t.save enc w { s with eapPayload := eapPayload } with
      | error err => exact Or.inl ⟨(by decide : 400 ≤ 500), rfl, rfl⟩
      | ok t' =>
        exact Or.inr ⟨body, s, eapPayload, t', hbody, hmessage, hload, heq, hsupi, hne, hw, rfl,
          rfl, rfl⟩

end

end NssAAF.Aiw
