import NssAAF.Storage.Nssaa

/-!
# Messages that the AAA server sends on its own

The handling of server-initiated messages by `internal/biz`: the coordinator finds the context a
message is about, records what the message asks for, and notifies the AMF or links the AIW context.
The three kinds of messages go the same way and differ in what `Reaction` says: a re-authentication
makes the session pending, an abort revokes it, a change of authorization replaces its payload and
authorizes it.
-/

namespace NssAAF.Biz

open Storage

inductive MessageType
  | rar
  | asr
  | coa
  | other (name : String)
  deriving DecidableEq

def MessageType.string : MessageType → String
  | .rar => "RAR"
  | .asr => "ASR"
  | .coa => "COA"
  | .other name => name

structure AaaServerInitiatedRequest where
  version : String
  sessionID : String
  authCtxID : String
  messageType : MessageType
  payload : Bytes

structure AaaServerInitiatedResponse where
  version : String
  sessionID : String
  authCtxID : String
  payload : Bytes
  deriving DecidableEq

inductive Completion
  | stateOnly
  | amfNotified
  | aiwLinked
  deriving DecidableEq

structure ServerInitiatedResult where
  response : AaaServerInitiatedResponse
  completion : Completion
  deriving DecidableEq

def ServerInitiatedResult.validate (r : ServerInitiatedResult) :
    Except String ServerInitiatedResult :=
  if r.response.payload.length = 0 then .error "response payload is required" else .ok r

/-- What the persisted session says about a message. -/
structure NssaaSessionContext where
  authCtxID : String
  sessionID : String
  gpsi : String
  reauthNotifURI : String
  revocNotifURI : String
  callbackOwner : String
  hasAIWContext : Bool

/-! ## Recording what a message asks for -/

/-- A change of the persisted session, with the texts of its errors. The context and its subscriber
stay. -/
structure StateWrite where
  loading : String
  saving : String
  change : Time → NssaaSession → NssaaSession
  change_authCtxID : ∀ now s, (change now s).authCtxID = s.authCtxID
  change_gpsi : ∀ now s, (change now s).gpsi = s.gpsi

def markReauthPending : StateWrite where
  loading := "load session for reauth "
  saving := "save reauth session "
  change now s := { s with status := .pending, updatedAt := some now }
  change_authCtxID _ _ := rfl
  change_gpsi _ _ := rfl

def markRevoked : StateWrite where
  loading := "load session for revocation "
  saving := "save revoked session "
  change now s := { s with status := .revoked, updatedAt := some now }
  change_authCtxID _ _ := rfl
  change_gpsi _ _ := rfl

def applyCoA (payload : Bytes) : StateWrite where
  loading := "load session for coa "
  saving := "save coa session "
  change now s := { s with eapPayload := payload, status := .authorized, updatedAt := some now }
  change_authCtxID _ _ := rfl
  change_gpsi _ _ := rfl

namespace StateWrite

variable (sw : StateWrite) (enc : Encryptor)

def loaded (authCtxID : String) (result : Except StoreError NssaaSession) :
    Except String NssaaSession :=
  result.mapError fun err => sw.loading ++ authCtxID ++ ": " ++ err.text

/-- The rest of the write, from the session that was loaded. -/
def store (w : Writing) (authCtxID : String) (s : NssaaSession) (t : NssaaTable) :
    Except String NssaaTable :=
  (t.save enc w (sw.change w.now s)).mapError fun err =>
    sw.saving ++ authCtxID ++ ": " ++ err.text

def write (loadFault : Option String) (w : Writing) (authCtxID : String) (t : NssaaTable) :
    Except String NssaaTable := do
  let s ← sw.loaded authCtxID (t.load enc loadFault authCtxID)
  sw.store enc w authCtxID s t

end StateWrite

/-! ## The coordinator -/

/-- What the coordinator uses: the correlation entries (the context of an AAA session), the
notifications to the AMF and the AIW linking, which may not be configured. -/
structure Coordinator where
  version : String
  correlation : String → Except String (Option String)
  sendReAuthNotification : String → String → Bytes → Except String Unit
  sendRevocationNotification : String → String → Bytes → Except String Unit
  aiwLink : Option (String → Except String Unit)

/-- How the AMF is notified of a message. -/
structure Notification where
  failing : String
  uri : NssaaSessionContext → String
  send : String → String → Bytes → Except String Unit

structure Reaction where
  failing : String
  write : StateWrite
  notification : Option Notification
  answer : Bytes

namespace Coordinator

variable (c : Coordinator) (req : AaaServerInitiatedRequest)

def handleRAR : Reaction where
  failing := "mark reauth pending: "
  write := markReauthPending
  notification := some ⟨"send reauth notification: ", (·.reauthNotifURI), c.sendReAuthNotification⟩
  answer := [2, 0, 0, 12]

def handleASR : Reaction where
  failing := "mark revoked: "
  write := markRevoked
  notification :=
    some ⟨"send revocation notification: ", (·.revocNotifURI), c.sendRevocationNotification⟩
  answer := [1]

/-- A change of authorization is not notified to the AMF. -/
def handleCoA : Reaction where
  failing := "apply coa: "
  write := applyCoA req.payload
  notification := none
  answer := [2, 0, 0, 12]

/-- The reaction to a message, if there is one for its kind. -/
def reaction : Option Reaction :=
  match req.messageType with
  | .rar => some c.handleRAR
  | .asr => some c.handleASR
  | .coa => some (handleCoA req)
  | .other _ => none

/-- The context that a message is about: the one it names, or the one its session belongs to. -/
def target : Except String String := do
  let entry ← if req.sessionID = "" then pure none else c.correlation req.sessionID
  let resolved := if req.authCtxID = "" then entry.getD "" else req.authCtxID
  if resolved = "" then throw "auth context could not be resolved"
  return resolved

def context (authCtxID : String) (loaded : Except StoreError NssaaSession) :
    Except String NssaaSessionContext :=
  match loaded with
  | .error err =>
    .error ("load auth context " ++ authCtxID ++ ": load nssaa session " ++ authCtxID ++ ": " ++
      err.text)
  | .ok s => .ok
      { authCtxID := authCtxID
        sessionID := req.sessionID
        gpsi := s.gpsi
        reauthNotifURI := s.reauthURI
        revocNotifURI := s.revocURI
        callbackOwner := s.callbackOwner
        hasAIWContext := s.hasAIWContext }

/-- The coordinator takes a message with its context, or refuses it. -/
def accept (ctx : NssaaSessionContext) : Except String Reaction :=
  if ctx.callbackOwner = "" then
    .error "callback owner is required for server-initiated handling"
  else
    match c.reaction req with
    | none => .error ("unsupported message type: " ++ req.messageType.string)
    | some re => .ok re

/-- The AMF is notified if it owns the context and gave an address for such messages. -/
def notify (ctx : NssaaSessionContext) (re : Reaction) : Except String Completion :=
  match re.notification with
  | none => .ok .stateOnly
  | some n =>
    if ctx.callbackOwner = "amf" ∧ n.uri ctx ≠ "" then
      ((n.send (n.uri ctx) ctx.authCtxID req.payload).map fun _ => .amfNotified).mapError
        (n.failing ++ ·)
    else .ok .stateOnly

/-- The AIW context is linked if the AUSF owns the context and there is one. -/
def link (ctx : NssaaSessionContext) (completion : Completion) : Except String Completion :=
  if ctx.callbackOwner = "ausf" ∧ ctx.hasAIWContext then
    match c.aiwLink with
    | none => .error "aiw linker not configured"
    | some markAIWLinked =>
      ((markAIWLinked ctx.authCtxID).map fun _ => .aiwLinked).mapError ("mark aiw linked: " ++ ·)
  else .ok completion

/-- What follows once the state is recorded. -/
def finish (ctx : NssaaSessionContext) (re : Reaction) : Except String ServerInitiatedResult := do
  let notified ← notify req ctx re
  let completion ← c.link ctx notified
  ServerInitiatedResult.validate
    { response := ⟨c.version, req.sessionID, ctx.authCtxID, re.answer⟩
      completion := completion }

def resolve (authCtxID : String) (loaded : Except StoreError NssaaSession) :
    Except String (NssaaSessionContext × Reaction) := do
  let ctx ← (context req authCtxID loaded).mapError ("resolve reverse-path context: " ++ ·)
  let re ← c.accept req ctx
  return (ctx, re)

/-- Handles a message. The session is read twice, to resolve the context and to change it. -/
def handle (enc : Encryptor) (reading changing : Option String) (w : Writing) (t : NssaaTable) :
    Except String ServerInitiatedResult × NssaaTable :=
  match (c.target req).mapError ("resolve reverse-path context: " ++ ·) with
  | .error err => (.error err, t)
  | .ok authCtxID =>
    match c.resolve req authCtxID (t.load enc reading authCtxID) with
    | .error err => (.error err, t)
    | .ok (ctx, re) =>
      match re.write.write enc changing w ctx.authCtxID t with
      | .error err => (.error (re.failing ++ err), t)
      | .ok t' => (c.finish req ctx re, t')

variable {c req}

theorem reaction_of_resolve {authCtxID : String} {loaded : Except StoreError NssaaSession}
    {ctx : NssaaSessionContext} {re : Reaction}
    (h : c.resolve req authCtxID loaded = .ok (ctx, re)) : c.reaction req = some re := by
  obtain ⟨ctx', -, h⟩ := Results.of_bind_ok h
  obtain ⟨re', hacc, h⟩ := Results.of_bind_ok h
  cases h
  unfold accept at hacc
  split at hacc
  · cases hacc
  · split at hacc
    · cases hacc
    · rename_i hre
      rw [hre, Except.ok.inj hacc]

end Coordinator

end NssAAF.Biz
