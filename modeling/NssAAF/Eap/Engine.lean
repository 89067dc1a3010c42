import NssAAF.Lib.Base64
import NssAAF.Lib.Sha256
import NssAAF.Eap.Session

/-!
# The EAP engine

The engine of `internal/eap/engine.go`: it relays the EAP messages of the AMF to the AAA router and
keeps one session for each authentication context.

What the environment decides during a call is an argument of the call (`Env`): the clock readings,
the failures of the session store's client, and what the AAA router answers. A call returns what
the caller sees, together with what it handed to the router (`sent`), whether it was answered from
the retry cache (`retried`), and the session record as the call leaves it.
-/

namespace NssAAF.Eap

inductive AuthResult
  | success
  | failure
  | pending
  deriving DecidableEq

def AuthResult.string : AuthResult → String
  | .success => "EAP_SUCCESS"
  | .failure => "EAP_FAILURE"
  | .pending => "PENDING"

inductive Result
  | resultContinue
  | resultSuccess
  | resultFailure
  | resultIgnored
  | resultTimeout
  deriving DecidableEq

def authResultFromEapResult : Result → AuthResult
  | .resultSuccess => .success
  | .resultFailure => .failure
  | .resultContinue => .pending
  | .resultIgnored => .pending
  | .resultTimeout => .failure

inductive EngineError
  | missingAuthCtxID
  | storeSession (err : StoreError)
  | noSession (authCtxID : String) (err : StoreError)
  | sessionTimeout
  | parse (err : ParseError)
  | sessionAlreadyDone
  | invalidStateTransition (state : SessionState)
  | initExpectedResponse (got : Code)
  | nilResponse
  | eapIDMismatch
  | maxRoundsExceeded
  | aaaNotConfigured
  | aaaClient (msg : String)
  deriving DecidableEq

def EngineError.text : EngineError → String
  | .missingAuthCtxID => "eap: missing auth context ID"
  | .storeSession err => "store session: " ++ err.text
  | .noSession authCtxID err => "no session found for authCtxID=" ++ authCtxID ++ ": " ++ err.text
  | .sessionTimeout => "eap: session timeout"
  | .parse err => err.text
  | .sessionAlreadyDone => "eap: session already completed"
  | .invalidStateTransition state => "eap: invalid state transition: from state " ++ state.string
  | .initExpectedResponse got => "init: expected Response, got " ++ Code.string got
  | .nilResponse => "aaa client returned nil response"
  | .eapIDMismatch => "eap: ID mismatch"
  | .maxRoundsExceeded => "eap: maximum rounds exceeded"
  | .aaaNotConfigured => "aaa client not configured"
  | .aaaClient msg => "aaa client error: " ++ msg

abbrev EapMessage : Type := String

def newEapMessage (data : Bytes) : EapMessage := Base64.encodeToString data

def sha256Hash (data : Bytes) : Bytes := Sha256.sum256 data

/-- Comparison in constant time: the differences of all octets are collected. -/
def bytesEqual (a b : Bytes) : Bool :=
  a.length == b.length && (a.zip b).foldl (fun diff xy => diff ||| (xy.1 ^^^ xy.2)) 0 == (0 : UInt8)

structure Config where
  maxRounds : ℤ
  roundTimeout : Time
  sessionTTL : Time

/-- A zero limit means the default. -/
def Config.withDefaults (cfg : Config) : Config where
  maxRounds := if cfg.maxRounds = 0 then defaultMaxRounds else cfg.maxRounds
  roundTimeout := if cfg.roundTimeout = 0 then defaultRoundTimeout else cfg.roundTimeout
  sessionTTL := if cfg.sessionTTL = 0 then defaultSessionTTL else cfg.sessionTTL

structure Engine where
  cfg : Config
  sessions : SessionStore
  /-- Whether there is an AAA router. -/
  aaaConfigured : Bool

def newEngine (cfg : Config) (aaaConfigured : Bool) : Engine where
  cfg := cfg.withDefaults
  sessions := .memory (.empty cfg.withDefaults.sessionTTL)
  aaaConfigured := aaaConfigured

/-- An engine on a Redis that has no session yet. -/
def newEngineWithRedis (cfg : Config) (aaaConfigured : Bool) : Engine where
  cfg := cfg.withDefaults
  sessions := .redis (.empty cfg.withDefaults.sessionTTL)
  aaaConfigured := aaaConfigured

/-- What the environment decides during a call. The router's answer is an error or a slice that
may be nil; it is not looked at by a call that sends nothing. -/
structure Env where
  start : Time
  finish : Time
  getFault : Option String
  putFault : Option String
  answer : Except String (Option Bytes)

/-! ## The state machine -/

/-- What `forwardToAAA` returns, and the payload handed to `SendEAP`. -/
structure Forward where
  response : Option Bytes
  err : Option EngineError
  sent : Option Bytes

/-- What a handler returns, with the session it leaves and the payload handed to `SendEAP`. -/
structure Advance where
  session : Session
  response : Option Bytes
  result : Result
  err : Option EngineError
  sent : Option Bytes

def detectEapMethodFromIdentity (data : Bytes) : Method :=
  if data.length = 0 then methodIdentity else methodTLS

namespace Engine

variable (e : Engine) (env : Env)

def forwardToAAA (eapPayload : Bytes) : Forward :=
  if e.aaaConfigured then
    match env.answer with
    | .error msg => ⟨none, some (.aaaClient msg), some eapPayload⟩
    | .ok response => ⟨response, none, some eapPayload⟩
  else ⟨none, some .aaaNotConfigured, none⟩

def handleInit (session : Session) (packet : Packet) (rawPayload : Bytes) : Advance :=
  if packet.code ≠ codeResponse then
    ⟨session, none, .resultIgnored, some (.initExpectedResponse packet.code), none⟩
  else
    let session := { session with
      expectedID := packet.id + 1
      rounds := 1
      state := .eapExchange
      lastActivity := env.start }
    let session :=
      if packet.type = methodIdentity then
        { session with method := detectEapMethodFromIdentity packet.data }
      else session
    let f := e.forwardToAAA env rawPayload
    match f.response with
    | none => ⟨session, none, .resultFailure, some .nilResponse, f.sent⟩
    | some response => ⟨session, some response, .resultContinue, f.err, f.sent⟩

def handleExchange (session : Session) (packet : Packet) (rawPayload : Bytes) : Advance :=
  if packet.id ≠ session.expectedID then
    ⟨session, none, .resultIgnored, some .eapIDMismatch, none⟩
  else if session.rounds ≥ session.maxRounds then
    ⟨session.markFailed env.start, none, .resultFailure, some .maxRoundsExceeded, none⟩
  else
    let session := { session with
      rounds := session.rounds + 1
      expectedID := packet.id + 1
      lastActivity := env.start }
    let f := e.forwardToAAA env rawPayload
    match f.err with
    | some err => ⟨session, none, .resultFailure, some err, f.sent⟩
    | none =>
      match f.response with
      | none => ⟨session, none, .resultFailure, some .nilResponse, f.sent⟩
      | some response =>
        match parse response with
        | .error err => ⟨session, none, .resultFailure, some (.parse err), f.sent⟩
        | .ok respPacket =>
          let session := { session with lastNonce := sha256Hash rawPayload }
          let session := session.cacheResponse response
          if respPacket.code = codeSuccess then
            ⟨session.markDone env.finish, some response, .resultSuccess, none, f.sent⟩
          else if respPacket.code = codeFailure then
            ⟨session.markFailed env.finish, some response, .resultFailure, none, f.sent⟩
          else ⟨session, some response, .resultContinue, none, f.sent⟩

def handleCompleting (session : Session) (packet : Packet) (rawPayload : Bytes) : Advance :=
  let session := { session with
    rounds := session.rounds + 1
    expectedID := packet.id + 1 }
  let f := e.forwardToAAA env rawPayload
  match f.response with
  | none => ⟨session, none, .resultFailure, some .nilResponse, f.sent⟩
  | some response => ⟨session, some response, .resultContinue, f.err, f.sent⟩

def advanceState (session : Session) (packet : Packet) (rawPayload : Bytes) : Advance :=
  match session.state with
  | .init => e.handleInit env session packet rawPayload
  | .eapExchange => e.handleExchange env session packet rawPayload
  | .completing => e.handleCompleting env session packet rawPayload
  | .done => ⟨session, none, .resultIgnored, some .sessionAlreadyDone, none⟩
  | .failed => ⟨session, none, .resultIgnored, some .sessionAlreadyDone, none⟩
  | .timeout => ⟨session, none, .resultTimeout, some .sessionTimeout, none⟩
  | .idle => ⟨session, none, .resultIgnored, some (.invalidStateTransition .idle), none⟩

end Engine

/-! ## Calls -/

/-- What a call of `Process` does besides writing the session back. -/
structure Outcome where
  message : Option EapMessage
  result : AuthResult
  err : Option EngineError
  sent : Option Bytes
  retried : Bool
  session : Option Session
  deriving DecidableEq

/-- The session with the bookkeeping for retries, as it is written back. -/
def Advance.finished (a : Advance) (msgHash : Bytes) (now : Time) : Session :=
  let session := { a.session with lastNonce := msgHash, lastActivity := now }
  match a.response with
  | some response => session.cacheResponse response
  | none => session

/-- What `Process` returns after the state machine has run. -/
def Advance.outcome (a : Advance) (session : Session) : Outcome :=
  match a.err with
  | some err => ⟨none, .failure, some err, a.sent, false, some session⟩
  | none =>
    ⟨a.response.map newEapMessage, authResultFromEapResult a.result, none, a.sent, false,
      some session⟩

namespace Engine

variable (e : Engine) (env : Env)

/-- Writes a session back. A failure is logged only. -/
def putSession (session : Session) : Engine :=
  { e with sessions := (e.sessions.put env.finish env.putFault session).2 }

def process (authCtxID : String) (eapPayload : Bytes) : Outcome × Engine :=
  match e.sessions.get env.start env.getFault authCtxID with
  | .error err => (⟨none, .failure, some (.noSession authCtxID err), none, false, none⟩, e)
  | .ok session =>
    if session.IsTimedOut env.start then
      let session := session.markTimeout env.finish
      (⟨none, .failure, some .sessionTimeout, none, false, some session⟩, e.putSession env session)
    else
      match parse eapPayload with
      | .error err => (⟨none, .failure, some (.parse err), none, false, some session⟩, e)
      | .ok packet =>
        let msgHash := sha256Hash eapPayload
        if bytesEqual session.lastNonce msgHash && session.cachedResponse.isSome then
          (⟨session.cachedResponse.map newEapMessage, .pending, none, none, true, some session⟩, e)
        else
          let a := e.advanceState env session packet eapPayload
          let session := a.finished msgHash env.finish
          (a.outcome session, e.putSession env session)

def startSession (authCtxID gpsi : String) : Except EngineError Session × Engine :=
  if authCtxID = "" then (.error .missingAuthCtxID, e)
  else
    let session := { newSession env.start authCtxID gpsi with
      maxRounds := e.cfg.maxRounds
      timeout := e.cfg.roundTimeout }
    match (e.sessions.put env.finish env.putFault session).1 with
    | some err => (.error (.storeSession err), e.putSession env session)
    | none => (.ok session, e.putSession env session)

def getSession (authCtxID : String) : Except StoreError Session :=
  e.sessions.get env.start env.getFault authCtxID

def deleteSession (authCtxID : String) : Option StoreError × Engine :=
  ((e.sessions.delete env.putFault authCtxID).1,
    { e with sessions := (e.sessions.delete env.putFault authCtxID).2 })

end Engine

/-! ## The engine as a machine -/

inductive Call
  | startSession (authCtxID gpsi : String)
  | getSession (authCtxID : String)
  | process (authCtxID : String) (eapPayload : Bytes)
  | deleteSession (authCtxID : String)

def Call.authCtxID : Call → String
  | .startSession id _ => id
  | .getSession id => id
  | .process id _ => id
  | .deleteSession id => id

/-- A call and what the environment decides during it. -/
structure Input where
  call : Call
  env : Env

inductive Output
  | started (r : Except EngineError Session)
  | got (r : Except StoreError Session)
  | processed (o : Outcome)
  | deleted (err : Option StoreError)

/-- One call. Calls are sequential: a call starts after the one before it has returned. -/
def Engine.step (e : Engine) (i : Input) : Output × Engine :=
  match i.call with
  | .startSession id gpsi =>
    (.started (e.startSession i.env id gpsi).1, (e.startSession i.env id gpsi).2)
  | .getSession id => (.got (e.getSession i.env id), e)
  | .process id p => (.processed (e.process i.env id p).1, (e.process i.env id p).2)
  | .deleteSession id =>
    (.deleted (e.deleteSession i.env id).1, (e.deleteSession i.env id).2)

end NssAAF.Eap
