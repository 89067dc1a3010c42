import NssAAF.Biz.ServerInitiated
import NssAAF.Lib.Logged

/-!
# What the coordinator does for a server-initiated message

The coordinator of `internal/biz/server_initiated.go` over its interfaces: each collaborator answers
a call as it likes, and the calls are logged in their order. What a message asks for is said by its
type and the context alone (`requiredWrite`, `effects`, `AmfReached`, `AiwReached`), and
`handle_truthful` says that it stands behind every answer. `Coordinator.handle_over_table` connects
this to the coordinator over the table: there the state writer loads, changes and saves the session.
-/

namespace NssAAF.Biz

open Storage

inductive WriteKind
  | markReauthPending
  | markRevoked
  | applyCoA (payload : Bytes)
  deriving DecidableEq

def WriteKind.stateWrite : WriteKind → StateWrite
  | .markReauthPending => Biz.markReauthPending
  | .markRevoked => Biz.markRevoked
  | .applyCoA payload => Biz.applyCoA payload

/-- The session is as the message asks for. -/
def Asked (req : AaaServerInitiatedRequest) (s : NssaaSession) : Prop :=
  match req.messageType with
  | .rar => s.status = .pending
  | .asr => s.status = .revoked
  | .coa => s.eapPayload = req.payload
  | .other _ => False

/-- The change of the state that a message asks for. -/
def requiredWrite (req : AaaServerInitiatedRequest) : Option WriteKind :=
  match req.messageType with
  | .rar => some .markReauthPending
  | .asr => some .markRevoked
  | .coa => some (.applyCoA req.payload)
  | .other _ => none

inductive Effect
  | write (kind : WriteKind) (authCtxID : String)
  | sendReAuthNotification (uri authCtxID : String) (payload : Bytes)
  | sendRevocationNotification (uri authCtxID : String) (payload : Bytes)
  | markAIWLinked (authCtxID : String)
  deriving DecidableEq

def Effect.IsWrite : Effect → Prop
  | .write .. => True
  | _ => False

/-- The calls that follow the state write when a message ends like this. -/
def effects (req : AaaServerInitiatedRequest) (ctx : NssaaSessionContext) :
    Completion → List Effect
  | .amfNotified =>
    match req.messageType with
    | .rar => [.sendReAuthNotification ctx.reauthNotifURI ctx.authCtxID req.payload]
    | .asr => [.sendRevocationNotification ctx.revocNotifURI ctx.authCtxID req.payload]
    | .coa | .other _ => []
  | .aiwLinked => [.markAIWLinked ctx.authCtxID]
  | .stateOnly => []

/-- The notification that goes with a message: the text of its failure, the address that the context
has for it, and the call. -/
structure Announcement where
  failing : String
  uri : String
  call : Effect

/-- What the handling of a message consists of. -/
structure Plan where
  failing : String
  kind : WriteKind
  announcement : Option Announcement
  payload : Bytes

section Plans

variable (req : AaaServerInitiatedRequest) (ctx : NssaaSessionContext)

def handleRAR : Plan where
  failing := "mark reauth pending: "
  kind := .markReauthPending
  announcement := some ⟨"send reauth notification: ", ctx.reauthNotifURI,
    .sendReAuthNotification ctx.reauthNotifURI ctx.authCtxID req.payload⟩
  payload := [2, 0, 0, 12]

def handleASR : Plan where
  failing := "mark revoked: "
  kind := .markRevoked
  announcement := some ⟨"send revocation notification: ", ctx.revocNotifURI,
    .sendRevocationNotification ctx.revocNotifURI ctx.authCtxID req.payload⟩
  payload := [1]

/-- A change of authorization is not notified to the AMF. -/
def handleCoA : Plan where
  failing := "apply coa: "
  kind := .applyCoA req.payload
  announcement := none
  payload := [2, 0, 0, 12]

def plan : Option Plan :=
  match req.messageType with
  | .rar => some (handleRAR req ctx)
  | .asr => some (handleASR req ctx)
  | .coa => some (handleCoA req)
  | .other _ => none

end Plans

/-- The collaborators of the coordinator, of which the linker may not be configured. -/
structure Collaborators where
  version : String
  resolve : String → String → Except String NssaaSessionContext
  write : WriteKind → String → Except String Unit
  sendReAuthNotification : String → String → Bytes → Except String Unit
  sendRevocationNotification : String → String → Bytes → Except String Unit
  aiwLink : Option (String → Except String Unit)

/-- A computation that calls collaborators. -/
abbrev Handling (α : Type) : Type := Logged Effect String α

namespace Collaborators

variable (col : Collaborators) (req : AaaServerInitiatedRequest) (ctx : NssaaSessionContext)

def answer : Effect → Except String Unit
  | .write kind authCtxID => col.write kind authCtxID
  | .sendReAuthNotification uri authCtxID payload =>
    col.sendReAuthNotification uri authCtxID payload
  | .sendRevocationNotification uri authCtxID payload =>
    col.sendRevocationNotification uri authCtxID payload
  | .markAIWLinked authCtxID =>
    match col.aiwLink with
    | none => .error "aiw linker not configured"
    | some markAIWLinked => markAIWLinked authCtxID

/-- A call, with the text that its error gets. -/
def call (failing : String) (e : Effect) : Handling Unit :=
  .call e ((col.answer e).mapError (failing ++ ·))

/-- The AMF is notified if it owns the context and gave an address for such messages. -/
def notify (announcement : Option Announcement) : Handling Completion :=
  match announcement with
  | none => pure .stateOnly
  | some n =>
    if ctx.callbackOwner = "amf" ∧ n.uri ≠ "" then do
      col.call n.failing n.call
      pure .amfNotified
    else pure .stateOnly

/-- The AIW context is linked if the AUSF owns the context and there is one. -/
def link (completion : Completion) : Handling Completion :=
  if ctx.callbackOwner = "ausf" ∧ ctx.hasAIWContext then
    match col.aiwLink with
    | none => .fail "aiw linker not configured"
    | some _ => do
      col.call "mark aiw linked: " (.markAIWLinked ctx.authCtxID)
      pure .aiwLinked
  else pure completion

def respond (p : Plan) (completion : Completion) : Handling ServerInitiatedResult :=
  ⟨[], ServerInitiatedResult.validate
    ⟨⟨col.version, req.sessionID, ctx.authCtxID, p.payload⟩, completion⟩⟩

/-- The state is recorded, then the AMF is notified or the AIW context is linked. -/
def carryOut (p : Plan) : Handling ServerInitiatedResult := do
  col.call p.failing (.write p.kind ctx.authCtxID)
  let completion ← col.notify ctx p.announcement
  let completion ← col.link ctx completion
  col.respond req ctx p completion

def dispatch : Handling ServerInitiatedResult :=
  if ctx.callbackOwner = "" then
    .fail "callback owner is required for server-initiated handling"
  else
    match plan req ctx with
    | none => .fail ("unsupported message type: " ++ req.messageType.string)
    | some p => col.carryOut req ctx p

def handle : Handling ServerInitiatedResult := do
  let ctx ← (⟨[], (col.resolve req.sessionID req.authCtxID).mapError
    ("resolve reverse-path context: " ++ ·)⟩ : Handling NssaaSessionContext)
  col.dispatch req ctx

/-! ## The calls behind an answer -/

/-- The message is a re-authentication or a revocation, the AMF owns the context and gave an address
for such messages, and takes the notification. -/
def AmfReached : Prop :=
  ctx.callbackOwner = "amf" ∧
    ((req.messageType = .rar ∧ ctx.reauthNotifURI ≠ "" ∧
        col.sendReAuthNotification ctx.reauthNotifURI ctx.authCtxID req.payload = .ok ()) ∨
      (req.messageType = .asr ∧ ctx.revocNotifURI ≠ "" ∧
        col.sendRevocationNotification ctx.revocNotifURI ctx.authCtxID req.payload = .ok ()))

/-- The AUSF owns the context, which has an AIW context, and the linker takes it. -/
def AiwReached : Prop :=
  ctx.callbackOwner = "ausf" ∧ ctx.hasAIWContext ∧
    ∃ markAIWLinked, col.aiwLink = some markAIWLinked ∧ markAIWLinked ctx.authCtxID = .ok ()

/-- What an answer without an error stands for: one state write, before every other call, and just
the calls that belong to the completion. -/
structure Carried (kind : WriteKind) (calls : List Effect) (completion : Completion) : Prop where
  written : col.write kind ctx.authCtxID = .ok ()
  calls : calls = .write kind ctx.authCtxID :: effects req ctx completion
  once : ∀ e ∈ effects req ctx completion, ¬ e.IsWrite
  amfNotified : completion = .amfNotified ↔ col.AmfReached req ctx
  aiwLinked : completion = .aiwLinked ↔ col.AiwReached ctx
  stateOnly : completion = .stateOnly ↔ ¬ col.AmfReached req ctx ∧ ¬ col.AiwReached ctx

/-- The announcement is due, and is taken. -/
def Announced (announcement : Option Announcement) : Prop :=
  ctx.callbackOwner = "amf" ∧
    ∃ n, announcement = some n ∧ n.uri ≠ "" ∧ col.answer n.call = .ok ()

variable {col req ctx}

theorem result_call_eq_ok {failing : String} {e : Effect} :
    (col.call failing e).result = .ok () ↔ col.answer e = .ok () :=
  Results.mapError_eq_ok_iff

theorem of_call_ok {failing : String} {e : Effect} {done completion : Completion}
    (h : (col.call failing e >>= fun _ => pure done : Handling Completion).result =
      .ok completion) :
    completion = done ∧ col.answer e = .ok () ∧
      (col.call failing e >>= fun _ => pure done : Handling Completion).calls = [e] := by
  obtain ⟨_, hcall, hdone⟩ := Logged.result_bind_eq_ok.mp h
  rw [Logged.bind_ok hcall]
  exact ⟨(Except.ok.inj hdone).symm, result_call_eq_ok.mp hcall, rfl⟩

theorem notify_ok {announcement : Option Announcement} {completion : Completion}
    (h : (col.notify ctx announcement).result = .ok completion) :
    (completion = .amfNotified ∧ col.Announced ctx announcement ∧
      ∃ n, announcement = some n ∧ (col.notify ctx announcement).calls = [n.call]) ∨
    (completion = .stateOnly ∧ ¬ col.Announced ctx announcement ∧
      (col.notify ctx announcement).calls = []) := by
  unfold notify at h ⊢
  cases announcement with
  | none =>
    cases h
    refine Or.inr ⟨rfl, ?_, rfl⟩
    rintro ⟨-, n, hn, -⟩
    cases hn
  | some n =>
    dsimp only at h ⊢
    split_ifs at h ⊢ with howner
    · obtain ⟨rfl, hanswer, hcalls⟩ := of_call_ok h
      exact Or.inl ⟨rfl, ⟨howner.1, n, rfl, howner.2, hanswer⟩, n, rfl, hcalls⟩
    · cases h
      refine Or.inr ⟨rfl, ?_, rfl⟩
      rintro ⟨hamf, n', hn, huri, -⟩
      cases hn
      exact howner ⟨hamf, huri⟩

theorem link_ok {completion completion' : Completion}
    (h : (col.link ctx completion).result = .ok completion') :
    (completion' = .aiwLinked ∧ col.AiwReached ctx ∧
      (col.link ctx completion).calls = [.markAIWLinked ctx.authCtxID]) ∨
    (completion' = completion ∧ ¬ col.AiwReached ctx ∧ (col.link ctx completion).calls = []) := by
  unfold link at h ⊢
  split_ifs at h ⊢ with howner
  · cases hlink : col.aiwLink with
    | none =>
      rw [hlink] at h
      cases h
    | some markAIWLinked =>
      rw [hlink] at h
      obtain ⟨rfl, hanswer, hcalls⟩ := of_call_ok h
      refine Or.inl ⟨rfl, ⟨howner.1, howner.2, markAIWLinked, hlink, ?_⟩, hcalls⟩
      rw [← hanswer, answer, hlink]
  · cases h
    exact Or.inr ⟨rfl, fun hreached => howner ⟨hreached.1, hreached.2.1⟩, rfl⟩

theorem AmfReached.not_aiwReached (h : col.AmfReached req ctx) : ¬ col.AiwReached ctx := by
  intro h'
  have howners := h.1.symm.trans h'.1
  exact absurd howners (by decide)

theorem requiredWrite_of_plan {p : Plan} (h : plan req ctx = some p) :
    requiredWrite req = some p.kind := by
  unfold plan at h
  unfold requiredWrite
  split at h <;> cases h <;> rfl

theorem announced_iff {p : Plan} (h : plan req ctx = some p) :
    col.Announced ctx p.announcement ↔ col.AmfReached req ctx := by
  unfold plan at h
  unfold Announced AmfReached
  cases hm : req.messageType <;> rw [hm] at h <;> cases h <;>
    simp [handleRAR, handleASR, handleCoA, answer]

theorem effects_of_plan {p : Plan} (h : plan req ctx = some p) {n : Announcement}
    (hn : p.announcement = some n) : effects req ctx .amfNotified = [n.call] := by
  unfold plan at h
  unfold effects
  cases hm : req.messageType <;> rw [hm] at h <;> cases h <;> cases hn <;> rfl

theorem not_isWrite_of_mem_effects {completion : Completion} {e : Effect}
    (he : e ∈ effects req ctx completion) : ¬ e.IsWrite := by
  cases completion with
  | stateOnly => cases he
  | aiwLinked =>
    obtain rfl := List.mem_singleton.mp he
    exact id
  | amfNotified =>
    unfold effects at he
    cases hm : req.messageType <;> simp only [hm] at he
    all_goals first
      | (obtain rfl := List.mem_singleton.mp he; exact id)
      | cases he

theorem completion_of_respond {p : Plan} {completion : Completion} {res : ServerInitiatedResult}
    (h : (col.respond req ctx p completion).result = .ok res) : res.completion = completion := by
  unfold respond ServerInitiatedResult.validate at h
  dsimp only at h
  split_ifs at h
  cases h
  rfl

theorem carried_of_carryOut {p : Plan} {res : ServerInitiatedResult}
    (hp : plan req ctx = some p) (h : (col.carryOut req ctx p).result = .ok res) :
    col.Carried req ctx p.kind (col.carryOut req ctx p).calls res.completion := by
  unfold carryOut at h ⊢
  obtain ⟨_, hwrite, h⟩ := Logged.result_bind_eq_ok.mp h
  obtain ⟨notified, hnotify, h⟩ := Logged.result_bind_eq_ok.mp h
  obtain ⟨linked, hlink, h⟩ := Logged.result_bind_eq_ok.mp h
  have hcompletion := completion_of_respond h
  rw [Logged.bind_ok hwrite, Logged.bind_ok hnotify, Logged.bind_ok hlink, hcompletion]
  have hwritten : col.write p.kind ctx.authCtxID = .ok () := result_call_eq_ok.mp hwrite
  have honce : ∀ e ∈ effects req ctx linked, ¬ e.IsWrite := fun e => not_isWrite_of_mem_effects
  have hiff : col.Announced ctx p.announcement ↔ col.AmfReached req ctx := announced_iff hp
  rcases notify_ok hnotify with ⟨rfl, hamf, n, hn, hcalls⟩ | ⟨rfl, hamf, hcalls⟩
  · rw [hiff] at hamf
    have haiw := hamf.not_aiwReached
    rcases link_ok hlink with ⟨-, haiw', -⟩ | ⟨rfl, -, hcalls'⟩
    · exact absurd haiw' haiw
    · have heffects := effects_of_plan hp hn
      rw [hcalls, hcalls']
      refine ⟨hwritten, ?_, honce, by simp [hamf], by simp [haiw], by simp [hamf]⟩
      rw [heffects]
      rfl
  · rw [hiff] at hamf
    rcases link_ok hlink with ⟨rfl, haiw, hcalls'⟩ | ⟨rfl, haiw, hcalls'⟩
    · rw [hcalls, hcalls']
      exact ⟨hwritten, rfl, honce, by simp [hamf], by simp [haiw], by simp [haiw]⟩
    · rw [hcalls, hcalls']
      exact ⟨hwritten, rfl, honce, by simp [hamf], by simp [haiw], by simp [hamf, haiw]⟩

theorem asked_of_plan {p : Plan} (h : plan req ctx = some p) (now : Time) (s : NssaaSession) :
    Asked req (p.kind.stateWrite.change now s) := by
  unfold plan at h
  unfold Asked
  split at h <;> cases h <;> rfl

variable (col req) in
/-- What is true of the handling of a message: an answer without an error stands for what it says,
and a message that is not resolved or not recorded goes no further. -/
structure Truthful (out : Handling ServerInitiatedResult) : Prop where
  carried : ∀ res, out.result = .ok res → ∃ ctx kind,
    col.resolve req.sessionID req.authCtxID = .ok ctx ∧ requiredWrite req = some kind ∧
      (∀ now s, Asked req (kind.stateWrite.change now s)) ∧
      col.Carried req ctx kind out.calls res.completion
  unresolved : ∀ err, col.resolve req.sessionID req.authCtxID = .error err → out.calls = []
  unwritten : ∀ ctx kind err, col.resolve req.sessionID req.authCtxID = .ok ctx →
    requiredWrite req = some kind → col.write kind ctx.authCtxID = .error err →
      ∀ e ∈ out.calls, e.IsWrite

theorem handle_of_resolve (hctx : col.resolve req.sessionID req.authCtxID = .ok ctx) :
    col.handle req = col.dispatch req ctx := by
  unfold handle
  rw [hctx]
  exact Logged.bind_ok rfl

theorem handle_of_unresolved {err : String}
    (h : col.resolve req.sessionID req.authCtxID = .error err) :
    col.handle req = .fail ("resolve reverse-path context: " ++ err) := by
  unfold handle
  rw [h]
  exact Logged.bind_error rfl

variable (col req ctx) in
theorem dispatch_cases : (∃ err, col.dispatch req ctx = .fail err) ∨
    ∃ p, plan req ctx = some p ∧ col.dispatch req ctx = col.carryOut req ctx p := by
  unfold dispatch
  split_ifs with howner
  · exact Or.inl ⟨_, rfl⟩
  · split
    · exact Or.inl ⟨_, rfl⟩
    · rename_i p hp
      exact Or.inr ⟨p, hp, rfl⟩

/-- **The effects of a server-initiated message**, whatever the resolver, the state writer, the
notifier and the linker answer. -/
theorem handle_truthful (col : Collaborators) (req : AaaServerInitiatedRequest) :
    col.Truthful req (col.handle req) := by
  constructor
  · intro res h
    cases hctx : col.resolve req.sessionID req.authCtxID with
    | error err =>
      rw [handle_of_unresolved hctx] at h
      cases h
    | ok ctx =>
      rw [handle_of_resolve hctx] at h ⊢
      rcases col.dispatch_cases req ctx with ⟨err, heq⟩ | ⟨p, hp, heq⟩
      · rw [heq] at h
        cases h
      · rw [heq] at h ⊢
        exact ⟨ctx, p.kind, rfl, requiredWrite_of_plan hp, asked_of_plan hp,
          carried_of_carryOut hp h⟩
  · intro err hctx
    rw [handle_of_unresolved hctx]
    rfl
  · intro ctx kind err hctx hkind hwrite e he
    rw [handle_of_resolve hctx] at he
    rcases col.dispatch_cases req ctx with ⟨err', heq⟩ | ⟨p, hp, heq⟩
    · rw [heq] at he
      cases he
    · obtain rfl := Option.some.inj (hkind.symm.trans (requiredWrite_of_plan hp))
      have hfailed : (col.call p.failing (.write p.kind ctx.authCtxID)).result =
          .error (p.failing ++ err) := by
        show (col.write p.kind ctx.authCtxID).mapError (p.failing ++ ·) = _
        rw [hwrite]
        rfl
      rw [heq] at he
      dsimp only [carryOut] at he
      rw [Logged.bind_error hfailed] at he
      obtain rfl := List.mem_singleton.mp he
      trivial

end Collaborators

/-! ## The coordinator over the table -/

namespace Coordinator

variable (c : Coordinator) (enc : Encryptor) (reading changing : Option String) (w : Writing)
  (t : NssaaTable)

/-- The collaborators over the table: the resolver loads the session, the state writer loads it
again, changes it and saves it. -/
def collaborators : Collaborators where
  version := c.version
  resolve sessionID authCtxID := do
    let req : AaaServerInitiatedRequest := ⟨c.version, sessionID, authCtxID, .rar, []⟩
    let id ← c.target req
    context req id (t.load enc reading id)
  write kind authCtxID := (kind.stateWrite.write enc changing w authCtxID t).map fun _ => ()
  sendReAuthNotification := c.sendReAuthNotification
  sendRevocationNotification := c.sendRevocationNotification
  aiwLink := c.aiwLink

/-- The table after the calls: a write that succeeded has saved the session. -/
def tableAfter (calls : List Effect) : NssaaTable :=
  match calls with
  | .write kind authCtxID :: _ =>
    (kind.stateWrite.write enc changing w authCtxID t).toOption.getD t
  | _ => t

variable (req : AaaServerInitiatedRequest) (ctx : NssaaSessionContext)

/-- A plan is the reaction to the same message. -/
structure Realizes (col : Collaborators) (re : Reaction) (p : Plan) : Prop where
  failing : re.failing = p.failing
  write : re.write = p.kind.stateWrite
  payload : re.answer = p.payload
  notify : notify req ctx re = (col.notify ctx p.announcement).result

variable {c enc reading changing w t req ctx} {col : Collaborators}

theorem result_call_then {failing : String} {e : Effect} {done : Completion} :
    (col.call failing e >>= fun _ => pure done : Handling Completion).result =
      ((col.answer e).map fun _ => done).mapError (failing ++ ·) := by
  rw [Logged.result_bind]
  unfold Collaborators.call
  cases col.answer e with
  | error err => rfl
  | ok _ => rfl

theorem result_notify (re : Reaction) {n : Notification} {a : Announcement}
    (hn : re.notification = some n) (hfailing : a.failing = n.failing) (huri : a.uri = n.uri ctx)
    (ha : col.answer a.call = n.send (n.uri ctx) ctx.authCtxID req.payload) :
    notify req ctx re = (col.notify ctx (some a)).result := by
  unfold notify Collaborators.notify
  rw [hn]
  dsimp only
  rw [huri]
  split_ifs with howner
  · rw [result_call_then, ha, hfailing]
  · rfl

theorem realizes_of_reaction {re : Reaction} (hre : c.reaction req = some re) :
    ∃ p, plan req ctx = some p ∧
      Realizes req ctx (c.collaborators enc reading changing w t) re p := by
  unfold reaction at hre
  unfold plan
  cases hm : req.messageType with
  | other name =>
    rw [hm] at hre
    cases hre
  | rar =>
    rw [hm] at hre
    cases hre
    exact ⟨_, rfl, rfl, rfl, rfl, result_notify c.handleRAR rfl rfl rfl rfl⟩
  | asr =>
    rw [hm] at hre
    cases hre
    exact ⟨_, rfl, rfl, rfl, rfl, result_notify c.handleASR rfl rfl rfl rfl⟩
  | coa =>
    rw [hm] at hre
    cases hre
    exact ⟨_, rfl, rfl, rfl, rfl, rfl⟩

theorem result_link (completion : Completion) :
    ((c.collaborators enc reading changing w t).link ctx completion).result =
      c.link ctx completion := by
  unfold link Collaborators.link
  split_ifs with howner
  · cases hlink : c.aiwLink with
    | none => simp [collaborators, hlink]
    | some markAIWLinked =>
      simp only [collaborators, hlink]
      exact result_call_then
  · rfl

theorem finish_eq {re : Reaction} {p : Plan}
    (h : Realizes req ctx (c.collaborators enc reading changing w t) re p) :
    (do
      let completion ← (c.collaborators enc reading changing w t).notify ctx p.announcement
      let completion ← (c.collaborators enc reading changing w t).link ctx completion
      (c.collaborators enc reading changing w t).respond req ctx p completion :
        Handling ServerInitiatedResult).result = c.finish req ctx re := by
  simp only [Logged.result_bind, result_link, ← h.notify]
  unfold finish
  rw [h.payload]
  rfl

theorem resolve_eq :
    (c.collaborators enc reading changing w t).resolve req.sessionID req.authCtxID =
      c.target req >>= fun id => context req id (t.load enc reading id) :=
  rfl

theorem carryOut_eq {re : Reaction} {p : Plan}
    (h : Realizes req ctx (c.collaborators enc reading changing w t) re p) :
    (((c.collaborators enc reading changing w t).carryOut req ctx p).result,
      tableAfter enc changing w t
        ((c.collaborators enc reading changing w t).carryOut req ctx p).calls) =
      match re.write.write enc changing w ctx.authCtxID t with
      | .error err => (.error (re.failing ++ err), t)
      | .ok t' => (c.finish req ctx re, t') := by
  have hanswer : (c.collaborators enc reading changing w t).answer (.write p.kind ctx.authCtxID) =
      (re.write.write enc changing w ctx.authCtxID t).map fun _ => () := by
    rw [h.write]
    rfl
  unfold Collaborators.carryOut
  cases hw : re.write.write enc changing w ctx.authCtxID t with
  | error err =>
    have hcall : ((c.collaborators enc reading changing w t).call p.failing
        (.write p.kind ctx.authCtxID)).result = .error (re.failing ++ err) := by
      unfold Collaborators.call
      rw [hanswer, hw, h.failing]
      rfl
    rw [Logged.bind_error hcall]
    refine Prod.ext rfl ?_
    show (p.kind.stateWrite.write enc changing w ctx.authCtxID t).toOption.getD t = t
    rw [← h.write, hw]
    rfl
  | ok t' =>
    have hcall : ((c.collaborators enc reading changing w t).call p.failing
        (.write p.kind ctx.authCtxID)).result = .ok () := by
      rw [Collaborators.result_call_eq_ok, hanswer, hw]
      rfl
    rw [Logged.bind_ok hcall]
    refine Prod.ext (finish_eq h) ?_
    show (p.kind.stateWrite.write enc changing w ctx.authCtxID t).toOption.getD t = t'
    rw [← h.write, hw]
    rfl

theorem resolve_of_context {id : String} {loaded : Except StoreError NssaaSession}
    (h : context req id loaded = .ok ctx) :
    c.resolve req id loaded = (c.accept req ctx).map fun re => (ctx, re) := by
  unfold resolve
  rw [h]
  show (c.accept req ctx >>= fun re => pure (ctx, re)) = _
  cases c.accept req ctx with
  | error err => rfl
  | ok re => rfl

theorem dispatch_eq :
    (match (c.accept req ctx).map fun re => (ctx, re) with
      | .error err => (.error err, t)
      | .ok (ctx, re) =>
        match re.write.write enc changing w ctx.authCtxID t with
        | .error err => (.error (re.failing ++ err), t)
        | .ok t' => (c.finish req ctx re, t') : Except String ServerInitiatedResult × NssaaTable) =
      (((c.collaborators enc reading changing w t).dispatch req ctx).result,
        tableAfter enc changing w t
          ((c.collaborators enc reading changing w t).dispatch req ctx).calls) := by
  unfold accept Collaborators.dispatch
  split_ifs with howner
  · rfl
  · cases hre : c.reaction req with
    | none =>
      have hplan : plan req ctx = none := by
        unfold reaction at hre
        unfold plan
        cases hm : req.messageType <;> simp [hm] at hre ⊢
      rw [hplan]
      rfl
    | some re =>
      obtain ⟨p, hp, hrealizes⟩ := realizes_of_reaction hre
      rw [hp]
      exact (carryOut_eq hrealizes).symm

/-- The coordinator over the table does what it does over its interfaces. -/
theorem handle_over_table :
    c.handle req enc reading changing w t =
      (((c.collaborators enc reading changing w t).handle req).result,
        tableAfter enc changing w t
          ((c.collaborators enc reading changing w t).handle req).calls) := by
  unfold handle
  cases htarget : c.target req with
  | error err =>
    rw [Collaborators.handle_of_unresolved (by rw [resolve_eq, htarget]; rfl)]
    rfl
  | ok id =>
    dsimp only [Except.mapError]
    cases hctx : context req id (t.load enc reading id) with
    | error err =>
      rw [Collaborators.handle_of_unresolved (by rw [resolve_eq, htarget]; exact hctx)]
      unfold resolve
      rw [hctx]
      rfl
    | ok ctx =>
      rw [Collaborators.handle_of_resolve (by rw [resolve_eq, htarget]; exact hctx),
        resolve_of_context hctx]
      exact dispatch_eq

end Coordinator

end NssAAF.Biz
