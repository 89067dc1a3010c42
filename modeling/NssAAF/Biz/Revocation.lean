import NssAAF.Biz.ServerInitiated
import NssAAF.Lib.Interleaving
import NssAAF.Nssaa.Handler

/-!
# Revocation and the requests that run beside it

Creations, confirmations and server-initiated messages run concurrently over one table. Each of
them is a thread whose atomic actions are its loads and its saves, and every interleaving of any
number of them is a schedule.

* `confirm_alone` and `handle_alone`: a thread that is not interrupted does what the handler and the
  coordinator do.
* `revocation_kept_iff`: a revocation stays exactly as long as no confirmation, re-authentication
  or change of authorization saves the session.
-/

namespace NssAAF.Biz

open Storage Nssaa Interleaving Transducer

structure Access where
  loadFault : Option String
  writing : Writing

inductive ConfirmPhase
  | received
  | loaded (body : SliceAuthConfirmationData) (eapPayload : Bytes) (s : NssaaSession)
  | finished (response : Api.Response SliceAuthConfirmationResponse)

inductive MessagePhase
  | received
  | resolved (ctx : NssaaSessionContext)
  | loaded (ctx : NssaaSessionContext) (s : NssaaSession)
  | finished (result : Except String ServerInitiatedResult)

inductive Flow
  | create (h : Handler) (authCtxID : String) (r : Request SliceAuthInfo)
      (response : Option (Api.Response SliceAuthContext))
  | confirm (h : Handler) (authCtxId : String) (r : Request SliceAuthConfirmationData)
      (phase : ConfirmPhase)
  | message (c : Coordinator) (req : AaaServerInitiatedRequest) (phase : MessagePhase)

namespace Flow

variable (enc : Encryptor) (a : Access) (t : NssaaTable)

def confirmLoad (h : Handler) (authCtxId : String) (r : Request SliceAuthConfirmationData) :
    ConfirmPhase :=
  match h.checkConfirm r authCtxId with
  | .error response => .finished response
  | .ok (body, eapPayload) =>
    match Handler.sessionToConfirm authCtxId body (t.load enc a.loadFault authCtxId) with
    | .error response => .finished response
    | .ok s => .loaded body eapPayload s

def messageResolve (c : Coordinator) (req : AaaServerInitiatedRequest) : MessagePhase :=
  match (c.target req).mapError ("resolve reverse-path context: " ++ ·) with
  | .error err => .finished (.error err)
  | .ok authCtxID =>
    match c.resolve req authCtxID (t.load enc a.loadFault authCtxID) with
    | .error err => .finished (.error err)
    | .ok (ctx, _) => .resolved ctx

def messageLoad (ctx : NssaaSessionContext) (re : Reaction) :
    MessagePhase :=
  match re.write.loaded ctx.authCtxID (t.load enc a.loadFault ctx.authCtxID) with
  | .error err => .finished (.error (re.failing ++ err))
  | .ok s => .loaded ctx s

def messageStore (c : Coordinator) (req : AaaServerInitiatedRequest) (ctx : NssaaSessionContext)
    (re : Reaction) (s : NssaaSession) : NssaaTable × MessagePhase :=
  match re.write.store enc a.writing ctx.authCtxID s t with
  | .error err => (t, .finished (.error (re.failing ++ err)))
  | .ok t' => (t', .finished (c.finish req ctx re))

def next : Flow → NssaaTable × Flow
  | .create h authCtxID r none =>
    let o := h.createSliceAuthenticationContext enc a.writing authCtxID r t
    (o.table, .create h authCtxID r (some o.response))
  | .confirm h authCtxId r .received =>
    (t, .confirm h authCtxId r (confirmLoad enc a t h authCtxId r))
  | .confirm h authCtxId r (.loaded body eapPayload s) =>
    let o := h.confirm enc a.writing r authCtxId body eapPayload s t
    (o.table, .confirm h authCtxId r (.finished o.response))
  | .message c req .received => (t, .message c req (messageResolve enc a t c req))
  | .message c req (.resolved ctx) =>
    -- a message without a reaction was refused when it was resolved
    match c.reaction req with
    | none => (t, .message c req (.resolved ctx))
    | some re => (t, .message c req (messageLoad enc a t ctx re))
  | .message c req (.loaded ctx s) =>
    match c.reaction req with
    | none => (t, .message c req (.loaded ctx s))
    | some re =>
      let p := messageStore enc a t c req ctx re s
      (p.1, .message c req p.2)
  | f => (t, f)

/-- The session that the store takes from a request in its next action. -/
def saves : Flow → Option NssaaSession
  | .create h authCtxID r none =>
    (h.createSliceAuthenticationContext enc a.writing authCtxID r t).saved
  | .confirm h authCtxId r (.loaded body eapPayload s) =>
    (h.confirm enc a.writing r authCtxId body eapPayload s t).saved
  | .message c req (.loaded _ s) =>
    match c.reaction req with
    | none => none
    | some re =>
      match t.save enc a.writing (re.write.change a.writing.now s) with
      | .error _ => none
      | .ok _ => some (re.write.change a.writing.now s)
  | _ => none

def saving : Flow → Option NssaaSession
  | .confirm _ _ _ (.loaded _ _ s) => some s
  | .message c req (.loaded _ s) => (c.reaction req).map fun _ => s
  | _ => none

def status : Flow → Option NssaaStatus
  | .create .. => some .pending
  | .confirm .. => some .confirmed
  | .message _ req _ =>
    match req.messageType with
    | .rar => some .pending
    | .asr => some .revoked
    | .coa => some .authorized
    | .other _ => none

def IsRevocation : Flow → Prop
  | .message _ req _ => req.messageType = .asr
  | _ => False

def IsCreation : Flow → Prop
  | .create .. => True
  | _ => False

/-! ## A request that is not interrupted -/

theorem alone_confirm (h : Handler) (authCtxId : String) (r : Request SliceAuthConfirmationData)
    (a₁ a₂ : Access) (t : NssaaTable) :
    alone (next enc) [a₁, a₂] (t, .confirm h authCtxId r .received) =
      ((h.confirmSliceAuthentication enc a₁.loadFault a₂.writing r authCtxId t).table,
        .confirm h authCtxId r (.finished
          (h.confirmSliceAuthentication enc a₁.loadFault a₂.writing r authCtxId t).response)) := by
  unfold Handler.confirmSliceAuthentication
  simp only [alone, next, confirmLoad]
  cases h.checkConfirm r authCtxId with
  | error response => rfl
  | ok p =>
    dsimp only
    cases Handler.sessionToConfirm authCtxId p.1 (t.load enc a₁.loadFault authCtxId) with
    | error response => rfl
    | ok s => rfl

theorem next_received (c : Coordinator) (req : AaaServerInitiatedRequest) :
    next enc a t (.message c req .received) = (t, .message c req (messageResolve enc a t c req)) :=
  rfl

theorem next_resolved {c : Coordinator} {req : AaaServerInitiatedRequest} {re : Reaction}
    (hre : c.reaction req = some re) (ctx : NssaaSessionContext) :
    next enc a t (.message c req (.resolved ctx)) =
      (t, .message c req (messageLoad enc a t ctx re)) := by
  simp only [next, hre]

theorem next_loaded {c : Coordinator} {req : AaaServerInitiatedRequest} {re : Reaction}
    (hre : c.reaction req = some re) (ctx : NssaaSessionContext) (s : NssaaSession) :
    next enc a t (.message c req (.loaded ctx s)) =
      ((messageStore enc a t c req ctx re s).1,
        .message c req (messageStore enc a t c req ctx re s).2) := by
  simp only [next, hre]

theorem alone_handle (c : Coordinator) (req : AaaServerInitiatedRequest) (a₁ a₂ a₃ : Access)
    (t : NssaaTable) :
    alone (next enc) [a₁, a₂, a₃] (t, .message c req .received) =
      ((c.handle req enc a₁.loadFault a₂.loadFault a₃.writing t).2,
        .message c req (.finished
          (c.handle req enc a₁.loadFault a₂.loadFault a₃.writing t).1)) := by
  unfold Coordinator.handle
  simp only [alone, next_received, messageResolve]
  cases (c.target req).mapError ("resolve reverse-path context: " ++ ·) with
  | error err => rfl
  | ok authCtxID =>
    dsimp only
    cases hres : c.resolve req authCtxID (t.load enc a₁.loadFault authCtxID) with
    | error err => rfl
    | ok p =>
      have hre := Coordinator.reaction_of_resolve hres
      simp only [next_resolved enc _ _ hre, messageLoad, StateWrite.write, bind, Except.bind]
      cases p.2.write.loaded p.1.authCtxID (t.load enc a₂.loadFault p.1.authCtxID) with
      | error err => rfl
      | ok s =>
        simp only [next_loaded enc _ _ hre, messageStore]
        cases p.2.write.store enc a₃.writing p.1.authCtxID s t with
        | error err => rfl
        | ok t' => rfl

variable {enc} in
theorem confirm_alone {sys : System NssaaTable Flow} {n : ℕ} {h : Handler} {authCtxId : String}
    {r : Request SliceAuthConfirmationData}
    (hn : sys.threads[n]? = some (.confirm h authCtxId r .received)) (a₁ a₂ : Access) :
    (final (step (next enc)) sys [.run n a₁, .run n a₂]).shared =
      (h.confirmSliceAuthentication enc a₁.loadFault a₂.writing r authCtxId sys.shared).table := by
  have hrun := final_solo (next enc) hn [a₁, a₂]
  rw [alone_confirm] at hrun
  exact congrArg System.shared hrun

variable {enc} in
theorem handle_alone {sys : System NssaaTable Flow} {n : ℕ} {c : Coordinator}
    {req : AaaServerInitiatedRequest} (hn : sys.threads[n]? = some (.message c req .received))
    (a₁ a₂ a₃ : Access) :
    (final (step (next enc)) sys [.run n a₁, .run n a₂, .run n a₃]).shared =
      (c.handle req enc a₁.loadFault a₂.loadFault a₃.writing sys.shared).2 := by
  have hrun := final_solo (next enc) hn [a₁, a₂, a₃]
  rw [alone_handle] at hrun
  exact congrArg System.shared hrun

/-! ## What an action does to the table -/

theorem next_takes (f : Flow) :
    t.Takes enc a.writing (f.saves enc a t) (f.next enc a t).1 := by
  cases f with
  | create h authCtxID r response =>
    cases response with
    | some response => exact .nothing
    | none => exact Handler.create_takes
  | confirm h authCtxId r phase =>
    cases phase with
    | received => exact .nothing
    | loaded body eapPayload s => exact Handler.confirm_takes
    | finished response => exact .nothing
  | message c req phase =>
    cases phase with
    | received => exact .nothing
    | resolved ctx =>
      cases hre : c.reaction req with
      | none =>
        simp only [next, saves, hre]
        exact .nothing
      | some re =>
        rw [next_resolved enc a t hre]
        exact .nothing
    | loaded ctx s =>
      cases hre : c.reaction req with
      | none =>
        simp only [next, saves, hre]
        exact .nothing
      | some re =>
        rw [next_loaded enc a t hre]
        simp only [saves, hre, messageStore, StateWrite.store]
        cases hs : t.save enc a.writing (re.write.change a.writing.now s) with
        | error err => exact .nothing
        | ok t' => exact .session hs
    | finished result => exact .nothing

variable {enc a t}

theorem status_of_reaction {c : Coordinator} {req : AaaServerInitiatedRequest} {re : Reaction}
    {phase : MessagePhase} (hre : c.reaction req = some re) (now : Time) (s : NssaaSession) :
    (message c req phase).status = some (re.write.change now s).status := by
  unfold Coordinator.reaction at hre
  simp only [status]
  cases hm : req.messageType with
  | other name => rw [hm] at hre; cases hre
  | rar => rw [hm] at hre; cases hre; rfl
  | asr => rw [hm] at hre; cases hre; rfl
  | coa => rw [hm] at hre; cases hre; rfl

theorem status_of_saves {f : Flow} {s : NssaaSession} (h : f.saves enc a t = some s) :
    f.status = some s.status := by
  cases f with
  | create h' authCtxID r response =>
    cases response with
    | some response => cases h
    | none => exact congrArg some (Handler.status_of_create h).symm
  | confirm h' authCtxId r phase =>
    cases phase with
    | received => cases h
    | loaded body eapPayload s₀ => exact congrArg some (Handler.of_confirm_saved h).1.symm
    | finished response => cases h
  | message c req phase =>
    cases phase with
    | received => cases h
    | resolved ctx => cases h
    | loaded ctx s₀ =>
      cases hre : c.reaction req with
      | none => simp only [saves, hre] at h; cases h
      | some re =>
        cases hw : t.save enc a.writing (re.write.change a.writing.now s₀) with
        | error err => simp only [saves, hre, hw] at h; cases h
        | ok t' =>
          simp only [saves, hre, hw, Option.some.injEq] at h
          subst h
          exact status_of_reaction hre _ _
    | finished result => cases h

section Saving

variable {authCtxId : String}

theorem taken_iff {s : NssaaSession} {taken : Option NssaaSession}
    (hrow : t.row authCtxId ≠ none)
    (herr : ∀ err, t.save enc a.writing s = .error err → taken = none)
    (hok : ∀ t', t.save enc a.writing s = .ok t' → taken = some s) :
    (∃ s', taken = some s' ∧ s'.authCtxID = authCtxId) ↔
      s.authCtxID = authCtxId ∧ a.writing.update.Succeeds enc s.gpsi := by
  constructor
  · rintro ⟨s', hs', hid⟩
    cases hw : t.save enc a.writing s with
    | error err =>
      rw [herr err hw] at hs'
      cases hs'
    | ok t' =>
      rw [hok t' hw, Option.some.injEq] at hs'
      subst hs'
      rw [← hid] at hrow
      exact ⟨hid, (NssaaTable.save_ok_iff hrow).mp ⟨t', hw⟩⟩
  · rintro ⟨rfl, hsucc⟩
    obtain ⟨t', hw⟩ := (NssaaTable.save_ok_iff hrow).mpr hsucc
    exact ⟨s, hok t' hw, rfl⟩

theorem saves_iff {f : Flow} (hrow : t.row authCtxId ≠ none) (hf : ¬ f.IsCreation) :
    (∃ s', f.saves enc a t = some s' ∧ s'.authCtxID = authCtxId) ↔
      ∃ s, f.saving = some s ∧ s.authCtxID = authCtxId ∧
        a.writing.update.Succeeds enc s.gpsi := by
  have hnone : ∀ {P : NssaaSession → Prop}, ¬ ∃ s, (none : Option NssaaSession) = some s ∧ P s :=
    fun ⟨_, h, _⟩ => nomatch h
  cases f with
  | create h authCtxID r response => exact absurd trivial hf
  | confirm h authCtxID r phase =>
    cases phase with
    | received => exact iff_of_false hnone hnone
    | finished response => exact iff_of_false hnone hnone
    | loaded body eapPayload s =>
      simp only [saves, saving, Option.some.injEq, exists_eq_left']
      refine taken_iff (s := h.confirmed a.writing.now authCtxID body eapPayload s) hrow ?_ ?_
      · intro err hw
        rw [Handler.confirm_of_error hw]
        rfl
      · intro t' hw
        rw [Handler.confirm_of_ok hw]
  | message c req phase =>
    cases phase with
    | received => exact iff_of_false hnone hnone
    | resolved ctx => exact iff_of_false hnone hnone
    | finished result => exact iff_of_false hnone hnone
    | loaded ctx s =>
      cases hre : c.reaction req with
      | none =>
        simp only [saves, saving, hre, Option.map_none]
        exact iff_of_false hnone hnone
      | some re =>
        simp only [saves, saving, hre, Option.map_some, Option.some.injEq, exists_eq_left']
        rw [← re.write.change_authCtxID a.writing.now s, ← re.write.change_gpsi a.writing.now s]
        refine taken_iff hrow ?_ ?_
        · intro err hw
          rw [hw]
        · intro t' hw
          rw [hw]

theorem not_isCreation_of_saving {f : Flow} {s : NssaaSession} (h : f.saving = some s) :
    ¬ f.IsCreation := by
  cases f with
  | create h' authCtxID r response => cases h
  | confirm h' authCtxID r phase => exact id
  | message c req phase => exact id

end Saving

theorem isRevocation_iff {f : Flow} : f.IsRevocation ↔ f.status = some .revoked := by
  cases f with
  | create h authCtxID r response => exact ⟨nofun, nofun⟩
  | confirm h authCtxId r phase => exact ⟨nofun, nofun⟩
  | message c req phase =>
    unfold IsRevocation status
    cases hm : req.messageType <;> simp [hm]

end Flow

/-! ## Revocation -/

variable (enc : Encryptor) (authCtxId : String)

abbrev Happening : Type :=
  Record (System NssaaTable Flow) (Event Flow Access) (Option (Access × Flow))

/-- In this event the store takes the session of the context from a request that meets `P`. -/
def SavedBy (P : Flow → Prop) (r : Happening) : Prop :=
  ∃ a f s, r.output = some (a, f) ∧ P f ∧ f.saves enc a r.pre.shared = some s ∧
    s.authCtxID = authCtxId

/-- A revocation of the context is recorded: `MarkRevoked` succeeds. -/
def Revoked : Happening → Prop := SavedBy enc authCtxId Flow.IsRevocation

def Created : Happening → Prop := SavedBy enc authCtxId Flow.IsCreation

/-- A confirmation, a re-authentication or a change of authorization that has loaded the session of
the context is at its save, and the store is able to update the row. -/
def Overwritten (r : Happening) : Prop :=
  ∃ a f s, r.output = some (a, f) ∧ ¬ f.IsRevocation ∧ f.saving = some s ∧
    s.authCtxID = authCtxId ∧ a.writing.update.Succeeds enc s.gpsi

/-- The persisted status is `REVOKED` now and after every event of the schedule. -/
def StaysRevoked (sys : System NssaaTable Flow) (es : List (Event Flow Access)) : Prop :=
  sys.shared.statusOf authCtxId = some .revoked ∧
    ∀ r ∈ trace (step (Flow.next enc)) sys es,
      r.post.shared.statusOf authCtxId = some .revoked

variable {enc authCtxId}

theorem statusOf_of_saves {sys : System NssaaTable Flow} {e : Event Flow Access} {a : Access}
    {f : Flow} {s : NssaaSession} (hran : ran sys e = some (a, f))
    (hs : f.saves enc a sys.shared = some s) (hid : s.authCtxID = authCtxId) :
    (step (Flow.next enc) sys e).2.shared.statusOf authCtxId = some s.status := by
  have htakes := Flow.next_takes enc a sys.shared f
  rw [hs] at htakes
  rw [shared_step _ hran, htakes.statusOf_some, if_pos hid.symm]

/-- A revocation stays if only revocations save the session. -/
theorem statusOf_next {a : Access} {t : NssaaTable} {f : Flow}
    (ht : t.statusOf authCtxId = some .revoked)
    (hf : ∀ s, f.saves enc a t = some s → s.authCtxID = authCtxId → f.IsRevocation) :
    (f.next enc a t).1.statusOf authCtxId = some .revoked := by
  have htakes := Flow.next_takes enc a t f
  cases hs : f.saves enc a t with
  | none =>
    rw [hs] at htakes
    rw [htakes.statusOf_none, ht]
  | some s =>
    rw [hs] at htakes
    rw [htakes.statusOf_some]
    split
    · rename_i hid
      rw [← Flow.status_of_saves hs]
      exact Flow.isRevocation_iff.mp (hf s hs hid.symm)
    · exact ht

/-- **Revocation.** Once a revocation of a context is recorded, and while the context is not created
again, its status stays `REVOKED` exactly if no confirmation, no re-authentication and no change of
authorization that has loaded the session comes to its save while the store is able to update the
row. -/
theorem revocation_kept_iff {sys : System NssaaTable Flow} {e : Event Flow Access}
    {es : List (Event Flow Access)}
    (hrev : Revoked enc authCtxId (record (step (Flow.next enc)) sys e))
    (hnew : ∀ r ∈ trace (step (Flow.next enc)) (step (Flow.next enc) sys e).2 es,
      ¬ Created enc authCtxId r) :
    StaysRevoked enc authCtxId (step (Flow.next enc) sys e).2 es ↔
      ∀ r ∈ trace (step (Flow.next enc)) (step (Flow.next enc) sys e).2 es,
        ¬ Overwritten enc authCtxId r := by
  constructor
  · -- the context is on file, and whatever saves the session leaves its own status behind
    rintro hstay r hr ⟨a, f, s, hout, hf, hs, hid, hsucc⟩
    have hpre := pre_of_mem_trace (I := fun sys : System NssaaTable Flow =>
      sys.shared.statusOf authCtxId = some .revoked) hstay.1 hstay.2 hr
    obtain ⟨s', hs', hid'⟩ := (Flow.saves_iff (NssaaTable.row_ne_none hpre)
      (Flow.not_isCreation_of_saving hs)).mpr ⟨s, hs, hid, hsucc⟩
    have hpost := hstay.2 r hr
    rw [eq_record_of_mem_trace hr] at hout hpost
    rw [record_post, statusOf_of_saves hout hs' hid', ← Flow.status_of_saves hs'] at hpost
    exact hf (Flow.isRevocation_iff.mpr hpost)
  · intro hno
    have h0 : (step (Flow.next enc) sys e).2.shared.statusOf authCtxId = some .revoked := by
      obtain ⟨a, f, s, hout, hf, hs, hid⟩ := hrev
      rw [statusOf_of_saves hout hs hid, ← Flow.status_of_saves hs]
      exact Flow.isRevocation_iff.mp hf
    refine ⟨h0, fun r hr => ?_⟩
    refine shared_inv (I := fun t => t.statusOf authCtxId = some .revoked)
      (C := fun t a f => t.row authCtxId ≠ none → ∀ s, f.saves enc a t = some s →
        s.authCtxID = authCtxId → f.IsRevocation)
      (fun a t f ht hf => statusOf_next ht (hf (NssaaTable.row_ne_none ht))) h0 ?_ hr
    intro r hr a f hout hrow s hs hid
    by_contra hf
    by_cases hc : f.IsCreation
    · exact hnew r hr ⟨a, f, s, hout, hc, hs, hid⟩
    · obtain ⟨s', hs', hid', hsucc⟩ := (Flow.saves_iff hrow hc).mp ⟨s, hs, hid⟩
      exact hno r hr ⟨a, f, s', hout, hf, hs', hid', hsucc⟩

/-! ### A confirmation beside a revocation -/

namespace Sample

def coordinator : Coordinator :=
  ⟨"1.0", fun _ => .ok none, fun _ _ _ => .ok (), fun _ _ _ => .ok (), none⟩

def abort : AaaServerInitiatedRequest := ⟨"1.0", "session-1", "ctx", .asr, [1]⟩

/-- The AAA server is about to accept. -/
def handler : Handler := Nssaa.Sample.base.withAAA (Nssaa.Sample.router (.ok (some [3, 2, 0, 4])))

def access (now : Time) : Access := ⟨none, Nssaa.Sample.writing now⟩

/-- The database refuses the update. -/
def refused (now : Time) : Access :=
  ⟨none, { Nssaa.Sample.writing now with
    update := { Nssaa.Sample.statement with fault := some "connection reset" } }⟩

def start : System NssaaTable Flow :=
  ⟨Nssaa.Sample.table, [.confirm handler "ctx" Nssaa.Sample.confirmRequest .received,
    .message coordinator abort .received]⟩

def loaded : System NssaaTable Flow :=
  final (step (Flow.next Nssaa.Sample.enc)) start
    [.run 0 (access 2), .run 1 (access 3), .run 1 (access 4)]

def revocation : Event Flow Access := .run 1 (access 5)

def revoked : System NssaaTable Flow :=
  (step (Flow.next Nssaa.Sample.enc) loaded revocation).2

def answer? : Flow → Option (Except String ServerInitiatedResult)
  | .message _ _ (.finished result) => some result
  | _ => none

end Sample

open Sample in
/-- The abort is handled with success and the session is revoked. Then the confirmation, which
loaded the session before, saves it as confirmed. -/
theorem confirmation_undoes_revocation :
    (revoked.threads[1]?).bind answer? =
        some (.ok ⟨⟨"1.0", "session-1", "ctx", [1]⟩, .amfNotified⟩) ∧
      revoked.shared.statusOf "ctx" = some .revoked ∧
      (step (Flow.next Nssaa.Sample.enc) revoked
        (.run 0 (access 6))).2.shared.statusOf "ctx" = some .confirmed := by
  decide +kernel

open Sample in
/-- If the store refuses that save, the session stays revoked. -/
theorem revocation_kept_sample :
    StaysRevoked Nssaa.Sample.enc "ctx" revoked [.run 0 (refused 6)] := by
  have hrev : Revoked Nssaa.Sample.enc "ctx"
      (record (step (Flow.next Nssaa.Sample.enc)) loaded revocation) :=
    ⟨_, _, { Nssaa.Sample.session with status := .revoked, updatedAt := some 5 }, rfl, rfl,
      by decide +kernel, rfl⟩
  refine (revocation_kept_iff hrev ?_).mpr ?_
  · -- the only request that acts is the confirmation
    rintro r hr ⟨a, f, s, hout, hf, -, -⟩
    obtain rfl := List.mem_singleton.mp hr
    cases hout
    exact hf
  · rintro r hr ⟨a, f, s, hout, -, -, -, hsucc⟩
    obtain rfl := List.mem_singleton.mp hr
    cases hout
    cases hsucc.fault

end NssAAF.Biz
