import NssAAF.Biz.Revocation

/-!
# The persisted status and the domain's state machine

`internal/domain/nssaa_status.go` has a state machine for the status of a slice authentication, and
`internal/types/nssaa_status.go` the check that a status is a known one. The handlers write the
status without them. `status_refines_iff` says which runs of creations, confirmations and
server-initiated messages are runs of that machine all the same.
-/

namespace NssAAF.Domain

open Storage

/-- The events of the state machine. The type of the code is an integer, so there are others. -/
inductive AuthEvent
  | authStarted
  | eapRound
  | aaaComplete
  | aaaFailed
  | other (n : ℤ)
  deriving DecidableEq

def AuthEvent.string : AuthEvent → String
  | .authStarted => "EventAuthStarted"
  | .eapRound => "EventEAPRound"
  | .aaaComplete => "EventAAAComplete"
  | .aaaFailed => "EventAAAFailed"
  | .other n => "AuthEvent(" ++ toString n ++ ")"

structure TransitionError where
  origin : NssaaStatus
  event : String
  deriving DecidableEq

def TransitionError.error (e : TransitionError) : String :=
  "invalid NSSAA status transition from " ++ e.origin.string ++ " with event: " ++ e.event

/-- The next status. An event that is not admitted leaves the status, with an error. -/
def transitionTo (current : NssaaStatus) (event : AuthEvent) :
    NssaaStatus × Option TransitionError :=
  match current with
  | .notExecuted =>
    if event = .authStarted then (.pending, none) else (current, some ⟨current, event.string⟩)
  | .pending =>
    match event with
    | .aaaComplete => (.eapSuccess, none)
    | .aaaFailed => (.eapFailure, none)
    | .eapRound => (.pending, none)
    | _ => (current, some ⟨current, event.string⟩)
  | .eapSuccess | .eapFailure => (current, none)
  | _ => (current, some ⟨current, event.string⟩)

structure ValidationError where
  httpStatus : ℕ
  field : String
  reason : String
  cause : String
  deriving DecidableEq

/-- The check that a status is a known one. -/
def validate (s : NssaaStatus) : Option ValidationError :=
  match s with
  | .notExecuted | .pending | .eapSuccess | .eapFailure => none
  | _ =>
    some ⟨400, "nssaaStatus", "unknown NssaaStatus value: " ++ Api.quote s.string,
      "INVALID_STATUS"⟩

end NssAAF.Domain

namespace NssAAF.Biz

open Storage Nssaa Interleaving Transducer Domain

def Flow.IsReauthentication : Flow → Prop
  | .message _ req _ => req.messageType = .rar
  | _ => False

def Flow.IsForeign : Flow → Prop
  | .create .. => False
  | .confirm .. => True
  | .message _ req _ => req.messageType = .asr ∨ req.messageType = .coa

/-- Creations and re-authentications write a status that the state machine knows, the others write
one that it does not know. -/
theorem Flow.status_cases {f : Flow} {st : NssaaStatus} (h : f.status = some st) :
    (¬ f.IsForeign ∧ st = .pending) ∨ (f.IsForeign ∧ validate st ≠ none) := by
  cases f with
  | create h' authCtxID r response =>
    cases h
    exact Or.inl ⟨id, rfl⟩
  | confirm h' authCtxID r phase =>
    cases h
    exact Or.inr ⟨trivial, Option.some_ne_none _⟩
  | message c req phase =>
    simp only [status] at h
    simp only [IsForeign]
    cases hm : req.messageType with
    | rar =>
      rw [hm] at h
      cases h
      simp
    | asr =>
      rw [hm] at h
      cases h
      exact Or.inr ⟨Or.inl rfl, Option.some_ne_none _⟩
    | coa =>
      rw [hm] at h
      cases h
      exact Or.inr ⟨Or.inr rfl, Option.some_ne_none _⟩
    | other name =>
      rw [hm] at h
      cases h

variable (enc : Encryptor) (authCtxId : String)

/-- The status of the context in the state machine. A context that is not on file was never
executed. -/
def machineStatus (sys : System NssaaTable Flow) : NssaaStatus :=
  (sys.shared.statusOf authCtxId).getD .notExecuted

/-- What is written to the context in this event is a known status, and a change of the status is a
re-authentication that starts again, or a transition of the state machine. -/
structure Refines (r : Happening) : Prop where
  accepted : ∀ a f s, r.output = some (a, f) → f.saves enc a r.pre.shared = some s →
    s.authCtxID = authCtxId → validate s.status = none
  change : machineStatus authCtxId r.post ≠ machineStatus authCtxId r.pre →
    (SavedBy enc authCtxId Flow.IsReauthentication r ∧
      machineStatus authCtxId r.post = .pending) ∨
    ∃ e, transitionTo (machineStatus authCtxId r.pre) e = (machineStatus authCtxId r.post, none)

variable {enc authCtxId}

/-- An event in which no confirmation, revocation or change of authorization saves the session
leaves the context pending, or as it is. -/
theorem statusOf_of_not_foreign {sys : System NssaaTable Flow} {e : Event Flow Access}
    (h : ¬ SavedBy enc authCtxId Flow.IsForeign (record (step (Flow.next enc)) sys e)) :
    (step (Flow.next enc) sys e).2.shared.statusOf authCtxId = some .pending ∨
      (step (Flow.next enc) sys e).2.shared.statusOf authCtxId =
        sys.shared.statusOf authCtxId := by
  cases hran : ran sys e with
  | none =>
    rw [shared_step_of_idle _ hran]
    exact Or.inr rfl
  | some p =>
    obtain ⟨a, f⟩ := p
    have htakes := Flow.next_takes enc a sys.shared f
    rw [shared_step _ hran]
    cases hs : f.saves enc a sys.shared with
    | none =>
      rw [hs] at htakes
      exact Or.inr (htakes.statusOf_none authCtxId)
    | some s =>
      rw [hs] at htakes
      rw [htakes.statusOf_some]
      by_cases hid : authCtxId = s.authCtxID
      · rw [if_pos hid]
        rcases Flow.status_cases (Flow.status_of_saves hs) with ⟨-, hst⟩ | ⟨hf, -⟩
        · exact Or.inl (congrArg some hst)
        · exact absurd ⟨a, f, s, hran, hf, hs, hid.symm⟩ h
      · rw [if_neg hid]
        exact Or.inr rfl

/-- **The persisted status.** A run on a context that is not on file yet is one of the state machine
exactly if no confirmation, no revocation and no change of authorization is saved in it. -/
theorem status_refines_iff {sys : System NssaaTable Flow} {es : List (Event Flow Access)}
    (h0 : sys.shared.statusOf authCtxId = none) :
    (∀ r ∈ trace (step (Flow.next enc)) sys es, Refines enc authCtxId r) ↔
      ∀ r ∈ trace (step (Flow.next enc)) sys es, ¬ SavedBy enc authCtxId Flow.IsForeign r := by
  constructor
  · rintro href r hr ⟨a, f, s, hout, hf, hs, hid⟩
    have haccepted := (href r hr).accepted a f s hout hs hid
    rcases Flow.status_cases (Flow.status_of_saves hs) with ⟨hnot, -⟩ | ⟨-, hunknown⟩
    · exact hnot hf
    · exact hunknown haccepted
  · intro hno r hr
    have hpre : r.pre.shared.statusOf authCtxId = none ∨
        r.pre.shared.statusOf authCtxId = some .pending := by
      refine inv_of_mem_trace (I := fun sys : System NssaaTable Flow =>
        sys.shared.statusOf authCtxId = none ∨ sys.shared.statusOf authCtxId = some .pending)
        (C := fun r => ¬ SavedBy enc authCtxId Flow.IsForeign r) ?_ (Or.inl h0) hno hr
      intro sys e hI hc
      rcases statusOf_of_not_foreign hc with hpost | hpost
      · exact Or.inr hpost
      · rw [hpost]
        exact hI
    have hpost : r.post.shared.statusOf authCtxId = some .pending ∨
        r.post.shared.statusOf authCtxId = r.pre.shared.statusOf authCtxId := by
      have hc := hno r hr
      rw [eq_record_of_mem_trace hr] at hc ⊢
      exact statusOf_of_not_foreign hc
    constructor
    · intro a f s hout hs hid
      rcases Flow.status_cases (Flow.status_of_saves hs) with ⟨-, hst⟩ | ⟨hf, -⟩
      · rw [hst]
        rfl
      · exact absurd ⟨a, f, s, hout, hf, hs, hid⟩ (hno r hr)
    · intro hchange
      unfold machineStatus at hchange ⊢
      rcases hpost with hpost | hpost
      · rw [hpost] at hchange ⊢
        rcases hpre with hpre | hpre
        · rw [hpre]
          exact Or.inr ⟨.authStarted, rfl⟩
        · rw [hpre] at hchange
          exact absurd rfl hchange
      · rw [hpost] at hchange
        exact absurd rfl hchange

namespace Sample

def reauthentication : AaaServerInitiatedRequest := { abort with messageType := .rar }

def creation : List (Event Flow Access) :=
  [.start (.create handler "ctx" Nssaa.Sample.createRequest none), .run 0 (access 1)]

def reauthenticated : List (Event Flow Access) :=
  creation ++ [.start (.message coordinator reauthentication .received), .run 1 (access 2),
    .run 1 (access 3), .run 1 (access 4)]

def confirmed : List (Event Flow Access) :=
  creation ++ [.start (.confirm handler "ctx" Nssaa.Sample.confirmRequest .received),
    .run 1 (access 2), .run 1 (access 3)]

def statuses (es : List (Event Flow Access)) : List (Option NssaaStatus) :=
  (trace (step (Flow.next Nssaa.Sample.enc)) ⟨[], []⟩ es).map fun r =>
    r.post.shared.statusOf "ctx"

end Sample

open Sample in
/-- A creation and a re-authentication. -/
theorem reauthentication_refines :
    statuses reauthenticated =
        [none, some .pending, some .pending, some .pending, some .pending, some .pending] ∧
      ((∀ r ∈ trace (step (Flow.next Nssaa.Sample.enc)) ⟨[], []⟩ reauthenticated,
          Refines Nssaa.Sample.enc "ctx" r) ↔
        ∀ r ∈ trace (step (Flow.next Nssaa.Sample.enc)) ⟨[], []⟩ reauthenticated,
          ¬ SavedBy Nssaa.Sample.enc "ctx" Flow.IsForeign r) :=
  ⟨by decide +kernel, status_refines_iff rfl⟩

/-- A confirmation after a creation writes a status that is not known, and to which no event of the
state machine leads. -/
theorem confirmation_not_a_transition :
    Sample.statuses Sample.confirmed =
        [none, some .pending, some .pending, some .pending, some .confirmed] ∧
      validate .confirmed = some ⟨400, "nssaaStatus",
        "unknown NssaaStatus value: \"CONFIRMED\"", "INVALID_STATUS"⟩ ∧
      ∀ e, transitionTo .pending e ≠ (.confirmed, none) := by
  refine ⟨by decide +kernel, by decide +kernel, fun e => ?_⟩
  cases e <;> simp [transitionTo]

end NssAAF.Biz
