import NssAAF.Lib.Transducer
import NssAAF.Lib.Bytes
import Mathlib.Logic.Function.Basic

/-!
# The registry of pending requests

`internal/aaa/gateway/server_initiated.go`: a request of the AAA server is registered under a key
of its session and its type, and its goroutine waits on a channel of capacity one until a response
is delivered or its time is over. What a call of `Register` or `Complete`, or a goroutine that
waits, does under the lock or to a channel is one event. Requests are numbered.

`registry_delivers` says what the registry promises, and for which runs.
-/

namespace NssAAF.Aaa

open Transducer

def resultCodeSuccess : UInt32 := 2001
def resultCodeUnableToDeliver : UInt32 := 3002

structure ServerInitiatedResponse where
  authCtxID : String
  resultCode : UInt32
  payload : Option Bytes
  errorCause : String
  deriving DecidableEq

def timeoutResponse : ServerInitiatedResponse := ⟨"", resultCodeUnableToDeliver, none, "timeout"⟩
def duplicateResponse : ServerInitiatedResponse :=
  ⟨"", resultCodeUnableToDeliver, none, "duplicate"⟩

/-- Where the call of `Wait` is: in the `select`, behind the timer and before `Expire`, or back. -/
inductive Waiting
  | selecting
  | expiring
  | returned (resp : ServerInitiatedResponse)
  deriving DecidableEq

def Waiting.place : Waiting → ℕ
  | .selecting => 0
  | .expiring => 1
  | .returned _ => 2

def registryKey (sessionID messageType : String) : String := sessionID ++ ":" ++ messageType

/-- A registered request: what its channel holds, whether it was registered as a duplicate, whether
the goroutine that says so has sent, and where its `Wait` is. -/
structure ResponseChannel where
  sessionID : String
  messageType : String
  response : Option ServerInitiatedResponse
  duplicate : Bool
  told : Bool
  wait : Waiting
  deriving DecidableEq

namespace ResponseChannel

variable (rc : ResponseChannel)

def key : String := registryKey rc.sessionID rc.messageType

/-- The response is sent if there is room in the channel. -/
def offer (resp : ServerInitiatedResponse) : ResponseChannel :=
  { rc with response := some (rc.response.getD resp) }

def outcome : Option ServerInitiatedResponse :=
  match rc.wait with
  | .returned resp => some resp
  | _ => none

variable {rc}

theorem outcome_of_selecting (h : rc.wait = .selecting) : rc.outcome = none := by
  unfold outcome
  rw [h]

theorem outcome_of_expiring (h : rc.wait = .expiring) : rc.outcome = none := by
  unfold outcome
  rw [h]

end ResponseChannel

/-- The map of the registry, and the requests that were registered so far. -/
structure ServerInitiatedRegistry where
  pending : String → Option ℕ
  channels : ℕ → Option ResponseChannel

def newServerInitiatedRegistry : ServerInitiatedRegistry := ⟨fun _ => none, fun _ => none⟩

namespace ServerInitiatedRegistry

variable (r : ServerInitiatedRegistry)

def setChannel (n : ℕ) (rc : ResponseChannel) : ServerInitiatedRegistry :=
  { r with channels := Function.update r.channels n (some rc) }

def delete (key : String) : ServerInitiatedRegistry :=
  { r with pending := Function.update r.pending key none }

def insert (key : String) (n : ℕ) : ServerInitiatedRegistry :=
  { r with pending := Function.update r.pending key (some n) }

/-- If there is an entry for the key, the entry is deleted and the new request is a duplicate. -/
def register (n : ℕ) (sessionID messageType : String) : ServerInitiatedRegistry :=
  let key := registryKey sessionID messageType
  if (r.pending key).isSome then
    (r.delete key).setChannel n ⟨sessionID, messageType, none, true, false, .selecting⟩
  else (r.insert key n).setChannel n ⟨sessionID, messageType, none, false, false, .selecting⟩

/-- The response is delivered to the entry of the key, which is deleted. -/
def complete (sessionID messageType : String) (resp : ServerInitiatedResponse) :
    ServerInitiatedRegistry :=
  let key := registryKey sessionID messageType
  match r.pending key with
  | none => r
  | some n =>
    match r.channels n with
    | none => r.delete key
    | some rc => (r.delete key).setChannel n (rc.offer resp)

def expire (sessionID messageType : String) : ServerInitiatedRegistry :=
  r.delete (registryKey sessionID messageType)

end ServerInitiatedRegistry

/-! ## Events -/

inductive RegistryEvent
  | register (n : ℕ) (sessionID messageType : String)
  | tell (n : ℕ)
  | complete (sessionID messageType : String) (resp : ServerInitiatedResponse)
  | receive (n : ℕ)
  | timer (n : ℕ)
  | expire (n : ℕ)
  deriving DecidableEq

namespace ServerInitiatedRegistry

variable (r : ServerInitiatedRegistry)

/-- What `Wait` returned, with the number of the request, and the registry. -/
abbrev Outcome : Type := Option (ℕ × ServerInitiatedResponse) × ServerInitiatedRegistry

def withChannel (n : ℕ) (act : ResponseChannel → Outcome) : Outcome :=
  match r.channels n with
  | none => (none, r)
  | some rc => act rc

/-- The goroutine of a duplicate sends. -/
def tell (n : ℕ) (rc : ResponseChannel) : Outcome :=
  if rc.duplicate ∧ ¬ rc.told ∧ rc.response = none then
    (none, r.setChannel n { rc with response := some duplicateResponse, told := true })
  else (none, r)

def receive (n : ℕ) (rc : ResponseChannel) : Outcome :=
  match rc.wait, rc.response with
  | .selecting, some resp =>
    (some (n, resp), r.setChannel n { rc with response := none, wait := .returned resp })
  | _, _ => (none, r)

def fire (n : ℕ) (rc : ResponseChannel) : Outcome :=
  if rc.wait = .selecting then (none, r.setChannel n { rc with wait := .expiring }) else (none, r)

def giveUp (n : ℕ) (rc : ResponseChannel) : Outcome :=
  if rc.wait = .expiring then
    (some (n, timeoutResponse), (r.expire rc.sessionID rc.messageType).setChannel n
      { rc with wait := .returned timeoutResponse })
  else (none, r)

def step : RegistryEvent → Outcome
  | .register n sessionID messageType =>
    if (r.channels n).isSome then (none, r) else (none, r.register n sessionID messageType)
  | .complete sessionID messageType resp => (none, r.complete sessionID messageType resp)
  | .tell n => r.withChannel n (r.tell n)
  | .receive n => r.withChannel n (r.receive n)
  | .timer n => r.withChannel n (r.fire n)
  | .expire n => r.withChannel n (r.giveUp n)

section Fields

variable (r : ServerInitiatedRegistry) (n m : ℕ) (rc : ResponseChannel) (k key : String)

@[simp] theorem setChannel_channels :
    (r.setChannel n rc).channels m = if m = n then some rc else r.channels m :=
  Function.update_apply ..

@[simp] theorem setChannel_pending : (r.setChannel n rc).pending = r.pending := rfl

@[simp] theorem delete_channels : (r.delete key).channels = r.channels := rfl

@[simp] theorem delete_pending :
    (r.delete key).pending k = if k = key then none else r.pending k :=
  Function.update_apply ..

@[simp] theorem insert_channels : (r.insert key n).channels = r.channels := rfl

@[simp] theorem insert_pending :
    (r.insert key n).pending k = if k = key then some n else r.pending k :=
  Function.update_apply ..

end Fields

inductive Moves (r : ServerInitiatedRegistry) :
    RegistryEvent → Option (ℕ × ServerInitiatedResponse) → ServerInitiatedRegistry → Prop
  | idle (e : RegistryEvent) : Moves r e none r
  | registered {n : ℕ} {sessionID messageType : String} (hn : r.channels n = none)
      (hkey : r.pending (registryKey sessionID messageType) = none) :
      Moves r (.register n sessionID messageType) none
        ((r.insert (registryKey sessionID messageType) n).setChannel n
          ⟨sessionID, messageType, none, false, false, .selecting⟩)
  | duplicated {n k : ℕ} {sessionID messageType : String} (hn : r.channels n = none)
      (hkey : r.pending (registryKey sessionID messageType) = some k) :
      Moves r (.register n sessionID messageType) none
        ((r.delete (registryKey sessionID messageType)).setChannel n
          ⟨sessionID, messageType, none, true, false, .selecting⟩)
  | told {n : ℕ} {rc : ResponseChannel} (hn : r.channels n = some rc)
      (hdup : rc.duplicate = true) (hempty : rc.response = none) :
      Moves r (.tell n) none
        (r.setChannel n { rc with response := some duplicateResponse, told := true })
  | completed {n : ℕ} {rc : ResponseChannel} {sessionID messageType : String}
      {resp : ServerInitiatedResponse}
      (hkey : r.pending (registryKey sessionID messageType) = some n)
      (hn : r.channels n = some rc) :
      Moves r (.complete sessionID messageType resp) none
        ((r.delete (registryKey sessionID messageType)).setChannel n (rc.offer resp))
  | dropped {n : ℕ} {sessionID messageType : String} {resp : ServerInitiatedResponse}
      (hkey : r.pending (registryKey sessionID messageType) = some n)
      (hn : r.channels n = none) :
      Moves r (.complete sessionID messageType resp) none
        (r.delete (registryKey sessionID messageType))
  | received {n : ℕ} {rc : ResponseChannel} {resp : ServerInitiatedResponse}
      (hn : r.channels n = some rc) (hwait : rc.wait = .selecting)
      (hresp : rc.response = some resp) :
      Moves r (.receive n) (some (n, resp))
        (r.setChannel n { rc with response := none, wait := .returned resp })
  | fired {n : ℕ} {rc : ResponseChannel} (hn : r.channels n = some rc)
      (hwait : rc.wait = .selecting) :
      Moves r (.timer n) none (r.setChannel n { rc with wait := .expiring })
  | expired {n : ℕ} {rc : ResponseChannel} (hn : r.channels n = some rc)
      (hwait : rc.wait = .expiring) :
      Moves r (.expire n) (some (n, timeoutResponse))
        ((r.delete rc.key).setChannel n { rc with wait := .returned timeoutResponse })

theorem register_moves {r : ServerInitiatedRegistry} {n : ℕ} (hn : r.channels n = none)
    (sessionID messageType : String) :
    Moves r (.register n sessionID messageType) none (r.register n sessionID messageType) := by
  unfold register
  dsimp only
  cases hkey : r.pending (registryKey sessionID messageType) with
  | none => exact .registered hn hkey
  | some k => exact .duplicated hn hkey

theorem complete_moves (r : ServerInitiatedRegistry) (sessionID messageType : String)
    (resp : ServerInitiatedResponse) :
    Moves r (.complete sessionID messageType resp) none
      (r.complete sessionID messageType resp) := by
  unfold complete
  dsimp only
  cases hkey : r.pending (registryKey sessionID messageType) with
  | none => exact .idle _
  | some n =>
    dsimp only
    cases hn : r.channels n with
    | none => exact .dropped hkey hn
    | some rc => exact .completed hkey hn

theorem withChannel_moves {r : ServerInitiatedRegistry} {n : ℕ} {act : ResponseChannel → Outcome}
    {e : RegistryEvent}
    (h : ∀ rc, r.channels n = some rc → Moves r e (act rc).1 (act rc).2) :
    Moves r e (r.withChannel n act).1 (r.withChannel n act).2 := by
  unfold withChannel
  cases hn : r.channels n with
  | none => exact .idle e
  | some rc => exact h rc hn

theorem step_moves (r : ServerInitiatedRegistry) (e : RegistryEvent) :
    Moves r e (step r e).1 (step r e).2 := by
  cases e with
  | register n sessionID messageType =>
    dsimp only [step]
    by_cases hn : (r.channels n).isSome
    · rw [if_pos hn]
      exact .idle _
    · rw [if_neg hn]
      exact register_moves (Option.not_isSome_iff_eq_none.mp hn) sessionID messageType
  | complete sessionID messageType resp => exact complete_moves r sessionID messageType resp
  | tell n =>
    refine withChannel_moves fun rc hn => ?_
    unfold tell
    split_ifs with h
    · exact .told hn h.1 h.2.2
    · exact .idle _
  | receive n =>
    refine withChannel_moves fun rc hn => ?_
    unfold receive
    split
    · exact .received hn ‹_› ‹_›
    · exact .idle _
  | timer n =>
    refine withChannel_moves fun rc hn => ?_
    unfold fire
    split_ifs with h
    · exact .fired hn h
    · exact .idle _
  | expire n =>
    refine withChannel_moves fun rc hn => ?_
    unfold giveUp
    split_ifs with h
    · exact .expired hn h
    · exact .idle _

/-! ## Outcomes -/

abbrev RegistryStep : Type :=
  Record ServerInitiatedRegistry RegistryEvent (Option (ℕ × ServerInitiatedResponse))

def outcomeIn (n : ℕ) (out : Option (ℕ × ServerInitiatedResponse)) :
    Option ServerInitiatedResponse :=
  out.bind fun p => if p.1 = n then some p.2 else none

def outcomes (n : ℕ) (h : List RegistryStep) : List ServerInitiatedResponse :=
  h.flatMap fun st => (outcomeIn n st.output).toList

def outcomeOf (r : ServerInitiatedRegistry) (n : ℕ) : Option ServerInitiatedResponse :=
  (r.channels n).bind ResponseChannel.outcome

section Outcomes

variable {r r' : ServerInitiatedRegistry} {e : RegistryEvent}
  {out : Option (ℕ × ServerInitiatedResponse)}

theorem outcomeOf_setChannel_none {n : ℕ} {rc : ResponseChannel} (h : rc.outcome = r.outcomeOf n)
    (m : ℕ) : ((r.setChannel n rc).outcomeOf m).toList =
      (r.outcomeOf m).toList ++ (outcomeIn m none).toList := by
  by_cases hm : m = n
  · subst hm
    simp [outcomeOf, outcomeIn, h]
  · simp [hm, outcomeOf, outcomeIn]

theorem outcomeOf_setChannel_some {n : ℕ} {rc : ResponseChannel} {resp : ServerInitiatedResponse}
    (hold : r.outcomeOf n = none) (hnew : rc.outcome = some resp) (m : ℕ) :
    ((r.setChannel n rc).outcomeOf m).toList =
      (r.outcomeOf m).toList ++ (outcomeIn m (some (n, resp))).toList := by
  by_cases hm : m = n
  · subst hm
    rw [hold]
    simp [outcomeOf, outcomeIn, hnew]
  · simp [hm, outcomeOf, outcomeIn, Ne.symm hm]

theorem Moves.outcome (h : Moves r e out r') (m : ℕ) :
    (r'.outcomeOf m).toList = (r.outcomeOf m).toList ++ (outcomeIn m out).toList := by
  cases h with
  | idle => simp [outcomeIn]
  | registered hn =>
    apply outcomeOf_setChannel_none
    simp [outcomeOf, hn, ResponseChannel.outcome]
  | duplicated hn =>
    apply outcomeOf_setChannel_none
    simp [outcomeOf, hn, ResponseChannel.outcome]
  | told hn =>
    apply outcomeOf_setChannel_none
    simp [outcomeOf, hn, ResponseChannel.outcome]
  | completed _ hn =>
    apply outcomeOf_setChannel_none
    simp [outcomeOf, hn, ResponseChannel.outcome, ResponseChannel.offer]
  | dropped => simp [outcomeOf, outcomeIn]
  | received hn hwait =>
    apply outcomeOf_setChannel_some
    · simp [outcomeOf, hn, ResponseChannel.outcome, hwait]
    · rfl
  | fired hn hwait =>
    apply outcomeOf_setChannel_none
    simp [outcomeOf, hn, ResponseChannel.outcome, hwait]
  | expired hn hwait =>
    apply outcomeOf_setChannel_some
    · simp [outcomeOf, hn, ResponseChannel.outcome, hwait]
    · rfl

/-- **Outcomes.** The outcomes of a request in a run are what its `Wait` has returned at the end. -/
theorem outcomes_eq (es : List RegistryEvent) (n : ℕ) :
    outcomes n (trace step newServerInitiatedRegistry es) =
      ((final step newServerInitiatedRegistry es).outcomeOf n).toList := by
  refine history_inv (J := fun h r => outcomes n h = (r.outcomeOf n).toList) (C := fun _ => True)
    ?_ rfl fun _ _ => trivial
  intro h r e hJ _
  rw [(step_moves r e).outcome n, ← hJ]
  simp [outcomes]

end Outcomes

/-! ## One request -/

/-- What an event can do to the request `m`. -/
inductive Changes (m : ℕ) (rc : ResponseChannel) : RegistryEvent → ResponseChannel → Prop
  | same (e : RegistryEvent) : Changes m rc e rc
  | told (hdup : rc.duplicate = true) (hempty : rc.response = none) :
      Changes m rc (.tell m) { rc with response := some duplicateResponse, told := true }
  | offered (sessionID messageType : String) (resp : ServerInitiatedResponse) :
      Changes m rc (.complete sessionID messageType resp) (rc.offer resp)
  | received {resp : ServerInitiatedResponse} (hwait : rc.wait = .selecting)
      (hresp : rc.response = some resp) :
      Changes m rc (.receive m) { rc with response := none, wait := .returned resp }
  | fired (hwait : rc.wait = .selecting) : Changes m rc (.timer m) { rc with wait := .expiring }
  | expired (hwait : rc.wait = .expiring) :
      Changes m rc (.expire m) { rc with wait := .returned timeoutResponse }

section Requests

variable {r r' : ServerInitiatedRegistry} {e : RegistryEvent} {m n : ℕ} {rc rc' : ResponseChannel}
  {out : Option (ℕ × ServerInitiatedResponse)}

theorem exists_changes_setChannel {rc₀ : ResponseChannel} (hm : r.channels m = some rc)
    (hn : r.channels n = some rc₀) (h : Changes n rc₀ e rc') :
    ∃ rc'', (r.setChannel n rc').channels m = some rc'' ∧ Changes m rc e rc'' := by
  by_cases hmn : m = n
  · subst hmn
    obtain rfl := Option.some.inj (hm.symm.trans hn)
    exact ⟨rc', by simp, h⟩
  · exact ⟨rc, by simp [hmn, hm], .same e⟩

theorem channels_setChannel_new (hm : r.channels m = some rc) (hn : r.channels n = none) :
    (r.setChannel n rc').channels m = some rc := by
  have hmn : m ≠ n := by
    rintro rfl
    rw [hm] at hn
    cases hn
  simp [hmn, hm]

theorem Moves.changes (h : Moves r e out r') (hm : r.channels m = some rc) :
    ∃ rc', r'.channels m = some rc' ∧ Changes m rc e rc' := by
  cases h with
  | idle => exact ⟨rc, hm, .same e⟩
  | dropped => exact ⟨rc, hm, .same _⟩
  | registered hn => exact ⟨rc, channels_setChannel_new hm hn, .same _⟩
  | duplicated hn => exact ⟨rc, channels_setChannel_new hm hn, .same _⟩
  | told hn hdup hempty => exact exists_changes_setChannel hm hn (.told hdup hempty)
  | completed _ hn => exact exists_changes_setChannel hm hn (.offered _ _ _)
  | received hn hwait hresp => exact exists_changes_setChannel hm hn (.received hwait hresp)
  | fired hn hwait => exact exists_changes_setChannel hm hn (.fired hwait)
  | expired hn hwait => exact exists_changes_setChannel hm hn (.expired hwait)

theorem Changes.place_le (h : Changes m rc e rc') : rc.wait.place ≤ rc'.wait.place := by
  cases h with
  | same | told | offered => exact Nat.le_refl _
  | received hwait => simp [hwait, Waiting.place]
  | fired hwait => simp [hwait, Waiting.place]
  | expired hwait => simp [hwait, Waiting.place]

/-- The request `n` is registered, and its `Wait` is at the place `k` or behind it. -/
def Passed (k n : ℕ) (r : ServerInitiatedRegistry) : Prop :=
  ∃ rc, r.channels n = some rc ∧ k ≤ rc.wait.place

theorem Passed.final {k : ℕ} (h : Passed k n r) (es : List RegistryEvent) :
    Passed k n (final step r es) := by
  refine inv_final (C := fun _ => True) ?_ h fun _ _ => trivial
  rintro r e ⟨rc, hrc, hk⟩ -
  obtain ⟨rc', hrc', hch⟩ := (step_moves r e).changes hrc
  exact ⟨rc', hrc', Nat.le_trans hk hch.place_le⟩

theorem passed_timer (h : Passed 0 n r) : Passed 1 n (step r (.timer n)).2 := by
  obtain ⟨rc, hrc, -⟩ := h
  cases hwait : rc.wait <;>
    simp [step, withChannel, hrc, fire, hwait, Passed, Waiting.place]

theorem passed_expire (h : Passed 1 n r) : Passed 2 n (step r (.expire n)).2 := by
  obtain ⟨rc, hrc, hk⟩ := h
  cases hwait : rc.wait with
  | selecting => simp [hwait, Waiting.place] at hk
  | expiring => simp [step, withChannel, hrc, giveUp, hwait, Passed, Waiting.place]
  | returned => simp [step, withChannel, hrc, giveUp, hwait, Passed, Waiting.place]

theorem exists_outcome_of_passed (h : Passed 2 n r) : ∃ resp, r.outcomeOf n = some resp := by
  obtain ⟨rc, hrc, hk⟩ := h
  cases hwait : rc.wait with
  | selecting => simp [hwait, Waiting.place] at hk
  | expiring => simp [hwait, Waiting.place] at hk
  | returned resp => exact ⟨resp, by simp [outcomeOf, hrc, ResponseChannel.outcome, hwait]⟩

end Requests

/-! ## The map -/

/-- A step that keeps to the order: no request is registered while the `Wait` of one with the same
key has not returned, and a timer is taken only if there is no response. -/
def Orderly (st : RegistryStep) : Prop :=
  match st.input with
  | .register _ sessionID messageType => ∀ m rc, st.pre.channels m = some rc →
      rc.key = registryKey sessionID messageType → rc.outcome ≠ none
  | .timer n => ∀ rc, st.pre.channels n = some rc → rc.response = none
  | _ => True

/-- The request `n` has the key, and its `Wait` has not returned. -/
def IsOpen (r : ServerInitiatedRegistry) (key : String) (n : ℕ) : Prop :=
  ∃ rc, r.channels n = some rc ∧ rc.key = key ∧ rc.outcome = none

/-- Nor is there a response for it yet. -/
def Awaits (r : ServerInitiatedRegistry) (key : String) (n : ℕ) : Prop :=
  ∃ rc, r.channels n = some rc ∧ rc.key = key ∧ rc.outcome = none ∧ rc.response = none

/-- The entries of the map are the requests that await a response, one for each key. -/
structure Tidy (r : ServerInitiatedRegistry) : Prop where
  pending_iff : ∀ key n, r.pending key = some n ↔ r.Awaits key n
  exclusive : ∀ key m n, r.IsOpen key m → r.IsOpen key n → m = n
  single : ∀ n rc, r.channels n = some rc → rc.duplicate = false

section Map

variable {r : ServerInitiatedRegistry} {key : String} {m n : ℕ} {rc : ResponseChannel}

theorem Awaits.isOpen (h : r.Awaits key n) : r.IsOpen key n := by
  obtain ⟨rc, hrc, hkey, hout, -⟩ := h
  exact ⟨rc, hrc, hkey, hout⟩

theorem isOpen_iff_of_channel (h : r.channels n = some rc) :
    r.IsOpen key n ↔ rc.key = key ∧ rc.outcome = none := by
  simp [IsOpen, h]

theorem awaits_iff_of_channel (h : r.channels n = some rc) :
    r.Awaits key n ↔ rc.key = key ∧ rc.outcome = none ∧ rc.response = none := by
  simp [Awaits, h]

theorem isOpen_setChannel_of_ne (h : m ≠ n) :
    (r.setChannel n rc).IsOpen key m ↔ r.IsOpen key m := by
  simp [IsOpen, h]

theorem awaits_setChannel_of_ne (h : m ≠ n) :
    (r.setChannel n rc).Awaits key m ↔ r.Awaits key m := by
  simp [Awaits, h]

theorem isOpen_setChannel_self :
    (r.setChannel n rc).IsOpen key n ↔ rc.key = key ∧ rc.outcome = none :=
  isOpen_iff_of_channel (by simp)

theorem awaits_setChannel_self :
    (r.setChannel n rc).Awaits key n ↔ rc.key = key ∧ rc.outcome = none ∧ rc.response = none :=
  awaits_iff_of_channel (by simp)

/-- Changing a request to one that is open under the same key or not open at all leaves at most one
open for each key. -/
theorem exclusive_setChannel {rc' : ResponseChannel}
    (h : ∀ key m n, r.IsOpen key m → r.IsOpen key n → m = n)
    (hn : ∀ key, rc'.key = key → rc'.outcome = none → r.IsOpen key n) (key : String) (m m' : ℕ)
    (hm : (r.setChannel n rc').IsOpen key m) (hm' : (r.setChannel n rc').IsOpen key m') :
    m = m' := by
  have hopen : ∀ k, (r.setChannel n rc').IsOpen key k → r.IsOpen key k := by
    intro k hk
    by_cases hkn : k = n
    · subst hkn
      obtain ⟨hkey, hout⟩ := isOpen_setChannel_self.mp hk
      exact hn key hkey hout
    · exact (isOpen_setChannel_of_ne hkn).mp hk
  exact h key m m' (hopen m hm) (hopen m' hm')

theorem single_setChannel {rc' : ResponseChannel}
    (h : ∀ n rc, r.channels n = some rc → rc.duplicate = false) (hrc : rc'.duplicate = false)
    (m : ℕ) (rc : ResponseChannel) (hm : (r.setChannel n rc').channels m = some rc) :
    rc.duplicate = false := by
  by_cases hmn : m = n
  · rw [setChannel_channels, if_pos hmn] at hm
    rw [← Option.some.inj hm]
    exact hrc
  · rw [setChannel_channels, if_neg hmn] at hm
    exact h m rc hm

theorem tidy_new : Tidy newServerInitiatedRegistry where
  pending_iff key n := by simp [newServerInitiatedRegistry, Awaits]
  exclusive key m n hm _ := by simp [newServerInitiatedRegistry, IsOpen] at hm
  single n rc h := by simp [newServerInitiatedRegistry] at h

theorem Tidy.registered {sessionID messageType : String} (h : Tidy r) (hn : r.channels n = none)
    (hfree : ∀ m, ¬ r.IsOpen (registryKey sessionID messageType) m) :
    Tidy ((r.insert (registryKey sessionID messageType) n).setChannel n
      ⟨sessionID, messageType, none, false, false, .selecting⟩) := by
  have hnone : ∀ key, ¬ r.IsOpen key n := by simp [IsOpen, hn]
  have hself : ∀ key, (ResponseChannel.mk sessionID messageType none false false .selecting).key =
      key ↔ registryKey sessionID messageType = key := fun _ => Iff.rfl
  refine ⟨fun key m => ?_, fun key m m' hm hm' => ?_, single_setChannel h.single rfl⟩
  · rw [setChannel_pending, insert_pending]
    by_cases hmn : m = n
    · subst hmn
      rw [awaits_setChannel_self]
      by_cases hkey : key = registryKey sessionID messageType
      · simp [hkey, hself, ResponseChannel.outcome]
      · have hno : r.pending key ≠ some m := fun hp =>
          hnone key ((h.pending_iff key m).mp hp).isOpen
        simp [hkey, hself, hno, Ne.symm hkey]
    · rw [awaits_setChannel_of_ne hmn]
      by_cases hkey : key = registryKey sessionID messageType
      · have hno : ¬ r.Awaits key m := fun ha => hfree m (hkey ▸ ha.isOpen)
        rw [if_pos hkey]
        exact iff_of_false (fun hp => hmn (Option.some.inj hp).symm) hno
      · rw [if_neg hkey]
        exact h.pending_iff key m
  · by_cases hmn : m = n
    · by_cases hmn' : m' = n
      · rw [hmn, hmn']
      · subst hmn
        obtain ⟨rfl, -⟩ := isOpen_setChannel_self.mp hm
        exact absurd ((isOpen_setChannel_of_ne hmn').mp hm') (hfree m')
    · by_cases hmn' : m' = n
      · subst hmn'
        obtain ⟨rfl, -⟩ := isOpen_setChannel_self.mp hm'
        exact absurd ((isOpen_setChannel_of_ne hmn).mp hm) (hfree m)
      · exact h.exclusive key m m' ((isOpen_setChannel_of_ne hmn).mp hm)
          ((isOpen_setChannel_of_ne hmn').mp hm')

/-- The entry of a request goes when it is answered, and when it expires. -/
theorem Tidy.settled {rc' : ResponseChannel} (h : Tidy r) (hn : r.channels n = some rc)
    (hout : rc.outcome = none) (hkey : rc'.key = rc.key) (hdup : rc'.duplicate = rc.duplicate)
    (hdone : rc'.outcome = none → rc'.response ≠ none) :
    Tidy ((r.delete rc.key).setChannel n rc') := by
  have hopen : r.IsOpen rc.key n := ⟨rc, hn, rfl, hout⟩
  refine ⟨fun key m => ?_, ?_, single_setChannel h.single (hdup.trans (h.single n rc hn))⟩
  · rw [setChannel_pending, delete_pending]
    by_cases hmn : m = n
    · subst hmn
      rw [awaits_setChannel_self]
      refine iff_of_false (fun hp => ?_) fun ha => hdone ha.2.1 ha.2.2
      by_cases hk : key = rc.key
      · rw [if_pos hk] at hp
        cases hp
      · rw [if_neg hk] at hp
        obtain ⟨hkey', -⟩ := (awaits_iff_of_channel hn).mp ((h.pending_iff key m).mp hp)
        exact hk hkey'.symm
    · rw [awaits_setChannel_of_ne hmn]
      by_cases hk : key = rc.key
      · subst hk
        rw [if_pos rfl]
        exact iff_of_false nofun fun ha => hmn (h.exclusive _ m n ha.isOpen hopen)
      · rw [if_neg hk]
        exact h.pending_iff key m
  · refine exclusive_setChannel (r := r.delete rc.key) h.exclusive fun key hk _ => ?_
    obtain rfl : rc.key = key := hkey.symm.trans hk
    exact hopen

theorem Tidy.kept {rc' : ResponseChannel} (h : Tidy r) (hn : r.channels n = some rc)
    (hkey : rc'.key = rc.key) (hdup : rc'.duplicate = rc.duplicate)
    (hopen : rc'.outcome = none → rc.outcome = none)
    (hawaits : (rc'.outcome = none ∧ rc'.response = none) ↔
      (rc.outcome = none ∧ rc.response = none)) :
    Tidy (r.setChannel n rc') := by
  refine ⟨fun key m => ?_, exclusive_setChannel h.exclusive fun key hk hout => ?_,
    single_setChannel h.single (hdup.trans (h.single n rc hn))⟩
  · rw [setChannel_pending, h.pending_iff key m]
    by_cases hmn : m = n
    · subst hmn
      rw [awaits_setChannel_self, awaits_iff_of_channel hn, hkey, hawaits]
    · rw [awaits_setChannel_of_ne hmn]
  · exact ⟨rc, hn, hkey.symm.trans hk, hopen hout⟩

end Map

theorem Tidy.step {r : ServerInitiatedRegistry} {e : RegistryEvent} (h : Tidy r)
    (ho : Orderly (record step r e)) : Tidy (step r e).2 := by
  have hmoves := step_moves r e
  generalize (ServerInitiatedRegistry.step r e).1 = out at hmoves
  generalize (ServerInitiatedRegistry.step r e).2 = r' at hmoves
  cases hmoves with
  | idle => exact h
  | registered hn _ =>
    refine h.registered hn ?_
    rintro m ⟨rc, hrc, hkey, hout⟩
    exact ho m rc hrc hkey hout
  | duplicated _ hkey =>
    obtain ⟨rc, hrc, hkey, hout, -⟩ := (h.pending_iff _ _).mp hkey
    exact absurd hout (ho _ rc hrc hkey)
  | told hn hdup =>
    rw [h.single _ _ hn] at hdup
    cases hdup
  | completed hkey hn =>
    obtain ⟨hkey, hout, -⟩ := (awaits_iff_of_channel hn).mp ((h.pending_iff _ _).mp hkey)
    rw [← hkey]
    exact h.settled hn hout rfl rfl fun _ => Option.some_ne_none _
  | dropped hkey hn =>
    obtain ⟨rc, hrc, -⟩ := (h.pending_iff _ _).mp hkey
    rw [hn] at hrc
    cases hrc
  | received hn hwait hresp =>
    refine h.kept hn rfl rfl nofun (iff_of_false nofun fun hno => ?_)
    rw [hresp] at hno
    cases hno.2
  | fired hn hwait =>
    have hout := ResponseChannel.outcome_of_selecting hwait
    exact h.kept hn rfl rfl (fun _ => hout) (and_congr_left' (iff_of_true rfl hout))
  | expired hn hwait =>
    exact h.settled hn (ResponseChannel.outcome_of_expiring hwait) rfl rfl nofun

/-- The request `n` was answered with `resp`: it lies in the channel, or `Wait` has returned it. -/
def Delivered (n : ℕ) (resp : ServerInitiatedResponse) (r : ServerInitiatedRegistry) : Prop :=
  ∃ rc, r.channels n = some rc ∧
    (rc.wait = .returned resp ∨ (rc.wait = .selecting ∧ rc.response = some resp))

theorem Delivered.step {r : ServerInitiatedRegistry} {e : RegistryEvent} {n : ℕ}
    {resp : ServerInitiatedResponse} (h : Delivered n resp r) (ho : Orderly (record step r e)) :
    Delivered n resp (step r e).2 := by
  obtain ⟨rc, hrc, hdel⟩ := h
  obtain ⟨rc', hrc', hch⟩ := (step_moves r e).changes hrc
  refine ⟨rc', hrc', ?_⟩
  cases hch with
  | same => exact hdel
  | told _ hempty => exact Or.inl (by simpa [hempty] using hdel)
  | offered => simpa [ResponseChannel.offer] using hdel.imp_right fun h => ⟨h.1, by simp [h.2]⟩
  | received hwait hresp => simpa [hwait, hresp] using hdel
  | fired hwait =>
    have hempty : rc.response = none := ho rc hrc
    simp [hwait, hempty] at hdel
  | expired hwait => simp [hwait] at hdel

theorem Tidy.delivered {r : ServerInitiatedRegistry} {n : ℕ} {rc : ResponseChannel}
    {sessionID messageType : String} (h : Tidy r) (hrc : r.channels n = some rc)
    (hkey : rc.key = registryKey sessionID messageType) (hwait : rc.wait = .selecting)
    (hempty : rc.response = none) (resp : ServerInitiatedResponse) :
    Delivered n resp (r.step (.complete sessionID messageType resp)).2 := by
  have hpending : r.pending (registryKey sessionID messageType) = some n :=
    (h.pending_iff _ n).mpr ⟨rc, hrc, hkey, ResponseChannel.outcome_of_selecting hwait, hempty⟩
  refine ⟨rc.offer resp, ?_, Or.inr ⟨hwait, ?_⟩⟩
  · simp [ServerInitiatedRegistry.step, complete, hpending, hrc]
  · simp [ResponseChannel.offer, hempty]

theorem Tidy.expires_own {r : ServerInitiatedRegistry} (h : Tidy r) {n m : ℕ} {key : String}
    (hm : r.pending key = some m) (hne : m ≠ n) : (r.step (.expire n)).2.pending key = some m := by
  have hmoves := step_moves r (.expire n)
  generalize (ServerInitiatedRegistry.step r (.expire n)).1 = out at hmoves
  generalize (ServerInitiatedRegistry.step r (.expire n)).2 = r' at hmoves
  cases hmoves with
  | idle => exact hm
  | @expired _ rc hn hwait =>
    rw [setChannel_pending, delete_pending, if_neg]
    · exact hm
    · rintro rfl
      have hopen : r.IsOpen rc.key n := ⟨rc, hn, rfl, ResponseChannel.outcome_of_expiring hwait⟩
      exact hne (h.exclusive _ m n ((h.pending_iff _ m).mp hm).isOpen hopen)

end ServerInitiatedRegistry

open ServerInitiatedRegistry

/-- The steps of a run, and the registry at its end. -/
abbrev registryTrace (es : List RegistryEvent) : List RegistryStep :=
  trace step newServerInitiatedRegistry es

abbrev registryAfter (es : List RegistryEvent) : ServerInitiatedRegistry :=
  final step newServerInitiatedRegistry es

/-- A request has at most one outcome, and has one when it has taken its timer and expired; a
request that expires removes no entry but its own; and a response for the key of a request that is
not a duplicate, not expired and not answered is its answer. -/
structure Delivers (es : List RegistryEvent) : Prop where
  outcome_le_one : ∀ n, (outcomes n (registryTrace es)).length ≤ 1
  outcome_eq_one : ∀ n es₁ es₂ es₃, es = es₁ ++ .timer n :: (es₂ ++ .expire n :: es₃) →
    (registryAfter es₁).channels n ≠ none → (outcomes n (registryTrace es)).length = 1
  expires_own : ∀ st ∈ registryTrace es, ∀ n, st.input = .expire n → ∀ key m,
    st.pre.pending key = some m → m ≠ n → st.post.pending key = some m
  delivered : ∀ es₁ es₂ sessionID messageType resp,
    es = es₁ ++ .complete sessionID messageType resp :: es₂ → ∀ n rc,
      (registryAfter es₁).channels n = some rc → rc.key = registryKey sessionID messageType →
      rc.duplicate = false → rc.wait = .selecting → rc.response = none →
      Delivered n resp (registryAfter es)

theorem one_outcome {n : ℕ} {es₁ es₂ es₃ : List RegistryEvent}
    (hn : (registryAfter es₁).channels n ≠ none) :
    (outcomes n (registryTrace (es₁ ++ .timer n :: (es₂ ++ .expire n :: es₃)))).length = 1 := by
  obtain ⟨rc, hrc⟩ := Option.ne_none_iff_exists'.mp hn
  have hfired := passed_timer ⟨rc, hrc, Nat.zero_le _⟩
  have hexpired := (passed_expire (hfired.final es₂)).final es₃
  obtain ⟨resp, hresp⟩ := exists_outcome_of_passed hexpired
  rw [outcomes_eq, final_append, final_cons, final_append, final_cons, hresp]
  rfl

/-- **The registry delivers.** In every run in which no request is registered while one with the
same key waits, and no timer is taken when there is a response, the registry keeps its promises. -/
theorem registry_delivers (es : List RegistryEvent) (h : ∀ st ∈ registryTrace es, Orderly st) :
    Delivers es := by
  constructor
  · intro n
    rw [outcomes_eq]
    exact Option.length_toList_le
  · rintro n es₁ es₂ es₃ rfl hn
    exact one_outcome hn
  · intro st hst n hinput key m hm hne
    have htidy := inv_of_mem_trace (I := Tidy) (fun _ _ ht ho => ht.step ho) tidy_new h hst
    rw [eq_record_of_mem_trace hst, hinput]
    exact htidy.expires_own hm hne
  · rintro es₁ es₂ sessionID messageType resp rfl n rc hrc hkey - hwait hempty
    rw [registryTrace, trace_append, trace_cons] at h
    have htidy : Tidy (registryAfter es₁) :=
      inv_final (fun _ _ ht ho => ht.step ho) tidy_new fun st hst =>
        h st (List.mem_append_left _ hst)
    have hdel := htidy.delivered hrc hkey hwait hempty resp
    rw [registryAfter, final_append, final_cons]
    exact inv_final (fun _ _ hd ho => hd.step ho) hdel fun st hst =>
      h st (List.mem_append_right _ (List.mem_cons_of_mem _ hst))

namespace Sample

def success : ServerInitiatedResponse := ⟨"ctx", resultCodeSuccess, none, ""⟩

/-- A request that is answered, and after it one that is not. -/
def orderlyRun : List RegistryEvent :=
  [.register 0 "s" "ASR", .complete "s" "ASR" success, .receive 0, .register 1 "s" "ASR",
    .timer 1, .expire 1]

/-- A request, and the same request again. -/
def repeated : List RegistryEvent := [.register 0 "s" "ASR", .register 1 "s" "ASR"]

end Sample

/-- A run in which requests of one key follow each other. -/
theorem orderly_run_delivers : Delivers Sample.orderlyRun := by
  apply registry_delivers
  intro st hst
  simp only [Sample.orderlyRun, registryTrace, trace_cons, trace_nil, List.mem_cons,
    List.not_mem_nil, or_false] at hst
  rcases hst with rfl | rfl | rfl | rfl | rfl | rfl
  · exact fun m rc hm => nomatch hm
  · trivial
  · trivial
  · intro m rc hm _
    by_cases hzero : m = 0 <;> simp [step, withChannel, receive, complete, register,
      newServerInitiatedRegistry, ResponseChannel.offer, hzero] at hm
    rw [← hm]
    exact Option.some_ne_none Sample.success
  · intro rc hrc
    simp [step, withChannel, receive, complete, register, newServerInitiatedRegistry,
      ResponseChannel.offer] at hrc
    rw [← hrc]
  · trivial

open Sample in
/-- A request that comes twice loses its answer: the second one removes the entry of the first,
which is still waiting when the response is delivered, and returns the timeout. When a third one is
registered, the first one expires its entry. -/
theorem repeated_request_loses_answer :
    (registryAfter repeated).channels 0 =
        some ⟨"s", "ASR", none, false, false, .selecting⟩ ∧
      (registryAfter (repeated ++
        [.complete "s" "ASR" success, .timer 0, .expire 0])).outcomeOf 0 =
          some timeoutResponse ∧
      (registryAfter (repeated ++ [.register 2 "s" "ASR", .timer 0])).pending "s:ASR" =
        some 2 ∧
      (registryAfter (repeated ++
        [.register 2 "s" "ASR", .timer 0, .expire 0])).pending "s:ASR" = none := by
  decide +kernel

end NssAAF.Aaa
