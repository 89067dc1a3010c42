import NssAAF.Eap.Transitions

/-!
# Runs of the engine

The engine as a machine whose inputs are the calls. A run is looked at through one authentication
context `id`: the session on file for it, the calls of `Process` on it, and the payloads these
hand to the AAA router.

`step_view` says what one call does to that view: a call of `Process` on `id` does what
`Processed` allows, and any other call that neither starts nor deletes the session leaves it alone.
-/

namespace NssAAF.Eap

open Transducer

/-- A call, with the engine before and after it. -/
abbrev Step : Type := Record Engine Input Output

/-- The calls that put another session, or none, in the place of the session of `id`. -/
def Call.Replaces (id : String) : Call → Prop
  | .startSession id' _ => id' = id
  | .deleteSession id' => id' = id
  | .getSession _ => False
  | .process _ _ => False

instance (id : String) : DecidablePred (Call.Replaces id)
  | .startSession id' _ => inferInstanceAs (Decidable (id' = id))
  | .deleteSession id' => inferInstanceAs (Decidable (id' = id))
  | .getSession _ => inferInstanceAs (Decidable False)
  | .process _ _ => inferInstanceAs (Decidable False)

/-- What the call tells its caller, if it is a call of `Process` on `id`. -/
def Step.outcome (id : String) (r : Step) : Option Outcome :=
  match r.input.call, r.output with
  | .process id' _, .processed o => if id' = id then some o else none
  | _, _ => none

def Step.sent (id : String) (r : Step) : Option Bytes := (r.outcome id).bind Outcome.sent

def Step.result (id : String) (r : Step) : Option AuthResult := (r.outcome id).map Outcome.result

namespace Engine

def session (e : Engine) (id : String) : Option Session := e.sessions.peek id

def stateOf (e : Engine) (id : String) : Option SessionState := (e.session id).map Session.state

def Accepts (e : Engine) (env : Env) : Prop := e.sessions.Accepts env.putFault

instance (e : Engine) (env : Env) : Decidable (e.Accepts env) :=
  inferInstanceAs (Decidable (e.sessions.Accepts env.putFault))

variable {e : Engine} {env : Env} {id : String} {s : Session}

theorem session_of_get (h : e.sessions.get env.start env.getFault id = .ok s) :
    e.session id = some s :=
  SessionStore.peek_of_get h

theorem authCtxID_of_session (h : e.session id = some s) : s.authCtxID = id :=
  SessionStore.authCtxID_of_peek h

theorem session_unique {s' : Session} (hs : e.session id = some s)
    (hget : e.sessions.get env.start env.getFault id = .ok s') : s = s' := by
  rw [session_of_get hget, Option.some.injEq] at hs
  exact hs.symm

theorem stateOf_eq (h : e.session id = some s) : e.stateOf id = some s.state := by
  unfold stateOf
  rw [h, Option.map_some]

theorem state_unique {a : SessionState} (ha : e.stateOf id = some a)
    (hget : e.sessions.get env.start env.getFault id = .ok s) : a = s.state := by
  rw [stateOf_eq (session_of_get hget), Option.some.injEq] at ha
  exact ha.symm

theorem session_putSession (hid : s.authCtxID = id) (h : e.Accepts env) :
    (e.putSession env s).session id = some (e.sessions.reload s) := by
  subst hid
  exact SessionStore.peek_put h

theorem putSession_refused (h : ¬ e.Accepts env) : e.putSession env s = e := by
  unfold putSession
  rw [SessionStore.put_refused h]

theorem session_put_of_get {s' : Session} (hid : s'.authCtxID = s.authCtxID)
    (h : e.sessions.get env.start env.getFault id = .ok s) :
    (e.putSession env s').session id =
      if e.Accepts env then some (e.sessions.reload s') else some s := by
  have hs := session_of_get h
  split_ifs with ha
  · exact session_putSession (hid.trans (authCtxID_of_session hs)) ha
  · rw [putSession_refused ha, hs]

theorem session_putSession_of_ne (h : id ≠ s.authCtxID) :
    (e.putSession env s).session id = e.session id :=
  SessionStore.peek_put_of_ne h

end Engine

/-! ## What the state machine keeps -/

section Kept

variable {e : Engine} {env : Env} {s s' : Session} {p : Packet} {raw : Bytes} {o : Outcome}

theorem Session.refuse_eq (s : Session) (p : Packet) :
    s.refuse p = { s with state := (s.refuse p).state } := by
  unfold Session.refuse
  split_ifs <;> rfl

theorem Session.conclude_eq (s : Session) (v : AuthResult) :
    s.conclude v = { s with state := (s.conclude v).state } := by
  cases v <;> rfl

theorem Advances.kept (h : Advances e env s p raw s' o) :
    s'.authCtxID = s.authCtxID ∧ s'.maxRounds = s.maxRounds ∧ s'.lastNonce = sha256Hash raw := by
  cases h with
  | refused => rw [Session.refuse_eq]; exact ⟨rfl, rfl, rfl⟩
  | unanswered => exact ⟨rfl, rfl, rfl⟩
  | answered => rw [Session.conclude_eq]; exact ⟨rfl, rfl, rfl⟩

end Kept

/-! ## One call -/

theorem Processed.engine {e e' : Engine} {env : Env} {id : String} {raw : Bytes} {o : Outcome}
    (h : Processed e env id raw o e') :
    e' = e ∨ ∃ s', s'.authCtxID = id ∧ e' = e.putSession env s' := by
  cases h with
  | notFound | unparsable | retried => exact Or.inl rfl
  | timedOut s hget ht =>
    have hid := Engine.authCtxID_of_session (Engine.session_of_get hget)
    exact Or.inr ⟨s.markTimeout env.finish, hid, rfl⟩
  | advanced s s' p o hf hn ha =>
    have hid := Engine.authCtxID_of_session (Engine.session_of_get hf.get)
    exact Or.inr ⟨s', ha.kept.1.trans hid, rfl⟩

namespace Engine

variable {e : Engine} {env : Env} {i : Input} {id gpsi : String} {raw : Bytes}

def freshSession (e : Engine) (env : Env) (id gpsi : String) : Session :=
  { newSession env.start id gpsi with maxRounds := e.cfg.maxRounds, timeout := e.cfg.roundTimeout }

theorem startSession_engine (e : Engine) (env : Env) (id gpsi : String) :
    (e.startSession env id gpsi).2 = e ∨
      (e.startSession env id gpsi).2 = e.putSession env (e.freshSession env id gpsi) := by
  unfold startSession
  split_ifs
  · exact Or.inl rfl
  · dsimp only
    split <;> exact Or.inr rfl

theorem session_startSession {s : Session} (h : (e.startSession env id gpsi).1 = .ok s) :
    s = e.freshSession env id gpsi ∧ (e.startSession env id gpsi).2.session id = some s := by
  unfold startSession at h ⊢
  split_ifs at h ⊢
  dsimp only at h ⊢
  split at h
  · cases h
  · rename_i herr
    cases h
    refine ⟨rfl, ?_⟩
    have hacc : e.Accepts env := SessionStore.put_eq_none_iff.mp herr
    have hput : (e.putSession env (e.freshSession env id gpsi)).session id =
        some (e.sessions.reload (e.freshSession env id gpsi)) := session_putSession rfl hacc
    refine hput.trans (congrArg some ?_)
    -- a session without a cached response survives the way through Redis
    cases hs : e.sessions <;> rfl

theorem step_process (h : i.call = .process id raw) :
    e.step i = (.processed (e.process i.env id raw).1, (e.process i.env id raw).2) := by
  unfold step
  rw [h]

theorem outcome_process (h : i.call = .process id raw) :
    Step.outcome id (record step e i) = some (e.process i.env id raw).1 := by
  unfold Step.outcome
  rw [record_input, record_output, step_process h, h]
  exact if_pos rfl

theorem step_engine (e : Engine) (i : Input) :
    (e.step i).2 = e ∨
      (∃ s', s'.authCtxID = i.call.authCtxID ∧ (e.step i).2 = e.putSession i.env s') ∨
      (e.step i).2 = (e.deleteSession i.env i.call.authCtxID).2 := by
  unfold step
  split
  · rename_i id gpsi hc
    rw [hc]
    rcases startSession_engine e i.env id gpsi with h | h
    · exact Or.inl h
    · exact Or.inr (Or.inl ⟨_, rfl, h⟩)
  · exact Or.inl rfl
  · rename_i id raw hc
    rw [hc]
    rcases (e.process_processed i.env id raw).engine with h | ⟨s', hs', h⟩
    · exact Or.inl h
    · exact Or.inr (Or.inl ⟨s', hs', h⟩)
  · rename_i id hc
    rw [hc]
    exact Or.inr (Or.inr rfl)

theorem step_aaaConfigured : (e.step i).2.aaaConfigured = e.aaaConfigured := by
  rcases step_engine e i with h | ⟨s', -, h⟩ | h
  · rw [h]
  · rw [h]; rfl
  · rw [h]; rfl

theorem session_step_of_ne (hid : i.call.authCtxID ≠ id) :
    (e.step i).2.session id = e.session id := by
  rcases step_engine e i with h | ⟨s', hs', h⟩ | h
  · rw [h]
  · rw [h]
    exact session_putSession_of_ne (by rw [hs']; exact hid.symm)
  · rw [h]
    exact SessionStore.peek_delete_of_ne hid.symm

theorem step_view (hk : ¬ i.call.Replaces id) :
    (∃ raw o, i.call = .process id raw ∧ Step.outcome id (record step e i) = some o ∧
        Processed e i.env id raw o (e.step i).2) ∨
      ((e.step i).2.session id = e.session id ∧ Step.outcome id (record step e i) = none) := by
  by_cases hid : i.call.authCtxID = id
  · cases hc : i.call with
    | startSession id' gpsi => rw [hc] at hid hk; exact absurd hid hk
    | deleteSession id' => rw [hc] at hid hk; exact absurd hid hk
    | getSession id' =>
      refine Or.inr ⟨?_, ?_⟩
      · unfold step
        rw [hc]
      · unfold Step.outcome
        rw [record_input, hc]
    | process id' raw =>
      rw [hc] at hid
      obtain rfl : id' = id := hid
      refine Or.inl ⟨raw, _, rfl, outcome_process hc, ?_⟩
      rw [step_process hc]
      exact e.process_processed i.env id' raw
  · refine Or.inr ⟨session_step_of_ne hid, ?_⟩
    unfold Step.outcome
    rw [record_input]
    split
    · rename_i id' raw o hc ho
      rw [hc] at hid
      exact if_neg hid
    · rfl

end Engine

/-! ## A sample exchange

The inputs of the runs that are replayed below: an identity, a Request of the router, and the
Response to it. Zero limits stand for the defaults. -/

namespace Sample

def engine : Engine := newEngine ⟨0, 0, 0⟩ true

def redisEngine : Engine := newEngineWithRedis ⟨0, 0, 0⟩ true

def env (now : Time) (answer : Except String (Option Bytes)) : Env := ⟨now, now, none, none, answer⟩

def identity : Bytes := [2, 1, 0, 6, 1, 97]
def request : Bytes := [1, 2, 0, 6, 13, 32]
def response : Bytes := [2, 2, 0, 6, 13, 0]
def success : Bytes := [3, 2, 0, 4]
def failure : Bytes := [4, 2, 0, 4]

def start : Input := ⟨.startSession "ctx" "msisdn-1", env 0 (.ok none)⟩

def started : Engine := (engine.startSession start.env "ctx" "msisdn-1").2

/-- The payload `raw` arrives at `now` and is answered with `r` if it is forwarded. -/
def send (now : Time) (raw r : Bytes) : Input := ⟨.process "ctx" raw, env now (.ok (some r))⟩

/-- The exchange up to the verdict. -/
def opening : List Input := [start, send 1 identity request]

def opened : Engine := final Engine.step engine opening

def openedRedis : Engine := final Engine.step redisEngine opening

end Sample

end NssAAF.Eap
