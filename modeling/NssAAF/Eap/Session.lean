import NssAAF.Eap.Codec
import NssAAF.Lib.Lease
import Mathlib.Logic.Function.Basic
import Mathlib.Data.Int.Basic

/-!
# EAP sessions and the session stores

The session record of `internal/eap/session.go`, the in-memory manager of
`internal/eap/engine_client.go` and the Redis manager of `internal/eap/session_redis.go`. Times and
durations are integers (nanoseconds); every operation that reads the clock takes its reading as an
argument.

A store answers `get` from what `put` left behind: an accepted `put` leaves the session as the store
reloads it (`reload`), which for Redis loses an empty cached response.
-/

namespace NssAAF.Eap

/-- A clock reading or a duration, in nanoseconds. -/
abbrev Time : Type := ℤ

def second : Time := 1000000000

inductive SessionState
  | idle
  | init
  | eapExchange
  | completing
  | done
  | failed
  | timeout
  deriving DecidableEq

def SessionState.string : SessionState → String
  | .idle => "IDLE"
  | .init => "INIT"
  | .eapExchange => "EAP_EXCHANGE"
  | .completing => "COMPLETING"
  | .done => "DONE"
  | .failed => "FAILED"
  | .timeout => "TIMEOUT"

def SessionState.IsTerminal (s : SessionState) : Prop := s = .done ∨ s = .failed ∨ s = .timeout

instance : DecidablePred SessionState.IsTerminal := fun s =>
  inferInstanceAs (Decidable (s = .done ∨ s = .failed ∨ s = .timeout))

def defaultMaxRounds : ℤ := 20
def defaultRoundTimeout : Time := 30 * second
def defaultSessionTTL : Time := 10 * 60 * second

/-- A session. A nil `lastNonce` is the empty string, which no hash equals. -/
structure Session where
  authCtxID : String
  gpsi : String
  supi : String
  snssaiKey : String
  state : SessionState
  method : Method
  rounds : ℤ
  maxRounds : ℤ
  expectedID : UInt8
  lastNonce : Bytes
  cachedResponse : Option Bytes
  createdAt : Time
  lastActivity : Time
  timeout : Time
  deriving DecidableEq

def newSession (now : Time) (authCtxID gpsi : String) : Session where
  authCtxID := authCtxID
  gpsi := gpsi
  supi := ""
  snssaiKey := ""
  state := .init
  method := 0
  rounds := 0
  maxRounds := defaultMaxRounds
  expectedID := 0
  lastNonce := []
  cachedResponse := none
  createdAt := now
  lastActivity := now
  timeout := defaultRoundTimeout

namespace Session

variable (s : Session) (now : Time)

def withSnssai (snssaiKey : String) : Session := { s with snssaiKey }
def cacheResponse (response : Bytes) : Session := { s with cachedResponse := some response }
def markDone : Session := { s with state := .done, lastActivity := now }
def markFailed : Session := { s with state := .failed, lastActivity := now }
def markTimeout : Session := { s with state := .timeout, lastActivity := now }

def IsExpired (ttl : Time) : Prop := now - s.createdAt > ttl

/-- Nothing happened within the round timeout. -/
def IsTimedOut : Prop := now - s.lastActivity > s.timeout

instance (ttl : Time) : Decidable (s.IsExpired now ttl) :=
  inferInstanceAs (Decidable (now - s.createdAt > ttl))

instance : Decidable (s.IsTimedOut now) :=
  inferInstanceAs (Decidable (now - s.lastActivity > s.timeout))

@[simp] theorem markTimeout_authCtxID : (s.markTimeout now).authCtxID = s.authCtxID := rfl

end Session

/-! ## Stores -/

/-- Why a store has no session to give, or did not take one. -/
inductive StoreError
  | sessionNotFound
  | redisGet (msg : String)
  | redisSet (msg : String)
  | redisDel (msg : String)
  deriving DecidableEq

def StoreError.text : StoreError → String
  | .sessionNotFound => "eap: session not found"
  | .redisGet msg => "redis get: " ++ msg
  | .redisSet msg => "redis set: " ++ msg
  | .redisDel msg => msg

/-- The in-memory manager. Every session is filed under its own identifier. -/
structure SessionManager where
  ttl : Time
  sessions : String → Option Session
  keyed : ∀ id s, sessions id = some s → s.authCtxID = id

namespace SessionManager

def empty (ttl : Time) : SessionManager := ⟨ttl, fun _ => none, fun _ _ h => nomatch h⟩

def get (m : SessionManager) (now : Time) (authCtxID : String) : Except StoreError Session :=
  match m.sessions authCtxID with
  | none => .error .sessionNotFound
  | some session => if session.IsExpired now m.ttl then .error .sessionNotFound else .ok session

def put (m : SessionManager) (session : Session) : SessionManager where
  ttl := m.ttl
  sessions := Function.update m.sessions session.authCtxID (some session)
  keyed := by
    intro id s h
    by_cases hid : id = session.authCtxID
    · subst hid
      rw [Function.update_self] at h
      cases h
      rfl
    · rw [Function.update_of_ne hid] at h
      exact m.keyed id s h

def delete (m : SessionManager) (authCtxID : String) : SessionManager where
  ttl := m.ttl
  sessions := Function.update m.sessions authCtxID none
  keyed := by
    intro id s h
    by_cases hid : id = authCtxID
    · subst hid
      rw [Function.update_self] at h
      cases h
    · rw [Function.update_of_ne hid] at h
      exact m.keyed id s h

end SessionManager

/-- A value in Redis, with the millisecond after which Redis drops it. -/
structure RedisEntry where
  session : Session
  expiresAt : Option ℤ

def RedisEntry.IsLive (e : RedisEntry) (now : Time) : Prop :=
  ∀ t ∈ e.expiresAt, Lease.millis now ≤ t

instance (e : RedisEntry) (now : Time) : Decidable (e.IsLive now) :=
  match h : e.expiresAt with
  | none => isTrue (by intro t ht; rw [h] at ht; cases ht)
  | some t =>
    if ht : Lease.millis now ≤ t then isTrue (by intro u hu; rw [h] at hu; cases hu; exact ht)
    else isFalse (fun hl => ht (hl t h))

def sessionKeyPrefix : String := "nssaa:eap:session:"

def sessionKey (authCtxID : String) : String := sessionKeyPrefix ++ authCtxID

theorem sessionKey_inj {id id' : String} : sessionKey id = sessionKey id' ↔ id = id' :=
  String.append_right_inj sessionKeyPrefix

/-- The JSON tag `omitempty` drops an empty slice, and a missing field decodes as nil. -/
def omitEmpty : Option Bytes → Option Bytes
  | some [] => none
  | b => b

/-- The session that `toSession` gives after `fromSession`, JSON encoding and JSON decoding. -/
def Session.throughJSON (s : Session) : Session :=
  { s with cachedResponse := omitEmpty s.cachedResponse }

/-- The Redis manager. Every session is filed under the key of its own identifier. -/
structure RedisSessionManager where
  ttl : Time
  entries : String → Option RedisEntry
  keyed : ∀ k e, entries k = some e → k = sessionKey e.session.authCtxID

namespace RedisSessionManager

def empty (ttl : Time) : RedisSessionManager := ⟨ttl, fun _ => none, fun _ _ h => nomatch h⟩

/-- `fault` is the error of the Redis client, if the command fails. -/
def get (m : RedisSessionManager) (now : Time) (fault : Option String) (authCtxID : String) :
    Except StoreError Session :=
  match fault with
  | some msg => .error (.redisGet msg)
  | none =>
    match m.entries (sessionKey authCtxID) with
    | none => .error .sessionNotFound
    | some entry => if entry.IsLive now then .ok entry.session else .error .sessionNotFound

def set (m : RedisSessionManager) (now : Time) (session : Session) : RedisSessionManager where
  ttl := m.ttl
  entries := Function.update m.entries (sessionKey session.authCtxID)
    (some ⟨session.throughJSON, if 0 < m.ttl then some (Lease.lastMillis now m.ttl) else none⟩)
  keyed := by
    intro k e h
    by_cases hk : k = sessionKey session.authCtxID
    · subst hk
      rw [Function.update_self] at h
      cases h
      rfl
    · rw [Function.update_of_ne hk] at h
      exact m.keyed k e h

def put (m : RedisSessionManager) (now : Time) (fault : Option String) (session : Session) :
    Option StoreError × RedisSessionManager :=
  match fault with
  | some msg => (some (.redisSet msg), m)
  | none => (none, m.set now session)

def delete (m : RedisSessionManager) (fault : Option String) (authCtxID : String) :
    Option StoreError × RedisSessionManager :=
  match fault with
  | some msg => (some (.redisDel msg), m)
  | none =>
    (none,
      { m with
        entries := Function.update m.entries (sessionKey authCtxID) none
        keyed := by
          intro k e h
          by_cases hk : k = sessionKey authCtxID
          · subst hk
            rw [Function.update_self] at h
            cases h
          · rw [Function.update_of_ne hk] at h
            exact m.keyed k e h })

end RedisSessionManager

/-- The store an engine was built with. -/
inductive SessionStore
  | memory (m : SessionManager)
  | redis (m : RedisSessionManager)

namespace SessionStore

/-- `fault` is the failure of the store's client, if there is one. The in-memory manager has no
client. -/
def get (st : SessionStore) (now : Time) (fault : Option String) (authCtxID : String) :
    Except StoreError Session :=
  match st with
  | .memory m => m.get now authCtxID
  | .redis m => m.get now fault authCtxID

@[inherit_doc get]
def put (st : SessionStore) (now : Time) (fault : Option String) (session : Session) :
    Option StoreError × SessionStore :=
  match st with
  | .memory m => (none, .memory (m.put session))
  | .redis m => ((m.put now fault session).1, .redis (m.put now fault session).2)

@[inherit_doc get]
def delete (st : SessionStore) (fault : Option String) (authCtxID : String) :
    Option StoreError × SessionStore :=
  match st with
  | .memory m => (none, .memory (m.delete authCtxID))
  | .redis m => ((m.delete fault authCtxID).1, .redis (m.delete fault authCtxID).2)

/-- The session on file, whether or not it is still given out. -/
def peek : SessionStore → String → Option Session
  | .memory m, id => m.sessions id
  | .redis m, id => (m.entries (sessionKey id)).map RedisEntry.session

/-- The session that is on file after `s` was put. -/
def reload : SessionStore → Session → Session
  | .memory _, s => s
  | .redis _, s => s.throughJSON

/-- A write with this client failure is taken. -/
def Accepts : SessionStore → Option String → Prop
  | .memory _, _ => True
  | .redis _, fault => fault = none

instance (st : SessionStore) (fault : Option String) : Decidable (st.Accepts fault) :=
  match st with
  | .memory _ => isTrue trivial
  | .redis _ => inferInstanceAs (Decidable (fault = none))

/-! ### What a store gives back -/

variable {st : SessionStore} {now : Time} {fault : Option String} {id : String} {s : Session}

theorem peek_of_get (h : st.get now fault id = .ok s) : st.peek id = some s := by
  cases st with
  | memory m =>
    simp only [get, SessionManager.get] at h
    split at h
    · cases h
    · rename_i session hs
      split_ifs at h
      cases h
      exact hs
  | redis m =>
    simp only [get, RedisSessionManager.get] at h
    split at h
    · cases h
    · split at h
      · cases h
      · rename_i entry he
        split_ifs at h
        cases h
        simp only [peek, he, Option.map_some]

theorem authCtxID_of_peek (h : st.peek id = some s) : s.authCtxID = id := by
  cases st with
  | memory m => exact m.keyed id s h
  | redis m =>
    obtain ⟨e, he, rfl⟩ := Option.map_eq_some_iff.mp h
    exact (sessionKey_inj.mp (m.keyed _ e he)).symm

theorem put_eq_none_iff : (st.put now fault s).1 = none ↔ st.Accepts fault := by
  cases st with
  | memory m => exact iff_of_true rfl trivial
  | redis m =>
    cases fault with
    | none => exact iff_of_true rfl rfl
    | some msg => exact iff_of_false (fun h => nomatch h) (fun h => nomatch h)

theorem peek_put (h : st.Accepts fault) :
    (st.put now fault s).2.peek s.authCtxID = some (st.reload s) := by
  cases st with
  | memory m => exact Function.update_self ..
  | redis m =>
    cases h
    simp only [put, RedisSessionManager.put, RedisSessionManager.set, peek, Function.update_self,
      Option.map_some, reload]

theorem put_refused (h : ¬ st.Accepts fault) : (st.put now fault s).2 = st := by
  cases st with
  | memory m => exact absurd trivial h
  | redis m =>
    cases fault with
    | none => exact absurd rfl h
    | some msg => rfl

theorem peek_put_of_ne (h : id ≠ s.authCtxID) : (st.put now fault s).2.peek id = st.peek id := by
  cases st with
  | memory m => exact Function.update_of_ne h ..
  | redis m =>
    cases fault with
    | some msg => rfl
    | none =>
      have hk : sessionKey id ≠ sessionKey s.authCtxID := fun hk => h (sessionKey_inj.mp hk)
      simp only [put, RedisSessionManager.put, RedisSessionManager.set, peek,
        Function.update_of_ne hk]

theorem peek_delete_of_ne {id' : String} (h : id ≠ id') :
    (st.delete fault id').2.peek id = st.peek id := by
  cases st with
  | memory m => exact Function.update_of_ne h ..
  | redis m =>
    cases fault with
    | some msg => rfl
    | none =>
      have hk : sessionKey id ≠ sessionKey id' := fun hk => h (sessionKey_inj.mp hk)
      simp only [delete, RedisSessionManager.delete, peek, Function.update_of_ne hk]

section Reload

variable (st : SessionStore) (s : Session)

@[simp] theorem reload_state : (st.reload s).state = s.state := by cases st <;> rfl
@[simp] theorem reload_rounds : (st.reload s).rounds = s.rounds := by cases st <;> rfl
@[simp] theorem reload_maxRounds : (st.reload s).maxRounds = s.maxRounds := by cases st <;> rfl
@[simp] theorem reload_expectedID : (st.reload s).expectedID = s.expectedID := by cases st <;> rfl
@[simp] theorem reload_lastNonce : (st.reload s).lastNonce = s.lastNonce := by cases st <;> rfl

theorem reload_cachedResponse_some {r : Bytes} (h : (st.reload s).cachedResponse = some r) :
    s.cachedResponse = some r := by
  cases st with
  | memory m => exact h
  | redis m =>
    change omitEmpty s.cachedResponse = some r at h
    unfold omitEmpty at h
    split at h
    · cases h
    · exact h

/-- Only Redis drops a cached response, and only an empty one. -/
theorem reload_cachedResponse_iff {β : Type*} (f : Bytes → β) {r : Bytes}
    (h : s.cachedResponse = some r) :
    (st.reload s).cachedResponse.map f = some (f r) ↔ (∃ m, st = .memory m) ∨ r ≠ [] := by
  cases st with
  | memory m =>
    show s.cachedResponse.map f = some (f r) ↔ _
    rw [h]
    exact iff_of_true rfl (Or.inl ⟨m, rfl⟩)
  | redis m =>
    show (omitEmpty s.cachedResponse).map f = some (f r) ↔ _
    rw [h]
    cases r with
    | nil =>
      refine iff_of_false nofun ?_
      rintro (⟨m', hm⟩ | hr)
      · cases hm
      · exact hr rfl
    | cons b bs => exact iff_of_true rfl (Or.inr (List.cons_ne_nil b bs))

end Reload

end SessionStore

end NssAAF.Eap
