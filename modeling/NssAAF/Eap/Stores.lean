import NssAAF.Eap.Relay
import NssAAF.Lib.Lockstep

/-!
# The two session stores

The same calls on an engine with the in-memory manager and on one with the Redis manager. The
in-memory manager counts the time to live of a session from its creation, Redis from the last time
the session was written, and `Process` writes it.

`Twin` relates the engines while they have the same sessions on file. `stores_interchangeable_iff`
says for which runs the callers see no difference.
-/

namespace NssAAF.Eap

open Transducer Lockstep

/-! ## What a caller sees -/

inductive Returned
  | started (r : Except EngineError Session)
  | got (r : Except StoreError Session)
  | processed (message : Option EapMessage) (result : AuthResult) (err : Option EngineError)
  | deleted (err : Option StoreError)
  deriving DecidableEq

def Output.returned : Output → Returned
  | .started r => .started r
  | .got r => .got r
  | .processed o => .processed o.message o.result o.err
  | .deleted err => .deleted err

def Returned.err? : Returned → Option EngineError
  | .processed _ _ err => err
  | _ => none

def results (e : Engine) (is : List Input) : List Returned :=
  observations Engine.step Output.returned e is

/-! ## `Process` on a session -/

namespace Engine

variable {e e' : Engine} {env : Env} {id : String} {raw : Bytes} {s : Session} {p : Packet}

/-- What `Process` does with the session that it found: what it returns, and the session that it
writes back, if it does. -/
def turn (e : Engine) (env : Env) (raw : Bytes) (s : Session) : Outcome × Option Session :=
  if s.IsTimedOut env.start then
    (⟨none, .failure, some .sessionTimeout, none, false, some (s.markTimeout env.finish)⟩,
      some (s.markTimeout env.finish))
  else
    match parse raw with
    | .error err => (⟨none, .failure, some (.parse err), none, false, some s⟩, none)
    | .ok p =>
      if bytesEqual s.lastNonce (sha256Hash raw) && s.cachedResponse.isSome then
        (⟨s.cachedResponse.map newEapMessage, .pending, none, none, true, some s⟩, none)
      else
        let a := e.advanceState env s p raw
        let s' := a.finished (sha256Hash raw) env.finish
        (a.outcome s', some s')

def putBack (e : Engine) (env : Env) : Option Session → Engine
  | none => e
  | some s => e.putSession env s

theorem process_of_get_error {err : StoreError}
    (h : e.sessions.get env.start env.getFault id = .error err) :
    e.process env id raw =
      (⟨none, .failure, some (.noSession id err), none, false, none⟩, e) := by
  unfold process
  rw [h]

theorem process_of_get_ok (h : e.sessions.get env.start env.getFault id = .ok s) :
    e.process env id raw = ((e.turn env raw s).1, e.putBack env (e.turn env raw s).2) := by
  unfold process turn
  rw [h]
  dsimp only
  by_cases ht : s.IsTimedOut env.start
  · rw [if_pos ht, if_pos ht]
    rfl
  · rw [if_neg ht, if_neg ht]
    cases parse raw with
    | error err => rfl
    | ok p =>
      dsimp only
      split
      · rfl
      · rfl

/-- The store does not matter to the state machine. -/
theorem advanceState_congr (h : e.aaaConfigured = e'.aaaConfigured) :
    e.advanceState env s p raw = e'.advanceState env s p raw := by
  have hforward : ∀ payload, e.forwardToAAA env payload = e'.forwardToAAA env payload := by
    intro payload
    unfold forwardToAAA
    rw [h]
  unfold advanceState handleInit handleExchange handleCompleting
  simp only [hforward]

theorem turn_congr (h : e.aaaConfigured = e'.aaaConfigured) :
    e.turn env raw s = e'.turn env raw s := by
  unfold turn
  simp only [advanceState_congr h]

theorem forwardToAAA_err_ne (id : String) (err : StoreError) :
    (e.forwardToAAA env raw).err ≠ some (.noSession id err) := by
  unfold forwardToAAA
  split
  · split <;> simp
  · simp

theorem handleInit_err_ne (id : String) (err : StoreError) :
    (e.handleInit env s p raw).err ≠ some (.noSession id err) := by
  unfold handleInit
  split
  · simp
  · dsimp only
    split
    · simp
    · exact forwardToAAA_err_ne id err

theorem handleCompleting_err_ne (id : String) (err : StoreError) :
    (e.handleCompleting env s p raw).err ≠ some (.noSession id err) := by
  unfold handleCompleting
  dsimp only
  split
  · simp
  · exact forwardToAAA_err_ne id err

theorem handleExchange_err_ne (id : String) (err : StoreError) :
    (e.handleExchange env s p raw).err ≠ some (.noSession id err) := by
  unfold handleExchange
  split_ifs
  · simp
  · simp
  · dsimp only
    split
    · rename_i err' herr
      rw [← herr]
      exact forwardToAAA_err_ne id err
    · split
      · simp
      · split
        · simp
        · split_ifs <;> simp

theorem advanceState_err_ne (id : String) (err : StoreError) :
    (e.advanceState env s p raw).err ≠ some (.noSession id err) := by
  unfold advanceState
  cases s.state with
  | init => exact handleInit_err_ne id err
  | eapExchange => exact handleExchange_err_ne id err
  | completing => exact handleCompleting_err_ne id err
  | idle | done | failed | timeout => simp

theorem turn_err_ne (id : String) (err : StoreError) :
    (e.turn env raw s).1.err ≠ some (.noSession id err) := by
  unfold turn
  split
  · simp
  · split
    · simp
    · split
      · simp
      · rename_i p _ _
        dsimp only
        rw [Advance.outcome_err]
        exact advanceState_err_ne id err

end Engine

/-! ## Sessions that JSON gives back -/

/-- The cached response is not empty, or there is none. -/
def Session.Exact (s : Session) : Prop := s.cachedResponse ≠ some []

theorem Session.Exact.throughJSON {s : Session} (h : s.Exact) : s.throughJSON = s := by
  unfold Session.throughJSON omitEmpty
  split
  · rename_i hnil
    exact absurd hnil h
  · rfl

theorem Advances.exact {e : Engine} {env : Env} {s s' : Session} {p : Packet} {raw : Bytes}
    {o : Outcome} (h : Advances e env s p raw s' o) (hs : s.Exact)
    (hanswer : env.answer ≠ .ok (some [])) : s'.Exact := by
  cases h with
  | refused err hadm =>
    unfold Session.refuse
    split <;> exact hs
  | unanswered err hadm hr => exact hs
  | answered r hadm hr =>
    have hr' := (Engine.answer_of_response hr).2
    intro hnil
    cases hnil
    exact hanswer hr'

theorem Engine.turn_exact {e : Engine} {env : Env} {raw : Bytes} {s s' : Session} (hs : s.Exact)
    (hanswer : env.answer ≠ .ok (some [])) (h : (e.turn env raw s).2 = some s') : s'.Exact := by
  unfold turn at h
  split at h
  · cases h
    exact hs
  · split at h
    · cases h
    · split at h
      · cases h
      · cases h
        exact advanceState_advances.exact hs hanswer

/-! ## The same sessions on file -/

/-- Both managers have the same sessions, which JSON gives back. -/
structure SameSessions (m : SessionManager) (r : RedisSessionManager) : Prop where
  ttl : m.ttl = r.ttl
  sessions : ∀ id, m.sessions id = (r.entries (sessionKey id)).map RedisEntry.session
  isExact : ∀ id s, m.sessions id = some s → s.Exact

/-- A session is found in both managers, or in none. -/
def SameLife (m : SessionManager) (r : RedisSessionManager) (now : Time) (id : String) : Prop :=
  ∀ s ∈ m.sessions id, ∀ entry ∈ r.entries (sessionKey id),
    (s.IsExpired now m.ttl ↔ ¬ entry.IsLive now)

instance (m : SessionManager) (r : RedisSessionManager) (now : Time) (id : String) :
    Decidable (SameLife m r now id) :=
  inferInstanceAs (Decidable (∀ s ∈ m.sessions id, _))

namespace SameSessions

variable {m : SessionManager} {r : RedisSessionManager} {now : Time} {id : String}

theorem empty (ttl : Time) : SameSessions (.empty ttl) (.empty ttl) :=
  ⟨rfl, fun _ => rfl, fun _ _ h => nomatch h⟩

theorem put (h : SameSessions m r) {s : Session} (hs : s.Exact) (now : Time) :
    SameSessions (m.put s) (r.set now s) := by
  refine ⟨h.ttl, fun id => ?_, fun id s' hs' => ?_⟩
  · unfold SessionManager.put RedisSessionManager.set
    dsimp only
    by_cases hid : id = s.authCtxID
    · subst hid
      rw [Function.update_self, Function.update_self, Option.map_some, hs.throughJSON]
    · have hk : sessionKey id ≠ sessionKey s.authCtxID := fun hk => hid (sessionKey_inj.mp hk)
      rw [Function.update_of_ne hid, Function.update_of_ne hk]
      exact h.sessions id
  · unfold SessionManager.put at hs'
    dsimp only at hs'
    by_cases hid : id = s.authCtxID
    · subst hid
      rw [Function.update_self] at hs'
      cases hs'
      exact hs
    · rw [Function.update_of_ne hid] at hs'
      exact h.isExact id s' hs'

theorem delete (h : SameSessions m r) (id : String) :
    SameSessions (m.delete id) (r.delete none id).2 := by
  refine ⟨h.ttl, fun id' => ?_, fun id' s' hs' => ?_⟩
  · unfold SessionManager.delete RedisSessionManager.delete
    dsimp only
    by_cases hid : id' = id
    · subst hid
      rw [Function.update_self, Function.update_self, Option.map_none]
    · have hk : sessionKey id' ≠ sessionKey id := fun hk => hid (sessionKey_inj.mp hk)
      rw [Function.update_of_ne hid, Function.update_of_ne hk]
      exact h.sessions id'
  · unfold SessionManager.delete at hs'
    dsimp only at hs'
    by_cases hid : id' = id
    · subst hid
      rw [Function.update_self] at hs'
      cases hs'
    · rw [Function.update_of_ne hid] at hs'
      exact h.isExact id' s' hs'

theorem get_cases (h : SameSessions m r) (now : Time) (id : String) :
    (SameLife m r now id ∧ m.get now id = .error .sessionNotFound ∧
        r.get now none id = .error .sessionNotFound) ∨
      ∃ (s : Session) (entry : RedisEntry), s.Exact ∧
        (SameLife m r now id ↔ (s.IsExpired now m.ttl ↔ ¬ entry.IsLive now)) ∧
        m.get now id = (if s.IsExpired now m.ttl then .error .sessionNotFound else .ok s) ∧
        r.get now none id = if entry.IsLive now then .ok s else .error .sessionNotFound := by
  have hsessions := h.sessions id
  unfold SessionManager.get RedisSessionManager.get SameLife
  cases hentry : r.entries (sessionKey id) with
  | none =>
    rw [hentry, Option.map_none] at hsessions
    rw [hsessions]
    exact Or.inl ⟨by simp, rfl, rfl⟩
  | some entry =>
    rw [hentry, Option.map_some] at hsessions
    rw [hsessions]
    exact Or.inr ⟨entry.session, entry, h.isExact id _ hsessions, by simp, rfl, rfl⟩

theorem get_eq (h : SameSessions m r) (hlife : SameLife m r now id) :
    m.get now id = r.get now none id ∧ ∀ s, m.get now id = .ok s → s.Exact := by
  rcases h.get_cases now id with ⟨-, hm, hr⟩ | ⟨s, entry, hs, hiff, hm, hr⟩
  · rw [hm, hr]
    exact ⟨rfl, fun s hs => nomatch hs⟩
  · rw [hm, hr]
    by_cases hexpired : s.IsExpired now m.ttl
    · rw [if_pos hexpired, if_neg ((hiff.mp hlife).mp hexpired)]
      exact ⟨rfl, fun s hs => nomatch hs⟩
    · rw [if_neg hexpired, if_pos (not_not.mp (mt (hiff.mp hlife).mpr hexpired))]
      refine ⟨rfl, fun s' hs' => ?_⟩
      cases hs'
      exact hs

theorem get_differ (h : SameSessions m r) (hlife : ¬ SameLife m r now id) :
    ∃ s, (m.get now id = .error .sessionNotFound ∧ r.get now none id = .ok s) ∨
      (m.get now id = .ok s ∧ r.get now none id = .error .sessionNotFound) := by
  rcases h.get_cases now id with ⟨hsame, -⟩ | ⟨s, entry, -, hiff, hm, hr⟩
  · exact absurd hsame hlife
  · refine ⟨s, ?_⟩
    rw [hm, hr]
    by_cases hexpired : s.IsExpired now m.ttl
    · have hlive : entry.IsLive now := by
        by_contra hdead
        exact hlife (hiff.mpr (iff_of_true hexpired hdead))
      rw [if_pos hexpired, if_pos hlive]
      exact Or.inl ⟨rfl, rfl⟩
    · have hdead : ¬ entry.IsLive now := by
        intro hlive
        exact hlife (hiff.mpr (iff_of_false hexpired fun hdead => hdead hlive))
      rw [if_neg hexpired, if_neg hdead]
      exact Or.inr ⟨rfl, rfl⟩

end SameSessions

/-! ## Both engines -/

/-- Engines that differ in the manager only. -/
inductive Twin : Engine → Engine → Prop
  | mk (cfg : Config) (aaaConfigured : Bool) (m : SessionManager) (r : RedisSessionManager)
      (h : SameSessions m r) : Twin ⟨cfg, .memory m, aaaConfigured⟩ ⟨cfg, .redis r, aaaConfigured⟩

/-- The context whose session a call looks up. -/
def Call.lookedUp : Call → Option String
  | .getSession id => some id
  | .process id _ => some id
  | .startSession .. => none
  | .deleteSession _ => none

/-- A session is found in an in-memory manager and in a Redis one, or in none of them. -/
def SameFind (now : Time) (id : String) : SessionStore → SessionStore → Prop
  | .memory m, .redis r => SameLife m r now id
  | _, _ => True

instance (now : Time) (id : String) : (st st' : SessionStore) → Decidable (SameFind now id st st')
  | .memory m, .redis r => inferInstanceAs (Decidable (SameLife m r now id))
  | .memory _, .memory _ => .isTrue trivial
  | .redis _, _ => .isTrue trivial

/-- The session that a call looks up is found in both engines, or in none. -/
def SameLookup (e e' : Engine) (i : Input) : Prop :=
  ∀ id ∈ i.call.lookedUp, SameFind i.env.start id e.sessions e'.sessions

instance (e e' : Engine) (i : Input) : Decidable (SameLookup e e' i) :=
  inferInstanceAs (Decidable (∀ id ∈ i.call.lookedUp, _))

/-- Redis is available, and what the AAA server answers is not an empty slice, which JSON would not
give back. -/
structure Input.Plain (i : Input) : Prop where
  getFault : i.env.getFault = none
  putFault : i.env.putFault = none
  answer : i.env.answer ≠ .ok (some [])

section Steps

variable {e e' : Engine} {i : Input}

theorem Twin.putSession {env : Env} {s : Session} (h : Twin e e') (hfault : env.putFault = none)
    (hs : s.Exact) : Twin (e.putSession env s) (e'.putSession env s) := by
  cases h with
  | mk cfg aaaConfigured m r h =>
    unfold Engine.putSession
    rw [hfault]
    exact .mk cfg aaaConfigured (m.put s) (r.set env.finish s) (h.put hs env.finish)

theorem Twin.aaaConfigured (h : Twin e e') : e.aaaConfigured = e'.aaaConfigured := by
  cases h
  rfl

theorem Twin.get_eq {id : String} (h : Twin e e') (hfault : i.env.getFault = none)
    (hid : i.call.lookedUp = some id) (hlookup : SameLookup e e' i) :
    e.sessions.get i.env.start i.env.getFault id = e'.sessions.get i.env.start i.env.getFault id ∧
      ∀ s, e.sessions.get i.env.start i.env.getFault id = .ok s → s.Exact := by
  cases h with
  | mk cfg aaaConfigured m r h =>
    rw [hfault]
    exact h.get_eq (hlookup id hid)

theorem Twin.get_differ (h : Twin e e') (hfault : i.env.getFault = none)
    (hlookup : ¬ SameLookup e e' i) :
    ∃ id s, i.call.lookedUp = some id ∧
      ((e.sessions.get i.env.start i.env.getFault id = .error .sessionNotFound ∧
        e'.sessions.get i.env.start i.env.getFault id = .ok s) ∨
      (e.sessions.get i.env.start i.env.getFault id = .ok s ∧
        e'.sessions.get i.env.start i.env.getFault id = .error .sessionNotFound)) := by
  unfold SameLookup at hlookup
  push Not at hlookup
  obtain ⟨id, hid, hfind⟩ := hlookup
  cases h with
  | mk cfg aaaConfigured m r h =>
    rw [hfault]
    obtain ⟨s, hs⟩ := h.get_differ hfind
    exact ⟨id, s, hid, hs⟩

theorem Twin.process {env : Env} {id : String} (h : Twin e e') (raw : Bytes)
    (hget : e.sessions.get env.start env.getFault id = e'.sessions.get env.start env.getFault id)
    (hexact : ∀ s, e.sessions.get env.start env.getFault id = .ok s → s.Exact)
    (hfault : env.putFault = none) (hanswer : env.answer ≠ .ok (some [])) :
    (e.process env id raw).1 = (e'.process env id raw).1 ∧
      Twin (e.process env id raw).2 (e'.process env id raw).2 := by
  cases hs : e.sessions.get env.start env.getFault id with
  | error err =>
    rw [Engine.process_of_get_error hs, Engine.process_of_get_error (hget ▸ hs)]
    exact ⟨rfl, h⟩
  | ok s =>
    rw [Engine.process_of_get_ok hs, Engine.process_of_get_ok (hget ▸ hs),
      Engine.turn_congr h.aaaConfigured.symm]
    refine ⟨rfl, ?_⟩
    cases hturn : (e.turn env raw s).2 with
    | none => exact h
    | some s' => exact h.putSession hfault (Engine.turn_exact (hexact s hs) hanswer hturn)

theorem Engine.process_differ {env : Env} {id : String} {raw : Bytes} {err : StoreError}
    {s : Session} (h : e.sessions.get env.start env.getFault id = .error err)
    (h' : e'.sessions.get env.start env.getFault id = .ok s) :
    (e.process env id raw).1.err ≠ (e'.process env id raw).1.err := by
  rw [process_of_get_error h, process_of_get_ok h']
  exact (turn_err_ne id err).symm

theorem Twin.startSession {env : Env} (h : Twin e e') (hfault : env.putFault = none)
    (id gpsi : String) :
    (e.startSession env id gpsi).1 = (e'.startSession env id gpsi).1 ∧
      Twin (e.startSession env id gpsi).2 (e'.startSession env id gpsi).2 := by
  have hput := fun s hs => h.putSession (s := s) hfault hs
  cases h with
  | mk cfg aaaConfigured m r h =>
    unfold Engine.startSession
    by_cases hid : id = ""
    · rw [if_pos hid, if_pos hid]
      exact ⟨rfl, .mk cfg aaaConfigured m r h⟩
    · rw [if_neg hid, if_neg hid]
      -- neither manager refuses the session
      have hmemory : ∀ s, (SessionStore.put (.memory m) env.finish env.putFault s).1 = none :=
        fun _ => rfl
      have hredis : ∀ s, (SessionStore.put (.redis r) env.finish env.putFault s).1 = none := by
        intro s
        rw [hfault]
        rfl
      dsimp only
      rw [hmemory, hredis]
      exact ⟨rfl, hput _ (by unfold Session.Exact newSession; simp)⟩

theorem Twin.deleteSession {env : Env} (h : Twin e e') (hfault : env.putFault = none)
    (id : String) :
    (e.deleteSession env id).1 = (e'.deleteSession env id).1 ∧
      Twin (e.deleteSession env id).2 (e'.deleteSession env id).2 := by
  cases h with
  | mk cfg aaaConfigured m r h =>
    unfold Engine.deleteSession
    rw [hfault]
    exact ⟨rfl, .mk cfg aaaConfigured (m.delete id) (r.delete none id).2 (h.delete id)⟩

theorem Twin.step_same (h : Twin e e') (hi : i.Plain) (hlookup : SameLookup e e' i) :
    (e.step i).1.returned = (e'.step i).1.returned ∧ Twin (e.step i).2 (e'.step i).2 := by
  cases hcall : i.call with
  | startSession id gpsi =>
    obtain ⟨hout, hpost⟩ := h.startSession hi.putFault id gpsi
    unfold Engine.step
    rw [hcall]
    exact ⟨congrArg Returned.started hout, hpost⟩
  | deleteSession id =>
    obtain ⟨hout, hpost⟩ := h.deleteSession hi.putFault id
    unfold Engine.step
    rw [hcall]
    exact ⟨congrArg Returned.deleted hout, hpost⟩
  | getSession id =>
    obtain ⟨hsame, -⟩ := h.get_eq hi.getFault (congrArg Call.lookedUp hcall) hlookup
    unfold Engine.step
    rw [hcall]
    exact ⟨congrArg Returned.got hsame, h⟩
  | process id raw =>
    obtain ⟨hsame, hexact⟩ := h.get_eq hi.getFault (congrArg Call.lookedUp hcall) hlookup
    obtain ⟨hout, hpost⟩ := h.process raw hsame hexact hi.putFault hi.answer
    unfold Engine.step
    rw [hcall]
    exact ⟨congrArg (Output.returned ∘ Output.processed) hout, hpost⟩

theorem Twin.step_differ (h : Twin e e') (hi : i.Plain) (hlookup : ¬ SameLookup e e' i) :
    (e.step i).1.returned ≠ (e'.step i).1.returned := by
  obtain ⟨id, s, hid, hget⟩ := h.get_differ hi.getFault hlookup
  unfold Engine.step
  cases hcall : i.call with
  | startSession id' gpsi =>
    rw [hcall] at hid
    cases hid
  | deleteSession id' =>
    rw [hcall] at hid
    cases hid
  | getSession id' =>
    rw [hcall] at hid
    cases hid
    rcases hget with ⟨hm, hr⟩ | ⟨hm, hr⟩
    · simp [Output.returned, Engine.getSession, hm, hr]
    · simp [Output.returned, Engine.getSession, hm, hr]
  | process id' raw =>
    rw [hcall] at hid
    cases hid
    intro hsame
    have herr := congrArg Returned.err? hsame
    rcases hget with ⟨hm, hr⟩ | ⟨hm, hr⟩
    · exact Engine.process_differ hm hr herr
    · exact Engine.process_differ hr hm herr.symm

end Steps

/-- **The two stores.** The same calls return the same on both stores exactly if every session that
a call looks up is expired in memory just if Redis has dropped it. -/
theorem stores_interchangeable_iff (cfg : Config) (aaaConfigured : Bool) (is : List Input)
    (his : ∀ i ∈ is, i.Plain) :
    results (newEngine cfg aaaConfigured) is = results (newEngineWithRedis cfg aaaConfigured) is ↔
      Throughout Engine.step Engine.step SameLookup (newEngine cfg aaaConfigured)
        (newEngineWithRedis cfg aaaConfigured) is := by
  have hstart : Twin (newEngine cfg aaaConfigured) (newEngineWithRedis cfg aaaConfigured) :=
    .mk _ _ _ _ (.empty _)
  refine observations_eq_iff (R := Twin) (P := Input.Plain) ?_ ?_ hstart his
  · intro e e' i h hi hlookup
    exact h.step_same hi hlookup
  · intro e e' i h hi hlookup
    exact h.step_differ hi hlookup

namespace Sample

def lookup (now : Time) : Input := ⟨.getSession "ctx", env now (.ok none)⟩

/-- The session is looked up while it is in both stores, and when it has gone from both. -/
def lookups : List Input := opening ++ [lookup (599 * second), lookup (602 * second)]

theorem plain_of_env {call : Call} {now : Time} {answer : Except String (Option Bytes)}
    (h : answer ≠ .ok (some [])) : Input.Plain ⟨call, env now answer⟩ :=
  ⟨rfl, rfl, h⟩

end Sample

open Sample in
theorem lookups_same :
    results (newEngine ⟨0, 0, 0⟩ true) lookups =
      results (newEngineWithRedis ⟨0, 0, 0⟩ true) lookups := by
  refine (stores_interchangeable_iff ⟨0, 0, 0⟩ true lookups ?_).mpr (by decide +kernel)
  intro i hi
  simp only [lookups, opening, List.mem_append, List.mem_cons, List.not_mem_nil,
    or_false] at hi
  rcases hi with (rfl | rfl) | rfl | rfl <;> exact plain_of_env (by decide)

open Sample in
/-- A session of ten minutes that `Process` wrote after five seconds, one second past its ten
minutes: the in-memory manager has it no more, and Redis still has it. -/
theorem written_session_outlives_memory :
    let is := [start, send (5 * second) identity request,
      lookup (601 * second)]
    (∀ i ∈ is, i.env.getFault = none ∧ i.env.putFault = none ∧ i.env.answer ≠ .ok (some [])) ∧
    (results (newEngine ⟨0, 0, 0⟩ true) is)[2]? = some (.got (.error .sessionNotFound)) ∧
    (results (newEngineWithRedis ⟨0, 0, 0⟩ true) is)[2]? ≠
      some (.got (.error .sessionNotFound)) ∧
    (results (newEngine ⟨0, 0, 0⟩ true) is).take 2 =
      (results (newEngineWithRedis ⟨0, 0, 0⟩ true) is).take 2 := by
  decide +kernel

end NssAAF.Eap
