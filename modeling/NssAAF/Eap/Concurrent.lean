import NssAAF.Lib.Interleaving
import NssAAF.Eap.Relay

/-!
# Calls that run beside each other

`Process` reads the session, hands the payload to the AAA router and writes the session back, and
nothing keeps other calls away in between. Here a call is a thread with these three actions, each
of them atomic. A thread works on its own copy of the session, as `RedisSessionManager` gives it.

* `process_alone`: a call that is not interrupted does what `Process` does.
* `forwarded_once_of_exclusive`: if no call reads the session while another one is between its read
  and its write, every round forwards one payload, and no write overwrites a change it has not
  seen.
-/

namespace NssAAF.Eap

open Interleaving Transducer

/-- How far a call is. `sending` is a call that hands its payload to the router next, `writing` one
whose state machine has run, and `expiring` one that found the session timed out. -/
inductive Phase
  | called
  | sending (start : Time) (s : Session) (p : Packet)
  | writing (s : Session) (a : Advance)
  | expiring (s : Session)
  | returned (o : Outcome)

structure Thread where
  id : String
  raw : Bytes
  phase : Phase

def Thread.new (call : String × Bytes) : Thread := ⟨call.1, call.2, .called⟩

namespace Thread

variable (env : Env) (e : Engine)

/-- The session is read, and checked up to the state machine. The machine does not look at the
answer of the router unless it forwards the payload. -/
def read (id : String) (raw : Bytes) : Phase :=
  match e.sessions.get env.start env.getFault id with
  | .error err => .returned ⟨none, .failure, some (.noSession id err), none, false, none⟩
  | .ok session =>
    if session.IsTimedOut env.start then .expiring session
    else
      match parse raw with
      | .error err => .returned ⟨none, .failure, some (.parse err), none, false, some session⟩
      | .ok packet =>
        if bytesEqual session.lastNonce (sha256Hash raw) && session.cachedResponse.isSome then
          .returned
            ⟨session.cachedResponse.map newEapMessage, .pending, none, none, true, some session⟩
        else
          match (e.advanceState env session packet raw).sent with
          | none => .writing session (e.advanceState env session packet raw)
          | some _ => .sending env.start session packet

def next (t : Thread) : Engine × Thread :=
  match t.phase with
  | .called => (e, { t with phase := read env e t.id t.raw })
  | .sending start s p =>
    (e, { t with phase := .writing s (e.advanceState { env with start } s p t.raw) })
  | .writing _ a =>
    let session := a.finished (sha256Hash t.raw) env.finish
    (e.putSession env session, { t with phase := .returned (a.outcome session) })
  | .expiring s =>
    let session := s.markTimeout env.finish
    (e.putSession env session,
      { t with phase :=
          .returned ⟨none, .failure, some .sessionTimeout, none, false, some session⟩ })
  | .returned _ => (e, t)

variable {env e}

/-- What the first action of a call can find. -/
inductive Reads (env : Env) (e : Engine) (id : String) (raw : Bytes) : Phase → Prop
  | returned (o : Outcome) (h : e.process env id raw = (o, e)) : Reads env e id raw (.returned o)
  | expiring (s : Session) (hget : e.sessions.get env.start env.getFault id = .ok s)
      (ht : s.IsTimedOut env.start) : Reads env e id raw (.expiring s)
  | writing (s : Session) (p : Packet) (hf : Found e env id raw s p) (hn : ¬ s.IsRetry raw)
      (hsent : (e.advanceState env s p raw).sent = none) :
    Reads env e id raw (.writing s (e.advanceState env s p raw))
  | sending (s : Session) (p : Packet) (hf : Found e env id raw s p) (hn : ¬ s.IsRetry raw)
      (hsent : (e.advanceState env s p raw).sent ≠ none) :
    Reads env e id raw (.sending env.start s p)

theorem read_reads (id : String) (raw : Bytes) : Reads env e id raw (read env e id raw) := by
  unfold read
  cases hget : e.sessions.get env.start env.getFault id with
  | error err =>
    refine .returned _ ?_
    unfold Engine.process
    rw [hget]
  | ok s =>
    dsimp only
    by_cases ht : s.IsTimedOut env.start
    · rw [if_pos ht]
      exact .expiring s hget ht
    · rw [if_neg ht]
      cases hp : parse raw with
      | error err =>
        refine .returned _ ?_
        unfold Engine.process
        rw [hget]
        dsimp only
        rw [if_neg ht, hp]
      | ok p =>
        dsimp only
        have hf : Found e env id raw s p := ⟨hget, ht, hp⟩
        by_cases hn : (bytesEqual s.lastNonce (sha256Hash raw) && s.cachedResponse.isSome) = true
        · rw [if_pos hn]
          refine .returned _ ?_
          unfold Engine.process
          rw [hget]
          dsimp only
          rw [if_neg ht, hp]
          dsimp only
          rw [if_pos hn]
        · rw [if_neg hn]
          rw [Bool.and_eq_true, bytesEqual_iff, Option.isSome_iff_ne_none] at hn
          cases hsent : (e.advanceState env s p raw).sent with
          | none => exact .writing s p hf hn hsent
          | some payload => exact .sending s p hf hn (by rw [hsent]; exact Option.some_ne_none _)

/-- An uninterrupted call is `Process`. -/
theorem alone_next (id : String) (raw : Bytes) :
    alone next [env, env, env] (e, ⟨id, raw, .called⟩) =
      ((e.process env id raw).2, ⟨id, raw, .returned (e.process env id raw).1⟩) := by
  show alone next [env, env] (e, ⟨id, raw, read env e id raw⟩) = _
  have hr : Reads env e id raw (read env e id raw) := read_reads id raw
  generalize read env e id raw = phase at hr
  cases hr with
  | returned o h => rw [h]; rfl
  | expiring s hget ht =>
    unfold Engine.process
    rw [hget]
    dsimp only
    rw [if_pos ht]
    rfl
  | writing s p hf hn => rw [Engine.process_of_fresh hf hn]; rfl
  | sending s p hf hn => rw [Engine.process_of_fresh hf hn]; rfl

end Thread

theorem process_alone {sys : System Engine Thread} {n : ℕ} {id : String} {raw : Bytes}
    (hn : sys.threads[n]? = some ⟨id, raw, .called⟩) (env : Env) :
    (final (step Thread.next) sys [.run n env, .run n env, .run n env]).shared =
      (sys.shared.process env id raw).2 := by
  have hrun := final_solo Thread.next hn [env, env, env]
  rw [Thread.alone_next] at hrun
  exact congrArg System.shared hrun

/-! ## What a schedule forwards and writes -/

abbrev Act : Type := Record (System Engine Thread) (Event Thread Env) (Option (Env × Thread))

/-- The steps of the calls `calls` under a schedule. The schedule says which call acts, and what the
environment chooses for its action. -/
def acts (e : Engine) (calls : List (String × Bytes)) (schedule : List (ℕ × Env)) : List Act :=
  trace (step Thread.next) ⟨e, calls.map Thread.new⟩ (schedule.map fun x => .run x.1 x.2)

namespace Thread

/-- The round for which the call hands its payload to the router in its next action. -/
def round (id : String) (t : Thread) : Option ℤ :=
  match t.phase with
  | .sending _ s p => if t.id = id then some (s.take p).rounds else none
  | _ => none

/-- The session that the call has read, if it writes in its next action. -/
def base (t : Thread) : Option Session :=
  match t.phase with
  | .writing s _ => some s
  | .expiring s => some s
  | _ => none

/-- The call is between its read and its write of the session of `id`. -/
def InFlight (id : String) (t : Thread) : Prop :=
  t.id = id ∧
    match t.phase with
    | .sending _ _ _ => True
    | .writing _ _ => True
    | .expiring _ => True
    | _ => False

/-- A call on `id` reads only while no other one is in flight, and the store takes what it
writes. -/
def MayAct (id : String) (sys : System Engine Thread) (env : Env) (t : Thread) : Prop :=
  t.id = id →
    match t.phase with
    | .called => ∀ u ∈ sys.threads, ¬ u.InFlight id
    | .writing _ _ => sys.shared.Accepts env
    | .expiring _ => sys.shared.Accepts env
    | _ => True

instance (id : String) : DecidablePred (InFlight id)
  | ⟨id', _, .called⟩ => inferInstanceAs (Decidable (id' = id ∧ False))
  | ⟨id', _, .sending _ _ _⟩ => inferInstanceAs (Decidable (id' = id ∧ True))
  | ⟨id', _, .writing _ _⟩ => inferInstanceAs (Decidable (id' = id ∧ True))
  | ⟨id', _, .expiring _⟩ => inferInstanceAs (Decidable (id' = id ∧ True))
  | ⟨id', _, .returned _⟩ => inferInstanceAs (Decidable (id' = id ∧ False))

instance (id : String) (sys : System Engine Thread) (env : Env) : DecidablePred (MayAct id sys env)
  | ⟨id', _, .called⟩ =>
    inferInstanceAs (Decidable (id' = id → ∀ u ∈ sys.threads, ¬ u.InFlight id))
  | ⟨id', _, .sending _ _ _⟩ => inferInstanceAs (Decidable (id' = id → True))
  | ⟨id', _, .writing _ _⟩ => inferInstanceAs (Decidable (id' = id → sys.shared.Accepts env))
  | ⟨id', _, .expiring _⟩ => inferInstanceAs (Decidable (id' = id → sys.shared.Accepts env))
  | ⟨id', _, .returned _⟩ => inferInstanceAs (Decidable (id' = id → True))

end Thread

namespace Act

def Forwards (id : String) (raw : Bytes) (k : ℤ) (r : Act) : Prop :=
  ∃ x ∈ r.output, x.2.raw = raw ∧ x.2.round id = some k

/-- A step that writes the session of `id` finds on file what its call has read: it takes nothing
back that another call has changed since. -/
def KeepsChanges (id : String) (r : Act) : Prop :=
  ∀ x ∈ r.output, x.2.id = id → ∀ s ∈ x.2.base,
    ∃ s' ∈ r.pre.shared.session id, s'.rounds = s.rounds ∧ s'.expectedID = s.expectedID ∧
      s'.state = s.state

def Exclusive (id : String) (r : Act) : Prop := ∀ x ∈ r.output, x.2.MayAct id r.pre x.1

instance (id : String) (raw : Bytes) (k : ℤ) : DecidablePred (Forwards id raw k) := fun r =>
  inferInstanceAs (Decidable (∃ x ∈ r.output, x.2.raw = raw ∧ x.2.round id = some k))

instance (id : String) : DecidablePred (KeepsChanges id) := fun r =>
  inferInstanceAs (Decidable (∀ x ∈ r.output, x.2.id = id → ∀ s ∈ x.2.base,
    ∃ s' ∈ r.pre.shared.session id, s'.rounds = s.rounds ∧ s'.expectedID = s.expectedID ∧
      s'.state = s.state))

instance (id : String) : DecidablePred (Exclusive id) := fun r =>
  inferInstanceAs (Decidable (∀ x ∈ r.output, x.2.MayAct id r.pre x.1))

end Act

/-- No payload is handed to the router twice for a round of `id`. -/
def ForwardsOnce (id : String) (h : List Act) : Prop :=
  ∀ raw, h.Pairwise fun r r' => ∀ k, r.Forwards id raw k → ¬ r'.Forwards id raw k

theorem ForwardsOnce.length_le_one {id : String} {h : List Act} (hh : ForwardsOnce id h)
    (raw : Bytes) (k : ℤ) : (h.filter fun r => r.Forwards id raw k).length ≤ 1 := by
  have hpair := (hh raw).filter fun r => r.Forwards id raw k
  have hall : ∀ r ∈ h.filter fun r => r.Forwards id raw k, r.Forwards id raw k :=
    fun r hr => of_decide_eq_true (List.mem_filter.mp hr).2
  generalize (h.filter fun r => r.Forwards id raw k) = l at hpair hall
  match l with
  | [] => exact Nat.zero_le 1
  | [r] => exact Nat.le_refl 1
  | r :: r' :: l =>
    exact absurd (hall r' (List.mem_cons_of_mem r (List.mem_cons_self ..)))
      (List.rel_of_pairwise_cons hpair (List.mem_cons_self ..) k (hall r (List.mem_cons_self ..)))

/-! ## What the state machine does to the round -/

section Machine

variable {e : Engine} {env : Env} {s s' : Session} {p : Packet} {raw : Bytes} {o : Outcome}

@[simp]
theorem Advance.finished_authCtxID (a : Advance) (msgHash : Bytes) (now : Time) :
    (a.finished msgHash now).authCtxID = a.session.authCtxID := by
  unfold Advance.finished
  cases a.response <;> rfl

@[simp]
theorem Advance.finished_rounds (a : Advance) (msgHash : Bytes) (now : Time) :
    (a.finished msgHash now).rounds = a.session.rounds := by
  unfold Advance.finished
  cases a.response <;> rfl

@[simp]
theorem Advance.finished_state (a : Advance) (msgHash : Bytes) (now : Time) :
    (a.finished msgHash now).state = a.session.state := by
  unfold Advance.finished
  cases a.response <;> rfl

@[simp]
theorem Advance.outcome_sent (a : Advance) (session : Session) :
    (a.outcome session).sent = a.sent := by
  unfold Advance.outcome
  cases a.err <;> rfl

theorem Advances.rounds_of_admits (h : Advances e env s p raw s' o) (hadm : s.Admits p) :
    s'.rounds = (s.take p).rounds := by
  cases h with
  | refused err hno => exact absurd hadm hno
  | unanswered => rfl
  | answered => rw [Session.conclude_eq]; rfl

theorem Advances.rounds_of_not_admits (h : Advances e env s p raw s' o) (hadm : ¬ s.Admits p) :
    s'.rounds = s.rounds := by
  cases h with
  | refused => rw [Session.refuse_eq]; rfl
  | unanswered err hyes => exact absurd hyes hadm
  | answered r hyes => exact absurd hyes hadm

theorem Moves.eq_init {a : SessionState} (h : Moves a .init) : a = .init := by
  cases h
  rfl

theorem Advances.of_init (h : Advances e env s p raw s' o) (hs' : s'.state = .init) :
    s.state = .init ∧ ¬ s.Admits p := by
  have hback : s.state = .init := (hs' ▸ h.moves).eq_init
  refine ⟨hback, fun hadm => ?_⟩
  cases h with
  | refused err hno => exact hno hadm
  | unanswered =>
    change (s.take p).state = .init at hs'
    rw [Session.take_state, if_pos hback] at hs'
    cases hs'
  | answered r =>
    change ((s.take p).conclude (s.verdict r)).state = .init at hs'
    cases hv : s.verdict r with
    | success | failure => rw [hv] at hs'; cases hs'
    | pending =>
      rw [hv] at hs'
      change (s.take p).state = .init at hs'
      rw [Session.take_state, if_pos hback] at hs'
      cases hs'

/-- A session before its first round has counted none. -/
def Session.Uncounted (s : Session) : Prop := s.state = .init → s.rounds = 0

theorem Session.Uncounted.rounds_lt_take (h : s.Uncounted) (p : Packet) :
    s.rounds < (s.take p).rounds := by
  show s.rounds < if s.state = .init then 1 else s.rounds + 1
  split_ifs with hs
  · rw [h hs]
    decide
  · exact Int.lt_succ s.rounds

/-- What the state machine leaves has the context of the session, and has not counted back. -/
structure Advance.Continues (a : Advance) (s : Session) : Prop where
  authCtxID : a.session.authCtxID = s.authCtxID
  rounds : s.rounds ≤ a.session.rounds
  uncounted : a.session.Uncounted

theorem Engine.advanceState_authCtxID :
    (e.advanceState env s p raw).session.authCtxID = s.authCtxID := by
  have hadv : Advances.Of e env s p raw (e.advanceState env s p raw) :=
    Engine.advanceState_advances
  rw [← hadv.kept.1, Advance.finished_authCtxID]

theorem Engine.advanceState_continues (hs : s.Uncounted) :
    (e.advanceState env s p raw).Continues s := by
  have hadv : Advances.Of e env s p raw (e.advanceState env s p raw) :=
    Engine.advanceState_advances
  have hrounds := Advance.finished_rounds (e.advanceState env s p raw) (sha256Hash raw) env.finish
  have hstate := Advance.finished_state (e.advanceState env s p raw) (sha256Hash raw) env.finish
  refine ⟨Engine.advanceState_authCtxID, ?_, fun hinit => ?_⟩
  · rw [← hrounds]
    by_cases hadm : s.Admits p
    · rw [hadv.rounds_of_admits hadm]
      exact Int.le_of_lt (hs.rounds_lt_take p)
    · exact Int.le_of_eq (hadv.rounds_of_not_admits hadm).symm
  · rw [← hstate] at hinit
    obtain ⟨hback, hadm⟩ := hadv.of_init hinit
    rw [← hrounds, hadv.rounds_of_not_admits hadm, hs hback]

theorem Advances.admits_of_sent (h : Advances e env s p raw s' o) (hsent : o.sent ≠ none) :
    s.Admits p := by
  cases h with
  | refused => exact absurd rfl hsent
  | unanswered err hadm => exact hadm
  | answered r hadm => exact hadm

theorem Engine.admits_of_sent (hsent : (e.advanceState env s p raw).sent ≠ none) :
    s.Admits p := by
  have hadv : Advances.Of e env s p raw (e.advanceState env s p raw) :=
    Engine.advanceState_advances
  refine hadv.admits_of_sent ?_
  rw [Advance.outcome_sent]
  exact hsent

theorem Engine.advanceState_rounds (hadm : s.Admits p) :
    (e.advanceState env s p raw).session.rounds = (s.take p).rounds := by
  have hadv : Advances.Of e env s p raw (e.advanceState env s p raw) :=
    Engine.advanceState_advances
  rw [← hadv.rounds_of_admits hadm, Advance.finished_rounds]

end Machine

/-! ## Exclusive calls -/

namespace Act

def round (id : String) (r : Act) : Option ℤ := r.output.bind fun x => x.2.round id

theorem Forwards.round {id : String} {raw : Bytes} {k : ℤ} {r : Act} (h : r.Forwards id raw k) :
    r.round id = some k := by
  obtain ⟨x, hx, -, hk⟩ := h
  unfold Act.round
  rw [Option.mem_def.mp hx]
  exact hk

end Act

/-- No payload was handed to the router for a round beyond `m`. -/
def Below (id : String) (h : List Act) (m : ℤ) : Prop := ∀ r ∈ h, ∀ k, r.round id = some k → k ≤ m

namespace Thread

/-- What the call writes is a session of its context. -/
def Named (t : Thread) : Prop :=
  match t.phase with
  | .sending _ s _ => s.authCtxID = t.id
  | .writing _ a => a.session.authCtxID = t.id
  | .expiring s => s.authCtxID = t.id
  | _ => True

/-- The call is in flight on `id`, and what it has read is on file. -/
def Holds (id : String) (h : List Act) (e : Engine) (t : Thread) : Prop :=
  t.id = id ∧
    match t.phase with
    | .sending _ s p => e.session id = some s ∧ s.Admits p ∧ Below id h s.rounds
    | .writing s a => e.session id = some s ∧ a.Continues s ∧ Below id h a.session.rounds
    | .expiring s => e.session id = some s ∧ Below id h s.rounds
    | _ => False

end Thread

def Free (id : String) (h : List Act) (sys : System Engine Thread) : Prop :=
  (∀ t ∈ sys.threads, ¬ t.InFlight id) ∧
    ∀ s, sys.shared.session id = some s → Below id h s.rounds

/-- The calls on `id` were exclusive so far: at most one is in flight, the rounds have increased,
and every write was made on what was read. -/
structure Serial (id : String) (h : List Act) (sys : System Engine Thread) : Prop where
  named : ∀ t ∈ sys.threads, t.Named
  uncounted : ∀ s, sys.shared.session id = some s → s.Uncounted
  increasing : h.Pairwise fun r r' =>
    ∀ k k', r.round id = some k → r'.round id = some k' → k < k'
  kept : ∀ r ∈ h, r.KeepsChanges id
  owner : Free id h sys ∨ ∃ (n : ℕ) (t : Thread), sys.threads[n]? = some t ∧
    t.Holds id h sys.shared ∧ ∀ (m : ℕ) (u : Thread), sys.threads[m]? = some u →
      u.InFlight id → m = n

section Serial

variable {id : String} {h : List Act} {sys : System Engine Thread} {env : Env} {e : Engine}
  {t : Thread} {n : ℕ}

theorem Thread.Holds.inFlight (ht : t.Holds id h e) : t.InFlight id := by
  obtain ⟨hid, hphase⟩ := ht
  refine ⟨hid, ?_⟩
  cases hp : t.phase with
  | called | returned => rw [hp] at hphase; exact hphase.elim
  | sending | writing | expiring => trivial

theorem Below.mono {m m' : ℤ} (hb : Below id h m) (hm : m ≤ m') : Below id h m' :=
  fun r hr k hk => Int.le_trans (hb r hr k hk) hm

theorem Below.append {r : Act} {m : ℤ} (hb : Below id h m)
    (hr : ∀ k, r.round id = some k → k ≤ m) : Below id (h ++ [r]) m := by
  intro r' hr' k hk
  rcases List.mem_append.mp hr' with hr' | hr'
  · exact hb r' hr' k hk
  · rw [List.mem_singleton.mp hr'] at hk
    exact hr k hk

theorem Below.append_of_none {r : Act} {m : ℤ} (hb : Below id h m) (hr : r.round id = none) :
    Below id (h ++ [r]) m := by
  refine hb.append fun k hk => ?_
  rw [hr] at hk
  cases hk

/-- The step hands payloads to the router only for rounds beyond those of `h`. -/
def Act.Beyond (id : String) (h : List Act) (r : Act) : Prop :=
  ∀ r₀ ∈ h, ∀ k k', r₀.round id = some k → r.round id = some k' → k < k'

theorem Act.beyond_of_none {r : Act} (hr : r.round id = none) : r.Beyond id h := by
  intro r₀ _ k k' _ hk'
  rw [hr] at hk'
  cases hk'

theorem Thread.Holds.extend {r : Act} {e' : Engine} (ht : t.Holds id h e)
    (hsess : e'.session id = e.session id) (hround : r.round id = none) :
    t.Holds id (h ++ [r]) e' := by
  obtain ⟨hid, hphase⟩ := ht
  refine ⟨hid, ?_⟩
  cases hp : t.phase with
  | called | returned => rw [hp] at hphase; exact hphase.elim
  | sending start s p =>
    rw [hp] at hphase
    exact ⟨hsess.trans hphase.1, hphase.2.1, hphase.2.2.append_of_none hround⟩
  | writing s a =>
    rw [hp] at hphase
    exact ⟨hsess.trans hphase.1, hphase.2.1, hphase.2.2.append_of_none hround⟩
  | expiring s =>
    rw [hp] at hphase
    exact ⟨hsess.trans hphase.1, hphase.2.append_of_none hround⟩

/-- What is on file is what the owner has read, so its write keeps all changes. -/
theorem Thread.Holds.keepsChanges {r : Act} (ht : t.Holds id h r.pre.shared)
    (hr : r.output = some (env, t)) : r.KeepsChanges id := by
  intro x hx hid s hs
  rw [hr, Option.mem_some_iff] at hx
  subst hx
  obtain ⟨-, hphase⟩ := ht
  dsimp only at hs
  unfold Thread.base at hs
  cases hp : t.phase with
  | called | sending | returned => rw [hp] at hs; cases hs
  | writing s₁ a =>
    rw [hp] at hs hphase
    cases hs
    exact ⟨s, hphase.1, rfl, rfl, rfl⟩
  | expiring s₁ =>
    rw [hp] at hs hphase
    cases hs
    exact ⟨s, hphase.1, rfl, rfl, rfl⟩

theorem Act.keepsChanges_of_base {r : Act} (hr : r.output = some (env, t)) (hb : t.base = none) :
    r.KeepsChanges id := by
  intro x hx _ s hs
  rw [hr, Option.mem_some_iff] at hx
  subst hx
  rw [hb] at hs
  cases hs

theorem Thread.named_of_mem_set {t' : Thread} (hS : ∀ t ∈ sys.threads, t.Named) (ht' : t'.Named) :
    ∀ u ∈ sys.threads.set n t', u.Named := by
  intro u hu
  rcases List.mem_or_eq_of_mem_set hu with hu | rfl
  · exact hS u hu
  · exact ht'

namespace Serial

variable {r : Act} {e' : Engine} {t' : Thread}

/-- The parts of the invariant that do not depend on who owns the session. -/
theorem extend {sys' : System Engine Thread} (hS : Serial id h sys) (hkept : r.KeepsChanges id)
    (hnamed : ∀ t ∈ sys'.threads, t.Named)
    (hunc : ∀ s, sys'.shared.session id = some s → s.Uncounted)
    (hinc : r.Beyond id h)
    (howner : Free id (h ++ [r]) sys' ∨
      ∃ (n : ℕ) (t : Thread), sys'.threads[n]? = some t ∧ t.Holds id (h ++ [r]) sys'.shared ∧
        ∀ (m : ℕ) (u : Thread), sys'.threads[m]? = some u → u.InFlight id → m = n) :
    Serial id (h ++ [r]) sys' := by
  refine ⟨hnamed, hunc, ?_, fun r' hr' => ?_, howner⟩
  · rw [List.pairwise_append]
    refine ⟨hS.increasing, List.pairwise_singleton .., fun r₀ hr₀ r₁ hr₁ => ?_⟩
    rw [List.mem_singleton.mp hr₁]
    exact hinc r₀ hr₀
  · rcases List.mem_append.mp hr' with hr' | hr'
    · exact hS.kept r' hr'
    · rw [List.mem_singleton.mp hr']
      exact hkept

/-- A call that is not in flight acts and does not touch the session. -/
theorem frame (hS : Serial id h sys) (hn : sys.threads[n]? = some t) (hout : ¬ t.InFlight id)
    (hout' : ¬ t'.InFlight id) (hkept : r.KeepsChanges id) (hnamed : t'.Named)
    (hsess : e'.session id = sys.shared.session id) (hround : r.round id = none) :
    Serial id (h ++ [r]) ⟨e', sys.threads.set n t'⟩ := by
  refine hS.extend hkept (Thread.named_of_mem_set hS.named hnamed) ?_ (Act.beyond_of_none hround) ?_
  · intro s hs
    rw [hsess] at hs
    exact hS.uncounted s hs
  · rcases hS.owner with ⟨hfree, hbelow⟩ | ⟨m, u, hm, hholds, honly⟩
    · refine Or.inl ⟨fun v hv => ?_, fun s hs => ?_⟩
      · rcases List.mem_or_eq_of_mem_set hv with hv | rfl
        · exact hfree v hv
        · exact hout'
      · rw [hsess] at hs
        exact (hbelow s hs).append_of_none hround
    · have hne : n ≠ m := by
        rintro rfl
        rw [hn, Option.some.injEq] at hm
        exact hout (hm ▸ hholds.inFlight)
      refine Or.inr ⟨m, u, ?_, hholds.extend hsess hround, fun j v hj hv => ?_⟩
      · rw [List.getElem?_set_ne hne]
        exact hm
      · rcases getElem?_set_cases hj with ⟨-, rfl⟩ | ⟨-, hj⟩
        · exact absurd hv hout'
        · exact honly j v hj hv

theorem own (hS : Serial id h sys) (hn : sys.threads[n]? = some t)
    (honly : ∀ (m : ℕ) (u : Thread), sys.threads[m]? = some u → u.InFlight id → m = n)
    (hkept : r.KeepsChanges id) (hnamed : t'.Named)
    (hunc : ∀ s, e'.session id = some s → s.Uncounted)
    (hinc : r.Beyond id h)
    (hholds : t'.Holds id (h ++ [r]) e') :
    Serial id (h ++ [r]) ⟨e', sys.threads.set n t'⟩ := by
  have hlt := (List.getElem?_eq_some_iff.mp hn).1
  refine hS.extend hkept (Thread.named_of_mem_set hS.named hnamed) hunc hinc
    (Or.inr ⟨n, t', ?_, hholds, fun j v hj hv => ?_⟩)
  · exact List.getElem?_set_self hlt
  · rcases getElem?_set_cases hj with ⟨hjn, -⟩ | ⟨-, hj⟩
    · exact hjn.symm
    · exact honly j v hj hv

theorem idle (hS : Serial id h sys) (hr : r.output = none) : Serial id (h ++ [r]) sys := by
  have hround : r.round id = none := by
    unfold Act.round
    rw [hr]
    rfl
  refine hS.extend ?_ hS.named hS.uncounted (Act.beyond_of_none hround) ?_
  · intro x hx
    rw [hr] at hx
    cases hx
  · rcases hS.owner with ⟨hfree, hbelow⟩ | ⟨n, t, hn, hholds, honly⟩
    · exact Or.inl ⟨hfree, fun s hs => (hbelow s hs).append_of_none hround⟩
    · exact Or.inr ⟨n, t, hn, hholds.extend rfl hround, honly⟩

/-- A call in flight is the only one, and holds the session. -/
theorem holds_of_inFlight (hS : Serial id h sys) (hn : sys.threads[n]? = some t)
    (hin : t.InFlight id) :
    t.Holds id h sys.shared ∧
      ∀ (m : ℕ) (u : Thread), sys.threads[m]? = some u → u.InFlight id → m = n := by
  rcases hS.owner with ⟨hfree, -⟩ | ⟨m, u, hm, hholds, honly⟩
  · exact absurd hin (hfree t (List.mem_of_getElem? hn))
  · obtain rfl : n = m := honly n t hn hin
    rw [hn, Option.some.injEq] at hm
    rw [hm]
    exact ⟨hholds, honly⟩

end Serial

/-! ### What an action does -/

theorem Thread.next_id : (t.next env e).2.id = t.id := by
  obtain ⟨tid, raw, phase⟩ := t
  cases phase <;> rfl

theorem Thread.next_named (ht : t.Named) : (t.next env e).2.Named := by
  obtain ⟨tid, raw, phase⟩ := t
  cases phase with
  | called =>
    have hr : Reads env e tid raw (read env e tid raw) := read_reads tid raw
    show Named ⟨tid, raw, read env e tid raw⟩
    generalize read env e tid raw = phase at hr
    cases hr with
    | returned o h => trivial
    | expiring s hget => exact Engine.authCtxID_of_session (Engine.session_of_get hget)
    | sending s p hf => exact Engine.authCtxID_of_session (Engine.session_of_get hf.get)
    | writing s p hf =>
      show (e.advanceState env s p raw).session.authCtxID = tid
      rw [Engine.advanceState_authCtxID]
      exact Engine.authCtxID_of_session (Engine.session_of_get hf.get)
  | sending start s p => exact Engine.advanceState_authCtxID.trans ht
  | writing | expiring => trivial
  | returned => exact ht

theorem Thread.next_session_of_ne (ht : t.Named) (hid : t.id ≠ id) :
    (t.next env e).1.session id = e.session id := by
  obtain ⟨tid, raw, phase⟩ := t
  cases phase with
  | called | sending | returned => rfl
  | writing s a =>
    refine Engine.session_putSession_of_ne ?_
    rw [Advance.finished_authCtxID, show a.session.authCtxID = tid from ht]
    exact hid.symm
  | expiring s =>
    refine Engine.session_putSession_of_ne ?_
    rw [Session.markTimeout_authCtxID, show s.authCtxID = tid from ht]
    exact hid.symm

theorem Engine.uncounted_putSession {s s' : Session} (hid : s.authCtxID = id) (hacc : e.Accepts env)
    (hs : s.Uncounted) (hs' : (e.putSession env s).session id = some s') :
    s'.Uncounted ∧ s'.rounds = s.rounds := by
  rw [Engine.session_putSession hid hacc, Option.some.injEq] at hs'
  subst hs'
  unfold Session.Uncounted
  rw [SessionStore.reload_state, SessionStore.reload_rounds]
  exact ⟨hs, rfl⟩

theorem Act.round_of_output {r : Act} (hr : r.output = some (env, t)) :
    r.round id = t.round id := by
  unfold Act.round
  rw [hr]
  rfl

theorem Thread.round_of_ne (hid : t.id ≠ id) : t.round id = none := by
  unfold Thread.round
  cases t.phase with
  | sending => exact if_neg hid
  | called | writing | expiring | returned => rfl

namespace Serial

variable {r : Act}

theorem other (hS : Serial id h sys) (hn : sys.threads[n]? = some t) (hr : r.output = some (env, t))
    (hid : t.id ≠ id) :
    Serial id (h ++ [r])
      ⟨(t.next env sys.shared).1, sys.threads.set n (t.next env sys.shared).2⟩ := by
  have hnamed := hS.named t (List.mem_of_getElem? hn)
  refine hS.frame hn (fun hin => hid hin.1) (fun hin => hid ?_) ?_ (Thread.next_named hnamed)
    (Thread.next_session_of_ne hnamed hid) ?_
  · rw [← hin.1, Thread.next_id]
  · intro x hx hx'
    rw [hr, Option.mem_some_iff] at hx
    subst hx
    exact absurd hx' hid
  · rw [Act.round_of_output hr, Thread.round_of_ne hid]

theorem reads {raw : Bytes} (hS : Serial id h sys)
    (hn : sys.threads[n]? = some ⟨id, raw, .called⟩)
    (hr : r.output = some (env, ⟨id, raw, .called⟩))
    (hfree : ∀ u ∈ sys.threads, ¬ u.InFlight id) :
    Serial id (h ++ [r])
      ⟨sys.shared, sys.threads.set n ⟨id, raw, Thread.read env sys.shared id raw⟩⟩ := by
  have hround : r.round id = none := Act.round_of_output hr
  have hkept : r.KeepsChanges id := Act.keepsChanges_of_base hr rfl
  have hnamed : Thread.Named ⟨id, raw, Thread.read env sys.shared id raw⟩ :=
    Thread.next_named (t := ⟨id, raw, .called⟩) trivial
  have honly : ∀ (m : ℕ) (u : Thread), sys.threads[m]? = some u → u.InFlight id → m = n :=
    fun m u hm hu => absurd hu (hfree u (List.mem_of_getElem? hm))
  have hinc : r.Beyond id h := Act.beyond_of_none hround
  have hbelow : ∀ s, sys.shared.session id = some s → ∀ m, s.rounds ≤ m →
      Below id (h ++ [r]) m := by
    intro s hs m hm
    rcases hS.owner with ⟨-, hbelow⟩ | ⟨m, u, hm, hholds, -⟩
    · exact ((hbelow s hs).mono hm).append_of_none hround
    · exact absurd hholds.inFlight (hfree u (List.mem_of_getElem? hm))
  have hreads : Thread.Reads env sys.shared id raw (Thread.read env sys.shared id raw) :=
    Thread.read_reads id raw
  generalize Thread.read env sys.shared id raw = phase at hreads hnamed
  cases hreads with
  | returned o ho => exact hS.frame hn (fun hin => hin.2) (fun hin => hin.2) hkept hnamed rfl hround
  | expiring s hget =>
    have hs := Engine.session_of_get hget
    exact hS.own hn honly hkept hnamed hS.uncounted hinc
      ⟨rfl, hs, hbelow s hs _ (Int.le_refl _)⟩
  | writing s p hf =>
    have hs := Engine.session_of_get hf.get
    have hcont : (sys.shared.advanceState env s p raw).Continues s :=
      Engine.advanceState_continues (hS.uncounted s hs)
    exact hS.own hn honly hkept hnamed hS.uncounted hinc
      ⟨rfl, hs, hcont, hbelow s hs _ hcont.rounds⟩
  | sending s p hf hnew hsent =>
    have hs := Engine.session_of_get hf.get
    exact hS.own hn honly hkept hnamed hS.uncounted hinc
      ⟨rfl, hs, Engine.admits_of_sent hsent, hbelow s hs _ (Int.le_refl _)⟩

theorem sends {raw : Bytes} {start : Time} {s : Session} {p : Packet} (hS : Serial id h sys)
    (hn : sys.threads[n]? = some ⟨id, raw, .sending start s p⟩)
    (hr : r.output = some (env, ⟨id, raw, .sending start s p⟩)) :
    Serial id (h ++ [r])
      ⟨sys.shared, sys.threads.set n
        ⟨id, raw, .writing s (sys.shared.advanceState { env with start } s p raw)⟩⟩ := by
  obtain ⟨⟨-, hs, hadm, hbelow⟩, honly⟩ := hS.holds_of_inFlight hn ⟨rfl, trivial⟩
  have hround : r.round id = some (s.take p).rounds := by
    rw [Act.round_of_output hr]
    exact if_pos rfl
  have hlt := (hS.uncounted s hs).rounds_lt_take p
  have hcont : (sys.shared.advanceState { env with start } s p raw).Continues s :=
    Engine.advanceState_continues (hS.uncounted s hs)
  refine hS.own hn honly (Act.keepsChanges_of_base hr rfl) ?_ hS.uncounted ?_ ⟨rfl, hs, hcont, ?_⟩
  · exact hcont.authCtxID.trans (Engine.authCtxID_of_session hs)
  · intro r₀ hr₀ k k' hk hk'
    rw [hround, Option.some.injEq] at hk'
    rw [← hk']
    exact Int.lt_of_le_of_lt (hbelow r₀ hr₀ k hk) hlt
  · refine (hbelow.mono hcont.rounds).append fun k hk => ?_
    rw [hround, Option.some.injEq] at hk
    rw [Engine.advanceState_rounds hadm]
    exact Int.le_of_eq hk.symm

theorem writes {s : Session} {o : Outcome} (hS : Serial id h sys)
    (hn : sys.threads[n]? = some t) (hr : r.output = some (env, t)) (hpre : r.pre = sys)
    (hin : t.InFlight id) (hround : t.round id = none) (hacc : sys.shared.Accepts env)
    (hid : s.authCtxID = id) (hunc : s.Uncounted) (hbelow : Below id h s.rounds) :
    Serial id (h ++ [r])
      ⟨sys.shared.putSession env s, sys.threads.set n { t with phase := .returned o }⟩ := by
  obtain ⟨hholds, honly⟩ := hS.holds_of_inFlight hn hin
  have hround : r.round id = none := by rw [Act.round_of_output hr, hround]
  have hkept : r.KeepsChanges id := (hpre ▸ hholds).keepsChanges hr
  refine hS.extend hkept (Thread.named_of_mem_set hS.named trivial) ?_ (Act.beyond_of_none hround)
    (Or.inl ⟨fun v hv => ?_, fun s' hs' => ?_⟩)
  · exact fun s' hs' => (Engine.uncounted_putSession hid hacc hunc hs').1
  · obtain ⟨j, hj⟩ := List.getElem?_of_mem hv
    rcases getElem?_set_cases hj with ⟨-, rfl⟩ | ⟨hjn, hj⟩
    · exact fun hout => hout.2
    · exact fun hout => hjn (honly j v hj hout).symm
  · rw [(Engine.uncounted_putSession hid hacc hunc hs').2]
    exact hbelow.append_of_none hround

/-- **Step lemma.** An action keeps the invariant if calls on `id` read only while no other one is
in flight, and the store takes what they write. -/
theorem step (hS : Serial id h sys) {i : Event Thread Env} (hi : ∃ n env, i = .run n env)
    (hex : Act.Exclusive id (record (Interleaving.step Thread.next) sys i)) :
    Serial id (h ++ [record (Interleaving.step Thread.next) sys i])
      (Interleaving.step Thread.next sys i).2 := by
  obtain ⟨n, env, rfl⟩ := hi
  cases hn : sys.threads[n]? with
  | none =>
    have hstep := step_run_of_none Thread.next hn env
    have hr : (record (Interleaving.step Thread.next) sys (.run n env)).output = none :=
      congrArg Prod.fst hstep
    rw [congrArg Prod.snd hstep]
    exact hS.idle hr
  | some t =>
    have hstep := step_run Thread.next hn env
    have hr : (record (Interleaving.step Thread.next) sys (.run n env)).output = some (env, t) :=
      congrArg Prod.fst hstep
    have hmay : t.MayAct id sys env := hex (env, t) hr
    have hpre : (record (Interleaving.step Thread.next) sys (.run n env)).pre = sys := rfl
    rw [congrArg Prod.snd hstep]
    generalize record (Interleaving.step Thread.next) sys (.run n env) = r at hr hpre ⊢
    by_cases hid : t.id = id
    · have hround : Act.round id r = t.round id := Act.round_of_output hr
      have hnamed := hS.named t (List.mem_of_getElem? hn)
      obtain ⟨tid, raw, phase⟩ := t
      obtain rfl : tid = id := hid
      cases phase with
      | called => exact hS.reads hn hr (hmay rfl)
      | sending start s p => exact hS.sends hn hr
      | writing s a =>
        obtain ⟨⟨-, -, hcont, hbelow⟩, -⟩ := hS.holds_of_inFlight hn ⟨rfl, trivial⟩
        refine hS.writes hn hr hpre ⟨rfl, trivial⟩ rfl (hmay rfl) ?_ ?_ ?_
        · rw [Advance.finished_authCtxID]
          exact hnamed
        · unfold Session.Uncounted
          rw [Advance.finished_state, Advance.finished_rounds]
          exact hcont.uncounted
        · rw [Advance.finished_rounds]
          exact hbelow
      | expiring s =>
        obtain ⟨⟨-, -, hbelow⟩, -⟩ := hS.holds_of_inFlight hn ⟨rfl, trivial⟩
        refine hS.writes hn hr hpre ⟨rfl, trivial⟩ rfl (hmay rfl) ?_ nofun hbelow
        rw [Session.markTimeout_authCtxID]
        exact hnamed
      | returned o =>
        exact hS.frame hn (fun hin => hin.2) (fun hin => hin.2) (Act.keepsChanges_of_base hr rfl)
          trivial rfl hround
    · exact hS.other hn hr hid

end Serial

theorem Serial.fresh {s : Session} (hs : e.session id = some s) (hunc : s.Uncounted)
    (calls : List (String × Bytes)) : Serial id [] ⟨e, calls.map Thread.new⟩ := by
  have hcalled : ∀ t ∈ calls.map Thread.new, t.phase = .called := by
    intro t ht
    obtain ⟨c, -, rfl⟩ := List.mem_map.mp ht
    rfl
  refine ⟨fun t ht => ?_, fun s' hs' => ?_, List.Pairwise.nil,
    fun r hr => absurd hr List.not_mem_nil, Or.inl ⟨fun t ht hin => ?_, fun s' _ r hr => ?_⟩⟩
  · unfold Thread.Named
    rw [hcalled t ht]
    trivial
  · rw [hs, Option.some.injEq] at hs'
    rw [← hs']
    exact hunc
  · have := hin.2
    rw [hcalled t ht] at this
    exact this
  · exact absurd hr List.not_mem_nil

end Serial

theorem run_of_mem_acts {e : Engine} {calls : List (String × Bytes)} {schedule : List (ℕ × Env)}
    {r : Act} (hr : r ∈ acts e calls schedule) : ∃ n env, r.input = .run n env := by
  obtain ⟨x, -, hx⟩ := List.mem_map.mp (input_mem_of_mem_trace hr)
  exact ⟨x.1, x.2, hx.symm⟩

/-- **Exclusive calls forward once.** After a session was started, any calls run in any interleaving
in which a call on its context reads only while no other one is between its read and its write, and
the store takes what is written. Then no payload is handed to the router twice in a round of the
session, and no write takes back what another call has changed. -/
theorem forwarded_once_of_exclusive (e : Engine) (env : Env) (id gpsi : String) (s : Session)
    (hstart : (e.startSession env id gpsi).1 = .ok s) (calls : List (String × Bytes))
    (schedule : List (ℕ × Env))
    (hex : ∀ r ∈ acts (e.startSession env id gpsi).2 calls schedule, r.Exclusive id) :
    ForwardsOnce id (acts (e.startSession env id gpsi).2 calls schedule) ∧
      ∀ r ∈ acts (e.startSession env id gpsi).2 calls schedule, r.KeepsChanges id := by
  obtain ⟨hfresh, hs⟩ := Engine.session_startSession hstart
  have hserial : Serial id (acts (e.startSession env id gpsi).2 calls schedule)
      (final (step Thread.next) ⟨(e.startSession env id gpsi).2, calls.map Thread.new⟩
        (schedule.map fun x => .run x.1 x.2)) := by
    refine history_inv (C := fun r => (∃ n env, r.input = .run n env) ∧ Act.Exclusive id r)
      (fun h sys i hS hc => hS.step hc.1 hc.2) (Serial.fresh hs ?_ calls)
      fun r hr => ⟨run_of_mem_acts hr, hex r hr⟩
    rw [hfresh]
    exact fun _ => rfl
  refine ⟨fun raw => hserial.increasing.imp ?_, hserial.kept⟩
  intro r r' hlt k hk hk'
  exact absurd (hlt k k hk.round hk'.round) (Int.lt_irrefl k)

/-! ## Calls that overlap -/

namespace Sample

def calls : List (String × Bytes) := [("ctx", identity), ("ctx", response), ("ctx", response)]

def serial : List (ℕ × Env) :=
  [(0, env 1 (.ok (some request))), (0, env 1 (.ok (some request))),
    (0, env 1 (.ok (some request))), (1, env 2 (.ok (some success))),
    (1, env 2 (.ok (some success))), (1, env 2 (.ok (some success))),
    (2, env 2 (.ok (some success))), (2, env 2 (.ok (some success))),
    (2, env 2 (.ok (some success)))]

/-- The third call reads before the second one has written. The server accepts the peer, and does
not answer what it receives again. -/
def overlapping : List (ℕ × Env) :=
  [(0, env 1 (.ok (some request))), (0, env 1 (.ok (some request))),
    (0, env 1 (.ok (some request))), (1, env 2 (.ok (some success))),
    (2, env 2 (.error "timeout")), (1, env 2 (.ok (some success))),
    (2, env 2 (.error "timeout")), (1, env 2 (.ok (some success))),
    (2, env 2 (.error "timeout"))]

end Sample

open Sample in
theorem duplicate_answered_from_cache :
    ForwardsOnce "ctx" (acts (redisEngine.startSession start.env "ctx" "msisdn-1").2
        calls serial) ∧
      ∀ r ∈ acts (redisEngine.startSession start.env "ctx" "msisdn-1").2
        calls serial, r.KeepsChanges "ctx" :=
  forwarded_once_of_exclusive redisEngine start.env "ctx" "msisdn-1"
    (redisEngine.freshSession start.env "ctx" "msisdn-1") (by decide +kernel)
    calls serial (by decide +kernel)

open Sample in
/-- Two calls with the same payload that overlap hand it to the router twice in the second round,
and the later write takes the accepted session back to the exchange. -/
theorem duplicate_forwarded_twice :
    let h := acts (redisEngine.startSession start.env "ctx" "msisdn-1").2
      calls overlapping
    ¬ ForwardsOnce "ctx" h ∧ ¬ (∀ r ∈ h, r.KeepsChanges "ctx") ∧
      (h.map fun r => r.post.shared.stateOf "ctx").drop 7 = [some .done, some .eapExchange] := by
  refine ⟨fun honce => ?_, by decide +kernel, by decide +kernel⟩
  exact absurd (honce.length_le_one response 2) (by decide +kernel)

end NssAAF.Eap
