import NssAAF.Lib.History
import NssAAF.Lib.Interleaving
import NssAAF.Lib.Lease

/-!
# The distributed lock

`DistributedLock` of `internal/cache/redis/lock.go`. A lock is a key of Redis with a token and an
expiry. `SET NX` and the two scripts are atomic commands, so the key is the cell of a lease (module
`NssAAF.Lib.Lease`). A call sends at most one command at a time. A command may not arrive, or its
reply may be lost. `TryLock` sends `SET NX` again and again, each time with another token.

The clock is in nanoseconds, and Redis counts milliseconds. A key is there up to and including the
millisecond in which it expires, so rounding takes nothing from the time of a lock
(`ms_le_of_sub_lt`).

`Leased` is the invariant: the token of a call that was granted the lock less than `ttl` ago is
still the one in the key.
-/

namespace NssAAF.Cache.Lock

open Transducer History Interleaving Lease

/-! ## Commands -/

abbrev Store : Type := String → Option (Grant String)

/-- What a call sends: `SET NX`, `EXISTS`, and the scripts of `Unlock` and `Extend`, which compare
the token before they delete the key or set its expiry. -/
inductive Command
  | setNX (key token : String) (px : ℤ)
  | unlockScript (key token : String)
  | extendScript (key token : String) (px : ℤ)
  | probe (key : String)

namespace Command

def key : Command → String
  | .setNX key _ _ | .unlockScript key _ | .extendScript key _ _ | .probe key => key

/-- What a command does to its key, in the millisecond `now`. -/
def onCell (now : ℤ) (cell : Option (Grant String)) : Command → Bool × Option (Grant String)
  | .setNX _ token px => claim now px token cell
  | .unlockScript _ token => release now token cell
  | .extendScript _ token px => renew now px token cell
  | .probe _ => ((live now cell).isSome, cell)

def run (now : ℤ) (store : Store) (c : Command) : Bool × Store :=
  ((c.onCell now (store c.key)).1,
    fun key => if key = c.key then (c.onCell now (store c.key)).2 else store key)

end Command

/-! ## Calls -/

def millisecond : ℤ := 1000000

/-- The lock, with a positive expiry of whole milliseconds. -/
structure DistributedLock where
  ttl : ℤ
  ttl_pos : 0 < ttl
  whole : millisecond ∣ ttl

theorem defaultTTL_pos : 0 < 30000 * millisecond := by decide

/-- A `ttl` of zero stands for thirty seconds. -/
def newDistributedLock (ttl : ℤ) (hnonneg : 0 ≤ ttl) (hwhole : millisecond ∣ ttl) :
    DistributedLock :=
  if h : ttl = 0 then ⟨30000 * millisecond, defaultTTL_pos, Int.dvd_mul_left _ _⟩
  else ⟨ttl, Int.lt_iff_le_and_ne.mpr ⟨hnonneg, Ne.symm h⟩, hwhole⟩

def lockKey (resource : String) : String := "nssaa:lock:session:" ++ resource

inductive Request
  | lock (resource : String)
  | tryLock (resource : String) (timeout : ℤ)
  | unlock (resource token : String)
  | extend (resource token : String)
  | isLocked (resource : String)
  deriving DecidableEq

inductive Answer
  | token (answer : Except String String)
  | done (answer : Except String Unit)
  | locked (answer : Except String Bool)
  deriving DecidableEq

/-- Where a call is. `TryLock` has a deadline: it tries, compares the clock with the deadline, and
waits for its ticker or the end of its context. -/
inductive Phase
  | calling
  | trying (deadline : ℤ)
  | checking (deadline : ℤ)
  | waiting (deadline : ℤ)
  | returned (answer : Answer)
  deriving DecidableEq

structure Call where
  request : Request
  phase : Phase
  deriving DecidableEq

/-- What becomes of a command: it is answered, or it does not arrive, or its reply is lost. -/
inductive Link
  | answered
  | refused (err : String)
  | lost (err : String)

/-- What the environment chooses for an action: the time, the token that is drawn, what becomes of a
command, and whether the context has ended. -/
structure Turn where
  now : ℤ
  token : String
  link : Link
  ended : Option String

def ms (now : ℤ) : ℤ := now / millisecond

/-- The reply to a command, and what it does. -/
def Turn.send (i : Turn) (store : Store) (c : Command) : Except String Bool × Store :=
  match i.link with
  | .answered => (.ok (c.run (ms i.now) store).1, (c.run (ms i.now) store).2)
  | .refused err => (.error err, store)
  | .lost err => (.error err, (c.run (ms i.now) store).2)

def lockResult (token : String) : Except String Bool → Except String String
  | .error err => .error ("lock acquire: " ++ err)
  | .ok set => .ok (if set then token else "")

def unlockResult : Except String Bool → Except String Unit
  | .error err => .error ("lock release: " ++ err)
  | .ok _ => .ok ()

def extendResult : Except String Bool → Except String Unit
  | .error err => .error ("lock extend: " ++ err)
  | .ok held => if held then .ok () else .error "lock not held or token mismatch"

def isLockedResult : Except String Bool → Except String Bool
  | .error err => .error ("lock exists check: " ++ err)
  | .ok found => .ok found

namespace Call

variable (l : DistributedLock) (i : Turn)

def command : Call → Option Command
  | ⟨.lock resource, .calling⟩ => some (.setNX (lockKey resource) i.token (l.ttl / millisecond))
  | ⟨.tryLock resource _, .trying _⟩ =>
    some (.setNX (lockKey resource) i.token (l.ttl / millisecond))
  | ⟨.unlock resource token, .calling⟩ => some (.unlockScript (lockKey resource) token)
  | ⟨.extend resource token, .calling⟩ =>
    some (.extendScript (lockKey resource) token (l.ttl / millisecond))
  | ⟨.isLocked resource, .calling⟩ => some (.probe (lockKey resource))
  | _ => none

/-- The call with the reply to its command. -/
def receive (reply : Except String Bool) : Call → Phase
  | ⟨.lock _, _⟩ => .returned (.token (lockResult i.token reply))
  | ⟨.tryLock _ _, .trying deadline⟩ =>
    match lockResult i.token reply with
    | .error err => .returned (.token (.error err))
    | .ok token => if token ≠ "" then .returned (.token (.ok token)) else .checking deadline
  | ⟨.tryLock _ _, p⟩ => p
  | ⟨.unlock _ _, _⟩ => .returned (.done (unlockResult reply))
  | ⟨.extend _ _, _⟩ => .returned (.done (extendResult reply))
  | ⟨.isLocked _, _⟩ => .returned (.locked (isLockedResult reply))

/-- An action of `TryLock` that sends nothing. -/
def proceed : Call → Phase
  | ⟨.tryLock _ timeout, .calling⟩ => .trying (i.now + timeout)
  | ⟨_, .checking deadline⟩ =>
    if deadline < i.now then .returned (.token (.ok "")) else .waiting deadline
  | ⟨_, .waiting deadline⟩ =>
    match i.ended with
    | some err => .returned (.token (.error err))
    | none => .trying deadline
  | ⟨_, p⟩ => p

def next (store : Store) (t : Call) : Store × Call :=
  match t.command l i with
  | some c => ((i.send store c).2, ⟨t.request, t.receive i (i.send store c).1⟩)
  | none => (store, ⟨t.request, t.proceed i⟩)

end Call

/-! ## Mutual exclusion -/

abbrev Step : Type := Record (System Store Call) (Event Call Turn) (Option (Turn × Call))

/-- The request is `Lock` or `TryLock` for the resource. -/
def Request.Acquires (resource : String) : Request → Prop
  | .lock resource' | .tryLock resource' _ => resource' = resource
  | _ => False

/-- In this step a call returns for the first time, with this answer. -/
def Returns (l : DistributedLock) (r : Step) (i : Turn) (t : Call) (answer : Answer) : Prop :=
  r.output = some (i, t) ∧ (∀ a, t.phase ≠ .returned a) ∧
    (t.next l i r.pre.shared).2.phase = .returned answer

def Obtains (l : DistributedLock) (r : Step) (now : ℤ) (resource token : String) : Prop :=
  token ≠ "" ∧ ∃ i t, i.now = now ∧ t.request.Acquires resource ∧
    Returns l r i t (.token (.ok token))

def Extends (l : DistributedLock) (r : Step) (now : ℤ) (resource token : String) : Prop :=
  ∃ i t, i.now = now ∧ t.request = .extend resource token ∧ Returns l r i t (.done (.ok ()))

def Unlocks (r : Step) (resource token : String) : Prop :=
  ∃ i t, r.output = some (i, t) ∧ t = ⟨.unlock resource token, .calling⟩ ∧
    ∀ err, i.link ≠ .refused err

/-- After the steps `h`, the token was obtained or extended at `since`, and not unlocked
afterwards. -/
def Granted (l : DistributedLock) (h : List Step) (resource token : String) (since : ℤ) : Prop :=
  ∃ h₁ r h₂, h = h₁ ++ r :: h₂ ∧
    (Obtains l r since resource token ∨ Extends l r since resource token) ∧
    ∀ r' ∈ h₂, ¬ Unlocks r' resource token

/-- The token was granted less than `ttl` ago, and is not unlocked. -/
def Holding (l : DistributedLock) (h : List Step) (resource token : String) (now : ℤ) : Prop :=
  ∃ since, Granted l h resource token since ∧ now - since < l.ttl

/-- The call `t` acts while the token is held. The token is the one of the key, and no other is
held. No `Lock` or `TryLock` obtains the lock, and the key changes by `Unlock` and `Extend` with the
token only. -/
structure Excludes (l : DistributedLock) (h : List Step) (r : Step) (i : Turn) (t : Call)
    (resource token : String) : Prop where
  holder : ∃ g, r.pre.shared (lockKey resource) = some g ∧ g.holder = token ∧
    ms i.now ≤ g.expiresAt
  unique : ∀ token', Holding l h resource token' i.now → token' = token
  excluded : ∀ now token', ¬ Obtains l r now resource token'
  kept : t.request ≠ .unlock resource token → t.request ≠ .extend resource token →
    r.post.shared (lockKey resource) = r.pre.shared (lockKey resource)

def Exclusive (l : DistributedLock) (h : List Step) (r : Step) : Prop :=
  ∀ i t, r.output = some (i, t) → ∀ resource token, Holding l h resource token i.now →
    Excludes l h r i t resource token

/-! ## What an action does to a key -/

theorem lockKey_inj {resource resource' : String} (h : lockKey resource = lockKey resource') :
    resource = resource' := by
  have hlist := congrArg String.toList h
  unfold lockKey at hlist
  rw [String.toList_append, String.toList_append] at hlist
  exact String.toList_inj.mp (List.append_cancel_left hlist)

theorem run_of_ne {c : Command} {key : String} (h : key ≠ c.key) (now : ℤ) (store : Store) :
    (c.run now store).2 key = store key := if_neg h

theorem run_self (c : Command) (now : ℤ) (store : Store) :
    (c.run now store).2 c.key = (c.onCell now (store c.key)).2 := if_pos rfl

inductive Sends (l : DistributedLock) (i : Turn) : Call → Command → Prop
  | lock (resource : String) :
      Sends l i ⟨.lock resource, .calling⟩ (.setNX (lockKey resource) i.token (l.ttl / millisecond))
  | tryLock (resource : String) (timeout deadline : ℤ) :
      Sends l i ⟨.tryLock resource timeout, .trying deadline⟩
        (.setNX (lockKey resource) i.token (l.ttl / millisecond))
  | unlock (resource token : String) :
      Sends l i ⟨.unlock resource token, .calling⟩ (.unlockScript (lockKey resource) token)
  | extend (resource token : String) :
      Sends l i ⟨.extend resource token, .calling⟩
        (.extendScript (lockKey resource) token (l.ttl / millisecond))
  | isLocked (resource : String) :
      Sends l i ⟨.isLocked resource, .calling⟩ (.probe (lockKey resource))

section Actions

variable {l : DistributedLock} {i : Turn} {store : Store} {t : Call} {c : Command}
  {resource token : String} {now since : ℤ}

theorem sends_of_command (h : t.command l i = some c) : Sends l i t c := by
  unfold Call.command at h
  split at h
  · cases h
    exact .lock _
  · cases h
    exact .tryLock _ _ _
  · cases h
    exact .unlock _ _
  · cases h
    exact .extend _ _
  · cases h
    exact .isLocked _
  · cases h

theorem next_cases (l : DistributedLock) (i : Turn) (store : Store) (t : Call) :
    (t.next l i store).1 = store ∨
      ∃ c, Sends l i t c ∧ (∀ err, i.link ≠ .refused err) ∧
        (t.next l i store).1 = (c.run (ms i.now) store).2 := by
  unfold Call.next
  cases hc : t.command l i with
  | none => exact Or.inl rfl
  | some c =>
    dsimp only
    unfold Turn.send
    cases hlink : i.link with
    | refused err => exact Or.inl rfl
    | answered => exact Or.inr ⟨c, sends_of_command hc, by simp, rfl⟩
    | lost err => exact Or.inr ⟨c, sends_of_command hc, by simp, rfl⟩

/-- **Frame.** A command to the key of a lease that is held leaves it as it is, unless it is a
script with the token of the holder. -/
theorem onCell_of_holds {cell : Option (Grant String)} (hc : Sends l i t c) {now expiry : ℤ}
    (hholds : Holds token expiry cell) (hnow : now ≤ expiry) (hkey : c.key = lockKey resource)
    (hunlock : t.request ≠ .unlock resource token) (hextend : t.request ≠ .extend resource token) :
    (c.onCell now cell).2 = cell := by
  cases hc with
  | lock | tryLock =>
    show (claim _ _ _ _).2 = _
    rw [claim_of_holds hholds hnow]
  | unlock resource' token' =>
    obtain rfl := lockKey_inj hkey
    have hne : token' ≠ token := fun heq => hunlock (by rw [heq])
    show (release _ _ _).2 = _
    rw [release_of_holds hholds hnow hne]
  | extend resource' token' =>
    obtain rfl := lockKey_inj hkey
    have hne : token' ≠ token := fun heq => hextend (by rw [heq])
    show (Lease.renew _ _ _ _).2 = _
    rw [renew_of_holds hholds hnow hne]
  | isLocked => rfl

theorem holds_next {expiry : ℤ} (hholds : Holds token expiry (store (lockKey resource)))
    (hnow : ms i.now ≤ expiry) (hat : expiry ≤ ms i.now + l.ttl / millisecond)
    (hunlock : t = ⟨.unlock resource token, .calling⟩ → ∃ err, i.link = .refused err) :
    Holds token expiry ((t.next l i store).1 (lockKey resource)) := by
  rcases next_cases l i store t with hsame | ⟨c, hc, harrives, hstore⟩
  · rwa [hsame]
  · rw [hstore]
    by_cases hkey : lockKey resource = c.key
    · rw [hkey, run_self, ← hkey]
      cases hc with
      | lock | tryLock =>
        show Holds token expiry (claim _ _ _ _).2
        rwa [claim_of_holds hholds hnow]
      | unlock resource' token' =>
        obtain rfl := lockKey_inj hkey
        have hne : token' ≠ token := by
          rintro rfl
          obtain ⟨err, hrefused⟩ := hunlock rfl
          exact harrives err hrefused
        show Holds token expiry (release _ _ _).2
        rwa [release_of_holds hholds hnow hne]
      | extend resource' token' => exact hholds.renew hnow hat token'
      | isLocked => exact hholds
    · rwa [run_of_ne hkey]

/-- The rounding to milliseconds: within `ttl` of a time the millisecond is at most `ttl` later. -/
theorem ms_le_of_sub_lt (l : DistributedLock) (h : now - since < l.ttl) :
    ms now ≤ ms since + l.ttl / millisecond := by
  obtain ⟨k, hk⟩ := l.whole
  unfold ms millisecond at *
  omega

theorem of_send_ok {reply : Bool} (h : (i.send store c).1 = .ok reply) :
    (c.run (ms i.now) store).1 = reply ∧ (i.send store c).2 = (c.run (ms i.now) store).2 := by
  unfold Turn.send at h ⊢
  cases hlink : i.link with
  | refused err | lost err =>
    rw [hlink] at h
    cases h
  | answered =>
    rw [hlink] at h
    exact ⟨Except.ok.inj h, rfl⟩

theorem of_lockResult_send (h : lockResult i.token (i.send store c).1 = .ok token)
    (htoken : token ≠ "") :
    i.token = token ∧ (c.run (ms i.now) store).1 = true ∧
      (i.send store c).2 = (c.run (ms i.now) store).2 := by
  cases hsend : (i.send store c).1 with
  | error err =>
    rw [hsend] at h
    cases h
  | ok set =>
    rw [hsend] at h
    cases set with
    | false => exact absurd (Except.ok.inj h).symm htoken
    | true => exact ⟨Except.ok.inj h, of_send_ok hsend⟩

theorem of_extendResult_send (h : extendResult (i.send store c).1 = .ok ()) :
    (c.run (ms i.now) store).1 = true ∧ (i.send store c).2 = (c.run (ms i.now) store).2 := by
  cases hsend : (i.send store c).1 with
  | error err =>
    rw [hsend] at h
    cases h
  | ok held =>
    rw [hsend] at h
    cases held with
    | false => cases h
    | true => exact of_send_ok hsend

theorem proceed_answer (hactive : ∀ a, t.phase ≠ .returned a) {answer : Answer}
    (h : t.proceed i = .returned answer) :
    answer = .token (.ok "") ∨ ∃ err, answer = .token (.error err) := by
  obtain ⟨request, phase⟩ := t
  cases phase with
  | calling => cases request <;> cases h
  | trying deadline => cases request <;> cases h
  | checking deadline =>
    have hproceed : Call.proceed i ⟨request, .checking deadline⟩ =
        if deadline < i.now then .returned (.token (.ok "")) else .waiting deadline := by
      cases request <;> rfl
    rw [hproceed] at h
    split_ifs at h
    exact Or.inl (Phase.returned.inj h).symm
  | waiting deadline =>
    have hproceed : Call.proceed i ⟨request, .waiting deadline⟩ =
        match i.ended with
        | some err => .returned (.token (.error err))
        | none => .trying deadline := by
      cases request <;> rfl
    rw [hproceed] at h
    cases hended : i.ended with
    | none => simp [hended] at h
    | some err =>
      rw [hended] at h
      exact Or.inr ⟨err, (Phase.returned.inj h).symm⟩
  | returned answer => exact absurd rfl (hactive answer)

theorem returned_cases (hactive : ∀ a, t.phase ≠ .returned a) {answer : Answer}
    (hret : (t.next l i store).2.phase = .returned answer) :
    (answer = .token (.ok "") ∨ ∃ err, answer = .token (.error err)) ∨
      ∃ c, Sends l i t c ∧ (t.next l i store).1 = (i.send store c).2 ∧
        t.receive i (i.send store c).1 = .returned answer := by
  unfold Call.next at hret ⊢
  cases hcommand : t.command l i with
  | none =>
    rw [hcommand] at hret
    exact Or.inl (proceed_answer hactive hret)
  | some c =>
    rw [hcommand] at hret
    exact Or.inr ⟨c, sends_of_command hcommand, rfl, hret⟩

theorem claimed_of_token (hreq : t.request.Acquires resource) (htoken : token ≠ "")
    (hactive : ∀ a, t.phase ≠ .returned a)
    (hret : (t.next l i store).2.phase = .returned (.token (.ok token))) :
    (claim (ms i.now) (l.ttl / millisecond) token (store (lockKey resource))).1 = true ∧
      (t.next l i store).1 (lockKey resource) =
        (claim (ms i.now) (l.ttl / millisecond) token (store (lockKey resource))).2 := by
  rcases returned_cases hactive hret with (hempty | ⟨err, herr⟩) | ⟨c, hc, hnext, hreply⟩
  · exact absurd (Except.ok.inj (Answer.token.inj hempty)) htoken
  · cases herr
  · have hresult : c = .setNX (lockKey resource) i.token (l.ttl / millisecond) ∧
        lockResult i.token (i.send store c).1 = .ok token := by
      cases hc with
      | lock resource' =>
        obtain rfl : resource' = resource := hreq
        exact ⟨rfl, Answer.token.inj (Phase.returned.inj hreply)⟩
      | tryLock resource' timeout deadline =>
        obtain rfl : resource' = resource := hreq
        refine ⟨rfl, ?_⟩
        unfold Call.receive at hreply
        dsimp only at hreply
        split at hreply
        · cases hreply
        · next tok htok =>
          split_ifs at hreply
          rw [htok, Except.ok.injEq]
          exact Except.ok.inj (Answer.token.inj (Phase.returned.inj hreply))
      | unlock | extend | isLocked => exact hreq.elim
    obtain ⟨rfl, hlock⟩ := hresult
    obtain ⟨rfl, hclaimed, hstore⟩ := of_lockResult_send hlock htoken
    exact ⟨hclaimed, by rw [hnext, hstore]; exact if_pos rfl⟩

theorem renewed_of_done (hreq : t.request = .extend resource token)
    (hactive : ∀ a, t.phase ≠ .returned a)
    (hret : (t.next l i store).2.phase = .returned (.done (.ok ()))) :
    (Lease.renew (ms i.now) (l.ttl / millisecond) token (store (lockKey resource))).1 = true ∧
      (t.next l i store).1 (lockKey resource) =
        (Lease.renew (ms i.now) (l.ttl / millisecond) token (store (lockKey resource))).2 := by
  rcases returned_cases hactive hret with (hempty | ⟨err, herr⟩) | ⟨c, hc, hnext, hreply⟩
  · cases hempty
  · cases herr
  · cases hc with
    | lock | tryLock | unlock | isLocked => cases hreq
    | extend resource' token' =>
      cases hreq
      have hdone : extendResult (i.send store
          (.extendScript (lockKey resource) token (l.ttl / millisecond))).1 = .ok () :=
        Answer.done.inj (Phase.returned.inj hreply)
      obtain ⟨hheld, hstore⟩ := of_extendResult_send hdone
      exact ⟨hheld, by rw [hnext, hstore]; exact if_pos rfl⟩

end Actions

/-! ## Runs -/

def times (h : List Step) : List ℤ := h.filterMap fun r => r.output.map fun p => p.1.now

def Later (h : List Step) (r : Step) : Prop :=
  ∀ time ∈ times h, ∀ i t, r.output = some (i, t) → time ≤ i.now

/-- The invariant: as long as no step is `ttl` after the grant, the token has the lease for `ttl`
from the grant on. -/
def Leased (l : DistributedLock) (h : List Step) (s : System Store Call) : Prop :=
  ∀ resource token since, Granted l h resource token since →
    (∀ time ∈ times h, time - since < l.ttl) →
    Holds token (ms since + l.ttl / millisecond) (s.shared (lockKey resource))

section Runs

variable {l : DistributedLock} {h : List Step} {r : Step} {s : System Store Call} {n : ℕ} {i : Turn}
  {t : Call} {e : Event Call Turn} {resource token : String} {since : ℤ}

theorem granted_concat (hgranted : Granted l (h ++ [r]) resource token since) :
    (Granted l h resource token since ∧ ¬ Unlocks r resource token) ∨
      Obtains l r since resource token ∨ Extends l r since resource token := by
  obtain ⟨h₁, r', h₂, hsplit, hgrant, hkept⟩ := hgranted
  rcases List.eq_nil_or_concat h₂ with rfl | ⟨h₂, r'', rfl⟩
  · obtain ⟨-, hlast⟩ := List.append_inj' hsplit rfl
    obtain rfl := List.singleton_inj.mp hlast
    exact Or.inr hgrant
  · rw [List.concat_eq_append, ← List.cons_append, ← List.append_assoc] at hsplit
    obtain ⟨rfl, hlast⟩ := List.append_inj' hsplit rfl
    obtain rfl := List.singleton_inj.mp hlast
    refine Or.inl ⟨⟨h₁, r', h₂, rfl, hgrant, fun r'' hr'' => hkept r'' ?_⟩, hkept r ?_⟩
    · rw [List.concat_eq_append]
      exact List.mem_append_left _ hr''
    · rw [List.concat_eq_append]
      exact List.mem_append_right _ (List.mem_singleton_self r)

theorem mem_times_of_output (hr : r ∈ h) (hout : r.output = some (i, t)) : i.now ∈ times h :=
  List.mem_filterMap.mpr ⟨r, hr, by rw [hout]; rfl⟩

theorem times_concat : times h ⊆ times (h ++ [r]) := by
  unfold times
  rw [List.filterMap_append]
  exact List.subset_append_left _ _

theorem Granted.mem_times (hgranted : Granted l h resource token since) : since ∈ times h := by
  obtain ⟨h₁, r, h₂, rfl, hgrant, -⟩ := hgranted
  have hr : r ∈ h₁ ++ r :: h₂ := List.mem_append_right _ (List.mem_cons_self ..)
  rcases hgrant with ⟨-, i, t, rfl, -, hout, -⟩ | ⟨i, t, rfl, -, hout, -⟩
  · exact mem_times_of_output hr hout
  · exact mem_times_of_output hr hout

theorem holds_of_grant (hran : ran s e = some (i, t))
    (hgrant : Obtains l (record (step (Call.next l)) s e) since resource token ∨
      Extends l (record (step (Call.next l)) s e) since resource token) :
    Holds token (ms since + l.ttl / millisecond) ((t.next l i s.shared).1 (lockKey resource)) := by
  rcases hgrant with ⟨htoken, i', t', rfl, hreq, hout, hactive, hret⟩ |
    ⟨i', t', rfl, hreq, hout, hactive, hret⟩
  · obtain ⟨rfl, rfl⟩ := Prod.mk.inj (Option.some.inj (hran.symm.trans hout))
    obtain ⟨hclaimed, hcell⟩ := claimed_of_token hreq htoken hactive hret
    exact hcell ▸ holds_of_claim hclaimed
  · obtain ⟨rfl, rfl⟩ := Prod.mk.inj (Option.some.inj (hran.symm.trans hout))
    obtain ⟨hrenewed, hcell⟩ := renewed_of_done hreq hactive hret
    exact hcell ▸ holds_of_renew hrenewed

theorem Leased.step (hs : Leased l h s)
    (hlater : Later h (record (Interleaving.step (Call.next l)) s e)) :
    Leased l (h ++ [record (Interleaving.step (Call.next l)) s e])
      (Interleaving.step (Call.next l) s e).2 := by
  intro resource token since hgranted htimes
  cases hran : ran s e with
  | none =>
    -- nobody acts, and what was granted was granted before
    rw [shared_step_of_idle _ hran]
    rcases granted_concat hgranted with ⟨hbefore, -⟩ | hgrant
    · exact hs _ _ _ hbefore fun time hmem => htimes time (times_concat hmem)
    · have hout : (record (Interleaving.step (Call.next l)) s e).output = none := hran
      rcases hgrant with ⟨-, i, t, -, -, hsome, -⟩ | ⟨i, t, -, -, hsome, -⟩
      · rw [hout] at hsome
        cases hsome
      · rw [hout] at hsome
        cases hsome
  | some p =>
    obtain ⟨i, t⟩ := p
    rw [shared_step _ hran]
    rcases granted_concat hgranted with ⟨hbefore, hno⟩ | hgrant
    · have hholds := hs _ _ _ hbefore fun time hmem => htimes time (times_concat hmem)
      have hsince : since ≤ i.now := hlater since hbefore.mem_times i t hran
      have hnow : i.now - since < l.ttl :=
        htimes i.now
          (mem_times_of_output (List.mem_append_right _ (List.mem_singleton_self _)) hran)
      have hexpiry : ms since + l.ttl / millisecond ≤ ms i.now + l.ttl / millisecond :=
        Int.add_le_add_right (Int.ediv_le_ediv (by decide) hsince) _
      refine holds_next hholds (ms_le_of_sub_lt l hnow) hexpiry fun ht => ?_
      by_contra hnone
      exact hno ⟨i, t, hran, ht, not_exists.mp hnone⟩
    · exact holds_of_grant hran hgrant

theorem Leased.exclusive (hs : Leased l h s)
    (hlater : Later h (record (Interleaving.step (Call.next l)) s e)) :
    Exclusive l h (record (Interleaving.step (Call.next l)) s e) := by
  intro i t hran resource token hholding
  have hlease : ∀ token', Holding l h resource token' i.now →
      ∃ expiry, Holds token' expiry (s.shared (lockKey resource)) ∧ ms i.now ≤ expiry := by
    rintro token' ⟨since, hgranted, hnow⟩
    refine ⟨_, hs _ _ _ hgranted fun time hmem => ?_, ms_le_of_sub_lt l hnow⟩
    have := hlater time hmem i t hran
    omega
  obtain ⟨expiry, hholds, hnow⟩ := hlease token hholding
  refine ⟨?_, ?_, ?_, ?_⟩
  · obtain ⟨g, hcell, hholder, hexpiry⟩ := hholds
    exact ⟨g, hcell, hholder, Int.le_trans hnow hexpiry⟩
  · intro token' hholding'
    obtain ⟨expiry', hholds', -⟩ := hlease token' hholding'
    exact hholds.unique hholds'
  · rintro now token' ⟨htoken, i', t', -, hreq, hout, hactive, hret⟩
    obtain ⟨rfl, rfl⟩ := Prod.mk.inj (Option.some.inj (hran.symm.trans hout))
    obtain ⟨hclaimed, -⟩ := claimed_of_token hreq htoken hactive hret
    rw [record_pre, claim_of_holds hholds hnow] at hclaimed
    cases hclaimed
  · intro hunlock hextend
    rw [record_post, shared_step _ hran, record_pre]
    rcases next_cases l i s.shared t with hsame | ⟨c, hc, -, hstore⟩
    · rw [hsame]
    · rw [hstore]
      by_cases hkey : lockKey resource = c.key
      · rw [hkey, run_self]
        exact onCell_of_holds hc (hkey ▸ hholds) hnow hkey.symm hunlock hextend
      · exact run_of_ne hkey _ _

theorem later_of_sorted (l : DistributedLock) (s : System Store Call) {es : List (Event Call Turn)}
    (hes : ((es.filterMap chosen).map Turn.now).Pairwise (· ≤ ·)) :
    Along (step (Call.next l)) s Later es := by
  rintro es₁ e es₂ rfl time hmem i t hran
  obtain ⟨r, hr, hout⟩ := List.mem_filterMap.mp hmem
  obtain ⟨⟨i', t'⟩, hran', rfl⟩ := Option.map_eq_some_iff.mp hout
  rw [output_of_mem_trace hr] at hran'
  have hbefore : i' ∈ es₁.filterMap chosen :=
    List.mem_filterMap.mpr ⟨r.input, input_mem_of_mem_trace hr, chosen_of_ran hran'⟩
  have hafter : i ∈ (e :: es₂).filterMap chosen :=
    List.mem_filterMap.mpr ⟨e, List.mem_cons_self .., chosen_of_ran hran⟩
  rw [List.filterMap_append, List.map_append, List.pairwise_append] at hes
  exact hes.2.2 _ (List.mem_map_of_mem hbefore) _ (List.mem_map_of_mem hafter)

end Runs

def schedule (es : List (Event Request Turn)) : List (Event Call Turn) :=
  es.map (mapStart fun request => ⟨request, .calling⟩)

def emptyStore : Store := fun _ => none

/-- **Mutual exclusion.** In every interleaving of calls at times that do not decrease, with
commands that do not arrive and replies that are lost: while a token that was obtained or extended
less than `ttl` ago is not unlocked, no other `Lock` or `TryLock` for the resource obtains it, and
no call with another token changes the holder or the expiry. -/
theorem lock_mutual_exclusion (l : DistributedLock) (es : List (Event Request Turn))
    (hes : ((es.filterMap chosen).map Turn.now).Pairwise (· ≤ ·)) :
    Along (step (Call.next l)) ⟨emptyStore, []⟩ (Exclusive l) (schedule es) := by
  have hsorted : (((schedule es).filterMap chosen).map Turn.now).Pairwise (· ≤ ·) := by
    rwa [schedule, filterMap_chosen_mapStart]
  refine along_of_inv (J := Leased l) (C := Later) (fun _ _ _ hs hlater => hs.step hlater)
    (fun _ _ _ hs hlater => hs.exclusive hlater) ?_ (later_of_sorted l _ hsorted)
  rintro resource token since ⟨h₁, r, h₂, hnil, -⟩
  exact absurd hnil (by simp)

namespace Scenario

theorem ttl_nonneg : 0 ≤ 2 * millisecond := by decide

/-- A lock of two milliseconds. -/
def lock : DistributedLock :=
  newDistributedLock (2 * millisecond) ttl_nonneg (Int.dvd_mul_left _ _)

/-- The action of a call at a time, in which a token would be drawn. -/
def acts (n : ℕ) (now : ℤ) (token : String) : Event Request Turn :=
  .run n ⟨now, token, .answered, none⟩

/-- The first call locks. A `TryLock` obtains the lock when the first token has expired. The first
call unlocks too late. -/
def run : List (Event Request Turn) :=
  [.start (.lock "s"), .start (.tryLock "s" (10 * millisecond)), .start (.unlock "s" "a"),
    acts 0 900000 "a", acts 1 1000000 "", acts 1 2800000 "b", acts 1 2850000 "", acts 1 2900000 "",
    acts 1 3000000 "c", acts 2 4000000 ""]

end Scenario

theorem lock_handed_over :
    Along (step (Call.next Scenario.lock)) ⟨emptyStore, []⟩ (Exclusive Scenario.lock)
      (schedule Scenario.run) ∧
    (final (step (Call.next Scenario.lock)) ⟨emptyStore, []⟩ (schedule Scenario.run)).threads.map
        Call.phase =
      [.returned (.token (.ok "a")), .returned (.token (.ok "c")), .returned (.done (.ok ()))] ∧
    (final (step (Call.next Scenario.lock)) ⟨emptyStore, []⟩ (schedule Scenario.run)).shared
      (lockKey "s") = some ⟨"c", 5⟩ :=
  ⟨lock_mutual_exclusion Scenario.lock Scenario.run (by decide), by decide +kernel,
    by decide +kernel⟩

end NssAAF.Cache.Lock
