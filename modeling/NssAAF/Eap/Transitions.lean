import NssAAF.Lib.Transducer
import NssAAF.Eap.Engine

/-!
# What a call of the engine can do

The inversion of `Process`: `process_processed` says in seven cases what a call returns, what it
hands to the AAA router and what it leaves in the store. All that is proved about the engine later
is proved from these cases; the handlers are not unfolded again.

A packet that reaches the state machine is refused, or taken (`Session.Admits`). One that is taken
is forwarded, and what counts as the router's answer depends on the state: in the exchange it must
be a packet, in the other states it may be anything (`Engine.response`).
-/

namespace NssAAF.Eap

/-! ## The comparison of hashes -/

theorem foldl_diff_eq_zero (l : List (UInt8 × UInt8)) (d : UInt8) :
    l.foldl (fun diff xy => diff ||| (xy.1 ^^^ xy.2)) d = 0 ↔ d = 0 ∧ ∀ xy ∈ l, xy.1 = xy.2 := by
  induction l generalizing d with
  | nil => simp
  | cons xy l ih =>
    rw [List.foldl_cons, ih, UInt8.or_eq_zero_iff, UInt8.xor_eq_zero_iff, List.forall_mem_cons,
      and_assoc]

theorem bytesEqual_iff {a b : Bytes} : bytesEqual a b = true ↔ a = b := by
  unfold bytesEqual
  rw [Bool.and_eq_true, beq_iff_eq, beq_iff_eq, foldl_diff_eq_zero]
  constructor
  · rintro ⟨hl, -, hd⟩
    refine List.ext_getElem hl fun i h1 h2 => ?_
    have hi : i < (a.zip b).length := by rw [List.length_zip]; omega
    have := hd _ (List.getElem_mem hi)
    rwa [List.getElem_zip] at this
  · rintro rfl
    refine ⟨rfl, rfl, fun xy hxy => ?_⟩
    obtain ⟨i, hi, rfl⟩ := List.mem_iff_getElem.mp hxy
    rw [List.getElem_zip]

/-! ## What the state machine does with a packet -/

namespace Session

/-- The payload is taken for a retry of the last one. -/
def IsRetry (s : Session) (raw : Bytes) : Prop :=
  s.lastNonce = sha256Hash raw ∧ s.cachedResponse ≠ none

/-- The state machine takes the packet and forwards it. -/
def Admits (s : Session) (p : Packet) : Prop :=
  match s.state with
  | .init => p.code = codeResponse
  | .eapExchange => p.id = s.expectedID ∧ s.rounds < s.maxRounds
  | .completing => True
  | _ => False

/-- The session after a packet was taken. -/
def take (s : Session) (p : Packet) : Session :=
  { s with
    expectedID := p.id + 1
    rounds := if s.state = .init then 1 else s.rounds + 1
    state := if s.state = .init then .eapExchange else s.state
    method :=
      if s.state = .init ∧ p.type = methodIdentity then detectEapMethodFromIdentity p.data
      else s.method }

/-- The session after a packet was refused: the packet that exceeds the round limit ends it. -/
def refuse (s : Session) (p : Packet) : Session :=
  if s.state = .eapExchange ∧ p.id = s.expectedID then { s with state := .failed } else s

/-- What the AMF is told about an answer of the AAA router. Only the exchange looks at it. -/
def verdict (s : Session) (response : Bytes) : AuthResult :=
  if s.state = .eapExchange then
    match parse response with
    | .error _ => .pending
    | .ok q =>
      if q.code = codeSuccess then .success else if q.code = codeFailure then .failure
      else .pending
  else .pending

/-- The session after a verdict. -/
def conclude (s : Session) : AuthResult → Session
  | .success => { s with state := .done }
  | .failure => { s with state := .failed }
  | .pending => s

def noted (s : Session) (raw : Bytes) (now : Time) : Session :=
  { s with lastNonce := sha256Hash raw, lastActivity := now }

theorem isRetry_of_cached {s : Session} {raw r : Bytes} (hn : s.lastNonce = sha256Hash raw)
    (hc : s.cachedResponse = some r) : s.IsRetry raw := by
  refine ⟨hn, ?_⟩
  rw [hc]
  exact Option.some_ne_none r

end Session

namespace Engine

/-- What the AAA router returns to a forwarded payload. -/
def reply (e : Engine) (env : Env) : Option Bytes :=
  if e.aaaConfigured then
    match env.answer with
    | .error _ => none
    | .ok response => response
  else none

/-- The payload handed to `SendEAP` when `raw` is forwarded. -/
def sends (e : Engine) (raw : Bytes) : Option Bytes := if e.aaaConfigured then some raw else none

/-- What the router returns, if the handler of the state takes it for an answer. -/
def response (e : Engine) (env : Env) (s : Session) : Option Bytes :=
  (e.reply env).filter fun r => s.state ≠ .eapExchange || (parse r).isOk

end Engine

/-- What the state machine can do with a packet: the session that is written back and what the
caller is told. -/
inductive Advances (e : Engine) (env : Env) (s : Session) (p : Packet) (raw : Bytes) :
    Session → Outcome → Prop
  | refused (err : EngineError) (hadm : ¬ s.Admits p) :
    Advances e env s p raw ((s.refuse p).noted raw env.finish)
      ⟨none, .failure, some err, none, false, some ((s.refuse p).noted raw env.finish)⟩
  | unanswered (err : EngineError) (hadm : s.Admits p) (hr : e.response env s = none) :
    Advances e env s p raw ((s.take p).noted raw env.finish)
      ⟨none, .failure, some err, e.sends raw, false, some ((s.take p).noted raw env.finish)⟩
  | answered (r : Bytes) (hadm : s.Admits p) (hr : e.response env s = some r) :
    Advances e env s p raw
      ((((s.take p).conclude (s.verdict r)).noted raw env.finish).cacheResponse r)
      ⟨some (newEapMessage r), s.verdict r, none, some raw, false,
        some ((((s.take p).conclude (s.verdict r)).noted raw env.finish).cacheResponse r)⟩

section Machine

variable {e : Engine} {env : Env} {s : Session} {p : Packet} {raw r : Bytes}

namespace Engine

theorem reply_eq_some_iff :
    e.reply env = some r ↔ e.aaaConfigured = true ∧ env.answer = .ok (some r) := by
  unfold reply
  split_ifs with ha
  · split <;> simp_all
  · simp [ha]

theorem response_eq_some_iff :
    e.response env s = some r ↔
      e.reply env = some r ∧ (s.state = .eapExchange → ∃ q, parse r = .ok q) := by
  unfold response
  rw [Option.filter_eq_some_iff, Bool.or_eq_true, decide_eq_true_eq, or_iff_not_imp_left,
    not_not]
  cases parse r <;> simp [Except.isOk, Except.toBool]

theorem answer_of_response (h : e.response env s = some r) :
    e.aaaConfigured = true ∧ env.answer = .ok (some r) :=
  reply_eq_some_iff.mp (response_eq_some_iff.mp h).1

theorem forwardToAAA_of_reply_some (h : e.reply env = some r) :
    e.forwardToAAA env raw = ⟨some r, none, some raw⟩ := by
  obtain ⟨ha, hr⟩ := reply_eq_some_iff.mp h
  unfold forwardToAAA
  rw [if_pos ha, hr]

theorem sends_of_reply_some (h : e.reply env = some r) : e.sends raw = some raw :=
  if_pos (reply_eq_some_iff.mp h).1

theorem forwardToAAA_of_reply_none (raw : Bytes) (h : e.reply env = none) :
    ∃ err, e.forwardToAAA env raw = ⟨none, err, e.sends raw⟩ := by
  unfold reply at h
  unfold forwardToAAA sends
  split_ifs at h ⊢ with ha
  · cases hans : env.answer with
    | error msg => exact ⟨_, rfl⟩
    | ok response =>
      rw [hans] at h
      subst h
      exact ⟨_, rfl⟩
  · exact ⟨_, rfl⟩

end Engine

theorem Advance.finished_of_none {a : Advance} (h : a.response = none) (now : Time) :
    a.finished (sha256Hash raw) now = a.session.noted raw now := by
  unfold Advance.finished
  rw [h]
  rfl

theorem Advance.finished_of_some {a : Advance} (h : a.response = some r) (now : Time) :
    a.finished (sha256Hash raw) now = (a.session.noted raw now).cacheResponse r := by
  unfold Advance.finished
  rw [h]
  rfl

/-! ### The three ways -/

namespace Advances

/-- What `Process` makes of the result of a handler. -/
abbrev Of (e : Engine) (env : Env) (s : Session) (p : Packet) (raw : Bytes) (a : Advance) : Prop :=
  Advances e env s p raw (a.finished (sha256Hash raw) env.finish)
    (a.outcome (a.finished (sha256Hash raw) env.finish))

variable {s' : Session} {res : Result} {err : EngineError}

theorem of_refused (hadm : ¬ s.Admits p)
    (hs : s'.noted raw env.finish = (s.refuse p).noted raw env.finish) :
    Of e env s p raw ⟨s', none, res, some err, none⟩ := by
  unfold Of
  rw [Advance.finished_of_none rfl, hs]
  exact .refused err hadm

theorem of_unanswered {sent : Option Bytes} (hadm : s.Admits p) (hr : e.response env s = none)
    (hs : s'.noted raw env.finish = (s.take p).noted raw env.finish) (hsent : sent = e.sends raw) :
    Of e env s p raw ⟨s', none, res, some err, sent⟩ := by
  subst hsent
  unfold Of
  rw [Advance.finished_of_none rfl, hs]
  exact .unanswered err hadm hr

theorem of_answered (hadm : s.Admits p) (hr : e.response env s = some r)
    (hres : authResultFromEapResult res = s.verdict r)
    (hs : (s'.noted raw env.finish).cacheResponse r =
      (((s.take p).conclude (s.verdict r)).noted raw env.finish).cacheResponse r) :
    Of e env s p raw ⟨s', some r, res, none, some raw⟩ := by
  unfold Of
  rw [Advance.finished_of_some rfl, hs]
  unfold Advance.outcome
  rw [hres]
  exact .answered r hadm hr

end Advances

namespace Engine

theorem response_of_reply_none (hr : e.reply env = none) : e.response env s = none := by
  unfold response
  rw [hr, Option.filter_none]

/-- In the exchange an answer that is no packet counts as none. -/
theorem response_of_garbled {err : ParseError} (hs : s.state = .eapExchange)
    (hr : e.reply env = some r) (hq : parse r = .error err) : e.response env s = none := by
  unfold response
  rw [hr, Option.filter_some, hs, hq]
  rfl

theorem verdict_of_exchange {q : Packet} (hs : s.state = .eapExchange)
    (hq : parse r = .ok q) :
    s.verdict r = if q.code = codeSuccess then .success
      else if q.code = codeFailure then .failure else .pending := by
  unfold Session.verdict
  rw [if_pos hs, hq]

/-- Outside the exchange the answer of the router is passed on unread. -/
theorem forward_advances {s' : Session} (hx : s.state ≠ .eapExchange) (hadm : s.Admits p)
    (hs : s'.noted raw env.finish = (s.take p).noted raw env.finish) :
    Advances.Of e env s p raw
      (match (e.forwardToAAA env raw).response with
      | none => ⟨s', none, .resultFailure, some .nilResponse, (e.forwardToAAA env raw).sent⟩
      | some response =>
        ⟨s', some response, .resultContinue, (e.forwardToAAA env raw).err,
          (e.forwardToAAA env raw).sent⟩) := by
  cases hr : e.reply env with
  | none =>
    obtain ⟨err, hf⟩ := forwardToAAA_of_reply_none raw hr
    rw [hf]
    exact .of_unanswered hadm (response_of_reply_none hr) hs rfl
  | some r =>
    have hv : s.verdict r = .pending := by unfold Session.verdict; rw [if_neg hx]
    rw [forwardToAAA_of_reply_some hr]
    refine .of_answered hadm (response_eq_some_iff.mpr ⟨hr, fun h => absurd h hx⟩) hv.symm ?_
    rw [hv, hs]
    rfl

theorem handleInit_advances (hs : s.state = .init) :
    Advances.Of e env s p raw (e.handleInit env s p raw) := by
  have hx : s.state ≠ .eapExchange := by rw [hs]; decide
  have hadm : s.Admits p ↔ p.code = codeResponse := by unfold Session.Admits; rw [hs]
  unfold handleInit
  by_cases hc : p.code = codeResponse
  · rw [if_neg (not_not.mpr hc)]
    refine forward_advances hx (hadm.mpr hc) ?_
    unfold Session.take
    simp only [hs, if_true, true_and]
    split_ifs <;> rfl
  · rw [if_pos hc]
    refine .of_refused (mt hadm.mp hc) ?_
    unfold Session.refuse
    rw [if_neg fun h => hx h.1]

theorem handleCompleting_advances (hs : s.state = .completing) :
    Advances.Of e env s p raw (e.handleCompleting env s p raw) := by
  have hx : s.state ≠ .eapExchange := by rw [hs]; decide
  have hadm : s.Admits p := by unfold Session.Admits; rw [hs]; trivial
  refine forward_advances hx hadm ?_
  unfold Session.take
  simp only [hs, reduceCtorEq, if_false, false_and]

theorem handleExchange_advances (hs : s.state = .eapExchange) :
    Advances.Of e env s p raw (e.handleExchange env s p raw) := by
  have hadm : s.Admits p ↔ p.id = s.expectedID ∧ s.rounds < s.maxRounds := by
    unfold Session.Admits
    rw [hs]
  have htake : s.take p = { s with rounds := s.rounds + 1, expectedID := p.id + 1 } := by
    unfold Session.take
    simp only [hs, reduceCtorEq, if_false, false_and]
  unfold handleExchange
  split_ifs with hid hm
  · refine .of_refused (fun h => hid (hadm.mp h).1) ?_
    unfold Session.refuse
    rw [if_neg fun h => hid h.2]
  · refine .of_refused (fun h => Int.not_le.mpr (hadm.mp h).2 hm) ?_
    unfold Session.refuse
    rw [if_pos ⟨hs, not_not.mp hid⟩]
    rfl
  · have hadm' := hadm.mpr ⟨not_not.mp hid, Int.not_le.mp hm⟩
    dsimp only
    cases hr : e.reply env with
    | none =>
      obtain ⟨err, hf⟩ := forwardToAAA_of_reply_none raw hr
      have hresp := response_of_reply_none (s := s) hr
      rw [hf]
      -- an error and a nil answer are told apart only by the text of the error
      cases err <;> exact .of_unanswered hadm' hresp (by rw [htake]; rfl) rfl
    | some r =>
      rw [forwardToAAA_of_reply_some hr]
      dsimp only
      cases hq : parse r with
      | error err =>
        have hresp := response_of_garbled hs hr hq
        exact .of_unanswered hadm' hresp (by rw [htake]; rfl) (sends_of_reply_some hr).symm
      | ok q =>
        have hresp : e.response env s = some r := response_eq_some_iff.mpr ⟨hr, fun _ => ⟨q, hq⟩⟩
        have hv := verdict_of_exchange hs hq
        dsimp only
        split_ifs at hv ⊢ <;> refine .of_answered hadm' hresp ?_ ?_ <;> rw [hv]
        all_goals first | rfl | (rw [htake]; rfl)

theorem advanceState_advances :
    Advances.Of e env s p raw (e.advanceState env s p raw) := by
  unfold advanceState
  -- the states without a handler refuse every packet and keep the session
  have hno : s.state ≠ .init → s.state ≠ .eapExchange → s.state ≠ .completing → ∀ res err,
      Advances.Of e env s p raw ⟨s, none, res, some err, none⟩ := by
    intro h1 h2 h3 res err
    refine .of_refused ?_ ?_
    · unfold Session.Admits
      cases h : s.state <;> simp_all
    · unfold Session.refuse
      rw [if_neg fun h => h2 h.1]
  cases hs : s.state with
  | init => exact handleInit_advances hs
  | eapExchange => exact handleExchange_advances hs
  | completing => exact handleCompleting_advances hs
  | idle | done | failed | timeout =>
    exact hno (by rw [hs]; decide) (by rw [hs]; decide) (by rw [hs]; decide) _ _

end Engine

end Machine

/-! ## What `Process` does -/

/-- The call finds the session `s` within its timeout, and the payload is the packet `p`. -/
structure Found (e : Engine) (env : Env) (id : String) (raw : Bytes) (s : Session) (p : Packet) :
    Prop where
  get : e.sessions.get env.start env.getFault id = .ok s
  live : ¬ s.IsTimedOut env.start
  parsed : parse raw = .ok p

/-- What a call of `Process` can do: what the caller is told and the engine it leaves. -/
inductive Processed (e : Engine) (env : Env) (id : String) (raw : Bytes) :
    Outcome → Engine → Prop
  | notFound (err : StoreError) (hget : e.sessions.get env.start env.getFault id = .error err) :
    Processed e env id raw ⟨none, .failure, some (.noSession id err), none, false, none⟩ e
  | timedOut (s : Session) (hget : e.sessions.get env.start env.getFault id = .ok s)
      (ht : s.IsTimedOut env.start) :
    Processed e env id raw
      ⟨none, .failure, some .sessionTimeout, none, false, some (s.markTimeout env.finish)⟩
      (e.putSession env (s.markTimeout env.finish))
  | unparsable (s : Session) (err : ParseError)
      (hget : e.sessions.get env.start env.getFault id = .ok s) (ht : ¬ s.IsTimedOut env.start)
      (hp : parse raw = .error err) :
    Processed e env id raw ⟨none, .failure, some (.parse err), none, false, some s⟩ e
  | retried (s : Session) (p : Packet) (r : Bytes) (hf : Found e env id raw s p)
      (hn : s.lastNonce = sha256Hash raw) (hc : s.cachedResponse = some r) :
    Processed e env id raw ⟨some (newEapMessage r), .pending, none, none, true, some s⟩ e
  | advanced (s s' : Session) (p : Packet) (o : Outcome) (hf : Found e env id raw s p)
      (hn : ¬ s.IsRetry raw) (ha : Advances e env s p raw s' o) :
    Processed e env id raw o (e.putSession env s')

theorem Engine.process_processed (e : Engine) (env : Env) (id : String) (raw : Bytes) :
    Processed e env id raw (e.process env id raw).1 (e.process env id raw).2 := by
  unfold Engine.process
  split
  · rename_i err hget
    exact .notFound err hget
  · rename_i s hget
    split_ifs with ht
    · exact .timedOut s hget ht
    · cases hp : parse raw with
      | error err => exact .unparsable s err hget ht hp
      | ok p =>
        dsimp only
        split_ifs with hn
        · rw [Bool.and_eq_true, bytesEqual_iff, Option.isSome_iff_exists] at hn
          obtain ⟨hn, r, hr⟩ := hn
          rw [hr]
          exact .retried s p r ⟨hget, ht, hp⟩ hn hr
        · refine .advanced s _ p _ ⟨hget, ht, hp⟩ ?_ Engine.advanceState_advances
          rintro ⟨h1, h2⟩
          rw [Bool.and_eq_true, bytesEqual_iff, Option.isSome_iff_ne_none] at hn
          exact hn ⟨h1, h2⟩

end NssAAF.Eap
