import NssAAF.Eap.Lifecycle

/-!
# The verdict of the AAA router

When a session is accepted, and what a final answer of the router does to it.

`success_never_invented` is the exact form of acceptance: a call reports a Success if and only if
the router answered this very call with one. `verdict_ends_session_iff` says when a final answer
ends the session: only the exchange reads the answers, the first round does not.
-/

namespace NssAAF.Eap

open Transducer

section Call

variable {e e' : Engine} {env : Env} {id : String} {raw raw' : Bytes} {o : Outcome}
  {s s' : Session} {p : Packet}

/-! ## What was forwarded -/

/-- A call that forwards a payload found the session, and the state machine took the packet. -/
structure Forwarded (e : Engine) (env : Env) (id : String) (raw : Bytes) (o : Outcome)
    (e' : Engine) (s : Session) (p : Packet) (s' : Session) : Prop where
  found : Found e env id raw s p
  fresh : ¬ s.IsRetry raw
  admits : s.Admits p
  advances : Advances e env s p raw s' o
  engine : e' = e.putSession env s'
  configured : e.aaaConfigured = true

theorem Processed.forwarded (h : Processed e env id raw o e') (hsent : o.sent = some raw') :
    raw' = raw ∧ ∃ s p s', Forwarded e env id raw o e' s p s' := by
  cases h with
  | notFound | timedOut | unparsable | retried => cases hsent
  | advanced s s' p o hf hn hadv =>
    have key : raw' = raw ∧ s.Admits p ∧ e.aaaConfigured = true := by
      cases hadv with
      | refused => cases hsent
      | unanswered err hadm hr =>
        change e.sends raw = some raw' at hsent
        unfold Engine.sends at hsent
        split_ifs at hsent with ha
        exact ⟨(Option.some.inj hsent).symm, hadm, ha⟩
      | answered r hadm hr =>
        exact ⟨(Option.some.inj hsent).symm, hadm, (Engine.answer_of_response hr).1⟩
    exact ⟨key.1, s, p, s', hf, hn, key.2.1, hadv, rfl, key.2.2⟩

/-! ## Acceptance -/

theorem Advances.outcome_session (h : Advances e env s p raw s' o) : o.session = some s' := by
  cases h <;> rfl

/-- The verdict on an answer that the state machine takes is what the caller is told. -/
theorem Advances.result_eq_verdict {r : Bytes} (h : Advances e env s p raw s' o)
    (hadm : s.Admits p) (hr : e.reply env = some r)
    (hq : s.state = .eapExchange → ∃ q, parse r = .ok q) : o.result = s.verdict r := by
  have hresp := Engine.response_eq_some_iff.mpr ⟨hr, hq⟩
  cases h with
  | refused err hno => exact absurd hadm hno
  | unanswered err _ hnone => rw [hresp] at hnone; cases hnone
  | answered r' _ hr' =>
    rw [hresp, Option.some.injEq] at hr'
    subst hr'
    rfl

theorem Advances.of_success (h : Advances e env s p raw s' o) (hv : o.result = .success) :
    s.state = .eapExchange ∧ s'.state = .done ∧ s.Admits p ∧ o.sent = some raw ∧
      ∃ r q, e.reply env = some r ∧ parse r = .ok q ∧ q.code = codeSuccess ∧
        o.message = some (newEapMessage r) := by
  cases h with
  | refused | unanswered => cases hv
  | answered r hadm hr =>
    have hv' : s.verdict r = .success := hv
    obtain ⟨hs, q, hq, hc⟩ := Session.verdict_eq_success_iff.mp hv'
    refine ⟨hs, ?_, hadm, rfl, r, q, (Engine.response_eq_some_iff.mp hr).1, hq, hc, rfl⟩
    rw [hv']
    rfl

theorem Session.take_ne_done (s : Session) (p : Packet) (hs : s.state ≠ .done) :
    (s.take p).state ≠ .done := by
  rw [Session.take_state]
  split_ifs
  · decide
  · exact hs

theorem Advances.of_done (h : Advances e env s p raw s' o) (hs : s.state ≠ .done)
    (hs' : s'.state = .done) : o.result = .success := by
  cases h with
  | refused =>
    change (s.refuse p).state = .done at hs'
    unfold Session.refuse at hs'
    split_ifs at hs'
    exact absurd hs' hs
  | unanswered => exact absurd hs' (s.take_ne_done p hs)
  | answered r hadm hr =>
    change ((s.take p).conclude (s.verdict r)).state = .done at hs'
    cases hv : s.verdict r with
    | success => rfl
    | failure => rw [hv] at hs'; cases hs'
    | pending =>
      rw [hv] at hs'
      exact absurd hs' (s.take_ne_done p hs)

theorem Processed.done_iff (h : Processed e env id raw o e') :
    e.stateOf id ≠ some .done ∧ e'.stateOf id = some .done ↔
      o.result = .success ∧ e.Accepts env := by
  cases h with
  | notFound | unparsable | retried =>
    refine iff_of_false (fun h => h.1 h.2) (fun h => ?_)
    cases h.1
  | timedOut s hget =>
    rw [Engine.stateOf_put_of_get (s.markTimeout_authCtxID _) hget,
      Engine.stateOf_eq (Engine.session_of_get hget)]
    refine iff_of_false ?_ (fun h => nomatch h.1)
    rintro ⟨h1, h2⟩
    split_ifs at h2
    · cases h2
    · exact h1 h2
  | advanced s s' p o hf hn hadv =>
    rw [Engine.stateOf_put_of_get hadv.kept.1 hf.get,
      Engine.stateOf_eq (Engine.session_of_get hf.get)]
    constructor
    · rintro ⟨h1, h2⟩
      split_ifs at h2 with hacc
      · refine ⟨hadv.of_done (fun h => h1 (by rw [h])) (Option.some.inj h2), hacc⟩
      · exact absurd h2 h1
    · rintro ⟨hv, hacc⟩
      obtain ⟨hs, hs', -⟩ := hadv.of_success hv
      rw [if_pos hacc, hs, hs']
      exact ⟨by decide, rfl⟩

/-- The call forwards a packet of the exchange, the router answers with a Success, and this is
the message returned. -/
structure Acceptance (e : Engine) (env : Env) (id : String) (raw : Bytes) (o : Outcome)
    (s : Session) (p : Packet) (resp : Bytes) (q : Packet) : Prop where
  session : e.session id = some s
  exchange : s.state = .eapExchange
  parsed : parse raw = .ok p
  expected : p.id = s.expectedID
  sent : o.sent = some raw
  answer : env.answer = .ok (some resp)
  wellFormed : parse resp = .ok q
  code : q.code = codeSuccess
  message : o.message = some (newEapMessage resp)

theorem Processed.success_iff (h : Processed e env id raw o e') :
    o.result = .success ↔ ∃ s p resp q, Acceptance e env id raw o s p resp q := by
  constructor
  · intro hv
    cases h with
    | notFound | timedOut | unparsable | retried => cases hv
    | advanced s s' p o hf hn hadv =>
      obtain ⟨hs, -, hadm, hsent, resp, q, hr, hq, hc, hm⟩ := hadv.of_success hv
      unfold Session.Admits at hadm
      rw [hs] at hadm
      exact ⟨s, p, resp, q, Engine.session_of_get hf.get, hs, hf.parsed, hadm.1, hsent,
        (Engine.reply_eq_some_iff.mp hr).2, hq, hc, hm⟩
  · rintro ⟨s, p, resp, q, ha⟩
    obtain ⟨-, s₁, p₁, s', hfw⟩ := h.forwarded ha.sent
    obtain rfl := Engine.session_unique ha.session hfw.found.get
    have hv : s.verdict resp = .success :=
      Session.verdict_eq_success_iff.mpr ⟨ha.exchange, q, ha.wellFormed, ha.code⟩
    have hr : e.reply env = some resp :=
      Engine.reply_eq_some_iff.mpr ⟨hfw.configured, ha.answer⟩
    rw [hfw.advances.result_eq_verdict hfw.admits hr (fun _ => ⟨q, ha.wellFormed⟩), hv]

end Call

/-! ## Runs -/

def Step.Accepting (id : String) (r : Step) : Prop :=
  ∃ raw o s p resp q, r.input.call = .process id raw ∧ Step.outcome id r = some o ∧
    Acceptance r.pre r.input.env id raw o s p resp q

section Run

variable {e : Engine} {i : Input} {id : String} {is : List Input}

theorem Engine.result_eq_success_iff (hk : ¬ i.call.Replaces id) :
    Step.result id (record Engine.step e i) = some .success ↔
      Step.Accepting id (record Engine.step e i) := by
  unfold Step.result
  rcases Engine.step_view hk with ⟨raw, o, hc, ho, h⟩ | ⟨-, ho⟩
  · rw [ho, Option.map_some, Option.some.injEq, h.success_iff]
    constructor
    · rintro ⟨s, p, resp, q, ha⟩
      exact ⟨raw, o, s, p, resp, q, hc, ho, ha⟩
    · rintro ⟨raw', o', s, p, resp, q, hc', ho', ha⟩
      rw [record_input, hc, Call.process.injEq] at hc'
      rw [ho, Option.some.injEq] at ho'
      obtain ⟨-, rfl⟩ := hc'
      subst ho'
      exact ⟨s, p, resp, q, ha⟩
  · rw [ho, Option.map_none]
    refine iff_of_false (fun h => nomatch h) ?_
    rintro ⟨raw', o', s, p, resp, q, -, ho', -⟩
    rw [ho] at ho'
    cases ho'

theorem Engine.step_done_iff (hk : ¬ i.call.Replaces id) :
    e.stateOf id ≠ some .done ∧ (e.step i).2.stateOf id = some .done ↔
      Step.result id (record Engine.step e i) = some .success ∧ e.Accepts i.env := by
  unfold Step.result
  rcases Engine.step_view hk with ⟨raw, o, hc, ho, h⟩ | ⟨hs, ho⟩
  · rw [ho, Option.map_some, Option.some.injEq, h.done_iff]
  · rw [ho, Option.map_none]
    refine iff_of_false ?_ (fun h => nomatch h.1)
    unfold Engine.stateOf
    rw [hs]
    exact fun h => h.1 h.2

theorem Engine.quiet_of_isTerminal {a : SessionState} (ha : e.stateOf id = some a)
    (hterm : a.IsTerminal) (hk : ∀ i ∈ is, ¬ i.call.Replaces id) {r : Step}
    (hr : r ∈ trace Engine.step e is) :
    Step.sent id r = none ∧ Step.result id r ≠ some .success := by
  obtain ⟨is₁, i, is₂, rfl, rfl⟩ := (mem_trace Engine.step).mp hr
  obtain ⟨b, hb, hbterm⟩ := Engine.stateOf_final Moves.isTerminal ha hterm
    fun j hj => hk j (List.mem_append_left _ hj)
  have hki := hk i (List.mem_append_right _ (List.mem_cons_self ..))
  unfold Step.sent Step.result
  rcases Engine.step_view hki with ⟨raw, o, hc, ho, h⟩ | ⟨-, ho⟩
  · obtain ⟨h1, h2⟩ := h.of_isTerminal hb hbterm
    rw [ho, Option.bind_some, Option.map_some]
    exact ⟨h1, fun h => h2 (Option.some.inj h)⟩
  · rw [ho]
    exact ⟨rfl, nofun⟩

/-- The session of `id` is accepted at most once, if the store takes what the accepting call
writes. -/
theorem Engine.countP_success_le_one (hk : ∀ i ∈ is, ¬ i.call.Replaces id)
    (hacc : ∀ r ∈ trace Engine.step e is,
      Step.result id r = some .success → r.pre.Accepts r.input.env) :
    (trace Engine.step e is).countP (fun r => Step.result id r = some .success) ≤ 1 := by
  induction is generalizing e with
  | nil => exact Nat.zero_le 1
  | cons i is ih =>
    have hk' : ∀ j ∈ is, ¬ j.call.Replaces id := fun j hj => hk j (List.mem_cons_of_mem _ hj)
    rw [trace_cons, List.countP_cons]
    by_cases hv : Step.result id (record Engine.step e i) = some .success
    · -- the first acceptance ends the session, and the rest of the run is quiet
      have h1 := hacc _ (List.mem_cons_self ..) hv
      have h2 := (Engine.step_done_iff (hk i (List.mem_cons_self ..))).mpr ⟨hv, h1⟩
      have h3 : (trace Engine.step (e.step i).2 is).countP
          (fun r => Step.result id r = some .success) = 0 := by
        rw [List.countP_eq_zero]
        intro r hr
        rw [decide_eq_true_eq]
        exact (Engine.quiet_of_isTerminal h2.2 (Or.inl rfl) hk' hr).2
      rw [h3, if_pos (decide_eq_true hv)]
    · rw [if_neg (by rwa [decide_eq_true_eq])]
      exact ih hk' fun r hr => hacc r (List.mem_cons_of_mem _ hr)

end Run

/-- **Success is never invented.** Along a run that neither starts nor deletes the session of
`id`, the calls that report a Success are those that accept it; the session becomes done in
exactly these calls, if the store takes the session they write; and then there is at most one. -/
theorem success_never_invented {e : Engine} {id : String} {is : List Input}
    (hk : ∀ i ∈ is, ¬ i.call.Replaces id) :
    (∀ r ∈ trace Engine.step e is,
      Step.result id r = some .success ↔ Step.Accepting id r) ∧
    (∀ r ∈ trace Engine.step e is,
      r.pre.stateOf id ≠ some .done ∧ r.post.stateOf id = some .done ↔
        Step.result id r = some .success ∧ r.pre.Accepts r.input.env) ∧
    ((∀ r ∈ trace Engine.step e is,
        Step.result id r = some .success → r.pre.Accepts r.input.env) →
      (trace Engine.step e is).countP (fun r => Step.result id r = some .success) ≤ 1) := by
  refine ⟨fun r hr => ?_, fun r hr => ?_, Engine.countP_success_le_one hk⟩
  · rw [eq_record_of_mem_trace hr]
    exact Engine.result_eq_success_iff (hk _ (input_mem_of_mem_trace hr))
  · rw [eq_record_of_mem_trace hr]
    exact Engine.step_done_iff (hk _ (input_mem_of_mem_trace hr))

/-- The sample exchange, with a Redis that does not take the session of the accepting call. -/
def Sample.lost : Input :=
  { send 2 response success with
    env := { env 2 (.ok (some success)) with putFault := some "connection refused" } }

open Sample in
/-- The write of the accepting call fails. The session stays in the exchange, the same payload is
accepted again, and one started session has two Successes. -/
theorem two_successes_after_lost_write :
    (trace Engine.step redisEngine
        (opening ++ [lost, send 3 response success])).map
        (Step.result "ctx") =
      [none, some .pending, some .success, some .success] ∧
    (final Engine.step redisEngine (opening ++ [lost])).stateOf "ctx" =
      some .eapExchange := by
  decide +kernel

open Sample in
theorem success_never_invented_sample :
    (∀ i ∈ [send 2 response success, send 3 response []],
      ¬ i.call.Replaces "ctx") ∧
    (∀ r ∈ trace Engine.step opened
        [send 2 response success, send 3 response []],
      Step.result "ctx" r = some .success ↔ Step.Accepting "ctx" r) :=
  ⟨by decide, (success_never_invented (by decide)).1⟩

/-! ## A final answer -/

theorem Session.take_not_isTerminal {s : Session} {p : Packet} (hadm : s.Admits p) :
    ¬ (s.take p).state.IsTerminal := by
  rw [Session.take_state]
  unfold Session.Admits at hadm
  cases hs : s.state with
  | init | eapExchange | completing => decide
  | idle | done | failed | timeout => rw [hs] at hadm; exact hadm.elim

theorem Advances.isTerminal_iff {e : Engine} {env : Env} {s s' : Session} {p q : Packet}
    {raw resp : Bytes} {o : Outcome} (h : Advances e env s p raw s' o) (hadm : s.Admits p)
    (hr : e.reply env = some resp) (hq : parse resp = .ok q)
    (hv : q.code = codeSuccess ∨ q.code = codeFailure) :
    s'.state.IsTerminal ↔ s.state = .eapExchange := by
  have hresp : e.response env s = some resp :=
    Engine.response_eq_some_iff.mpr ⟨hr, fun _ => ⟨q, hq⟩⟩
  cases h with
  | refused err hno => exact absurd hadm hno
  | unanswered err _ hnone => rw [hresp] at hnone; cases hnone
  | answered r _ hr' =>
    rw [hresp, Option.some.injEq] at hr'
    subst hr'
    show ((s.take p).conclude (s.verdict resp)).state.IsTerminal ↔ s.state = .eapExchange
    by_cases hs : s.state = .eapExchange
    · refine iff_of_true ?_ hs
      rcases hv with hc | hc
      · rw [Session.verdict_eq_success_iff.mpr ⟨hs, q, hq, hc⟩]
        exact Or.inl rfl
      · rw [Session.verdict_eq_failure_iff.mpr ⟨hs, q, hq, hc⟩]
        exact Or.inr (Or.inl rfl)
    · have hpend : s.verdict resp = .pending := by
        unfold Session.verdict
        rw [if_neg hs]
      rw [hpend]
      exact iff_of_false (Session.take_not_isTerminal hadm) hs

/-- **A final verdict.** The router answers a forwarded payload with a Success or a Failure. The
session has ended and stays so, with nothing forwarded and nothing accepted in any continuation
of the run, exactly if the answer came in the exchange and the store took the session. -/
theorem verdict_ends_session_iff {e : Engine} {env : Env} {id : String} {raw resp : Bytes}
    {q : Packet} (hsent : (e.process env id raw).1.sent = some raw)
    (hans : env.answer = .ok (some resp)) (hq : parse resp = .ok q)
    (hv : q.code = codeSuccess ∨ q.code = codeFailure) :
    (∀ is : List Input, (∀ i ∈ is, ¬ i.call.Replaces id) →
      (∃ b, (final Engine.step (e.process env id raw).2 is).stateOf id = some b ∧ b.IsTerminal) ∧
        ∀ r ∈ trace Engine.step (e.process env id raw).2 is,
          Step.sent id r = none ∧ Step.result id r ≠ some .success) ↔
      e.stateOf id = some .eapExchange ∧ e.Accepts env := by
  obtain ⟨-, s, p, s', hfw⟩ := (e.process_processed env id raw).forwarded hsent
  have hr : e.reply env = some resp := Engine.reply_eq_some_iff.mpr ⟨hfw.configured, hans⟩
  have hterm := hfw.advances.isTerminal_iff hfw.admits hr hq hv
  have hpost : (e.process env id raw).2.stateOf id =
      if e.Accepts env then some s'.state else some s.state := by
    rw [hfw.engine]
    exact Engine.stateOf_put_of_get hfw.advances.kept.1 hfw.found.get
  rw [Engine.stateOf_eq (Engine.session_of_get hfw.found.get), Option.some.injEq]
  constructor
  · intro h
    obtain ⟨b, hb, hbterm⟩ := (h [] (fun _ hi => nomatch hi)).1
    rw [final_nil, hpost] at hb
    split_ifs at hb with hacc
    · rw [Option.some.injEq] at hb
      exact ⟨hterm.mp (hb ▸ hbterm), hacc⟩
    · -- a session that took the packet had not ended
      rw [Option.some.injEq] at hb
      exact absurd hfw.admits (Session.not_admits_of_isTerminal (hb ▸ hbterm) p).1
  · rintro ⟨hs, hacc⟩ is hk
    rw [if_pos hacc] at hpost
    exact ⟨Engine.stateOf_final Moves.isTerminal hpost (hterm.mpr hs) hk,
      fun r hr => Engine.quiet_of_isTerminal hpost (hterm.mpr hs) hk hr⟩

open Sample in
/-- The identity is refused in the first round; the session goes on and is accepted. -/
theorem refused_identity_is_accepted :
    (trace Engine.step engine
        [start, send 1 identity Sample.failure,
          send 2 response success]).map (Step.result "ctx") =
      [none, some .pending, some .success] ∧
    (final Engine.step engine
        [start, send 1 identity Sample.failure]).stateOf "ctx" =
      some .eapExchange := by
  decide +kernel

open Sample in
theorem verdict_ends_session_sample :
    (opened.process
        (env 2 (.ok (some Sample.failure))) "ctx" response).1.sent =
      some response ∧
    ((∀ is : List Input, (∀ i ∈ is, ¬ i.call.Replaces "ctx") →
      (∃ b, (final Engine.step (opened.process
          (env 2 (.ok (some Sample.failure))) "ctx" response).2 is).stateOf "ctx" =
            some b ∧ b.IsTerminal) ∧
        ∀ r ∈ trace Engine.step (opened.process
          (env 2 (.ok (some Sample.failure))) "ctx" response).2 is,
          Step.sent "ctx" r = none ∧ Step.result "ctx" r ≠ some .success) ↔
      opened.stateOf "ctx" = some .eapExchange ∧
        opened.Accepts
          (env 2 (.ok (some Sample.failure)))) :=
  ⟨by decide +kernel, verdict_ends_session_iff (q := buildFailure 2) (by decide +kernel) rfl
    (by decide) (Or.inr rfl)⟩

end NssAAF.Eap
