import NssAAF.Eap.Verdict

/-!
# Repeated payloads

The engine recognises a payload that arrives twice in a row by its hash and answers it from the
cache. The hash is stored with every call that reaches the state machine, the response only with
an answer of the router, and this is where the two come apart.

* `retry_answers_own_forward`: when the cache answers a payload with the answer to that payload.
* `retry_idempotent_iff`: when a repeated call repeats the result of the first one.
* `failed_forward_iff`: when a payload that the router did not answer can be sent again.
-/

namespace NssAAF.Eap

open Transducer

section Call

variable {e e' : Engine} {env : Env} {id : String} {raw r : Bytes} {o : Outcome} {s : Session}
  {p : Packet}

theorem Found.session_eq {s' : Session} (hf : Found e env id raw s p)
    (hget : e.sessions.get env.start env.getFault id = .ok s') : s' = s := by
  have := hf.get
  rw [hget, Except.ok.injEq] at this
  exact this

theorem Processed.of_found (h : Processed e env id raw o e') (hf : Found e env id raw s p) :
    (∃ r, s.lastNonce = sha256Hash raw ∧ s.cachedResponse = some r ∧ e' = e ∧
        o = ⟨some (newEapMessage r), .pending, none, none, true, some s⟩) ∨
      (¬ s.IsRetry raw ∧ ∃ s', Advances e env s p raw s' o ∧ e' = e.putSession env s') := by
  cases h with
  | notFound err hget =>
    rw [hf.get] at hget
    cases hget
  | timedOut s₁ hget ht =>
    obtain rfl := hf.session_eq hget
    exact absurd ht hf.live
  | unparsable s₁ err hget ht hp =>
    rw [hf.parsed] at hp
    cases hp
  | retried s₁ p₁ r hf₁ hn hc =>
    obtain rfl := hf.session_eq hf₁.get
    exact Or.inl ⟨r, hn, hc, rfl, rfl⟩
  | advanced s₁ s' p₁ o hf₁ hn hadv =>
    obtain rfl := hf.session_eq hf₁.get
    have hp := hf₁.parsed
    rw [hf.parsed, Except.ok.injEq] at hp
    subst hp
    exact Or.inr ⟨hn, s', hadv, rfl⟩

theorem Processed.of_isRetry (h : Processed e env id raw o e') (hf : Found e env id raw s p)
    (hn : s.lastNonce = sha256Hash raw) (hc : s.cachedResponse = some r) :
    e' = e ∧ o = ⟨some (newEapMessage r), .pending, none, none, true, some s⟩ := by
  rcases h.of_found hf with ⟨r', -, hc', he, ho⟩ | ⟨hno, -⟩
  · rw [hc, Option.some.injEq] at hc'
    subst hc'
    exact ⟨he, ho⟩
  · exact absurd (Session.isRetry_of_cached hn hc) hno

theorem Processed.isRetry_of_message (h : Processed e env id raw o e')
    (hf : Found e env id raw s p) (hm : o.message ≠ none) (hsent : o.sent = none) :
    s.IsRetry raw := by
  rcases h.of_found hf with ⟨r, hn, hc, -, -⟩ | ⟨-, s', hadv, -⟩
  · exact Session.isRetry_of_cached hn hc
  · cases hadv with
    | refused | unanswered => exact absurd rfl hm
    | answered => cases hsent

theorem Processed.of_retried (h : Processed e env id raw o e') (hr : o.retried = true) :
    ∃ s p r, Found e env id raw s p ∧ o.message = some (newEapMessage r) ∧
      s.lastNonce = sha256Hash raw ∧ s.cachedResponse = some r := by
  cases h with
  | notFound | timedOut | unparsable => cases hr
  | retried s p r hf hn hc => exact ⟨s, p, r, hf, rfl, hn, hc⟩
  | advanced s s' p o hf hn hadv => cases hadv <;> cases hr

theorem Processed.sent_of_admits (h : Processed e env id raw o e') (hf : Found e env id raw s p)
    (hn : ¬ s.IsRetry raw) (hadm : s.Admits p) (ha : e.aaaConfigured = true) :
    o.sent = some raw := by
  rcases h.of_found hf with ⟨r, hn', hc, -, -⟩ | ⟨-, s', hadv, -⟩
  · exact absurd (Session.isRetry_of_cached hn' hc) hn
  · cases hadv with
    | refused err hno => exact absurd hadm hno
    | unanswered => exact if_pos ha
    | answered => rfl

end Call

/-! ## A payload the router did not answer -/

theorem Advances.session_of_no_answer {e : Engine} {env : Env} {raw : Bytes} {o : Outcome}
    {s s' : Session} {p : Packet} (h : Advances e env s p raw s' o) (hadm : s.Admits p)
    (hans : ∀ resp, env.answer ≠ .ok (some resp)) : s' = (s.take p).noted raw env.finish := by
  cases h with
  | refused err hno => exact absurd hadm hno
  | unanswered => rfl
  | answered r _ hr => exact absurd (Engine.answer_of_response hr).2 (hans r)

/-- **A failed forward.** The router answers a forwarded payload with an error or with nothing.
The session keeps its state, round count and expected identifier, and the payload can be sent
again, exactly if the store does not take the session. -/
theorem failed_forward_iff {e : Engine} {env : Env} {id : String} {raw : Bytes} {s : Session}
    (hs : e.session id = some s) (hsent : (e.process env id raw).1.sent = some raw)
    (hans : ∀ resp, env.answer ≠ .ok (some resp)) :
    ((∃ s', (e.process env id raw).2.session id = some s' ∧ s'.state = s.state ∧
        s'.rounds = s.rounds ∧ s'.expectedID = s.expectedID) ∧
      ∀ env' s', (e.process env id raw).2.sessions.get env'.start env'.getFault id = .ok s' →
        ¬ s'.IsTimedOut env'.start →
        ((e.process env id raw).2.process env' id raw).1.sent = some raw) ↔
      ¬ e.Accepts env := by
  obtain ⟨-, s₁, p, s', hfw⟩ := (e.process_processed env id raw).forwarded hsent
  obtain rfl := Engine.session_unique hs hfw.found.get
  have hs' := hfw.advances.session_of_no_answer hfw.admits hans
  rw [hfw.engine]
  constructor
  · rintro ⟨⟨s₂, hs₂, hstate, hrounds, -⟩, -⟩ hacc
    rw [Engine.session_put_of_get hfw.advances.kept.1 hfw.found.get, if_pos hacc,
      Option.some.injEq] at hs₂
    rw [← hs₂, SessionStore.reload_state, hs'] at hstate
    rw [← hs₂, SessionStore.reload_rounds, hs'] at hrounds
    -- a first packet opens the exchange, a later one counts a round
    change (if s.state = .init then SessionState.eapExchange else s.state) = s.state at hstate
    change (if s.state = .init then (1 : ℤ) else s.rounds + 1) = s.rounds at hrounds
    split_ifs at hstate hrounds with hinit
    · rw [hinit] at hstate
      cases hstate
    · omega
  · intro hacc
    rw [Engine.putSession_refused hacc]
    refine ⟨⟨s, hs, rfl, rfl, rfl⟩, fun env' s₂ hget hlive => ?_⟩
    obtain rfl := Engine.session_unique hs hget
    exact (e.process_processed env' id raw).sent_of_admits ⟨hget, hlive, hfw.found.parsed⟩
      hfw.fresh hfw.admits hfw.configured

/-- The router fails while the Response is forwarded. -/
def Sample.unreachable : Input := ⟨.process "ctx" response, env 2 (.error "unreachable")⟩

open Sample in
/-- The router fails once. The round is counted, and the same Response is not forwarded again: its
hash is on file, and it is answered with the cached Request. -/
theorem failed_forward_uses_round :
    (trace Engine.step engine
        (opening ++ [unreachable, send 3 response success])).map
        (Step.sent "ctx") =
      [none, some identity, some response, none] ∧
    (opened.session "ctx").map (fun s => (s.rounds, s.expectedID)) = some (1, 2) ∧
    ((opened.step unreachable).2.session "ctx").map
      (fun s => (s.rounds, s.expectedID)) = some (2, 3) := by
  decide +kernel

/-- Neither the router nor Redis can be reached. -/
def Sample.isolatedEnv : Env :=
  { env 2 (.error "unreachable") with putFault := some "connection refused" }

open Sample in
/-- Redis does not take the session after a failed forward, and the session is as it was. -/
theorem failed_forward_without_write :
    ∃ s s', openedRedis.session "ctx" = some s ∧
      (openedRedis.process isolatedEnv "ctx" response).2.session "ctx" =
        some s' ∧
      s'.state = s.state ∧ s'.rounds = s.rounds ∧ s'.expectedID = s.expectedID := by
  have hs : (openedRedis.session "ctx").isSome = true := by decide +kernel
  obtain ⟨s, hs⟩ := Option.isSome_iff_exists.mp hs
  have hsent : (openedRedis.process isolatedEnv "ctx" response).1.sent =
      some response := by decide +kernel
  obtain ⟨⟨s', hs', heq⟩, -⟩ := (failed_forward_iff hs hsent nofun).mpr nofun
  exact ⟨s, s', hs, hs', heq⟩

/-! ## The result of a repeated call -/

/-- The second call returns what the first one returned, forwards nothing, and leaves the state,
the round count and the expected identifier of the session `s` it found. -/
structure Repeats (first second : Outcome) (s : Session) (e : Engine) (id : String) : Prop where
  message : second.message = first.message
  result : second.result = first.result
  sent : second.sent = none
  session : ∃ s', e.session id = some s' ∧ s'.state = s.state ∧ s'.rounds = s.rounds ∧
    s'.expectedID = s.expectedID

section Repeat

variable {e e₂ : Engine} {env : Env} {id : String} {raw : Bytes} {o₁ o₂ : Outcome} {s : Session}
  {p : Packet}

/-- A repeated call can only repeat from the cache, where the result is always pending. -/
theorem Processed.repeats_iff (h : Processed e env id raw o₂ e₂) (hf : Found e env id raw s p)
    (hm : o₁.message ≠ none) :
    Repeats o₁ o₂ s e₂ id ↔
      s.lastNonce = sha256Hash raw ∧ s.cachedResponse.map newEapMessage = o₁.message ∧
        o₁.result = .pending := by
  constructor
  · intro hrep
    have hm₂ : o₂.message ≠ none := by rw [hrep.message]; exact hm
    obtain ⟨hn, hc⟩ := h.isRetry_of_message hf hm₂ hrep.sent
    obtain ⟨r, hr⟩ := Option.ne_none_iff_exists'.mp hc
    obtain ⟨-, ho⟩ := h.of_isRetry hf hn hr
    have h1 := hrep.message
    have h2 := hrep.result
    rw [ho] at h1 h2
    rw [hr]
    exact ⟨hn, h1, h2.symm⟩
  · rintro ⟨hn, hc, hres⟩
    have hne : s.cachedResponse ≠ none := by
      intro h
      rw [h] at hc
      exact hm hc.symm
    obtain ⟨r, hr⟩ := Option.ne_none_iff_exists'.mp hne
    obtain ⟨he, ho⟩ := h.of_isRetry hf hn hr
    rw [hr] at hc
    rw [he, ho]
    exact ⟨hc, hres.symm, rfl, s, Engine.session_of_get hf.get, rfl, rfl, rfl⟩

theorem Processed.of_err_none {e' : Engine} {o : Outcome} (h : Processed e env id raw o e')
    (herr : o.err = none) :
    ∃ s p r, Found e env id raw s p ∧ o.message = some (newEapMessage r) ∧
      ((o.result = .pending ∧ s.lastNonce = sha256Hash raw ∧ s.cachedResponse = some r ∧ e' = e) ∨
        (o.result = s.verdict r ∧ ¬ s.IsRetry raw ∧ env.answer = .ok (some r) ∧
          ∃ s', s'.authCtxID = s.authCtxID ∧ s'.lastNonce = sha256Hash raw ∧
            s'.cachedResponse = some r ∧ e' = e.putSession env s')) := by
  cases h with
  | notFound | timedOut | unparsable => cases herr
  | retried s p r hf hn hc => exact ⟨s, p, r, hf, rfl, Or.inl ⟨rfl, hn, hc, rfl⟩⟩
  | advanced s s' p o hf hn hadv =>
    have hkept := hadv.kept
    cases hadv with
    | refused | unanswered => cases herr
    | answered r hadm hr =>
      have hans := (Engine.answer_of_response hr).2
      exact ⟨s, p, r, hf, rfl, Or.inr ⟨rfl, hn, hans, _, hkept.1, hkept.2.2, rfl, rfl⟩⟩

/-- The router gives a final answer to a payload of the exchange. -/
def Engine.FinalAnswer (e : Engine) (env : Env) (id : String) : Prop :=
  e.stateOf id = some .eapExchange ∧ ∃ resp q, env.answer = .ok (some resp) ∧
    parse resp = .ok q ∧ (q.code = codeSuccess ∨ q.code = codeFailure)

theorem Engine.verdict_eq_pending_iff {r : Bytes} (hs : e.session id = some s)
    (hans : env.answer = .ok (some r)) : s.verdict r = .pending ↔ ¬ e.FinalAnswer env id := by
  have hfinal : e.FinalAnswer env id ↔ s.verdict r = .success ∨ s.verdict r = .failure := by
    rw [Session.verdict_eq_success_iff, Session.verdict_eq_failure_iff]
    unfold FinalAnswer
    rw [Engine.stateOf_eq hs, Option.some.injEq, hans]
    constructor
    · rintro ⟨hx, resp, q, hresp, hq, hc⟩
      cases hresp
      exact hc.imp (fun hc => ⟨hx, q, hq, hc⟩) fun hc => ⟨hx, q, hq, hc⟩
    · rintro (⟨hx, q, hq, hc⟩ | ⟨hx, q, hq, hc⟩)
      · exact ⟨hx, r, q, rfl, hq, Or.inl hc⟩
      · exact ⟨hx, r, q, rfl, hq, Or.inr hc⟩
  rw [hfinal]
  cases s.verdict r <;> simp

end Repeat

/-- **Retries.** A call succeeded, and the next call with the same payload finds the session in
time. It repeats the first exactly if the first was itself a retry, or if the store took the
session, the router's answer was not final, and the response survives in the store. -/
theorem retry_idempotent_iff {e : Engine} {env₁ env₂ : Env} {id : String} {raw : Bytes}
    {s : Session} (hok : (e.process env₁ id raw).1.err = none)
    (hget : (e.process env₁ id raw).2.sessions.get env₂.start env₂.getFault id = .ok s)
    (hlive : ¬ s.IsTimedOut env₂.start) :
    Repeats (e.process env₁ id raw).1 ((e.process env₁ id raw).2.process env₂ id raw).1 s
        ((e.process env₁ id raw).2.process env₂ id raw).2 id ↔
      (∃ s₀, e.session id = some s₀ ∧ s₀.IsRetry raw) ∨
        (e.Accepts env₁ ∧ ¬ e.FinalAnswer env₁ id ∧
          ((∃ m, e.sessions = .memory m) ∨ env₁.answer ≠ .ok (some []))) := by
  obtain ⟨s₁, p, r, hf, hm, hcase⟩ := (e.process_processed env₁ id raw).of_err_none hok
  have hs₁ := Engine.session_of_get hf.get
  have hfile := Engine.session_of_get hget
  have hne : (e.process env₁ id raw).1.message ≠ none := by rw [hm]; exact Option.some_ne_none _
  rw [((e.process env₁ id raw).2.process_processed env₂ id raw).repeats_iff
    ⟨hget, hlive, hf.parsed⟩ hne, hm]
  rcases hcase with ⟨hres, hn, hc, he⟩ | ⟨hres, hfresh, hans, s', hid, hn, hc, he⟩
  · -- the cache did not change between the calls
    rw [he, hs₁, Option.some.injEq] at hfile
    subst hfile
    have hretry := Session.isRetry_of_cached hn hc
    rw [hc, hn, hres]
    exact iff_of_true ⟨rfl, rfl, rfl⟩ (Or.inl ⟨s₁, hs₁, hretry⟩)
  · have hno : ¬ ∃ s₀, e.session id = some s₀ ∧ s₀.IsRetry raw := by
      rintro ⟨s₀, hs₀, hretry⟩
      obtain rfl := Engine.session_unique hs₀ hf.get
      exact hfresh hretry
    rw [he, Engine.session_put_of_get hid hf.get] at hfile
    rw [or_iff_right hno, hres, Engine.verdict_eq_pending_iff hs₁ hans]
    split_ifs at hfile with hacc
    · rw [Option.some.injEq] at hfile
      rw [← hfile, SessionStore.reload_lastNonce, hn, hans,
        SessionStore.reload_cachedResponse_iff e.sessions s' newEapMessage hc]
      have hr : (Except.ok (some r) : Except String (Option Bytes)) ≠ .ok (some []) ↔ r ≠ [] := by
        simp
      rw [hr]
      constructor
      · rintro ⟨-, hstore, hfinal⟩
        exact ⟨hacc, hfinal, hstore⟩
      · rintro ⟨-, hfinal, hstore⟩
        exact ⟨rfl, hstore, hfinal⟩
    · -- nothing was stored, and the payload was no retry before
      rw [Option.some.injEq] at hfile
      subst hfile
      refine iff_of_false ?_ fun h => hacc h.1
      rintro ⟨h1, h2, -⟩
      refine hfresh ⟨h1, fun h => ?_⟩
      rw [h] at h2
      cases h2

open Sample in
/-- The Response that was accepted is sent again: the answer is the same Success, the result is
not. -/
theorem retry_of_success_is_pending :
    (trace Engine.step engine (opening ++
        [send 2 response success,
          send 3 response success])).map (Step.result "ctx") =
      [none, some .pending, some .success, some .pending] := by
  decide +kernel

open Sample in
/-- The Response is answered with another Request, and sent again. -/
theorem retry_of_request_repeats :
    ∃ s, Repeats (opened.process (send 2 response request).env "ctx"
          response).1
        ((opened.process (send 2 response request).env "ctx"
          response).2.process (env 3 (.ok none)) "ctx" response).1 s
        ((opened.process (send 2 response request).env "ctx"
          response).2.process (env 3 (.ok none)) "ctx" response).2 "ctx" := by
  have hs : (match (opened.process (send 2 response request).env "ctx"
      response).2.sessions.get (env 3 (.ok none)).start
        (env 3 (.ok none)).getFault "ctx" with
    | .ok s => decide (s.IsTimedOut (env 3 (.ok none)).start)
    | .error _ => true) = false := by
    decide +kernel
  split at hs
  · rename_i s hget
    refine ⟨s, (retry_idempotent_iff ?_ hget (of_decide_eq_false hs)).mpr (Or.inr ⟨?_, ?_, ?_⟩)⟩
    · decide +kernel
    · trivial
    · rintro ⟨-, resp, q, hresp, hq, hc⟩
      cases hresp
      cases hq
      revert hc
      decide
    · exact Or.inr (by decide)
  · cases hs

/-! ## The payload a cached response belongs to -/

/-- The call handed `raw` to the router for `id`, and the router answered `resp`. -/
structure Relayed (id : String) (raw resp : Bytes) (r : Step) : Prop where
  call : r.input.call = .process id raw
  sent : Step.sent id r = some raw
  answer : r.input.env.answer = .ok (some resp)

/-- The cached response on file is the router's answer to the payload whose hash is on file. -/
def Paired (id : String) (h : List Step) (e : Engine) : Prop :=
  ∀ s resp, e.session id = some s → s.cachedResponse = some resp →
    ∃ r ∈ h, ∃ raw, Relayed id raw resp r ∧ s.lastNonce = sha256Hash raw

/-- A call that reaches the state machine while a response is cached, and whose session the store
takes, is taken by the state machine and answered by the router. -/
def Step.KeepsPairing (id : String) (r : Step) : Prop :=
  ∀ raw s p, r.input.call = .process id raw → Found r.pre r.input.env id raw s p →
    ¬ s.IsRetry raw → s.cachedResponse ≠ none → r.pre.Accepts r.input.env →
    s.Admits p ∧ r.pre.response r.input.env s ≠ none

section Pairing

variable {e : Engine} {i : Input} {id : String} {h : List Step}

theorem Paired.mono {h' : List Step} (hp : Paired id h e) (hsub : h ⊆ h') : Paired id h' e := by
  intro s resp hs hc
  obtain ⟨r, hr, hrel⟩ := hp s resp hs hc
  exact ⟨r, hsub hr, hrel⟩

theorem Paired.processed {e' : Engine} {env : Env} {raw : Bytes} {o : Outcome} {r : Step}
    (hp : Paired id h e) (hpr : Processed e env id raw o e')
    (hkeep : ∀ s p, Found e env id raw s p → ¬ s.IsRetry raw → s.cachedResponse ≠ none →
      e.Accepts env → s.Admits p ∧ e.response env s ≠ none)
    (hrel : ∀ resp, o.sent = some raw → env.answer = .ok (some resp) → Relayed id raw resp r) :
    Paired id (h ++ [r]) e' := by
  have hold := hp.mono (List.subset_append_left h [r])
  cases hpr with
  | notFound | unparsable | retried => exact hold
  | timedOut s hget ht =>
    intro s₁ resp hs₁ hc
    have hs := Engine.session_of_get hget
    rw [Engine.session_put_of_get (s.markTimeout_authCtxID _) hget] at hs₁
    split_ifs at hs₁
    · rw [Option.some.injEq] at hs₁
      subst hs₁
      have hc' : (s.markTimeout env.finish).cachedResponse = some resp :=
        SessionStore.reload_cachedResponse_some _ _ hc
      rw [SessionStore.reload_lastNonce]
      exact hold s resp hs hc'
    · rw [← hs] at hs₁
      exact hold s₁ resp hs₁ hc
  | advanced s s' p o hf hn hadv =>
    intro s₁ resp hs₁ hc
    rw [Engine.session_put_of_get hadv.kept.1 hf.get] at hs₁
    split_ifs at hs₁ with hacc
    · rw [Option.some.injEq] at hs₁
      subst hs₁
      have hc' := SessionStore.reload_cachedResponse_some _ _ hc
      rw [SessionStore.reload_lastNonce, hadv.kept.2.2]
      cases hadv with
      | refused err hadm =>
        -- an old response under a new hash: the step condition excludes it
        rw [Session.refuse_eq] at hc'
        exact absurd (hkeep s p hf hn (Option.ne_none_iff_exists'.mpr ⟨resp, hc'⟩) hacc).1 hadm
      | unanswered err hadm hnone =>
        exact absurd hnone (hkeep s p hf hn (Option.ne_none_iff_exists'.mpr ⟨resp, hc'⟩) hacc).2
      | answered r' hadm hr =>
        obtain rfl : r' = resp := Option.some.inj hc'
        have hans := (Engine.answer_of_response hr).2
        exact ⟨r, List.mem_append_right _ (List.mem_singleton_self r), raw, hrel r' rfl hans, rfl⟩
    · rw [← Engine.session_of_get hf.get] at hs₁
      exact hold s₁ resp hs₁ hc

theorem Paired.step (hp : Paired id h e) (hk : ¬ i.call.Replaces id)
    (hkeep : Step.KeepsPairing id (record Engine.step e i)) :
    Paired id (h ++ [record Engine.step e i]) (e.step i).2 := by
  rcases Engine.step_view hk with ⟨raw, o, hcall, ho, hpr⟩ | ⟨hs, -⟩
  · refine hp.processed hpr (fun s p => hkeep raw s p hcall) fun resp hsent hans => ?_
    refine ⟨hcall, ?_, hans⟩
    unfold Step.sent
    rw [ho, Option.bind_some, hsent]
  · intro s resp hs' hc
    rw [hs] at hs'
    exact hp.mono (List.subset_append_left _ _) s resp hs' hc

end Pairing

/-- **The retry cache.** A started session, and a run of calls that neither start nor delete it
and of which none is refused or left unanswered while a response is cached. If the next payload is
answered from the cache, then it was forwarded before, and the response is the router's answer to
it. The payloads of the run have no hash in common with it. -/
theorem retry_answers_own_forward {e : Engine} {env : Env} {id gpsi : String} {s₀ : Session}
    (hstart : (e.startSession env id gpsi).1 = .ok s₀) {is : List Input}
    (hk : ∀ i ∈ is, ¬ i.call.Replaces id)
    (hkeep : ∀ r ∈ trace Engine.step (e.startSession env id gpsi).2 is, Step.KeepsPairing id r)
    {env' : Env} {raw : Bytes}
    (hhash : ∀ i ∈ is, ∀ raw', i.call = .process id raw' → sha256Hash raw' = sha256Hash raw →
      raw' = raw) :
    ((final Engine.step (e.startSession env id gpsi).2 is).process env' id raw).1.retried = true →
      ∃ r ∈ trace Engine.step (e.startSession env id gpsi).2 is, ∃ resp, Relayed id raw resp r ∧
        ((final Engine.step (e.startSession env id gpsi).2 is).process env' id raw).1.message =
          some (newEapMessage resp) := by
  intro hretried
  have hpaired : Paired id (trace Engine.step (e.startSession env id gpsi).2 is)
      (final Engine.step (e.startSession env id gpsi).2 is) := by
    refine history_inv (C := fun r : Step => ¬ r.input.call.Replaces id ∧ Step.KeepsPairing id r)
      (fun h e i hp hc => hp.step hc.1 hc.2) ?_
      fun r hr => ⟨hk _ (input_mem_of_mem_trace hr), hkeep r hr⟩
    -- a started session has no response
    intro s resp hs hc
    obtain ⟨rfl, hs₀⟩ := Engine.session_startSession hstart
    rw [hs₀, Option.some.injEq] at hs
    subst hs
    cases hc
  obtain ⟨s, p, resp, hf, hm, hn, hc⟩ :=
    (Engine.process_processed _ env' id raw).of_retried hretried
  obtain ⟨r, hr, raw', hrel, hn'⟩ := hpaired s resp (Engine.session_of_get hf.get) hc
  have heq : raw' = raw :=
    hhash _ (input_mem_of_mem_trace hr) raw' hrel.call (hn'.symm.trans hn)
  subst heq
  exact ⟨r, hr, resp, hrel, hm⟩

/-- Two rounds, of which the router ends neither. -/
def Sample.rounds : List Input :=
  [send 1 identity request, send 2 response [1, 3, 0, 6, 13, 32]]

/-- The call is answered in the exchange, if it finds a cached response. -/
theorem Step.keepsPairing_of_exchange {id : String} {raw : Bytes} {r : Step}
    (hcall : r.input.call = .process id raw)
    (hcheck : ∀ s ∈ (r.pre.sessions.get r.input.env.start r.input.env.getFault id).toOption,
      ∀ p ∈ (parse raw).toOption, s.cachedResponse ≠ none →
        s.state = .eapExchange ∧ (p.id = s.expectedID ∧ s.rounds < s.maxRounds) ∧
          r.pre.response r.input.env s ≠ none) : Step.KeepsPairing id r := by
  intro raw' s p hcall' hf _ hc _
  obtain ⟨-, rfl⟩ := Call.process.inj (hcall.symm.trans hcall')
  obtain ⟨hstate, hadmits, hresponse⟩ :=
    hcheck s (by rw [hf.get]; rfl) p (by rw [hf.parsed]; rfl) hc
  refine ⟨?_, hresponse⟩
  unfold Session.Admits
  rw [hstate]
  exact hadmits

open Sample in
/-- The Response of the second round is sent again. -/
theorem response_answered_from_cache :
    ∃ r ∈ trace Engine.step started rounds, ∃ resp, Relayed "ctx" response resp r ∧
      ((final Engine.step started rounds).process (env 3 (.ok none)) "ctx" response).1.message =
        some (newEapMessage resp) := by
  have hstart : (engine.startSession start.env "ctx" "msisdn-1").1 =
      .ok (engine.freshSession start.env "ctx" "msisdn-1") := rfl
  unfold started
  refine retry_answers_own_forward hstart (by decide) ?_ ?_ (by decide +kernel)
  · intro r hr
    rcases List.mem_cons.mp hr with rfl | hr
    · exact Step.keepsPairing_of_exchange rfl (by decide +kernel)
    · obtain rfl := List.mem_singleton.mp hr
      exact Step.keepsPairing_of_exchange rfl (by decide +kernel)
  · intro i hi raw' hcall hhash
    rcases List.mem_cons.mp hi with rfl | hi
    · cases hcall
      exact absurd hhash (by decide +kernel)
    · obtain rfl := List.mem_singleton.mp hi
      cases hcall
      rfl

/-- A Response with an identifier that is not expected. -/
def Sample.stray : Bytes := [2, 9, 0, 6, 13, 0]

open Sample in
/-- A stray Response is refused, and nothing is forwarded. Sent again, it is answered from the
cache with the router's answer to the identity. -/
theorem stray_answered_from_cache :
    (trace Engine.step engine (opening ++
        [send 2 stray success, send 3 stray success])).map
        (Step.sent "ctx") = [none, some identity, none, none] ∧
    (trace Engine.step engine (opening ++
        [send 2 stray success, send 3 stray success])).map
        (fun r => (Step.outcome "ctx" r).map fun o => (o.retried, o.message)) =
      [none, some (false, some (newEapMessage request)), some (false, none),
        some (true, some (newEapMessage request))] := by
  decide +kernel

end NssAAF.Eap
