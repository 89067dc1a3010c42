import NssAAF.Eap.Retry
import NssAAF.Eap.Rounds

/-!
# What the engine relays

Which packets of the AMF reach the AAA router, and which identifiers the engine accepts.

* `only_responses_relayed_iff`: only the first round checks that a packet is a Response.
* `identifier_follows_peer`: in the exchange the expected identifier is one more than that of the
  last packet the engine took. The identifier of the router's Request plays no part.
-/

namespace NssAAF.Eap

open Transducer

/-! ## The code of a relayed packet -/

/-- The octets are an EAP-Response. -/
def IsResponse (raw : Bytes) : Prop := ∃ p, parse raw = .ok p ∧ p.code = codeResponse

/-- A packet that a session past its first round takes, and that there is a router for, is a
Response. -/
def Step.TakesResponses (id : String) (r : Step) : Prop :=
  ∀ raw s p, r.input.call = .process id raw → r.pre.aaaConfigured = true →
    Found r.pre r.input.env id raw s p → ¬ s.IsRetry raw → s.state ≠ .init → s.Admits p →
    p.code = codeResponse

section Relay

variable {e : Engine} {i : Input} {id : String} {raw : Bytes}

theorem Engine.sent_process (h : i.call = .process id raw) :
    Step.sent id (record Engine.step e i) = (e.process i.env id raw).1.sent := by
  unfold Step.sent
  rw [Engine.outcome_process h, Option.bind_some]

theorem Engine.call_of_sent (h : Step.sent id (record Engine.step e i) = some raw) :
    ∃ raw', i.call = .process id raw' := by
  unfold Step.sent Step.outcome at h
  rw [record_input] at h
  split at h
  · rename_i id' raw' o hc ho
    split_ifs at h with hid
    · exact ⟨raw', by rw [hc, hid]⟩
    · cases h
  · cases h

theorem Engine.sent_isResponse_iff :
    (∀ raw, Step.sent id (record Engine.step e i) = some raw → IsResponse raw) ↔
      Step.TakesResponses id (record Engine.step e i) := by
  constructor
  · intro h raw s p hcall ha hf hn _ hadm
    have hcall' : i.call = .process id raw := hcall
    have hsent := (e.process_processed i.env id raw).sent_of_admits hf hn hadm ha
    rw [← Engine.sent_process hcall'] at hsent
    obtain ⟨q, hq, hc⟩ := h raw hsent
    rw [hf.parsed, Except.ok.injEq] at hq
    rw [hq]
    exact hc
  · intro h raw hsent
    obtain ⟨raw', hcall⟩ := Engine.call_of_sent hsent
    rw [Engine.sent_process hcall] at hsent
    obtain ⟨rfl, s, p, s', hfw⟩ := (e.process_processed i.env id raw').forwarded hsent
    refine ⟨p, hfw.found.parsed, ?_⟩
    by_cases hs : s.state = .init
    · have hadm := hfw.admits
      unfold Session.Admits at hadm
      rw [hs] at hadm
      exact hadm
    · exact h raw s p hcall hfw.configured hfw.found hfw.fresh hs hfw.admits

end Relay

/-- **Only Responses are relayed.** What a run hands to the router for `id` are Responses exactly
if no session past its first round takes a packet that is none. -/
theorem only_responses_relayed_iff {e : Engine} {id : String} {is : List Input} :
    (∀ r ∈ trace Engine.step e is, ∀ raw, Step.sent id r = some raw → IsResponse raw) ↔
      ∀ r ∈ trace Engine.step e is, Step.TakesResponses id r := by
  refine forall₂_congr fun r hr => ?_
  rw [eq_record_of_mem_trace hr]
  exact Engine.sent_isResponse_iff

open Sample in
/-- The AMF sends the router's own Request back, and the engine forwards it. -/
theorem request_is_relayed :
    (trace Engine.step engine
        (opening ++ [send 2 request success])).map (Step.sent "ctx") =
      [none, some identity, some request] ∧
    ¬ IsResponse request := by
  refine ⟨by decide +kernel, ?_⟩
  rintro ⟨p, hp, hc⟩
  cases hp
  revert hc
  decide

/-! ## The identifier of an accepted packet -/

section Mismatch

variable {e : Engine} {env : Env} {id : String} {raw : Bytes} {s : Session} {p : Packet}

theorem Advance.outcome_err (a : Advance) (session : Session) :
    (a.outcome session).err = a.err := by
  unfold Advance.outcome
  cases a.err <;> rfl

/-- A packet that is no retry goes through the state machine. -/
theorem Engine.process_of_fresh (hf : Found e env id raw s p) (hn : ¬ s.IsRetry raw) :
    e.process env id raw =
      ((e.advanceState env s p raw).outcome
          ((e.advanceState env s p raw).finished (sha256Hash raw) env.finish),
        e.putSession env ((e.advanceState env s p raw).finished (sha256Hash raw) env.finish)) := by
  have hno : ¬ (bytesEqual s.lastNonce (sha256Hash raw) && s.cachedResponse.isSome) = true := by
    rw [Bool.and_eq_true, bytesEqual_iff, Option.isSome_iff_ne_none]
    exact hn
  unfold Engine.process
  rw [hf.get]
  dsimp only
  rw [if_neg hf.live, hf.parsed]
  dsimp only
  rw [if_neg hno]

/-- The exchange refuses a packet for its identifier exactly if it is not the expected one: a
packet with the expected identifier can fail for other reasons only. -/
theorem Engine.handleExchange_err_iff :
    (e.handleExchange env s p raw).err = some .eapIDMismatch ↔ p.id ≠ s.expectedID := by
  unfold handleExchange
  split_ifs with hid hm
  · exact iff_of_true rfl hid
  · exact iff_of_false nofun hid
  · refine iff_of_false ?_ hid
    dsimp only
    have hfwd : (e.forwardToAAA env raw).err ≠ some .eapIDMismatch := by
      unfold forwardToAAA
      split_ifs
      · cases env.answer <;> exact nofun
      · exact nofun
    split
    · rename_i err herr
      rw [herr] at hfwd
      exact hfwd
    · split
      · exact nofun
      · split
        · exact nofun
        · split_ifs <;> exact nofun

theorem Engine.process_err_iff (hf : Found e env id raw s p) (hn : ¬ s.IsRetry raw)
    (hx : s.state = .eapExchange) :
    (e.process env id raw).1.err = some .eapIDMismatch ↔ p.id ≠ s.expectedID := by
  rw [Engine.process_of_fresh hf hn, Advance.outcome_err]
  unfold Engine.advanceState
  rw [hx]
  exact Engine.handleExchange_err_iff

end Mismatch

/-- The call took the packet `p` into the session of `id`, and the store took the session. -/
def Step.Took (id : String) (p : Packet) (r : Step) : Prop :=
  ∃ raw s, r.input.call = .process id raw ∧ Found r.pre r.input.env id raw s p ∧
    ¬ s.IsRetry raw ∧ s.Admits p ∧ r.pre.Accepts r.input.env

/-- The session on file in the exchange expects one more than the identifier of the last packet
that was taken. -/
def Numbered (id : String) (h : List Step) (e : Engine) : Prop :=
  ∀ s, e.session id = some s → s.state = .eapExchange →
    ∃ h₁ r h₂ p, h = h₁ ++ r :: h₂ ∧ Step.Took id p r ∧ (∀ r' ∈ h₂, ∀ q, ¬ Step.Took id q r') ∧
      s.expectedID = p.id + 1

section Numbering

variable {e e' : Engine} {env : Env} {id : String} {raw : Bytes} {o : Outcome} {s s' : Session}
  {p : Packet} {h : List Step} {i : Input}

theorem Advances.expectedID (h : Advances e env s p raw s' o) (hadm : s.Admits p) :
    s'.expectedID = p.id + 1 := by
  cases h with
  | refused err hno => exact absurd hadm hno
  | unanswered => rfl
  | answered => rw [Session.conclude_eq]; rfl

theorem Advances.exchange_of_refused (h : Advances e env s p raw s' o) (hadm : ¬ s.Admits p)
    (hx : s'.state = .eapExchange) : s.state = .eapExchange ∧ s'.expectedID = s.expectedID := by
  cases h with
  | unanswered err hyes => exact absurd hyes hadm
  | answered r hyes => exact absurd hyes hadm
  | refused =>
    unfold Session.refuse at hx ⊢
    split_ifs at hx ⊢ with hc
    · cases hx
    · exact ⟨hx, rfl⟩

theorem Processed.expectedID_of_taken (hp : Processed e env id raw o e')
    (hf : Found e env id raw s p) (hn : ¬ s.IsRetry raw) (hadm : s.Admits p)
    (hacc : e.Accepts env) (hs' : e'.session id = some s') : s'.expectedID = p.id + 1 := by
  rcases hp.of_found hf with ⟨r, hn', hc, -, -⟩ | ⟨-, s₁, hadv, he⟩
  · exact absurd (Session.isRetry_of_cached hn' hc) hn
  · rw [he, Engine.session_put_of_get hadv.kept.1 hf.get, if_pos hacc, Option.some.injEq] at hs'
    rw [← hs', SessionStore.reload_expectedID, hadv.expectedID hadm]

theorem Processed.exchange_of_not_taken (hp : Processed e env id raw o e')
    (hno : ∀ s p, Found e env id raw s p → ¬ s.IsRetry raw → s.Admits p → ¬ e.Accepts env)
    (hs' : e'.session id = some s') (hx : s'.state = .eapExchange) :
    ∃ s, e.session id = some s ∧ s.state = .eapExchange ∧ s'.expectedID = s.expectedID := by
  cases hp with
  | notFound | unparsable | retried => exact ⟨s', hs', hx, rfl⟩
  | timedOut s hget ht =>
    rw [Engine.session_put_of_get (s.markTimeout_authCtxID _) hget] at hs'
    split_ifs at hs'
    · rw [Option.some.injEq] at hs'
      rw [← hs', SessionStore.reload_state] at hx
      cases hx
    · rw [Option.some.injEq] at hs'
      exact ⟨s, Engine.session_of_get hget, hs' ▸ hx, by rw [hs']⟩
  | advanced s s₁ p o hf hn hadv =>
    have hs := Engine.session_of_get hf.get
    rw [Engine.session_put_of_get hadv.kept.1 hf.get] at hs'
    split_ifs at hs' with hacc
    · rw [Option.some.injEq] at hs'
      rw [← hs', SessionStore.reload_state] at hx
      have hadm : ¬ s.Admits p := fun hadm => hno s p hf hn hadm hacc
      obtain ⟨hx', hid⟩ := hadv.exchange_of_refused hadm hx
      exact ⟨s, hs, hx', by rw [← hs', SessionStore.reload_expectedID, hid]⟩
    · rw [Option.some.injEq] at hs'
      exact ⟨s, hs, hs' ▸ hx, by rw [hs']⟩

theorem Numbered.of_not_took {r : Step} (hN : Numbered id h e) (hr : ∀ q, ¬ Step.Took id q r)
    (hback : ∀ s', e'.session id = some s' → s'.state = .eapExchange →
      ∃ s, e.session id = some s ∧ s.state = .eapExchange ∧ s'.expectedID = s.expectedID) :
    Numbered id (h ++ [r]) e' := by
  intro s' hs' hx'
  obtain ⟨s, hs, hx, hid⟩ := hback s' hs' hx'
  obtain ⟨h₁, r₁, h₂, p, rfl, htook, hlast, hp⟩ := hN s hs hx
  refine ⟨h₁, r₁, h₂ ++ [r], p, by simp, htook, fun r' hr' => ?_, hid.trans hp⟩
  rcases List.mem_append.mp hr' with hr' | hr'
  · exact hlast r' hr'
  · rw [List.mem_singleton.mp hr']
    exact hr

theorem Numbered.step (hN : Numbered id h e) (hk : ¬ i.call.Replaces id) :
    Numbered id (h ++ [record Engine.step e i]) (e.step i).2 := by
  rcases Engine.step_view (e := e) hk with ⟨raw, o, hcall, -, hp⟩ | ⟨hs, ho⟩
  · by_cases ht : ∃ p, Step.Took id p (record Engine.step e i)
    · obtain ⟨p, htook⟩ := ht
      obtain ⟨raw', s, hcall', hf, hn, hadm, hacc⟩ := htook
      have hraw : raw' = raw := by
        rw [record_input, hcall, Call.process.injEq] at hcall'
        exact hcall'.2.symm
      subst hraw
      intro s' hs' _
      exact ⟨h, _, [], p, rfl, ⟨raw', s, hcall', hf, hn, hadm, hacc⟩,
        fun r' hr' => absurd hr' List.not_mem_nil, hp.expectedID_of_taken hf hn hadm hacc hs'⟩
    · refine hN.of_not_took (fun q hq => ht ⟨q, hq⟩) fun s' hs' hx => ?_
      refine hp.exchange_of_not_taken (fun s p hf hn hadm hacc => ht ⟨p, ?_⟩) hs' hx
      exact ⟨raw, s, hcall, hf, hn, hadm, hacc⟩
  · refine hN.of_not_took ?_ fun s' hs' hx => ⟨s', hs ▸ hs', hx, rfl⟩
    rintro q ⟨raw, s, hcall, -⟩
    have hcall' : i.call = .process id raw := hcall
    rw [Engine.outcome_process hcall'] at ho
    cases ho

end Numbering

/-- **Identifiers.** A started session that a run has brought into the exchange. A packet that
finds it in time, and is not answered from the cache, is refused for its identifier exactly if that
is not one more than the identifier of the last packet taken. -/
theorem identifier_follows_peer {e : Engine} {env : Env} {id gpsi : String} {s₀ s : Session}
    (hstart : (e.startSession env id gpsi).1 = .ok s₀) {is : List Input}
    (hk : ∀ i ∈ is, ¬ i.call.Replaces id)
    (hs : (final Engine.step (e.startSession env id gpsi).2 is).session id = some s)
    (hx : s.state = .eapExchange) :
    ∃ h₁ r h₂ p, trace Engine.step (e.startSession env id gpsi).2 is = h₁ ++ r :: h₂ ∧
      Step.Took id p r ∧ (∀ r' ∈ h₂, ∀ q, ¬ Step.Took id q r') ∧
      ∀ env' raw q, Found (final Engine.step (e.startSession env id gpsi).2 is) env' id raw s q →
        ¬ s.IsRetry raw →
        (((final Engine.step (e.startSession env id gpsi).2 is).process env' id raw).1.err =
            some .eapIDMismatch ↔ q.id ≠ p.id + 1) := by
  have hN : Numbered id (trace Engine.step (e.startSession env id gpsi).2 is)
      (final Engine.step (e.startSession env id gpsi).2 is) := by
    refine history_inv (C := fun r : Step => ¬ r.input.call.Replaces id)
      (fun h e i hN hc => hN.step hc) ?_ fun r hr => hk _ (input_mem_of_mem_trace hr)
    -- a started session is not in the exchange
    intro s hs hx
    obtain ⟨rfl, hs₀⟩ := Engine.session_startSession hstart
    rw [hs₀, Option.some.injEq] at hs
    subst hs
    cases hx
  obtain ⟨h₁, r, h₂, p, htr, htook, hlast, hid⟩ := hN s hs hx
  refine ⟨h₁, r, h₂, p, htr, htook, hlast, fun env' raw q hf hn => ?_⟩
  rw [Engine.process_err_iff hf hn hx, hid]

/-- A Request of a router that does not count from the identity, and the Response to it. -/
def Sample.request7 : Bytes := [1, 7, 0, 6, 13, 32]

@[inherit_doc request7]
def Sample.response7 : Bytes := [2, 7, 0, 6, 13, 0]

open Sample in
/-- The router answers the identity with a Request of identifier 7. The Response with identifier 7
is refused for its identifier, and the one with identifier 2 is not. -/
theorem response_to_request_is_refused :
    (parse request7).map (fun p => (p.code, p.id)) = .ok (codeRequest, 7) ∧
    (parse response7).map (fun p => (p.code, p.id)) = .ok (codeResponse, 7) ∧
    (final Engine.step started
        [send 1 identity request7]).stateOf "ctx" = some .eapExchange ∧
    (trace Engine.step started
        [send 1 identity request7,
          send 2 response7 success]).map
        (fun r => (Step.outcome "ctx" r).map fun o => (o.message, o.err)) =
      [some (some (newEapMessage request7), none), some (none, some .eapIDMismatch)] ∧
    (trace Engine.step started
        [send 1 identity request7,
          send 2 response success]).map
        (fun r => (Step.outcome "ctx" r).map fun o => (o.message, o.err)) =
      [some (some (newEapMessage request7), none),
        some (some (newEapMessage success), none)] := by
  decide +kernel

open Sample in
theorem identifier_follows_identity :
    ∃ s p, ∃ r ∈ trace Engine.step started [send 1 identity request7],
      Step.Took "ctx" p r ∧
      ∀ env raw q, Found (final Engine.step started
          [send 1 identity request7]) env "ctx" raw s q → ¬ s.IsRetry raw →
        (((final Engine.step started
            [send 1 identity request7]).process env "ctx" raw).1.err =
          some .eapIDMismatch ↔ q.id ≠ p.id + 1) := by
  have hstate : (final Engine.step started
      [send 1 identity request7]).stateOf "ctx" = some .eapExchange := by
    decide +kernel
  obtain ⟨s, hs, hx⟩ := Option.map_eq_some_iff.mp hstate
  have hstart : (engine.startSession start.env "ctx" "msisdn-1").1 =
      .ok (engine.freshSession start.env "ctx" "msisdn-1") := rfl
  have hk : ∀ i ∈ [send 1 identity request7], ¬ i.call.Replaces "ctx" := by
    decide
  obtain ⟨h₁, r, h₂, p, htr, htook, -, herr⟩ := identifier_follows_peer hstart hk hs hx
  refine ⟨s, p, r, ?_, htook, herr⟩
  exact htr ▸ List.mem_append_right _ (List.mem_cons_self ..)

end NssAAF.Eap
