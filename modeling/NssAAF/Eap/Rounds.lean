import NssAAF.Eap.Verdict

/-!
# Rounds

The round counter of a session counts the payloads handed to the AAA router since the session was
started, and the expected identifier continues their identifiers. Both hold along every run whose
writes the store takes (`rounds_count_forwards`).
-/

namespace NssAAF.Eap

open Transducer

def forwards (id : String) (h : List Step) : List Bytes := h.filterMap (Step.sent id)

theorem forwards_append (id : String) (h : List Step) (r : Step) :
    forwards id (h ++ [r]) = forwards id h ++ (Step.sent id r).toList := by
  unfold forwards
  rw [List.filterMap_append]
  cases hs : Step.sent id r <;> simp [hs]

/-- The payloads are packets whose identifiers count up from `a`, modulo 256. -/
def Consecutive (a : UInt8) (f : List Bytes) : Prop :=
  ∀ k raw, f[k]? = some raw → ∃ p, parse raw = .ok p ∧ p.id = a + UInt8.ofNat k

theorem Consecutive.append {a : UInt8} {f : List Bytes} {raw : Bytes} {p : Packet}
    (hf : Consecutive a f) (hp : parse raw = .ok p) (hid : p.id = a + UInt8.ofNat f.length) :
    Consecutive a (f ++ [raw]) := by
  intro k raw' hk
  rcases Nat.lt_trichotomy k f.length with hlt | rfl | hgt
  · rw [List.getElem?_append_left hlt] at hk
    exact hf k raw' hk
  · rw [List.getElem?_concat_length, Option.some.injEq] at hk
    subst hk
    exact ⟨p, hp, hid⟩
  · rw [List.getElem?_eq_none (by rw [List.length_append, List.length_singleton]; omega)] at hk
    cases hk

/-- What relates a session with the round limit `m` to the payloads forwarded for it. -/
structure Counted (m : ℤ) (f : List Bytes) (s : Session) : Prop where
  used : ¬ s.state.IsUnused
  limit : s.maxRounds = m
  rounds : (f.length : ℤ) = s.rounds
  bound : s.rounds ≤ m
  fresh : s.state = .init → f = []
  ids : ∃ a, Consecutive a f ∧
    (s.state = .eapExchange → s.expectedID = a + UInt8.ofNat f.length)

namespace Counted

variable {m : ℤ} {f : List Bytes} {s s' : Session} {p : Packet} {raw : Bytes}

/-- Only the state, the counter, the limit and the expected identifier matter. -/
theorem congr (h : Counted m f s) (hstate : s'.state = s.state) (hmax : s'.maxRounds = s.maxRounds)
    (hrounds : s'.rounds = s.rounds) (hid : s'.expectedID = s.expectedID) : Counted m f s' := by
  obtain ⟨h1, h2, h3, h4, h5, h6⟩ := h
  refine ⟨?_, ?_, ?_, ?_, ?_, ?_⟩
  · rwa [hstate]
  · rwa [hmax]
  · rwa [hrounds]
  · rwa [hrounds]
  · rwa [hstate]
  · rwa [hstate, hid]

theorem ended (h : Counted m f s) {a : SessionState} (ha : a.IsTerminal) :
    Counted m f { s with state := a } := by
  have hinit : a ≠ .init := by rintro rfl; revert ha; decide
  have hx : a ≠ .eapExchange := by rintro rfl; revert ha; decide
  obtain ⟨b, hb, -⟩ := h.ids
  refine ⟨?_, h.limit, h.rounds, h.bound, fun h => absurd h hinit, b, hb, fun h => absurd h hx⟩
  rintro (rfl | rfl) <;> revert ha <;> decide

theorem refuse (h : Counted m f s) (p : Packet) : Counted m f (s.refuse p) := by
  unfold Session.refuse
  split_ifs
  · exact h.ended (Or.inr (Or.inl rfl))
  · exact h

theorem take_init (h : Counted m f s) (hm : 1 ≤ m) (hs : s.state = .init) (hp : parse raw = .ok p) :
    Counted m (f ++ [raw]) (s.take p) := by
  obtain rfl : f = [] := h.fresh hs
  have hstate : (s.take p).state = .eapExchange := by rw [Session.take_state, if_pos hs]
  have hrounds : (s.take p).rounds = 1 := if_pos hs
  refine ⟨?_, h.limit, ?_, ?_, ?_, p.id, ?_, ?_⟩
  · rw [hstate]
    decide
  · rw [hrounds]
    rfl
  · rwa [hrounds]
  · rw [hstate]
    nofun
  · have hnil : Consecutive p.id [] := fun k raw' hk => nomatch hk
    exact hnil.append hp (UInt8.add_zero p.id).symm
  · intro _
    rfl

theorem take_exchange (h : Counted m f s) (hs : s.state = .eapExchange) (hid : p.id = s.expectedID)
    (hlt : s.rounds < s.maxRounds) (hp : parse raw = .ok p) :
    Counted m (f ++ [raw]) (s.take p) := by
  have hinit : s.state ≠ .init := by rw [hs]; decide
  have hstate : (s.take p).state = .eapExchange := by rw [Session.take_state, if_neg hinit, hs]
  have hrounds : (s.take p).rounds = s.rounds + 1 := if_neg hinit
  obtain ⟨a, ha, hexp⟩ := h.ids
  have hpid : p.id = a + UInt8.ofNat f.length := hid.trans (hexp hs)
  refine ⟨?_, h.limit, ?_, ?_, ?_, a, ha.append hp hpid, ?_⟩
  · rw [hstate]
    decide
  · have hcount := h.rounds
    rw [hrounds, List.length_append, List.length_singleton]
    omega
  · rw [hrounds, ← h.limit]
    omega
  · rw [hstate]
    nofun
  · intro _
    show p.id + 1 = a + UInt8.ofNat (f ++ [raw]).length
    rw [hpid, List.length_append, List.length_singleton, UInt8.ofNat_add, UInt8.add_assoc]
    rfl

theorem take (h : Counted m f s) (hm : 1 ≤ m) (hadm : s.Admits p) (hp : parse raw = .ok p) :
    Counted m (f ++ [raw]) (s.take p) := by
  unfold Session.Admits at hadm
  cases hs : s.state with
  | init => exact h.take_init hm hs hp
  | eapExchange =>
    rw [hs] at hadm
    exact h.take_exchange hs hadm.1 hadm.2 hp
  | completing => exact absurd (Or.inr hs) h.used
  | idle | done | failed | timeout => rw [hs] at hadm; exact hadm.elim

theorem conclude (h : Counted m f s) (v : AuthResult) : Counted m f (s.conclude v) := by
  cases v with
  | success => exact h.ended (Or.inl rfl)
  | failure => exact h.ended (Or.inr (Or.inl rfl))
  | pending => exact h

end Counted

/-- The run has counted the payloads forwarded for the session of `id`. -/
def RoundsCounted (m : ℤ) (id : String) (h : List Step) (e : Engine) : Prop :=
  e.aaaConfigured = true ∧ ∃ s, e.session id = some s ∧ Counted m (forwards id h) s

section Steps

variable {m : ℤ} {e e' : Engine} {env : Env} {id : String} {raw : Bytes} {o : Outcome}
  {f : List Bytes} {s s' : Session} {p : Packet}

theorem Counted.advances (h : Counted m f s) (hm : 1 ≤ m) (ha : e.aaaConfigured = true)
    (hp : parse raw = .ok p) (hadv : Advances e env s p raw s' o) :
    Counted m (f ++ o.sent.toList) s' := by
  cases hadv with
  | refused =>
    rw [Option.toList_none, List.append_nil]
    exact (h.refuse p).congr rfl rfl rfl rfl
  | unanswered err hadm =>
    have hsent : e.sends raw = some raw := if_pos ha
    rw [hsent]
    exact (h.take hm hadm hp).congr rfl rfl rfl rfl
  | answered r hadm => exact ((h.take hm hadm hp).conclude _).congr rfl rfl rfl rfl

theorem Counted.processed (hm : 1 ≤ m) (ha : e.aaaConfigured = true) (hacc : e.Accepts env)
    (hs : e.session id = some s) (h : Counted m f s) (hpr : Processed e env id raw o e') :
    ∃ s', e'.session id = some s' ∧ Counted m (f ++ o.sent.toList) s' := by
  cases hpr with
  | notFound | unparsable | retried =>
    refine ⟨s, hs, ?_⟩
    rwa [Option.toList_none, List.append_nil]
  | timedOut s₁ hget =>
    obtain rfl := Engine.session_unique hs hget
    refine ⟨_, by rw [Engine.session_put_of_get (s.markTimeout_authCtxID _) hget, if_pos hacc], ?_⟩
    rw [Option.toList_none, List.append_nil]
    exact (h.ended (Or.inr (Or.inr rfl))).congr (SessionStore.reload_state ..)
      (SessionStore.reload_maxRounds ..) (SessionStore.reload_rounds ..)
      (SessionStore.reload_expectedID ..)
  | advanced s₁ s' p o hf hn hadv =>
    obtain rfl := Engine.session_unique hs hf.get
    refine ⟨_, by rw [Engine.session_put_of_get hadv.kept.1 hf.get, if_pos hacc], ?_⟩
    exact (h.advances hm ha hf.parsed hadv).congr (SessionStore.reload_state ..)
      (SessionStore.reload_maxRounds ..) (SessionStore.reload_rounds ..)
      (SessionStore.reload_expectedID ..)

theorem RoundsCounted.step {h : List Step} {i : Input} (hm : 1 ≤ m)
    (hJ : RoundsCounted m id h e) (hk : ¬ i.call.Replaces id) (hacc : e.Accepts i.env) :
    RoundsCounted m id (h ++ [record Engine.step e i]) (e.step i).2 := by
  obtain ⟨ha, s, hs, hcount⟩ := hJ
  refine ⟨Engine.step_aaaConfigured.trans ha, ?_⟩
  rw [forwards_append]
  unfold Step.sent
  rcases Engine.step_view hk with ⟨raw, o, -, ho, hpr⟩ | ⟨hsame, ho⟩
  · rw [ho, Option.bind_some]
    exact hcount.processed hm ha hacc hs hpr
  · rw [ho, Option.bind_none, Option.toList_none, List.append_nil]
    exact ⟨s, hsame.trans hs, hcount⟩

theorem RoundsCounted.start {gpsi : String} {s₀ : Session} (ha : e.aaaConfigured = true)
    (hm : 1 ≤ e.cfg.maxRounds) (hstart : (e.startSession env id gpsi).1 = .ok s₀) :
    RoundsCounted e.cfg.maxRounds id [] (e.startSession env id gpsi).2 := by
  obtain ⟨rfl, hs⟩ := Engine.session_startSession hstart
  have hconf : (e.startSession env id gpsi).2.aaaConfigured = true := by
    rcases Engine.startSession_engine e env id gpsi with h | h <;> rw [h] <;> exact ha
  refine ⟨hconf, _, hs, ?_, rfl, rfl, ?_, fun _ => rfl, 0, ?_, nofun⟩
  · show ¬ SessionState.init.IsUnused
    decide
  · show (0 : ℤ) ≤ e.cfg.maxRounds
    omega
  · intro k raw hk
    cases hk

end Steps

/-- **Rounds.** A session is started with a round limit of at least one and a router behind it, and
the store takes every write. After any run that neither starts nor deletes it, its round count is
the number of payloads handed to the router and at most the limit, and the identifier of the
`k`-th payload is the first identifier plus `k`. -/
theorem rounds_count_forwards {e : Engine} {env : Env} {id gpsi : String} {s₀ : Session}
    (ha : e.aaaConfigured = true) (hm : 1 ≤ e.cfg.maxRounds)
    (hstart : (e.startSession env id gpsi).1 = .ok s₀) {is : List Input}
    (hk : ∀ i ∈ is, ¬ i.call.Replaces id)
    (hacc : ∀ r ∈ trace Engine.step (e.startSession env id gpsi).2 is,
      r.pre.Accepts r.input.env) :
    ∃ s, (final Engine.step (e.startSession env id gpsi).2 is).session id = some s ∧
      ((forwards id (trace Engine.step (e.startSession env id gpsi).2 is)).length : ℤ) = s.rounds ∧
      s.rounds ≤ s.maxRounds ∧ s.maxRounds = e.cfg.maxRounds ∧
      ∀ k raw₀ raw,
        (forwards id (trace Engine.step (e.startSession env id gpsi).2 is))[0]? = some raw₀ →
        (forwards id (trace Engine.step (e.startSession env id gpsi).2 is))[k]? = some raw →
        ∃ p₀ p, parse raw₀ = .ok p₀ ∧ parse raw = .ok p ∧ p.id = p₀.id + UInt8.ofNat k := by
  have hJ := history_inv (J := RoundsCounted e.cfg.maxRounds id)
    (C := fun r : Step => ¬ r.input.call.Replaces id ∧ r.pre.Accepts r.input.env)
    (fun h e' i hJ hc => hJ.step hm hc.1 hc.2) (RoundsCounted.start ha hm hstart)
    fun r hr => ⟨hk _ (input_mem_of_mem_trace hr), hacc r hr⟩
  obtain ⟨-, s, hs, hcount⟩ := hJ
  refine ⟨s, hs, hcount.rounds, ?_, hcount.limit, ?_⟩
  · rw [hcount.limit]
    exact hcount.bound
  · intro k raw₀ raw h0 hk
    obtain ⟨a, hids, -⟩ := hcount.ids
    obtain ⟨p₀, hp₀, hid₀⟩ := hids 0 raw₀ h0
    obtain ⟨p, hp, hid⟩ := hids k raw hk
    refine ⟨p₀, p, hp₀, hp, ?_⟩
    rw [hid, hid₀]
    exact congrArg (· + UInt8.ofNat k) (UInt8.add_zero a).symm

namespace Sample

/-- The sample exchange, with a payload in between that is not expected. -/
def disturbed : List Input :=
  [send 1 identity request, send 2 [2, 9, 0, 4] success, send 3 response success]

end Sample

open Sample in
/-- Two of the three payloads are forwarded, and two rounds are counted. -/
theorem two_rounds_forwarded :
    ∃ s, (final Engine.step started disturbed).session "ctx" = some s ∧
      2 = s.rounds ∧ s.rounds ≤ s.maxRounds := by
  have hstart : (engine.startSession start.env "ctx" "msisdn-1").1 =
      .ok (engine.freshSession start.env "ctx" "msisdn-1") := rfl
  have hk : ∀ i ∈ disturbed, ¬ i.call.Replaces "ctx" := by decide
  have hacc : ∀ r ∈ trace Engine.step started disturbed,
      r.pre.Accepts r.input.env := by decide +kernel
  obtain ⟨s, hs, hrounds, hle, -⟩ := rounds_count_forwards rfl (by decide) hstart hk hacc
  have htwo : (forwards "ctx" (trace Engine.step started disturbed)).length = 2 := by
    decide +kernel
  exact ⟨s, hs, (congrArg Nat.cast htwo).symm.trans hrounds, hle⟩

end NssAAF.Eap
