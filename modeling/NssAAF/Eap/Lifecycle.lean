import NssAAF.Eap.Runs

/-!
# The life of a session

The states of a session move along a small automaton (`Moves`): a session is opened, the exchange
ends with a verdict, and any session can run into its timeout. `step_moves` says that every call
follows the automaton, so what is closed under its moves holds along every run.
-/

namespace NssAAF.Eap

open Transducer

/-! ## The automaton -/

/-- The moves of a session's state. -/
inductive Moves : SessionState → SessionState → Prop
  | stay (a : SessionState) : Moves a a
  | opened : Moves .init .eapExchange
  | accepted : Moves .eapExchange .done
  | rejected : Moves .eapExchange .failed
  | expired (a : SessionState) : Moves a .timeout

theorem Moves.isTerminal {a b : SessionState} (h : Moves a b) (ha : a.IsTerminal) :
    b.IsTerminal := by
  cases h with
  | stay => exact ha
  | opened | accepted | rejected => revert ha; decide
  | expired => decide

/-- The states that no call of the engine assigns. -/
def SessionState.IsUnused (a : SessionState) : Prop := a = .idle ∨ a = .completing

instance : DecidablePred SessionState.IsUnused := fun a =>
  inferInstanceAs (Decidable (a = .idle ∨ a = .completing))

theorem Moves.not_isUnused {a b : SessionState} (h : Moves a b) (ha : ¬ a.IsUnused) :
    ¬ b.IsUnused := by
  unfold SessionState.IsUnused at ha ⊢
  cases h with
  | stay => exact ha
  | opened | accepted | rejected | expired => decide

/-! ## The engine follows it -/

theorem Session.verdict_eq_success_iff {s : Session} {r : Bytes} :
    s.verdict r = .success ↔
      s.state = .eapExchange ∧ ∃ q, parse r = .ok q ∧ q.code = codeSuccess := by
  unfold Session.verdict
  by_cases hs : s.state = .eapExchange
  · rw [if_pos hs]
    cases hp : parse r with
    | error err => simp
    | ok q => by_cases h1 : q.code = codeSuccess <;> by_cases h2 : q.code = codeFailure <;> simp [*]
  · rw [if_neg hs]
    simp [hs]

theorem Session.verdict_eq_failure_iff {s : Session} {r : Bytes} :
    s.verdict r = .failure ↔
      s.state = .eapExchange ∧ ∃ q, parse r = .ok q ∧ q.code = codeFailure := by
  unfold Session.verdict
  by_cases hs : s.state = .eapExchange
  · rw [if_pos hs]
    cases hp : parse r with
    | error err => simp
    | ok q =>
      have hne : codeSuccess ≠ codeFailure := by decide
      by_cases h1 : q.code = codeSuccess
      · simp [h1, hs, hne]
      · by_cases h2 : q.code = codeFailure <;> simp [h1, h2, hs, hne.symm]
  · rw [if_neg hs]
    simp [hs]

section Call

variable {e e' : Engine} {env : Env} {id : String} {raw : Bytes} {o : Outcome} {s s' : Session}
  {p : Packet}

theorem Session.refuse_moves (s : Session) (p : Packet) : Moves s.state (s.refuse p).state := by
  unfold Session.refuse
  split_ifs with h
  · rw [h.1]
    exact .rejected
  · exact .stay _

theorem Session.take_state (s : Session) (p : Packet) :
    (s.take p).state = if s.state = .init then .eapExchange else s.state := rfl

theorem Session.take_moves (s : Session) (p : Packet) : Moves s.state (s.take p).state := by
  rw [Session.take_state]
  split_ifs with h
  · rw [h]
    exact .opened
  · exact .stay _

theorem Session.conclude_moves (s : Session) (p : Packet) (r : Bytes) :
    Moves s.state ((s.take p).conclude (s.verdict r)).state := by
  cases hv : s.verdict r with
  | pending => exact s.take_moves p
  | success =>
    rw [(verdict_eq_success_iff.mp hv).1]
    exact .accepted
  | failure =>
    rw [(verdict_eq_failure_iff.mp hv).1]
    exact .rejected

theorem Advances.moves (h : Advances e env s p raw s' o) : Moves s.state s'.state := by
  cases h with
  | refused => exact s.refuse_moves p
  | unanswered => exact s.take_moves p
  | answered r => exact s.conclude_moves p r

theorem Engine.stateOf_put_of_get (hid : s'.authCtxID = s.authCtxID)
    (h : e.sessions.get env.start env.getFault id = .ok s) :
    (e.putSession env s').stateOf id = if e.Accepts env then some s'.state else some s.state := by
  unfold Engine.stateOf
  rw [Engine.session_put_of_get hid h]
  split_ifs
  · rw [Option.map_some, SessionStore.reload_state]
  · rfl

theorem Processed.moves (h : Processed e env id raw o e') {a : SessionState}
    (ha : e.stateOf id = some a) : ∃ b, e'.stateOf id = some b ∧ Moves a b := by
  cases h with
  | notFound | unparsable | retried => exact ⟨a, ha, .stay a⟩
  | timedOut s hget ht =>
    rw [Engine.stateOf_put_of_get (s.markTimeout_authCtxID _) hget, Engine.state_unique ha hget]
    split_ifs
    · exact ⟨_, rfl, .expired _⟩
    · exact ⟨_, rfl, .stay _⟩
  | advanced s s' p o hf hn hadv =>
    rw [Engine.stateOf_put_of_get hadv.kept.1 hf.get, Engine.state_unique ha hf.get]
    split_ifs
    · exact ⟨_, rfl, hadv.moves⟩
    · exact ⟨_, rfl, .stay _⟩

end Call

/-- **The engine follows the automaton.** A call that does not replace the session of `id` moves
its state by one move. -/
theorem Engine.step_moves {e : Engine} {i : Input} {id : String} (hk : ¬ i.call.Replaces id)
    {a : SessionState} (ha : e.stateOf id = some a) :
    ∃ b, (e.step i).2.stateOf id = some b ∧ Moves a b := by
  rcases Engine.step_view hk with ⟨raw, o, -, -, h⟩ | ⟨hs, -⟩
  · exact h.moves ha
  · refine ⟨a, ?_, .stay a⟩
    unfold Engine.stateOf at ha ⊢
    rw [hs, ha]

theorem Engine.stateOf_final {I : SessionState → Prop} (hI : ∀ {a b}, Moves a b → I a → I b)
    {e : Engine} {id : String} {a : SessionState} (ha : e.stateOf id = some a) (h0 : I a)
    {is : List Input} (hk : ∀ i ∈ is, ¬ i.call.Replaces id) :
    ∃ b, (final Engine.step e is).stateOf id = some b ∧ I b := by
  refine inv_final (I := fun e : Engine => ∃ b, e.stateOf id = some b ∧ I b)
    (C := fun r : Step => ¬ r.input.call.Replaces id) ?_ ⟨a, ha, h0⟩
    fun r hr => hk _ (input_mem_of_mem_trace hr)
  rintro e i ⟨b, hb, hIb⟩ hc
  obtain ⟨c, hc, hm⟩ := Engine.step_moves hc hb
  exact ⟨c, hc, hI hm hIb⟩

/-- A started session is never idle and never completing, so `handleCompleting` does not run. -/
theorem Engine.not_isUnused_of_started {e : Engine} {env : Env} {id gpsi : String} {s₀ : Session}
    (hstart : (e.startSession env id gpsi).1 = .ok s₀) {is : List Input}
    (hk : ∀ i ∈ is, ¬ i.call.Replaces id) :
    ∃ b, (final Engine.step (e.startSession env id gpsi).2 is).stateOf id = some b ∧
      ¬ b.IsUnused := by
  obtain ⟨rfl, hs⟩ := Engine.session_startSession hstart
  have hinit : ¬ SessionState.init.IsUnused := by decide
  exact Engine.stateOf_final Moves.not_isUnused (Engine.stateOf_eq hs) hinit hk

open Sample in
theorem not_isUnused_after_identity :
    ∃ b, (final Engine.step
        (engine.startSession (env 0 (.ok none)) "ctx" "msisdn-1").2
        [send 1 identity request]).stateOf "ctx" = some b ∧ ¬ b.IsUnused :=
  Engine.not_isUnused_of_started rfl (by decide)

/-! ## Terminal states -/

theorem Session.not_admits_of_isTerminal {s : Session} (hs : s.state.IsTerminal) (p : Packet) :
    ¬ s.Admits p ∧ s.refuse p = s := by
  unfold Session.Admits Session.refuse
  rcases hs with h | h | h <;> simp [h]

/-- The call finds the session of `id` idle for longer than its timeout, and the store takes the
session marked as timed out. -/
def Step.TimesOut (id : String) (r : Step) : Prop :=
  ∃ raw s, r.input.call = .process id raw ∧
    r.pre.sessions.get r.input.env.start r.input.env.getFault id = .ok s ∧
    s.IsTimedOut r.input.env.start ∧ r.pre.Accepts r.input.env

section Terminal

variable {e e' : Engine} {env : Env} {id : String} {raw : Bytes} {o : Outcome} {a : SessionState}

theorem Processed.of_isTerminal (h : Processed e env id raw o e') (ha : e.stateOf id = some a)
    (hterm : a.IsTerminal) : o.sent = none ∧ o.result ≠ .success := by
  cases h with
  | notFound | unparsable | retried | timedOut => exact ⟨rfl, nofun⟩
  | advanced s s' p o hf hn hadv =>
    obtain rfl := Engine.state_unique ha hf.get
    have hno := (Session.not_admits_of_isTerminal hterm p).1
    cases hadv with
    | refused => exact ⟨rfl, nofun⟩
    | unanswered err hadm => exact absurd hadm hno
    | answered r hadm => exact absurd hadm hno

theorem Processed.stateOf_of_isTerminal (h : Processed e env id raw o e')
    (ha : e.stateOf id = some a) (hterm : a.IsTerminal)
    (ht : ¬ ∃ s, e.sessions.get env.start env.getFault id = .ok s ∧ s.IsTimedOut env.start ∧
      e.Accepts env) : e'.stateOf id = some a := by
  cases h with
  | notFound | unparsable | retried => exact ha
  | timedOut s hget hto =>
    have hacc : ¬ e.Accepts env := fun hacc => ht ⟨s, hget, hto, hacc⟩
    rw [Engine.putSession_refused hacc, ha]
  | advanced s s' p o hf hn hadv =>
    obtain rfl := Engine.state_unique ha hf.get
    obtain ⟨hno, hrefuse⟩ := Session.not_admits_of_isTerminal hterm p
    rw [Engine.stateOf_put_of_get hadv.kept.1 hf.get]
    cases hadv with
    | refused =>
      rw [hrefuse]
      exact ite_self _
    | unanswered err hadm => exact absurd hadm hno
    | answered r hadm => exact absurd hadm hno

theorem Processed.stateOf_of_timesOut {s : Session} (h : Processed e env id raw o e')
    (hget : e.sessions.get env.start env.getFault id = .ok s) (ht : s.IsTimedOut env.start)
    (hacc : e.Accepts env) : e'.stateOf id = some .timeout := by
  have hs := Engine.session_of_get hget
  cases h with
  | notFound err hget' =>
    rw [hget] at hget'
    cases hget'
  | timedOut s' hget' =>
    rw [Engine.stateOf_put_of_get (s'.markTimeout_authCtxID _) hget', if_pos hacc]
    rfl
  | unparsable s' err hget' ht' => exact absurd (Engine.session_unique hs hget' ▸ ht) ht'
  | retried s' p r hf => exact absurd (Engine.session_unique hs hf.get ▸ ht) hf.live
  | advanced s' s'' p o hf => exact absurd (Engine.session_unique hs hf.get ▸ ht) hf.live

end Terminal

theorem Engine.step_isTerminal {e : Engine} {i : Input} {id : String} {a : SessionState}
    (hk : ¬ i.call.Replaces id) (ha : e.stateOf id = some a) (hterm : a.IsTerminal)
    (ht : a = .timeout ∨ ¬ Step.TimesOut id (record Engine.step e i)) :
    (e.step i).2.stateOf id = some a := by
  rcases Engine.step_view hk with ⟨raw, o, hc, -, h⟩ | ⟨hs, -⟩
  · by_cases hto : ∃ s, e.sessions.get i.env.start i.env.getFault id = .ok s ∧
        s.IsTimedOut i.env.start ∧ e.Accepts i.env
    · obtain ⟨s, hget, hto, hacc⟩ := hto
      rcases ht with rfl | ht
      · exact h.stateOf_of_timesOut hget hto hacc
      · exact absurd ⟨raw, s, hc, hget, hto, hacc⟩ ht
    · exact h.stateOf_of_isTerminal ha hterm hto
  · unfold Engine.stateOf at ha ⊢
    rw [hs, ha]

/-- **Terminal states.** Along a run that neither starts nor deletes the session of `id`, its
terminal state stays what it is exactly if it is the timeout, or if no call finds the session idle
for longer than its timeout. -/
theorem terminal_absorbing_iff {e : Engine} {id : String} {a : SessionState} {is : List Input}
    (ha : e.stateOf id = some a) (hterm : a.IsTerminal)
    (hk : ∀ i ∈ is, ¬ i.call.Replaces id) :
    (∀ r ∈ trace Engine.step e is, r.post.stateOf id = some a) ↔
      a = .timeout ∨ ∀ r ∈ trace Engine.step e is, ¬ Step.TimesOut id r := by
  constructor
  · intro h
    by_cases hto : a = .timeout
    · exact Or.inl hto
    refine Or.inr fun r hr hr' => hto ?_
    obtain ⟨raw, s, hc, hget, ht, hacc⟩ := hr'
    have hpost := h r hr
    rw [eq_record_of_mem_trace hr, record_post, Engine.step_process hc] at hpost
    rw [(r.pre.process_processed _ _ _).stateOf_of_timesOut hget ht hacc,
      Option.some.injEq] at hpost
    exact hpost.symm
  · intro h r hr
    refine inv_post_of_mem_trace (I := fun e : Engine => e.stateOf id = some a)
      (C := fun r : Step => ¬ r.input.call.Replaces id ∧ (a = .timeout ∨ ¬ Step.TimesOut id r))
      (fun e i he hc => Engine.step_isTerminal hc.1 he hterm hc.2) ha (fun r hr => ?_) hr
    exact ⟨hk _ (input_mem_of_mem_trace hr), h.imp_right fun h => h r hr⟩

/-- The engine after the sample exchange has ended with a Success. -/
def Sample.accepted : Engine := final Engine.step engine (opening ++ [send 2 response success])

open Sample in
/-- An accepted session, one minute later: the next call makes it a session that timed out. -/
theorem done_session_times_out :
    accepted.stateOf "ctx" = some .done ∧
      (accepted.step (send (60 * second) response success)).2.stateOf
        "ctx" = some .timeout := by
  decide +kernel

open Sample in
theorem terminal_absorbing_sample :
    accepted.stateOf "ctx" = some .done ∧
      ((∀ r ∈ trace Engine.step accepted [send 3 response success],
          r.post.stateOf "ctx" = some .done) ↔
        SessionState.done = .timeout ∨
          ∀ r ∈ trace Engine.step accepted [send 3 response success],
            ¬ Step.TimesOut "ctx" r) :=
  ⟨by decide +kernel, terminal_absorbing_iff (by decide +kernel) (by decide) (by decide)⟩

end NssAAF.Eap
