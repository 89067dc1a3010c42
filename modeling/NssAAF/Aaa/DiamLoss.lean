import NssAAF.Aaa.DiamForward

/-!
# The loss of a connection

When the connection is lost, a watcher clears it and then, without the lock, sends nil to all
pending calls; the monitor does so after it has dialled again. In between, other calls may have
got a new connection. `loss_is_own` says for which runs a loss fails the calls of the lost
connection only, and no live connection is replaced.
-/

namespace NssAAF.Aaa

open Transducer ForwardPhase

namespace DiamLink

/-- Nobody is about to call `clearPending`. -/
def Quiet (l : DiamLink) : Prop := (∀ n, l.watchers n ≠ .clearing) ∧ l.monitor ≠ .clearing

section Moves

variable {l l' : DiamLink} {e : LinkEvent} {clears : Bool} {c : ℕ}

theorem lost_moves (hm : l.Moves e clears l') (h : l.lost c = true) : l'.lost c = true := by
  cases hm with
  | lost =>
    dsimp only
    rw [Function.update_apply, h, ite_self]
  | idle | dialled | failed | installed | returned | noticed | refused | redialled | rewatched
    | watched | unwatched | cleared | outlived | finished | made => exact h

theorem conn_moves (ho : Orderly l) (hm : l.Moves e clears l')
    (hc : l.conn = some c) (hlive : l.lost c = false) : l'.conn = some c := by
  have hsome : l.conn ≠ none := by
    rw [hc]
    nofun
  cases hm with
  | installed _ hcon => exact absurd (ho.unmade fun h => h.2 _ hcon) hsome
  | redialled hre => exact absurd (ho.reconnecting hre) hsome
  | cleared _ hlost hconn =>
    obtain rfl := Option.some.inj (hc.symm.trans hconn)
    rw [hlive] at hlost
    cases hlost
  | made hnone => exact absurd hnone hsome
  | idle | dialled | failed | returned | noticed | refused | rewatched | watched | unwatched
    | outlived | finished | lost => exact hc

theorem not_quiet_of_clears (hm : l.Moves e true l') : ¬ l.Quiet := by
  intro hq
  cases hm with
  | rewatched _ hmon => exact hq.2 hmon
  | finished hn => exact hq.1 _ hn

theorem Quiet.setWatcher (h : l.Quiet) (n : ℕ) {w : WatcherPhase} (hw : w ≠ .clearing) :
    (l.setWatcher n w).Quiet := by
  refine ⟨fun m => ?_, h.2⟩
  rw [setWatcher_watchers]
  split_ifs
  · exact hw
  · exact h.1 m

theorem Quiet.startWatcher (h : l.Quiet) : ∀ n, l.startWatcher.watchers n ≠ .clearing := by
  intro n
  rw [startWatcher_watchers]
  split_ifs
  · nofun
  · exact h.1 n

/-- Who comes to `clearPending` has found the installed connection lost, or has found none. -/
theorem quiet_moves (ho : Orderly l) (hq : l.Quiet) (hm : l.Moves e clears l') :
    l'.Quiet ∨ ∀ c, l.conn = some c → l.lost c = true := by
  cases hm with
  | redialled hre =>
    right
    intro c hc
    rw [ho.reconnecting hre] at hc
    cases hc
  | cleared hn hlost hconn =>
    right
    intro c hc
    obtain rfl := Option.some.inj (hconn.symm.trans hc)
    exact hlost
  | returned => exact Or.inl ⟨hq.startWatcher, nofun⟩
  | rewatched => exact Or.inl ⟨hq.startWatcher, nofun⟩
  | noticed => exact Or.inl ⟨hq.1, nofun⟩
  | refused => exact Or.inl ⟨hq.1, nofun⟩
  | watched | unwatched | outlived | finished => exact Or.inl (hq.setWatcher _ nofun)
  | idle | dialled | failed | installed | lost | made => exact Or.inl hq

end Moves

end DiamLink

/-! ## The forwarder -/

def ForwardPhase.conn : ForwardPhase → Option ℕ
  | .connected c | .numbered c _ | .registered c _ | .sent c _ => some c
  | _ => none

namespace DiamForwarder

def linkEvent (df : DiamForwarder) : DiamEvent → Option LinkEvent
  | .link e => some e
  | .getConn f dials =>
    if df.requests.forwards f = .redialling then some (.getConn dials) else none
  | _ => none

/-- `getConn` comes in time, no call that holds a live connection enters its channel while someone
is about to call `clearPending`, and no request is written to a lost connection. -/
structure Separates (df : DiamForwarder) (e : DiamEvent) : Prop where
  timely : ∀ le, df.linkEvent e = some le → df.link.Timely le
  register : ∀ f c hop, e = .forward f .register → df.requests.forwards f = .numbered c hop →
    df.link.lost c = false → df.link.Quiet
  write : ∀ f c hop, e = .forward f (.send .written) →
    df.requests.forwards f = .registered c hop → df.link.lost c = false

/-- A call that holds a live connection holds the installed one. If someone is about to call
`clearPending`, the connections of the pending calls are lost; and a call that was sent nil holds a
lost one. -/
structure Spared (df : DiamForwarder) : Prop where
  orderly : df.link.Orderly
  live : ∀ f c, (df.requests.forwards f).conn = some c → df.link.lost c = false →
    df.link.conn = some c
  clearing : ¬ df.link.Quiet → ∀ hop f c, df.requests.pending.lookup hop = some f →
    (df.requests.forwards f).conn = some c → df.link.lost c = true
  numbered : ∀ f, df.requests.channels f = some none → (df.requests.forwards f).hop ≠ none
  nil : ∀ f c, df.requests.channels f = some none → (df.requests.forwards f).conn = some c →
    df.link.lost c = true

section Spared

variable {df df' : DiamForwarder} {e : DiamEvent} {out : DiamOutput} {f c : ℕ} {hop : UInt32}

theorem spared_new : Spared newDiamForwarder where
  orderly := DiamLink.orderly_new
  live f c h := by cases h
  clearing _ hop f c h := by simp [newDiamForwarder, newDiamRequests] at h
  numbered f h := by cases h
  nil f c h := by cases h

theorem Spared.link (h : Spared df) {le : LinkEvent} {clears : Bool} {l : DiamLink}
    (ht : df.link.Timely le) (hm : df.link.Moves le clears l) : Spared ⟨l, df.requests⟩ := by
  have hlost : ∀ c, l.lost c = false → df.link.lost c = false := by
    intro c hc
    by_contra hne
    have := DiamLink.lost_moves hm (Bool.eq_true_of_not_eq_false hne)
    rw [hc] at this
    cases this
  refine ⟨h.orderly.moves ht hm, fun f c hf hlive => ?_, fun hq hop f c hlook hf => ?_, h.numbered,
    fun f c hch hf => DiamLink.lost_moves hm (h.nil f c hch hf)⟩
  · exact DiamLink.conn_moves h.orderly hm (h.live f c hf (hlost c hlive)) (hlost c hlive)
  · by_cases hq' : df.link.Quiet
    · -- someone has just come to `clearPending`, and no live connection was installed
      rcases DiamLink.quiet_moves h.orderly hq' hm with hquiet | hnone
      · exact absurd hquiet hq
      · by_contra hlive
        have hlive' := hlost c (Bool.eq_false_iff.mpr hlive)
        have := hnone c (h.live f c hf hlive')
        rw [hlive'] at this
        cases this
    · exact DiamLink.lost_moves hm (h.clearing hq' hop f c hlook hf)

theorem Spared.clearPending (h : Spared df) (hc : df.requests.Correlated)
    (hlost : ∀ hop f c, df.requests.pending.lookup hop = some f →
      (df.requests.forwards f).conn = some c → df.link.lost c = true) :
    Spared ⟨df.link, df.requests.clearPending⟩ := by
  -- nil is new in the channels of the map only
  have hnil : ∀ f, df.requests.clearPending.channels f = some none →
      df.requests.channels f = some none ∨ ∃ hop, df.requests.pending.lookup hop = some f := by
    intro f hf
    rcases df.requests.clearPending_channels f with hold | ⟨-, hlook⟩
    · exact Or.inl (hold.symm.trans hf)
    · exact Or.inr hlook
  refine ⟨h.orderly, h.live, fun _ hop f c hlook => ?_, fun f hf => ?_, fun f c hf hconn => ?_⟩
  · simp [DiamRequests.clearPending] at hlook
  · rcases hnil f hf with hold | ⟨hop, hlook⟩
    · exact h.numbered f hold
    · have hhop := ForwardPhase.hop_of_entry (hc.pending hop f hlook)
      show (df.requests.forwards f).hop ≠ none
      rw [hhop]
      exact Option.some_ne_none _
  · rcases hnil f hf with hold | ⟨hop, hlook⟩
    · exact h.nil f c hold hconn
    · exact hlost hop f c hlook hconn

theorem Spared.advance (h : Spared df) {p p' : ForwardPhase} (hf : df.requests.forwards f = p)
    (hconn : ∀ c, p'.conn = some c → p.conn = some c) (hhop : p.hop ≠ none → p'.hop ≠ none) :
    Spared ⟨df.link, df.requests.setForward f p'⟩ := by
  have hold : ∀ g c, ((df.requests.setForward f p').forwards g).conn = some c →
      (df.requests.forwards g).conn = some c := by
    intro g c hg
    rw [DiamRequests.setForward_forwards] at hg
    split_ifs at hg with hgf
    · subst hgf
      rw [hf]
      exact hconn c hg
    · exact hg
  refine ⟨h.orderly, fun g c hg => h.live g c (hold g c hg),
    fun hq hop g c hlook hg => h.clearing hq hop g c hlook (hold g c hg), fun g hg => ?_,
    fun g c hch hg => h.nil g c hch (hold g c hg)⟩
  have hne := h.numbered g hg
  show ((df.requests.setForward f p').forwards g).hop ≠ none
  rw [DiamRequests.setForward_forwards]
  split_ifs with hgf
  · subst hgf
    rw [hf] at hne
    exact hhop hne
  · exact hne

theorem Spared.begin (h : Spared df) (hc : df.requests.Correlated)
    (hf : df.requests.forwards f = .idle ∨ df.requests.forwards f = .redialling)
    (hconn : df.link.conn = some c) :
    Spared ⟨df.link, df.requests.setForward f (.connected c)⟩ := by
  -- without a number the call has no entry, and nobody has sent nil to it
  have hnone : (df.requests.forwards f).hop = none := by
    rcases hf with hf | hf
    · rw [hf]
      rfl
    · rw [hf]
      rfl
  have hentry : ∀ hop, df.requests.pending.lookup hop ≠ some f := by
    intro hop hlook
    have hhop := ForwardPhase.hop_of_entry (hc.pending hop f hlook)
    exact Option.some_ne_none _ (hhop.symm.trans hnone)
  have hch : df.requests.channels f ≠ some none := fun hnil => h.numbered f hnil hnone
  refine ⟨h.orderly, fun g c' hg hlive => ?_, fun hq hop g c' hlook hg => ?_, fun g hg => ?_,
    fun g c' hnil hg => ?_⟩
  · dsimp only at hg
    rw [DiamRequests.setForward_forwards] at hg
    split_ifs at hg with hgf
    · cases hg
      exact hconn
    · exact h.live g c' hg hlive
  · have hgf : g ≠ f := by
      rintro rfl
      exact hentry hop hlook
    dsimp only at hg
    rw [DiamRequests.setForward_forwards, if_neg hgf] at hg
    exact h.clearing hq hop g c' hlook hg
  · have hgf : g ≠ f := by
      rintro rfl
      exact hch hg
    show ((df.requests.setForward f (.connected c)).forwards g).hop ≠ none
    rw [DiamRequests.setForward_forwards, if_neg hgf]
    exact h.numbered g hg
  · have hgf : g ≠ f := by
      rintro rfl
      exact hch hnil
    dsimp only at hg
    rw [DiamRequests.setForward_forwards, if_neg hgf] at hg
    exact h.nil g c' hnil hg

theorem Spared.addPending (h : Spared df) (hf : df.requests.forwards f = .registered c hop)
    (hq : df.link.lost c = false → df.link.Quiet) :
    Spared ⟨df.link, df.requests.addPending hop f⟩ := by
  refine { h with clearing := fun hq' hop' g c' hlook hg => ?_ }
  rcases DiamRequests.lookup_of_addPending hlook with ⟨rfl, rfl⟩ | hold
  · dsimp only at hg
    rw [DiamRequests.addPending_forwards, hf] at hg
    cases hg
    by_contra hlive
    exact hq' (hq (Bool.eq_false_iff.mpr hlive))
  · exact h.clearing hq' hop' g c' hold hg

theorem Spared.removePending (h : Spared df) (hop : UInt32) :
    Spared ⟨df.link, df.requests.removePending hop⟩ := by
  refine { h with clearing := fun hq hop' g c' hlook hg => ?_ }
  exact h.clearing hq hop' g c' (DiamRequests.lookup_of_removePending hlook).2 hg

theorem Spared.setChannel (h : Spared df) {x : Option (Option (ℕ × Dea))} (hx : x ≠ some none) :
    Spared ⟨df.link, df.requests.setChannel f x⟩ := by
  have hold : ∀ g, (df.requests.setChannel f x).channels g = some none →
      df.requests.channels g = some none := by
    intro g hg
    rw [DiamRequests.setChannel_channels] at hg
    split_ifs at hg
    · exact absurd hg hx
    · exact hg
  exact { h with
    numbered := fun g hg => h.numbered g (hold g hg)
    nil := fun g c hg => h.nil g c (hold g hg) }

theorem Spared.moves (h : Spared df) (hc : df.requests.Correlated) (hs : df.Separates e)
    (hm : df.Moves e out df') : Spared df' := by
  cases hm with
  | idle => exact h
  | linked hl => exact h.link (hs.timely _ rfl) hl
  | cleared hl =>
    refine (h.link (hs.timely _ rfl) hl).clearPending hc fun hop f c hlook hf => ?_
    exact DiamLink.lost_moves hl
      (h.clearing (DiamLink.not_quiet_of_clears hl) hop f c hlook hf)
  | redialling _ hf => exact h.advance hf nofun nofun
  | begun _ hf hconn => exact h.begin hc hf hconn
  | made hf hconn =>
    have ht : df.link.Timely (.getConn true) := hs.timely _ (by simp [linkEvent, hf])
    exact (h.link ht (.made hconn)).begin hc (Or.inr hf) rfl
  | refused hf => exact h.advance hf nofun nofun
  | @numbered f c hf =>
    have hnum : Spared ⟨df.link, df.requests.setForward f
        (.numbered c df.requests.nextHopByHopID)⟩ :=
      h.advance hf (fun _ hconn => hconn) fun _ => nofun
    exact { hnum with }
  | @registered f c hop hf =>
    have hreg : Spared ⟨df.link, df.requests.setForward f (.registered c hop)⟩ :=
      h.advance hf (fun _ hconn => hconn) fun _ => nofun
    exact hreg.addPending (by simp) (hs.register f c hop rfl hf)
  | unbuilt hf => exact h.advance hf nofun fun _ => nofun
  | unwritten hf => exact h.advance hf nofun fun _ => nofun
  | written hf => exact h.advance hf (fun _ hconn => hconn) fun _ => nofun
  | canceled hf => exact h.advance hf nofun fun _ => nofun
  | @lost f c hop _ hf =>
    have hleft : Spared ⟨df.link, df.requests.setForward f (.leaving hop false .connectionLost)⟩ :=
      h.advance hf nofun fun _ => nofun
    exact hleft.setChannel nofun
  | @answered f c d hop m serializes hf =>
    have hleft : Spared ⟨df.link, df.requests.setForward f
        (.leaving hop false (if serializes then .dea d m else .serializeFailed))⟩ :=
      h.advance hf nofun fun _ => nofun
    exact hleft.setChannel nofun
  | @removed f hop result hf => exact (h.removePending hop).advance hf nofun fun _ => nofun
  | @returned f hop result hf => exact (h.removePending hop).advance hf nofun fun _ => nofun
  | dropped => exact { h with }
  | held => exact { h with }
  | @delivered d f m _ hch =>
    have hsent : Spared ⟨df.link, df.requests.setChannel f (some (some (d, m)))⟩ :=
      h.setChannel nofun
    exact { hsent with }

end Spared

end DiamForwarder

/-! ## Runs -/

section Steps

variable {df df' : DiamForwarder} {e : DiamEvent} {out : DiamOutput} {f c originStateID : ℕ}
  {hop : UInt32} {x : Option (Option (ℕ × Dea))} {p p' : ForwardPhase}

theorem DiamForwarder.Moves.link (h : df.Moves e out df') :
    df'.link = df.link ∨
      ∃ le clears, df.linkEvent e = some le ∧ df.link.Moves le clears df'.link := by
  cases h with
  | linked hl => exact Or.inr ⟨_, _, rfl, hl⟩
  | cleared hl => exact Or.inr ⟨_, _, rfl, hl⟩
  | made hf hconn => exact Or.inr ⟨_, _, by simp [DiamForwarder.linkEvent, hf], .made hconn⟩
  | idle | redialling | begun | refused | numbered | registered | unbuilt | unwritten | written
    | canceled | lost | answered | removed | returned | dropped | held | delivered =>
    exact Or.inl rfl

theorem DiamForwarder.Moves.stays_lost (h : df.Moves e out df') (hc : df.link.lost c = true) :
    df'.link.lost c = true := by
  rcases h.link with hsame | ⟨le, clears, -, hl⟩
  · rw [hsame]
    exact hc
  · exact DiamLink.lost_moves hl hc

theorem DiamForwarder.Moves.of_der (h : df.Moves e (.der f c hop originStateID) df') :
    e = .forward f (.send .written) ∧ df.requests.forwards f = .registered c hop := by
  cases h with
  | written hf => exact ⟨rfl, hf⟩

theorem ForwardPhase.Next.of_sent (h : Next f x p out (.sent c hop)) :
    p = .sent c hop ∨ ∃ originStateID, out = .der f c hop originStateID := by
  cases h with
  | same => exact Or.inl rfl
  | written => exact Or.inr ⟨_, rfl⟩

theorem ForwardPhase.Next.of_connectionLost (h : Next f x p out p')
    (hp : p'.result = some .connectionLost) :
    p.result = some .connectionLost ∨ (∃ c hop, p = .sent c hop) ∧ x = some none := by
  cases h with
  | same | removed | returned => exact Or.inl hp
  | left c hop again hres =>
    obtain rfl := Option.some.inj hp
    exact Or.inr ⟨⟨c, hop, rfl⟩, hres rfl⟩
  | failed _ _ _ hres =>
    rcases hres with rfl | rfl
    · cases hp
    · cases hp
  | redialling | begun | refused | numbered | registered | written => cases hp

end Steps

/-- The call has written its request to the connection when this was live. -/
def Wrote (h : List DiamStep) (f c : ℕ) : Prop :=
  ∃ st ∈ h, (∃ hop originStateID, st.output = .der f c hop originStateID) ∧
    st.pre.link.lost c = false

theorem Wrote.append {h : List DiamStep} {f c : ℕ} (hw : Wrote h f c) (h' : List DiamStep) :
    Wrote (h ++ h') f c := by
  obtain ⟨st, hst, hout⟩ := hw
  exact ⟨st, List.mem_append_left _ hst, hout⟩

/-- A call that waits has written to a live connection, and one that returns the loss of its
connection has written to it before it was lost. -/
structure LossAccounted (h : List DiamStep) (df : DiamForwarder) : Prop where
  correlated : df.requests.Correlated
  spared : df.Spared
  sent : ∀ f c hop, df.requests.forwards f = .sent c hop → Wrote h f c
  lost : ∀ f, (df.requests.forwards f).result = some .connectionLost →
    ∃ c, Wrote h f c ∧ df.link.lost c = true

theorem lossAccounted_trace {es : List DiamEvent}
    (hs : ∀ st ∈ trace DiamForwarder.step newDiamForwarder es, st.pre.Separates st.input) :
    LossAccounted (trace DiamForwarder.step newDiamForwarder es)
      (final DiamForwarder.step newDiamForwarder es) := by
  refine history_inv (J := LossAccounted) (C := fun st => st.pre.Separates st.input) ?_ ?_ hs
  · intro h df e hJ hsep
    have hm := df.step_moves e
    refine ⟨hJ.correlated.moves hm, hJ.spared.moves hJ.correlated hsep hm, fun f c hop hf => ?_,
      fun f hf => ?_⟩
    · have hn := hm.next f
      rw [hf] at hn
      rcases hn.of_sent with hold | ⟨osi, hout⟩
      · exact (hJ.sent f c hop hold).append _
      · have hder := hm
        rw [hout] at hder
        obtain ⟨he, hreg⟩ := hder.of_der
        refine ⟨_, List.mem_append_right _ (List.mem_singleton.mpr rfl), ⟨hop, osi, hout⟩, ?_⟩
        exact hsep.write f c hop he hreg
    · rcases (hm.next f).of_connectionLost hf with hold | ⟨⟨c, hop, hsent⟩, hnil⟩
      · obtain ⟨c, hw, hlost⟩ := hJ.lost f hold
        exact ⟨c, hw.append _, hm.stays_lost hlost⟩
      · have hlost := hJ.spared.nil f c hnil (by rw [hsent]; rfl)
        exact ⟨c, (hJ.sent f c hop hsent).append _, hm.stays_lost hlost⟩
  · refine ⟨DiamRequests.correlated_new, DiamForwarder.spared_new, fun f c hop hf => ?_,
      fun f hf => ?_⟩
    · cases hf
    · cases hf

/-- A call returns the loss of its connection only if it has written to it before it was lost; what
clears the pending calls finds their connections lost; and a live connection stays installed. -/
structure LossIsOwn (es : List DiamEvent) : Prop where
  own : ∀ st ∈ trace DiamForwarder.step newDiamForwarder es, ∀ f,
    st.output = .returned f .connectionLost →
      ∃ c, Wrote (trace DiamForwarder.step newDiamForwarder es) f c ∧ st.pre.link.lost c = true
  spared : ∀ st ∈ trace DiamForwarder.step newDiamForwarder es, ∀ le, st.input = .link le →
    (st.pre.link.step le).1 = true → ∀ hop f c, st.pre.requests.pending.lookup hop = some f →
      (st.pre.requests.forwards f).conn = some c → st.pre.link.lost c = true
  kept : ∀ st ∈ trace DiamForwarder.step newDiamForwarder es, ∀ c, st.pre.link.conn = some c →
    st.pre.link.lost c = false → st.post.link.conn = some c

/-- **A loss fails its own requests.** In every run in which `getConn` makes no connection before
`Connect` has installed one nor while the monitor is about to dial, no call with a live connection
enters its channel while someone is about to clear the map, and no request is written to a lost
connection. -/
theorem loss_is_own (es : List DiamEvent)
    (hs : ∀ st ∈ trace DiamForwarder.step newDiamForwarder es, st.pre.Separates st.input) :
    LossIsOwn es := by
  -- what holds before each step, with the steps taken so far
  have hpre : ∀ st ∈ trace DiamForwarder.step newDiamForwarder es, ∃ h,
      (∀ f c, Wrote h f c → Wrote (trace DiamForwarder.step newDiamForwarder es) f c) ∧
        LossAccounted h st.pre ∧ st.pre.Moves st.input st.output st.post := by
    intro st hst
    obtain ⟨es₁, e, es₂, rfl, rfl⟩ := (mem_trace _).mp hst
    refine ⟨trace DiamForwarder.step newDiamForwarder es₁, fun f c hw => ?_, ?_,
      DiamForwarder.step_moves _ _⟩
    · rw [trace_append]
      exact hw.append _
    · refine lossAccounted_trace fun st' hst' => hs st' ?_
      rw [trace_append]
      exact List.mem_append_left _ hst'
  refine ⟨fun st hst f hout => ?_, fun st hst le he hclears hop f c hlook hf => ?_,
    fun st hst c hconn hlive => ?_⟩
  · obtain ⟨h, hmono, hacc, hm⟩ := hpre st hst
    have hres : (st.pre.requests.forwards f).result = some .connectionLost := by
      rw [hout] at hm
      generalize st.input = e at hm
      generalize st.post = df' at hm
      cases hm with
      | returned hf =>
        rw [hf]
        rfl
    obtain ⟨c, hw, hlost⟩ := hacc.lost f hres
    exact ⟨c, hmono f c hw, hlost⟩
  · obtain ⟨h, -, hacc, -⟩ := hpre st hst
    have hl := st.pre.link.step_moves le
    rw [hclears] at hl
    exact hacc.spared.clearing (DiamLink.not_quiet_of_clears hl) hop f c hlook hf
  · obtain ⟨h, -, hacc, hm⟩ := hpre st hst
    rcases hm.link with hsame | ⟨le, clears, -, hl⟩
    · rw [hsame]
      exact hconn
    · exact DiamLink.conn_moves hacc.spared.orderly hl hconn hlive

/-! ### A call and a loss -/

/-- An event that neither makes a connection, nor enters a channel, nor writes. -/
def DiamEvent.plain : DiamEvent → Bool
  | .link (.getConn true) | .getConn _ true => false
  | .forward _ .register | .forward _ (.send .written) => false
  | _ => true

theorem DiamForwarder.separates_of_plain {df : DiamForwarder} {e : DiamEvent}
    (h : e.plain = true) : df.Separates e := by
  refine ⟨fun le hle hmakes => ?_, fun f _ _ he => ?_, fun f _ _ he => ?_⟩
  · obtain ⟨rfl, -⟩ := hmakes
    cases e with
    | link e =>
      cases hle
      cases h
    | getConn f dials =>
      dsimp only [linkEvent] at hle
      split_ifs at hle
      cases hle
      cases h
    | forward | arrive | deliver => cases hle
  · rw [he] at h
    cases h
  · rw [he] at h
    cases h

namespace Sample

/-- The loss of the connection comes when the call waits. -/
def waitingLossRun : List DiamEvent :=
  connecting ++ [.getConn 0 false] ++ calling 0 ++
    [.link (.lose 0), .link (.watch 0), .link (.watch 0), .forward 0 (.receive true),
      .forward 0 .remove]

/-- The connection is lost and cleared, and `getConn` makes another one. Then the watcher goes on.
-/
def lateClearRun : List DiamEvent :=
  connecting ++ [.link (.lose 0), .link (.watch 0), .getConn 0 false, .getConn 0 true] ++
    calling 0 ++ [.link (.watch 0), .forward 0 (.receive true), .forward 0 .remove]

/-- The same, and the monitor has seen that there is no connection. -/
def lateDialRun : List DiamEvent :=
  connecting ++ [.link (.lose 0), .link (.watch 0), .link (.monitor false), .getConn 0 false,
    .getConn 0 true]

end Sample

open Sample in
/-- The call that waits is failed by its own connection. -/
theorem waiting_call_loses_own : LossIsOwn waitingLossRun := by
  refine loss_is_own _ fun st hst => ?_
  simp only [waitingLossRun, connecting, calling, List.cons_append,
    List.nil_append, trace_cons, trace_nil, List.mem_cons, List.not_mem_nil, or_false] at hst
  rcases hst with rfl | rfl | rfl | rfl | rfl | rfl | rfl | rfl | rfl | rfl | rfl | rfl | rfl
  all_goals try exact DiamForwarder.separates_of_plain rfl
  · -- the watcher waits, and the monitor has nothing to do
    refine ⟨nofun, fun _ _ _ _ _ _ => ⟨fun n => ?_, nofun⟩, nofun⟩
    cases n with
    | zero => nofun
    | succ n => nofun
  · exact ⟨nofun, nofun, fun _ _ _ _ _ => rfl⟩

open Sample in
/-- A call that has written to the second connection, which is live, is failed by the loss of the
first one. And the monitor replaces the second connection, which is live, by a third one. -/
theorem live_connection_not_spared :
    ((trace DiamForwarder.step newDiamForwarder lateClearRun).map Record.output).drop 8 =
        [.none, .none, .der 0 1 1 1, .none, .none, .returned 0 .connectionLost] ∧
      (final DiamForwarder.step newDiamForwarder lateClearRun).link.lost 1 = false ∧
      (final DiamForwarder.step newDiamForwarder lateDialRun).link.conn = some 1 ∧
      (final DiamForwarder.step newDiamForwarder lateDialRun).link.lost 1 = false ∧
      (final DiamForwarder.step newDiamForwarder
        (lateDialRun ++ [.link (.monitor true)])).link.conn = some 2 := by
  decide +kernel

end NssAAF.Aaa
