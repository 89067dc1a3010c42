import NssAAF.Aaa.DiamForward

/-!
# Answers that find no room

The handler of an answer looks up the channel of its call and then sends to it, and a channel has
room for one message. `handlers_find_room` says for which runs the send of every handler goes
through at once, for the forwarder and for the client of `internal/diameter/client.go`, which
numbers, enters, sends and receives in the same way but has nobody who clears its map.
-/

namespace NssAAF.Aaa

open Transducer ForwardPhase

def DiamRequests.finds (r : DiamRequests) (d : ℕ) (m : Dea) : Option ℕ :=
  if r.handlers d = .idle then r.pending.lookup m.hopByHop else none

def DiamEvent.finds (r : DiamRequests) : DiamEvent → Option ℕ
  | .arrive d m => r.finds d m
  | _ => none

/-- The call has entered its channel, at some time. -/
def ForwardPhase.Entered : ForwardPhase → Prop
  | .idle | .redialling | .connected _ | .numbered _ _ => False
  | _ => True

theorem ForwardPhase.entered_of_entry {p : ForwardPhase} {hop : UInt32} (h : p.entry = some hop) :
    p.Entered := by
  cases p with
  | registered | sent | leaving => trivial
  | idle | redialling | connected | numbered | returned => cases h

theorem ForwardPhase.Next.entered {f : ℕ} {x : Option (Option (ℕ × Dea))} {p p' : ForwardPhase}
    {out : DiamOutput} (h : Next f x p out p') (hp : p.Entered) : p'.Entered := by
  cases h with
  | same => exact hp
  | begun _ h =>
    rcases h with rfl | rfl
    · exact hp.elim
    · exact hp.elim
  | redialling | refused | numbered => exact hp.elim
  | registered | failed | written | left | removed | returned => trivial

/-! ## Handlers and channels -/

namespace DiamRequests

/-- A handler that has yet to send finds its channel empty and sends alone. A call whose channel
some handler has found is one of `found`, and one that was sent nil has lost its entry for good. -/
structure Roomy (found : List ℕ) (r : DiamRequests) : Prop where
  room : ∀ d f m, r.handlers d = .holding f m → r.channels f = none
  alone : ∀ d d' f m m', r.handlers d = .holding f m → r.handlers d' = .holding f m' → d = d'
  held : ∀ d f m, r.handlers d = .holding f m → f ∈ found
  sent : ∀ f x, r.channels f = some (some x) → f ∈ found
  nil : ∀ f, r.channels f = some none →
    (∀ hop, r.pending.lookup hop ≠ some f) ∧ (r.forwards f).Entered

section Roomy

variable {found : List ℕ} {r r' : DiamRequests} {d f : ℕ} {m : Dea}

theorem roomy_new : Roomy [] newDiamRequests where
  room d f m h := by cases h
  alone d d' f m m' h := by cases h
  held d f m h := by cases h
  sent f x h := by cases h
  nil f h := by cases h

theorem Roomy.append (h : Roomy found r) (more : List ℕ) : Roomy (found ++ more) r :=
  { h with
    held := fun d f m hd => List.mem_append_left _ (h.held d f m hd)
    sent := fun f x hf => List.mem_append_left _ (h.sent f x hf) }

theorem Roomy.shrink (h : Roomy found r)
    (hentered : ∀ f, (r.forwards f).Entered → (r'.forwards f).Entered)
    (hhandlers : ∀ d f m, r'.handlers d = .holding f m → r.handlers d = .holding f m)
    (hchannels : ∀ f, r'.channels f = r.channels f ∨ r'.channels f = none)
    (hpending : ∀ hop f, r'.pending.lookup hop = some f →
      r.pending.lookup hop = some f ∨ ¬ (r.forwards f).Entered) : Roomy found r' := by
  have hold : ∀ f x, r'.channels f = some x → r.channels f = some x := by
    intro f x hf
    rcases hchannels f with heq | hnone
    · exact heq.symm.trans hf
    · rw [hnone] at hf
      cases hf
  constructor
  case room =>
    intro d f m hd
    rcases hchannels f with heq | hnone
    · exact heq.trans (h.room d f m (hhandlers d f m hd))
    · exact hnone
  case alone =>
    intro d d' f m m' hd hd'
    exact h.alone d d' f m m' (hhandlers d f m hd) (hhandlers d' f m' hd')
  case held => exact fun d f m hd => h.held d f m (hhandlers d f m hd)
  case sent => exact fun f x hf => h.sent f x (hold f _ hf)
  case nil =>
    intro f hf
    obtain ⟨hnone, hent⟩ := h.nil f (hold f _ hf)
    refine ⟨fun hop hlook => ?_, hentered f hent⟩
    rcases hpending hop f hlook with hlook | hnot
    · exact hnone hop hlook
    · exact hnot hent

theorem Roomy.hold (h : Roomy found r) (hlook : r.pending.lookup m.hopByHop = some f)
    (hnew : f ∉ found) : Roomy (found ++ [f]) (r.setHandler d (.holding f m)) := by
  have hroom : r.channels f = none := by
    cases hch : r.channels f with
    | none => rfl
    | some x =>
      cases x with
      | none => exact absurd hlook ((h.nil f hch).1 _)
      | some x => exact absurd (h.sent f x hch) hnew
  -- a handler that holds an answer for a call is the new one, and it is for `f`, or it did before
  have hcases : ∀ d' g m', (r.setHandler d (.holding f m)).handlers d' = .holding g m' →
      d' = d ∧ g = f ∨ r.handlers d' = .holding g m' ∧ g ∈ found := by
    intro d' g m' hd'
    rw [setHandler_handlers] at hd'
    split_ifs at hd' with hdd
    · cases hd'
      exact Or.inl ⟨hdd, rfl⟩
    · exact Or.inr ⟨hd', h.held d' g m' hd'⟩
  constructor
  case room =>
    intro d' g m' hd'
    rcases hcases d' g m' hd' with ⟨-, rfl⟩ | ⟨hold, -⟩
    · exact hroom
    · exact h.room d' g m' hold
  case alone =>
    intro d₁ d₂ g m₁ m₂ h₁ h₂
    rcases hcases d₁ g m₁ h₁ with ⟨rfl, rfl⟩ | ⟨hold₁, hg⟩
    · rcases hcases d₂ g m₂ h₂ with ⟨rfl, -⟩ | ⟨-, hg⟩
      · rfl
      · exact absurd hg hnew
    · rcases hcases d₂ g m₂ h₂ with ⟨-, rfl⟩ | ⟨hold₂, -⟩
      · exact absurd hg hnew
      · exact h.alone d₁ d₂ g m₁ m₂ hold₁ hold₂
  case held =>
    intro d' g m' hd'
    rcases hcases d' g m' hd' with ⟨-, rfl⟩ | ⟨-, hg⟩
    · simp
    · exact List.mem_append_left _ hg
  case sent => exact fun g x hg => List.mem_append_left _ (h.sent g x hg)
  case nil => exact h.nil

theorem Roomy.deliver (h : Roomy found r) (hd : r.handlers d = .holding f m) :
    Roomy found ((r.setChannel f (some (some (d, m)))).setHandler d (.delivered f)) := by
  have hcases : ∀ d' g m',
      ((r.setChannel f (some (some (d, m)))).setHandler d (.delivered f)).handlers d' =
        .holding g m' → r.handlers d' = .holding g m' ∧ g ≠ f := by
    intro d' g m' hd'
    rw [setHandler_handlers] at hd'
    split_ifs at hd' with hdd
    refine ⟨hd', ?_⟩
    rintro rfl
    exact hdd (h.alone d' d g m' m hd' hd)
  constructor
  case room =>
    intro d' g m' hd'
    obtain ⟨hold, hgf⟩ := hcases d' g m' hd'
    show (r.setChannel f (some (some (d, m)))).channels g = none
    rw [setChannel_channels, if_neg hgf]
    exact h.room d' g m' hold
  case alone =>
    intro d₁ d₂ g m₁ m₂ h₁ h₂
    exact h.alone d₁ d₂ g m₁ m₂ (hcases d₁ g m₁ h₁).1 (hcases d₂ g m₂ h₂).1
  case held => exact fun d' g m' hd' => h.held d' g m' (hcases d' g m' hd').1
  case sent =>
    intro g x hg
    have hg' : (r.setChannel f (some (some (d, m)))).channels g = some (some x) := hg
    rw [setChannel_channels] at hg'
    split_ifs at hg' with hgf
    · subst hgf
      exact h.held d g m hd
    · exact h.sent g x hg'
  case nil =>
    intro g hg
    have hg' : (r.setChannel f (some (some (d, m)))).channels g = some none := hg
    rw [setChannel_channels] at hg'
    split_ifs at hg'
    · cases hg'
    · exact h.nil g hg'

theorem Roomy.clearPending (h : Roomy found r) (hc : r.Correlated)
    (hclear : ∀ d f m, r.handlers d = .holding f m → ∀ hop, r.pending.lookup hop ≠ some f) :
    Roomy found r.clearPending := by
  refine { h with room := ?_, sent := ?_, nil := ?_ }
  · intro d f m hd
    rcases r.clearPending_channels f with hsame | ⟨-, hop, hlook⟩
    · exact hsame.trans (h.room d f m hd)
    · exact absurd hlook (hclear d f m hd hop)
  · intro f x hf
    rcases r.clearPending_channels f with hsame | ⟨hnil, -⟩
    · exact h.sent f x (hsame.symm.trans hf)
    · rw [hnil] at hf
      cases hf
  · intro f hf
    refine ⟨fun hop hlook => ?_, ?_⟩
    · simp [DiamRequests.clearPending] at hlook
    · rcases r.clearPending_channels f with hsame | ⟨-, hop, hlook⟩
      · exact (h.nil f (hsame.symm.trans hf)).2
      · exact entered_of_entry (hc.pending hop f hlook)

end Roomy

end DiamRequests

open DiamRequests

theorem DiamRequests.Roomy.moves {found : List ℕ} {df df' : DiamForwarder} {e : DiamEvent}
    {out : DiamOutput} (h : Roomy found df.requests) (hm : df.Moves e out df')
    (hlink : ∀ le, e ≠ .link le) (hnew : ∀ f, e.finds df.requests = some f → f ∉ found) :
    Roomy (found ++ (e.finds df.requests).toList) df'.requests := by
  have hentered : ∀ f, (df.requests.forwards f).Entered → (df'.requests.forwards f).Entered :=
    fun f => (hm.next f).entered
  have hempty : ∀ f p g, ((df.requests.setForward f p).setChannel f none).channels g =
      df.requests.channels g ∨
        ((df.requests.setForward f p).setChannel f none).channels g = none := by
    intro f p g
    rw [setChannel_channels]
    split_ifs
    · exact Or.inr rfl
    · exact Or.inl rfl
  -- only `held` finds a channel and only `delivered` fills one; what the others do is `shrink`
  cases hm with
  | linked | cleared => exact absurd rfl (hlink _)
  | held hd hf =>
    have hfinds : df.requests.finds _ _ = some _ := (if_pos hd).trans hf
    dsimp only [DiamEvent.finds]
    rw [hfinds]
    exact h.hold hf (hnew _ hfinds)
  | delivered hd => exact (h.deliver hd).append _
  | dropped m hd =>
    refine (h.shrink hentered (fun d' f m hd' => ?_) (fun _ => .inl rfl) fun _ _ => .inl).append _
    dsimp only at hd'
    rw [setHandler_handlers] at hd'
    split_ifs at hd'
    exact hd'
  | @registered f c hop hf =>
    refine (h.shrink hentered (fun _ _ _ hd => hd) (fun _ => .inl rfl)
      fun hop' g hlook => ?_).append _
    rcases lookup_of_addPending hlook with ⟨-, rfl⟩ | hold
    · right
      rw [hf]
      exact id
    · exact Or.inl hold
  | lost | answered =>
    exact (h.shrink hentered (fun _ _ _ hd => hd) (hempty _ _) fun _ _ => .inl).append _
  | removed | returned =>
    exact (h.shrink hentered (fun _ _ _ hd => hd) (fun _ => .inl rfl)
      fun _ _ hlook => .inl (lookup_of_removePending hlook).2).append _
  | idle | redialling | begun | made | refused | numbered | unbuilt | unwritten | written
    | canceled =>
    exact (h.shrink hentered (fun _ _ _ hd => hd) (fun _ => .inl rfl) fun _ _ => .inl).append _

theorem DiamRequests.handlers_deliver {r : DiamRequests} {d f : ℕ} {m : Dea}
    (hd : r.handlers d = .holding f m) (hch : r.channels f = none) :
    (r.deliver d).handlers d = .delivered f := by
  unfold DiamRequests.deliver
  rw [hd]
  dsimp only
  rw [if_pos hch, setHandler_handlers, if_pos rfl]

/-! ## The client -/

/-- A call of `SendDER` is in `getConn`, which reads the connection `conn` or connects; it goes on
behind it; an answer arrives, or its handler sends it. -/
inductive ClientEvent
  | getConn (f : ℕ) (conn : Option ℕ)
  | forward (f : ℕ) (a : ForwardAction)
  | arrive (d : ℕ) (m : Dea)
  | deliver (d : ℕ)
  deriving DecidableEq

def ClientEvent.finds (r : DiamRequests) : ClientEvent → Option ℕ
  | .arrive d m => r.finds d m
  | _ => none

namespace DiamClient

def getConn (r : DiamRequests) (f : ℕ) (conn : Option ℕ) : DiamOutput × DiamRequests :=
  match r.forwards f, conn with
  | .idle, none => (.none, r.setForward f .redialling)
  | .idle, some c => (.none, r.setForward f (.connected c))
  | .redialling, none =>
    (.returned f .noConnection, r.setForward f (.returned none .noConnection))
  | .redialling, some c => (.none, r.setForward f (.connected c))
  | _, _ => (.none, r)

def step (r : DiamRequests) : ClientEvent → DiamOutput × DiamRequests
  | .getConn f conn => getConn r f conn
  | .forward f a => r.forward 1 f a
  | .arrive d m => (.none, r.handleDEA d m)
  | .deliver d => (.none, r.deliver d)

theorem step_moves (r : DiamRequests) (e : ClientEvent) :
    ∃ l l' e', DiamForwarder.Moves ⟨l, r⟩ e' (step r e).1 ⟨l', (step r e).2⟩ ∧
      (∀ le, e' ≠ .link le) ∧ e'.finds r = e.finds r := by
  let link : Option ℕ → DiamLink := fun conn =>
    { newDiamLink with conn := conn, originStateID := 1 }
  cases e with
  | forward f a =>
    exact ⟨link none, link none, .forward f a, DiamForwarder.forward_moves ⟨link none, r⟩ f a,
      nofun, rfl⟩
  | arrive d m =>
    exact ⟨link none, link none, .arrive d m, DiamForwarder.step_moves ⟨link none, r⟩ (.arrive d m),
      nofun, rfl⟩
  | deliver d =>
    exact ⟨link none, link none, .deliver d, DiamForwarder.step_moves ⟨link none, r⟩ (.deliver d),
      nofun, rfl⟩
  | getConn f conn =>
    refine ⟨link conn, link conn, .getConn f false, ?_, nofun, rfl⟩
    dsimp only [step, getConn]
    split
    · exact .redialling false ‹_› rfl
    · exact .begun false (.inl ‹_›) rfl
    · exact .refused ‹_› rfl
    · exact .begun false (.inr ‹_›) rfl
    · exact .idle _

end DiamClient

/-! ## Runs -/

abbrev ClientStep : Type := Record DiamRequests ClientEvent DiamOutput

/-- The calls whose channels the answers of a run have found, in this order. -/
def foundCalls (h : List DiamStep) : List ℕ :=
  h.filterMap fun st => st.input.finds st.pre.requests

def foundByClient (h : List ClientStep) : List ℕ := h.filterMap fun st => st.input.finds st.pre

def clears (st : DiamStep) : Bool :=
  match st.input with
  | .link le => (st.pre.link.step le).1
  | _ => false

/-- No two answers find the channel of the same call, and the map is not cleared while the handler
of an answer is between the lookup and the send of a call in it. -/
structure Unhindered (h : List DiamStep) : Prop where
  once : (foundCalls h).Nodup
  clear : ∀ st ∈ h, clears st = true → ∀ d f m, st.pre.requests.handlers d = .holding f m →
    ∀ hop, st.pre.requests.pending.lookup hop ≠ some f

theorem filterMap_append_singleton {α : Type} (find : α → Option ℕ) (h : List α) (st : α) :
    (h ++ [st]).filterMap find = h.filterMap find ++ (find st).toList := by
  rw [List.filterMap_append]
  cases hst : find st <;> simp [hst]

theorem nodup_append_toList {found : List ℕ} {x : Option ℕ} (h : (found ++ x.toList).Nodup) :
    found.Nodup ∧ ∀ f, x = some f → f ∉ found := by
  obtain ⟨hfound, -, hdisjoint⟩ := List.nodup_append.mp h
  refine ⟨hfound, fun f hf hmem => ?_⟩
  subst hf
  exact hdisjoint f hmem f (by simp) rfl

/-- A step keeps room for the handlers, if it does not find a channel again and does not clear the
map while a handler holds an answer for a call in it. -/
theorem DiamRequests.Roomy.step {found : List ℕ} {df : DiamForwarder} (h : Roomy found df.requests)
    (hc : Correlated df.requests) (e : DiamEvent)
    (hnew : ∀ f, e.finds df.requests = some f → f ∉ found)
    (hclear : clears (record DiamForwarder.step df e) = true → ∀ d f m,
      df.requests.handlers d = .holding f m → ∀ hop, df.requests.pending.lookup hop ≠ some f) :
    Roomy (found ++ (e.finds df.requests).toList) (df.step e).2.requests := by
  cases e with
  | link le =>
    apply Roomy.append
    show Roomy found (if (df.link.step le).1 then df.requests.clearPending else df.requests)
    split_ifs with hclears
    · exact h.clearPending hc (hclear hclears)
    · exact h
  | getConn | forward | arrive | deliver => exact h.moves (df.step_moves _) nofun hnew

theorem roomy_final (es : List DiamEvent)
    (h : Unhindered (trace DiamForwarder.step newDiamForwarder es)) :
    Roomy (foundCalls (trace DiamForwarder.step newDiamForwarder es))
      (final DiamForwarder.step newDiamForwarder es).requests := by
  have h0 : Roomy (foundCalls []) newDiamForwarder.requests := roomy_new
  refine (history_inv
    (J := fun h df => Correlated df.requests ∧
      ((foundCalls h).Nodup → Roomy (foundCalls h) df.requests))
    (C := fun st => clears st = true → ∀ d f m, st.pre.requests.handlers d = .holding f m →
      ∀ hop, st.pre.requests.pending.lookup hop ≠ some f)
    ?_ ⟨correlated_new, fun _ => h0⟩ h.clear).2 h.once
  rintro h df e ⟨hcor, hroomy⟩ hclear
  refine ⟨hcor.moves (df.step_moves e), fun hnodup => ?_⟩
  have happend : foundCalls (h ++ [record DiamForwarder.step df e]) =
      foundCalls h ++ (e.finds df.requests).toList := filterMap_append_singleton _ h _
  rw [happend] at hnodup ⊢
  obtain ⟨hold, hnew⟩ := nodup_append_toList hnodup
  exact (hroomy hold).step hcor e hnew hclear

theorem roomy_client (es : List ClientEvent)
    (h : (foundByClient (trace DiamClient.step newDiamRequests es)).Nodup) :
    Roomy (foundByClient (trace DiamClient.step newDiamRequests es))
      (final DiamClient.step newDiamRequests es) := by
  refine history_inv
    (J := fun h r => (foundByClient h).Nodup → Roomy (foundByClient h) r) (C := fun _ => True)
    ?_ (fun _ => roomy_new) (fun _ _ => trivial) h
  intro h r e hroomy _ hnodup
  have happend : foundByClient (h ++ [record DiamClient.step r e]) =
      foundByClient h ++ (e.finds r).toList := filterMap_append_singleton _ h _
  rw [happend] at hnodup ⊢
  obtain ⟨hold, hnew⟩ := nodup_append_toList hnodup
  obtain ⟨l, l', e', hm, hlink, hfinds⟩ := DiamClient.step_moves r e
  rw [← hfinds] at hnew ⊢
  exact (hroomy hold).moves hm hlink hnew

/-- **A handler finds room**, and its send goes through at once, in every run of the forwarder in
which no two answers find the channel of the same call and the map is not cleared while a handler
is about to send to a call in it. For the client the first is enough. -/
theorem handlers_find_room (es : List DiamEvent) (cs : List ClientEvent) :
    (Unhindered (trace DiamForwarder.step newDiamForwarder es) → ∀ d f m,
      (final DiamForwarder.step newDiamForwarder es).requests.handlers d = .holding f m →
        ((final DiamForwarder.step newDiamForwarder es).requests.deliver d).handlers d =
          .delivered f) ∧
    ((foundByClient (trace DiamClient.step newDiamRequests cs)).Nodup → ∀ d f m,
      (final DiamClient.step newDiamRequests cs).handlers d = .holding f m →
        ((final DiamClient.step newDiamRequests cs).deliver d).handlers d = .delivered f) := by
  constructor
  · intro h d f m hd
    exact handlers_deliver hd ((roomy_final es h).room d f m hd)
  · intro h d f m hd
    exact handlers_deliver hd ((roomy_client cs h).room d f m hd)

/-! ### A handler that waits for ever -/

/-- The handler `d` holds an answer for a call that is back, and its channel is full. -/
structure DiamRequests.Stuck (d f : ℕ) (m : Dea) (r : DiamRequests) : Prop where
  handler : r.handlers d = .holding f m
  full : r.channels f ≠ none
  back : ∃ hop result, r.forwards f = .returned hop result

section Stuck

variable {d f : ℕ} {m : Dea} {df df' : DiamForwarder} {e : DiamEvent} {out : DiamOutput}

/-- The handler waits for room. -/
theorem DiamRequests.Stuck.handler_moves (h : Stuck d f m df.requests) (hm : df.Moves e out df') :
    df'.requests.handlers d = .holding f m := by
  have hhandler : ∀ {d' : ℕ} {q : HandlerPhase}, df.requests.handlers d' = .idle →
      (df.requests.setHandler d' q).handlers d = .holding f m := by
    intro d' q hd'
    have hne : d ≠ d' := by
      rintro rfl
      rw [h.handler] at hd'
      cases hd'
    rw [setHandler_handlers, if_neg hne]
    exact h.handler
  cases hm with
  | dropped _ hd => exact hhandler hd
  | held hd => exact hhandler hd
  | @delivered d' g m' hd' hch =>
    have hne : d ≠ d' := by
      rintro rfl
      obtain ⟨rfl, -⟩ := HandlerPhase.holding.inj (h.handler.symm.trans hd')
      exact h.full hch
    show ((df.requests.setChannel g _).setHandler d' _).handlers d = .holding f m
    rw [setHandler_handlers, if_neg hne]
    exact h.handler
  | idle | linked | cleared | redialling | begun | made | refused | numbered | registered
    | unbuilt | unwritten | written | canceled | lost | answered | removed | returned =>
    exact h.handler

theorem DiamRequests.Stuck.full_moves (h : Stuck d f m df.requests) (hm : df.Moves e out df') :
    df'.requests.channels f ≠ none := by
  have hnot : ∀ {g c : ℕ} {hop' : UInt32}, df.requests.forwards g = .sent c hop' → f ≠ g := by
    rintro g c hop' hg rfl
    obtain ⟨hop, result, hback⟩ := h.back
    rw [hback] at hg
    cases hg
  have hset : ∀ {g : ℕ} {x : Option (Option (ℕ × Dea))} {p : ForwardPhase}, f ≠ g →
      ((df.requests.setForward g p).setChannel g x).channels f ≠ none := by
    intro g x p hfg
    rw [setChannel_channels, if_neg hfg]
    exact h.full
  cases hm with
  | lost _ hf => exact hset (hnot hf)
  | answered _ hf => exact hset (hnot hf)
  | cleared =>
    show df.requests.clearPending.channels f ≠ none
    rcases df.requests.clearPending_channels f with hsame | ⟨hnil, -⟩
    · rw [hsame]
      exact h.full
    · rw [hnil]
      exact Option.some_ne_none _
  | @delivered d' g m' hd' hch =>
    have hfg : f ≠ g := by
      rintro rfl
      exact h.full hch
    show (df.requests.setChannel g _).channels f ≠ none
    rw [setChannel_channels, if_neg hfg]
    exact h.full
  | idle | linked | redialling | begun | made | refused | numbered | registered | unbuilt
    | unwritten | written | canceled | removed | returned | dropped | held => exact h.full

theorem DiamRequests.Stuck.moves (h : Stuck d f m df.requests) (hm : df.Moves e out df') :
    Stuck d f m df'.requests := by
  obtain ⟨hop, result, hback⟩ := h.back
  refine ⟨h.handler_moves hm, h.full_moves hm, hop, result, ?_⟩
  have hn := hm.next f
  rw [hback] at hn
  exact hn.eq_of_returned

end Stuck

theorem stuck_final {d f : ℕ} {m : Dea} {df : DiamForwarder} (h : Stuck d f m df.requests)
    (es : List DiamEvent) : (final DiamForwarder.step df es).requests.handlers d = .holding f m :=
  (inv_final (I := fun df : DiamForwarder => Stuck d f m df.requests) (C := fun _ => True)
    (fun df e h _ => h.moves (df.step_moves e)) h fun _ _ => trivial).handler

theorem stuck_client {d f : ℕ} {m : Dea} {r : DiamRequests} (h : Stuck d f m r)
    (es : List ClientEvent) : (final DiamClient.step r es).handlers d = .holding f m := by
  refine (inv_final (I := Stuck d f m) (C := fun _ => True) (fun r e h _ => ?_) h
    fun _ _ => trivial).handler
  obtain ⟨l, l', e', hm, -, -⟩ := DiamClient.step_moves r e
  exact h.moves hm

namespace Sample

def answeredRun : List DiamEvent :=
  connecting ++ [.getConn 0 false] ++ calling 0 ++ [.arrive 0 dea]

def timeout : List DiamEvent := [.forward 0 .cancel, .forward 0 .remove, .forward 0 .remove]

/-- The answer comes twice before the call times out. -/
def repeatedRun : List DiamEvent := answeredRun ++ [.arrive 1 dea, .deliver 0] ++ timeout

/-- The connection is lost before the answer is sent to the channel. -/
def interruptedRun : List DiamEvent :=
  answeredRun ++ [.link (.lose 0), .link (.watch 0), .link (.watch 0)] ++ timeout

def clientCalling (f : ℕ) : List ClientEvent :=
  [.getConn f (some 0), .forward f .number, .forward f .register, .forward f (.send .written)]

def clientRepeatedRun : List ClientEvent :=
  clientCalling 0 ++ [.arrive 0 dea, .arrive 1 dea, .deliver 0, .forward 0 .cancel,
    .forward 0 .remove, .forward 0 .remove]

def second : Dea := ⟨2, [3, 2, 0, 4]⟩

def unknown : Dea := ⟨9, [3, 9, 0, 4]⟩

def pairRun : List DiamEvent :=
  connecting ++ [.getConn 0 false] ++ calling 0 ++ [.getConn 1 false] ++ calling 1 ++
    [.arrive 0 unknown, .arrive 1 second, .arrive 2 dea]

def clientPairRun : List ClientEvent :=
  clientCalling 0 ++ clientCalling 1 ++ [.arrive 0 unknown, .arrive 1 second, .arrive 2 dea]

end Sample

open Sample in
/-- Two calls, whose answers come in the other order behind an answer that nobody waits for. -/
theorem first_answers_find_room :
    Unhindered (trace DiamForwarder.step newDiamForwarder pairRun) ∧
      ((final DiamForwarder.step newDiamForwarder pairRun).requests.deliver 1).handlers 1 =
        .delivered 1 ∧
      ((final DiamForwarder.step newDiamForwarder pairRun).requests.deliver 2).handlers 2 =
        .delivered 0 ∧
      (foundByClient (trace DiamClient.step newDiamRequests clientPairRun)).Nodup ∧
      ((final DiamClient.step newDiamRequests clientPairRun).deliver 1).handlers 1 =
        .delivered 1 := by
  have hnone : (trace DiamForwarder.step newDiamForwarder pairRun).all
      (fun st => !clears st) = true := by decide +kernel
  have hrun : Unhindered (trace DiamForwarder.step newDiamForwarder pairRun) := by
    refine ⟨by decide +kernel, fun st hst hclears => ?_⟩
    have hst' := List.all_eq_true.mp hnone st hst
    rw [hclears] at hst'
    cases hst'
  have hclient : (foundByClient (trace DiamClient.step newDiamRequests clientPairRun)).Nodup := by
    decide +kernel
  obtain ⟨hforwarder, hsender⟩ := handlers_find_room pairRun clientPairRun
  exact ⟨hrun, hforwarder hrun 1 1 second (by decide +kernel),
    hforwarder hrun 2 0 dea (by decide +kernel), hclient,
    hsender hclient 1 1 second (by decide +kernel)⟩

open Sample in
/-- The handler of an answer that comes twice waits for ever after its call has timed out, in the
forwarder and in the client. And so does the only handler of the forwarder, if the map was cleared
before it sent. -/
theorem handlers_wait_for_ever :
    (∀ es, (final DiamForwarder.step newDiamForwarder (repeatedRun ++ es)).requests.handlers
      1 = .holding 0 dea) ∧
    (∀ es, (final DiamForwarder.step newDiamForwarder
      (interruptedRun ++ es)).requests.handlers 0 = .holding 0 dea) ∧
    ∀ es, (final DiamClient.step newDiamRequests (clientRepeatedRun ++ es)).handlers 1 =
      .holding 0 dea := by
  refine ⟨fun es => ?_, fun es => ?_, fun es => ?_⟩
  · rw [final_append]
    exact stuck_final ⟨by decide +kernel, by decide +kernel, some 1, .canceled, by decide +kernel⟩
      es
  · rw [final_append]
    exact stuck_final ⟨by decide +kernel, by decide +kernel, some 1, .canceled, by decide +kernel⟩
      es
  · rw [final_append]
    exact stuck_client ⟨by decide +kernel, by decide +kernel, some 1, .canceled, by decide +kernel⟩
      es

end NssAAF.Aaa
