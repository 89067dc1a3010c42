import NssAAF.Aaa.DiamLink
import NssAAF.Lib.Bytes
import Mathlib.Data.List.AList

/-!
# The requests of the Diameter forwarder

`Forward` of `internal/aaa/gateway/diameter_forward.go` takes the connection, gives its request
(DER) a hop-by-hop id, enters a channel for the answer (DEA) under this id, writes the request and
waits. `handleDEA` looks up the channel of an answer and sends to it; `clearPending` sends nil to
all channels. Calls of `Forward` and arriving answers are numbered. What they do to the map or to
a channel is one event, between any events of the connection.

`answers_correlated` says that answers are returned to the calls they belong to.
-/

namespace NssAAF.Aaa

open Transducer

structure Dea where
  hopByHop : UInt32
  payload : Bytes
  deriving DecidableEq

/-- What `Forward` returns: one of its errors, or an answer with its number. -/
inductive ForwardResult
  | noConnection
  | buildFailed
  | writeFailed
  | canceled
  | connectionLost
  | serializeFailed
  | dea (d : ℕ) (m : Dea)
  deriving DecidableEq

/-- Where a call of `Forward` is. Before it returns, the entry of its id is removed, and on some
ways it is removed `again`. -/
inductive ForwardPhase
  | idle
  | redialling
  | connected (c : ℕ)
  | numbered (c : ℕ) (hopByHop : UInt32)
  | registered (c : ℕ) (hopByHop : UInt32)
  | sent (c : ℕ) (hopByHop : UInt32)
  | leaving (hopByHop : UInt32) (again : Bool) (result : ForwardResult)
  | returned (hopByHop : Option UInt32) (result : ForwardResult)
  deriving DecidableEq

namespace ForwardPhase

def hop : ForwardPhase → Option UInt32
  | .numbered _ hop | .registered _ hop | .sent _ hop | .leaving hop _ _ => some hop
  | .returned hop _ => hop
  | _ => none

/-- The id under which the call may have an entry. -/
def entry : ForwardPhase → Option UInt32
  | .registered _ hop | .sent _ hop | .leaving hop _ _ => some hop
  | _ => none

def result : ForwardPhase → Option ForwardResult
  | .leaving _ _ result | .returned _ result => some result
  | _ => none

theorem hop_of_entry {p : ForwardPhase} {hop : UInt32} (h : p.entry = some hop) :
    p.hop = some hop := by
  cases p with
  | registered | sent | leaving => exact h
  | idle | redialling | connected | numbered | returned => cases h

end ForwardPhase

/-- Where the handler of an answer is: it has found the channel of a call, it has sent to it, or
it has found none. -/
inductive HandlerPhase
  | idle
  | holding (f : ℕ) (m : Dea)
  | delivered (f : ℕ)
  | dropped
  deriving DecidableEq

/-- The map of the forwarder, and where the calls, their channels and the handlers are. A channel
holds at most one message, which may be nil. -/
structure DiamRequests where
  hopByHopSeq : ℕ
  pending : AList fun _ : UInt32 => ℕ
  forwards : ℕ → ForwardPhase
  channels : ℕ → Option (Option (ℕ × Dea))
  handlers : ℕ → HandlerPhase

def newDiamRequests : DiamRequests where
  hopByHopSeq := 0
  pending := ∅
  forwards := fun _ => .idle
  channels := fun _ => none
  handlers := fun _ => .idle

/-- What becomes of a request when it is built and written. -/
inductive SendOutcome
  | buildFailed
  | writeFailed
  | written
  deriving DecidableEq

/-- A call of `Forward` takes a number, enters its channel, sends, is cancelled, receives from its
channel, or removes its entry. -/
inductive ForwardAction
  | number
  | register
  | send (outcome : SendOutcome)
  | cancel
  | receive (serializes : Bool)
  | remove
  deriving DecidableEq

inductive DiamOutput
  | none
  | der (f c : ℕ) (hopByHop : UInt32) (originStateID : ℕ)
  | returned (f : ℕ) (result : ForwardResult)
  deriving DecidableEq

namespace DiamRequests

section Step

variable (r : DiamRequests)

def setForward (f : ℕ) (p : ForwardPhase) : DiamRequests :=
  { r with forwards := Function.update r.forwards f p }

def setChannel (f : ℕ) (x : Option (Option (ℕ × Dea))) : DiamRequests :=
  { r with channels := Function.update r.channels f x }

def setHandler (d : ℕ) (p : HandlerPhase) : DiamRequests :=
  { r with handlers := Function.update r.handlers d p }

def addPending (hop : UInt32) (f : ℕ) : DiamRequests :=
  { r with pending := r.pending.insert hop f }

def removePending (hop : UInt32) : DiamRequests := { r with pending := r.pending.erase hop }

/-- The next id. The counter has 64 bits and the id its lowest 32. -/
def nextHopByHopID : UInt32 := UInt32.ofNat (r.hopByHopSeq + 1)

/-- Nil is sent to every channel of the map that has room, and the map is cleared. -/
def clearPending : DiamRequests :=
  { r with
    pending := ∅
    channels := fun f =>
      if r.pending.entries.any fun p => p.2 = f then some ((r.channels f).getD none)
      else r.channels f }

def send (originStateID f c : ℕ) (hop : UInt32) : SendOutcome → DiamOutput × DiamRequests
  | .buildFailed => (.none, r.setForward f (.leaving hop false .buildFailed))
  | .writeFailed => (.none, r.setForward f (.leaving hop true .writeFailed))
  | .written => (.der f c hop originStateID, r.setForward f (.sent c hop))

def receive (f : ℕ) (hop : UInt32) (serializes : Bool) : DiamRequests :=
  match r.channels f with
  | none => r
  | some none => (r.setForward f (.leaving hop false .connectionLost)).setChannel f none
  | some (some (d, m)) =>
    (r.setForward f
      (.leaving hop false (if serializes then .dea d m else .serializeFailed))).setChannel f none

/-- A call of `Forward` goes on, if it is where it can do so. -/
def forward (originStateID f : ℕ) (a : ForwardAction) : DiamOutput × DiamRequests :=
  match a, r.forwards f with
  | .number, .connected c =>
    (.none, { r.setForward f (.numbered c r.nextHopByHopID) with hopByHopSeq := r.hopByHopSeq + 1 })
  | .register, .numbered c hop => (.none, (r.setForward f (.registered c hop)).addPending hop f)
  | .send outcome, .registered c hop => r.send originStateID f c hop outcome
  | .cancel, .sent _ hop => (.none, r.setForward f (.leaving hop true .canceled))
  | .receive serializes, .sent _ hop => (.none, r.receive f hop serializes)
  | .remove, .leaving hop true result =>
    (.none, (r.removePending hop).setForward f (.leaving hop false result))
  | .remove, .leaving hop false result =>
    (.returned f result, (r.removePending hop).setForward f (.returned (some hop) result))
  | _, _ => (.none, r)

/-- The handler of an answer looks up its channel. -/
def handleDEA (d : ℕ) (m : Dea) : DiamRequests :=
  if r.handlers d = .idle then
    match r.pending.lookup m.hopByHop with
    | none => r.setHandler d .dropped
    | some f => r.setHandler d (.holding f m)
  else r

/-- It sends to the channel, and waits as long as there is no room. -/
def deliver (d : ℕ) : DiamRequests :=
  match r.handlers d with
  | .holding f m =>
    if r.channels f = none then (r.setChannel f (some (some (d, m)))).setHandler d (.delivered f)
    else r
  | _ => r

end Step

end DiamRequests

/-! ## The forwarder -/

structure DiamForwarder where
  link : DiamLink
  requests : DiamRequests

def newDiamForwarder : DiamForwarder := ⟨newDiamLink, newDiamRequests⟩

/-- Something happens to the connection, a call of `Forward` is in `getConn` or goes on behind it,
an answer arrives, or its handler sends it. -/
inductive DiamEvent
  | link (e : LinkEvent)
  | getConn (f : ℕ) (dials : Bool)
  | forward (f : ℕ) (a : ForwardAction)
  | arrive (d : ℕ) (m : Dea)
  | deliver (d : ℕ)
  deriving DecidableEq

namespace DiamForwarder

section Step

variable (df : DiamForwarder)

/-- An event of the connection, which may call `clearPending`. -/
def linkStep (e : LinkEvent) : DiamForwarder :=
  ⟨(df.link.step e).2, if (df.link.step e).1 then df.requests.clearPending else df.requests⟩

/-- `getConn` reads the connection, and if there is none it takes the lock. -/
def getConn (f : ℕ) (dials : Bool) : DiamOutput × DiamForwarder :=
  match df.requests.forwards f with
  | .idle =>
    match df.link.conn with
    | none => (.none, ⟨df.link, df.requests.setForward f .redialling⟩)
    | some c => (.none, ⟨df.link, df.requests.setForward f (.connected c)⟩)
  | .redialling =>
    match df.link.getConn dials with
    | (some c, link) => (.none, ⟨link, df.requests.setForward f (.connected c)⟩)
    | (none, link) =>
      (.returned f .noConnection,
        ⟨link, df.requests.setForward f (.returned none .noConnection)⟩)
  | _ => (.none, df)

def step : DiamEvent → DiamOutput × DiamForwarder
  | .link e => (.none, df.linkStep e)
  | .getConn f dials => df.getConn f dials
  | .forward f a =>
    let next := df.requests.forward df.link.originStateID f a
    (next.1, { df with requests := next.2 })
  | .arrive d m => (.none, { df with requests := df.requests.handleDEA d m })
  | .deliver d => (.none, { df with requests := df.requests.deliver d })

end Step

inductive Moves (df : DiamForwarder) : DiamEvent → DiamOutput → DiamForwarder → Prop
  | idle (e : DiamEvent) : Moves df e .none df
  | linked {e : LinkEvent} {l : DiamLink} (h : df.link.Moves e false l) :
      Moves df (.link e) .none ⟨l, df.requests⟩
  | cleared {e : LinkEvent} {l : DiamLink} (h : df.link.Moves e true l) :
      Moves df (.link e) .none ⟨l, df.requests.clearPending⟩
  | redialling {f : ℕ} (dials : Bool) (h : df.requests.forwards f = .idle)
      (hconn : df.link.conn = none) :
      Moves df (.getConn f dials) .none ⟨df.link, df.requests.setForward f .redialling⟩
  | begun {f c : ℕ} (dials : Bool)
      (h : df.requests.forwards f = .idle ∨ df.requests.forwards f = .redialling)
      (hconn : df.link.conn = some c) :
      Moves df (.getConn f dials) .none ⟨df.link, df.requests.setForward f (.connected c)⟩
  | made {f : ℕ} (h : df.requests.forwards f = .redialling) (hconn : df.link.conn = none) :
      Moves df (.getConn f true) .none
        ⟨df.link.redial, df.requests.setForward f (.connected df.link.dialled)⟩
  | refused {f : ℕ} (h : df.requests.forwards f = .redialling) (hconn : df.link.conn = none) :
      Moves df (.getConn f false) (.returned f .noConnection)
        ⟨df.link, df.requests.setForward f (.returned none .noConnection)⟩
  | numbered {f c : ℕ} (h : df.requests.forwards f = .connected c) :
      Moves df (.forward f .number) .none ⟨df.link,
        { df.requests.setForward f (.numbered c df.requests.nextHopByHopID) with
          hopByHopSeq := df.requests.hopByHopSeq + 1 }⟩
  | registered {f c : ℕ} {hop : UInt32} (h : df.requests.forwards f = .numbered c hop) :
      Moves df (.forward f .register) .none
        ⟨df.link, (df.requests.setForward f (.registered c hop)).addPending hop f⟩
  | unbuilt {f c : ℕ} {hop : UInt32} (h : df.requests.forwards f = .registered c hop) :
      Moves df (.forward f (.send .buildFailed)) .none
        ⟨df.link, df.requests.setForward f (.leaving hop false .buildFailed)⟩
  | unwritten {f c : ℕ} {hop : UInt32} (h : df.requests.forwards f = .registered c hop) :
      Moves df (.forward f (.send .writeFailed)) .none
        ⟨df.link, df.requests.setForward f (.leaving hop true .writeFailed)⟩
  | written {f c : ℕ} {hop : UInt32} (h : df.requests.forwards f = .registered c hop) :
      Moves df (.forward f (.send .written)) (.der f c hop df.link.originStateID)
        ⟨df.link, df.requests.setForward f (.sent c hop)⟩
  | canceled {f c : ℕ} {hop : UInt32} (h : df.requests.forwards f = .sent c hop) :
      Moves df (.forward f .cancel) .none
        ⟨df.link, df.requests.setForward f (.leaving hop true .canceled)⟩
  | lost {f c : ℕ} {hop : UInt32} (serializes : Bool) (h : df.requests.forwards f = .sent c hop)
      (hch : df.requests.channels f = some none) :
      Moves df (.forward f (.receive serializes)) .none ⟨df.link,
        (df.requests.setForward f (.leaving hop false .connectionLost)).setChannel f none⟩
  | answered {f c d : ℕ} {hop : UInt32} {m : Dea} (serializes : Bool)
      (h : df.requests.forwards f = .sent c hop)
      (hch : df.requests.channels f = some (some (d, m))) :
      Moves df (.forward f (.receive serializes)) .none ⟨df.link,
        (df.requests.setForward f (.leaving hop false
          (if serializes then .dea d m else .serializeFailed))).setChannel f none⟩
  | removed {f : ℕ} {hop : UInt32} {result : ForwardResult}
      (h : df.requests.forwards f = .leaving hop true result) :
      Moves df (.forward f .remove) .none
        ⟨df.link, (df.requests.removePending hop).setForward f (.leaving hop false result)⟩
  | returned {f : ℕ} {hop : UInt32} {result : ForwardResult}
      (h : df.requests.forwards f = .leaving hop false result) :
      Moves df (.forward f .remove) (.returned f result)
        ⟨df.link, (df.requests.removePending hop).setForward f (.returned (some hop) result)⟩
  | dropped {d : ℕ} (m : Dea) (h : df.requests.handlers d = .idle) :
      Moves df (.arrive d m) .none ⟨df.link, df.requests.setHandler d .dropped⟩
  | held {d f : ℕ} {m : Dea} (h : df.requests.handlers d = .idle)
      (hf : df.requests.pending.lookup m.hopByHop = some f) :
      Moves df (.arrive d m) .none ⟨df.link, df.requests.setHandler d (.holding f m)⟩
  | delivered {d f : ℕ} {m : Dea} (h : df.requests.handlers d = .holding f m)
      (hch : df.requests.channels f = none) :
      Moves df (.deliver d) .none ⟨df.link,
        (df.requests.setChannel f (some (some (d, m)))).setHandler d (.delivered f)⟩

theorem linkStep_moves (df : DiamForwarder) (e : LinkEvent) :
    Moves df (.link e) .none (df.linkStep e) := by
  have hm := df.link.step_moves e
  unfold linkStep
  cases hc : (df.link.step e).1 with
  | true =>
    rw [hc] at hm
    exact .cleared hm
  | false =>
    rw [hc] at hm
    exact .linked hm

theorem getConn_moves (df : DiamForwarder) (f : ℕ) (dials : Bool) :
    Moves df (.getConn f dials) (df.getConn f dials).1 (df.getConn f dials).2 := by
  unfold getConn
  split
  · next hf =>
    cases hconn : df.link.conn with
    | none => exact .redialling dials hf hconn
    | some c => exact .begun dials (Or.inl hf) hconn
  · next hf =>
    cases hconn : df.link.conn with
    | some c =>
      simp only [DiamLink.getConn, hconn]
      exact .begun dials (Or.inr hf) hconn
    | none =>
      simp only [DiamLink.getConn, hconn]
      cases dials with
      | true => exact .made hf hconn
      | false => exact .refused hf hconn
  · exact .idle _

theorem forward_moves (df : DiamForwarder) (f : ℕ) (a : ForwardAction) :
    Moves df (.forward f a) (df.requests.forward df.link.originStateID f a).1
      ⟨df.link, (df.requests.forward df.link.originStateID f a).2⟩ := by
  unfold DiamRequests.forward
  split
  · exact .numbered ‹_›
  · exact .registered ‹_›
  · next outcome c hop hf =>
    cases outcome with
    | buildFailed => exact .unbuilt hf
    | writeFailed => exact .unwritten hf
    | written => exact .written hf
  · exact .canceled ‹_›
  · next serializes c hop hf =>
    unfold DiamRequests.receive
    split
    · exact .idle _
    · exact .lost serializes hf ‹_›
    · exact .answered serializes hf ‹_›
  · exact .removed ‹_›
  · exact .returned ‹_›
  · exact .idle _

theorem step_moves (df : DiamForwarder) (e : DiamEvent) :
    Moves df e (step df e).1 (step df e).2 := by
  cases e with
  | link e => exact linkStep_moves df e
  | getConn f dials => exact getConn_moves df f dials
  | forward f a => exact forward_moves df f a
  | arrive d m =>
    dsimp only [step, DiamRequests.handleDEA]
    split_ifs with h
    · split
      · exact .dropped m h
      · exact .held h ‹_›
    · exact .idle _
  | deliver d =>
    dsimp only [step, DiamRequests.deliver]
    split
    · next f m h =>
      split_ifs with hch
      · exact .delivered h hch
      · exact .idle _
    · exact .idle _

end DiamForwarder

/-! ## Calls, channels and answers -/

namespace DiamRequests

section Fields

variable (r : DiamRequests) (f g d d' : ℕ) (p : ForwardPhase) (q : HandlerPhase)
  (x : Option (Option (ℕ × Dea))) (hop : UInt32)

@[simp] theorem setForward_forwards :
    (r.setForward f p).forwards g = if g = f then p else r.forwards g :=
  Function.update_apply ..

@[simp] theorem setChannel_channels :
    (r.setChannel f x).channels g = if g = f then x else r.channels g :=
  Function.update_apply ..

@[simp] theorem setHandler_handlers :
    (r.setHandler d q).handlers d' = if d' = d then q else r.handlers d' :=
  Function.update_apply ..

@[simp] theorem addPending_pending : (r.addPending hop f).pending = r.pending.insert hop f := rfl
@[simp] theorem addPending_forwards : (r.addPending hop f).forwards = r.forwards := rfl

@[simp] theorem removePending_pending : (r.removePending hop).pending = r.pending.erase hop := rfl
@[simp] theorem removePending_forwards : (r.removePending hop).forwards = r.forwards := rfl

end Fields

/-- An entry belongs to a call that has its id and has not removed it. A message that a handler
holds or has sent, or that a call returned, has the id of the call. -/
structure Correlated (r : DiamRequests) : Prop where
  pending : ∀ hop f, r.pending.lookup hop = some f → (r.forwards f).entry = some hop
  holding : ∀ d f m, r.handlers d = .holding f m → (r.forwards f).hop = some m.hopByHop
  channel : ∀ f d m, r.channels f = some (some (d, m)) →
    (r.forwards f).hop = some m.hopByHop ∧ r.handlers d = .delivered f
  result : ∀ f d m, (r.forwards f).result = some (.dea d m) →
    (r.forwards f).hop = some m.hopByHop ∧ r.handlers d = .delivered f

section Correlated

variable {r : DiamRequests} {f d : ℕ} {hop : UInt32}

theorem correlated_new : Correlated newDiamRequests where
  pending hop f h := by simp [newDiamRequests] at h
  holding d f m h := by cases h
  channel f d m h := by cases h
  result f d m h := by cases h

theorem Correlated.setForward (h : Correlated r) {p : ForwardPhase}
    (hentry : ∀ hop, r.pending.lookup hop = some f → p.entry = some hop)
    (hhop : ∀ hop, (r.forwards f).hop = some hop → p.hop = some hop)
    (hres : ∀ d m, p.result = some (.dea d m) →
      p.hop = some m.hopByHop ∧ r.handlers d = .delivered f) :
    Correlated (r.setForward f p) := by
  have hkeep : ∀ g hop, (r.forwards g).hop = some hop →
      ((r.setForward f p).forwards g).hop = some hop := by
    intro g hop hg
    rw [setForward_forwards]
    split_ifs with hgf
    · subst hgf
      exact hhop hop hg
    · exact hg
  refine ⟨fun hop g hg => ?_, fun d g m hd => hkeep g _ (h.holding d g m hd), fun g d m hg => ?_,
    fun g d m hg => ?_⟩
  · rw [setForward_forwards]
    split_ifs with hgf
    · subst hgf
      exact hentry hop hg
    · exact h.pending hop g hg
  · obtain ⟨hg', hd⟩ := h.channel g d m hg
    exact ⟨hkeep g _ hg', hd⟩
  · by_cases hgf : g = f
    · subst hgf
      rw [setForward_forwards, if_pos rfl] at hg ⊢
      exact hres d m hg
    · rw [setForward_forwards, if_neg hgf] at hg ⊢
      exact h.result g d m hg

theorem Correlated.setChannel (h : Correlated r) {x : Option (Option (ℕ × Dea))}
    (hx : ∀ d m, x = some (some (d, m)) →
      (r.forwards f).hop = some m.hopByHop ∧ r.handlers d = .delivered f) :
    Correlated (r.setChannel f x) := by
  refine { h with channel := fun g d m hg => ?_ }
  rw [setChannel_channels] at hg
  split_ifs at hg with hgf
  · subst hgf
    exact hx d m hg
  · exact h.channel g d m hg

theorem Correlated.setHandler (h : Correlated r) {q : HandlerPhase}
    (hd : ∀ f, r.handlers d ≠ .delivered f)
    (hq : ∀ f m, q = .holding f m → (r.forwards f).hop = some m.hopByHop) :
    Correlated (r.setHandler d q) := by
  have hkeep : ∀ d' g, r.handlers d' = .delivered g →
      (r.setHandler d q).handlers d' = .delivered g := by
    intro d' g hd'
    have hne : d' ≠ d := by
      rintro rfl
      exact hd g hd'
    rw [setHandler_handlers, if_neg hne]
    exact hd'
  refine ⟨h.pending, fun d' g m hd' => ?_, fun g d' m hg => ?_, fun g d' m hg => ?_⟩
  · rw [setHandler_handlers] at hd'
    split_ifs at hd' with hdd
    · exact hq g m hd'
    · exact h.holding d' g m hd'
  · obtain ⟨hg', hd'⟩ := h.channel g d' m hg
    exact ⟨hg', hkeep d' g hd'⟩
  · obtain ⟨hg', hd'⟩ := h.result g d' m hg
    exact ⟨hg', hkeep d' g hd'⟩

theorem lookup_of_addPending {hop' : UInt32} {g : ℕ}
    (h : (r.addPending hop f).pending.lookup hop' = some g) :
    hop' = hop ∧ g = f ∨ r.pending.lookup hop' = some g := by
  by_cases hhop : hop' = hop
  · subst hhop
    rw [addPending_pending, AList.lookup_insert] at h
    exact Or.inl ⟨rfl, (Option.some.inj h).symm⟩
  · rw [addPending_pending, AList.lookup_insert_ne hhop] at h
    exact Or.inr h

theorem lookup_of_removePending {hop' : UInt32} {g : ℕ}
    (h : (r.removePending hop).pending.lookup hop' = some g) :
    hop' ≠ hop ∧ r.pending.lookup hop' = some g := by
  have hhop : hop' ≠ hop := by
    rintro rfl
    rw [removePending_pending, AList.lookup_erase] at h
    cases h
  rw [removePending_pending, AList.lookup_erase_ne hhop] at h
  exact ⟨hhop, h⟩

theorem Correlated.addPending (h : Correlated r) (hf : (r.forwards f).entry = some hop) :
    Correlated (r.addPending hop f) := by
  refine { h with pending := fun hop' g hg => ?_ }
  rcases lookup_of_addPending hg with ⟨rfl, rfl⟩ | hold
  · exact hf
  · exact h.pending hop' g hold

theorem Correlated.removePending (h : Correlated r) (hop : UInt32) :
    Correlated (r.removePending hop) :=
  { h with pending := fun hop' g hg => h.pending hop' g (lookup_of_removePending hg).2 }

theorem Correlated.not_lookup_removePending (h : Correlated r)
    (hf : (r.forwards f).entry = some hop) (hop' : UInt32) :
    (r.removePending hop).pending.lookup hop' ≠ some f := by
  intro hlook
  obtain ⟨hne, hold⟩ := lookup_of_removePending hlook
  have hentry := h.pending hop' f hold
  rw [hf] at hentry
  exact hne (Option.some.inj hentry).symm

theorem clearPending_channels (r : DiamRequests) (f : ℕ) :
    r.clearPending.channels f = r.channels f ∨
      r.clearPending.channels f = some none ∧ ∃ hop, r.pending.lookup hop = some f := by
  dsimp only [DiamRequests.clearPending]
  split_ifs with hmem
  · cases hch : r.channels f with
    | none =>
      obtain ⟨⟨hop, g⟩, hp, hg⟩ := List.any_eq_true.mp hmem
      obtain rfl := of_decide_eq_true hg
      exact Or.inr ⟨rfl, hop, AList.mem_lookup_iff.mpr hp⟩
    | some x => exact Or.inl rfl
  · exact Or.inl rfl

theorem Correlated.clearPending (h : Correlated r) : Correlated r.clearPending := by
  refine { h with pending := fun hop g hg => ?_, channel := fun g d m hg => ?_ }
  · simp [DiamRequests.clearPending] at hg
  · rcases r.clearPending_channels g with hold | ⟨hnil, -⟩
    · exact h.channel g d m (hold.symm.trans hg)
    · rw [hnil] at hg
      cases hg

theorem Correlated.advance (h : Correlated r) {p p' : ForwardPhase} (hf : r.forwards f = p)
    (hentry : p.entry = none ∨ p'.entry = p.entry) (hhop : p.hop = none ∨ p'.hop = p.hop)
    (hres : ∀ d m, p'.result = some (.dea d m) →
      p'.hop = some m.hopByHop ∧ r.handlers d = .delivered f) :
    Correlated (r.setForward f p') := by
  refine h.setForward (fun hop hlook => ?_) (fun hop hhop' => ?_) hres
  · have hold := h.pending hop f hlook
    rw [hf] at hold
    rcases hentry with hnone | hsame
    · rw [hnone] at hold
      cases hold
    · rw [hsame, hold]
  · rw [hf] at hhop'
    rcases hhop with hnone | hsame
    · rw [hnone] at hhop'
      cases hhop'
    · rw [hsame, hhop']

theorem Correlated.leave (h : Correlated r) {again : Bool} {result : ForwardResult}
    {p : ForwardPhase} (hf : r.forwards f = .leaving hop again result) (hhop : p.hop = some hop)
    (hres : p.result = some result) : Correlated ((r.removePending hop).setForward f p) := by
  have hentry : (r.forwards f).entry = some hop := by
    rw [hf]
    rfl
  refine (h.removePending hop).setForward (fun hop' hlook => ?_) (fun hop' hhop' => ?_)
    fun d m hdea => ?_
  · exact absurd hlook (h.not_lookup_removePending hentry hop')
  · rw [removePending_forwards, hf] at hhop'
    exact hhop.trans hhop'
  · rw [hres] at hdea
    have hold := h.result f d m (by rw [hf]; exact hdea)
    rw [hf] at hold
    exact ⟨hhop.trans hold.1, hold.2⟩

end Correlated

end DiamRequests

open DiamRequests

theorem DiamRequests.Correlated.moves {df df' : DiamForwarder} {e : DiamEvent} {out : DiamOutput}
    (h : Correlated df.requests) (hm : df.Moves e out df') : Correlated df'.requests := by
  cases hm with
  | idle => exact h
  | linked => exact h
  | cleared => exact h.clearPending
  | redialling _ hf => exact h.advance hf (.inl rfl) (.inl rfl) nofun
  | begun _ hf =>
    rcases hf with hf | hf
    · exact h.advance hf (.inl rfl) (.inl rfl) nofun
    · exact h.advance hf (.inl rfl) (.inl rfl) nofun
  | made hf => exact h.advance hf (.inl rfl) (.inl rfl) nofun
  | refused hf => exact h.advance hf (.inl rfl) (.inl rfl) nofun
  | @numbered f c hf =>
    have hnum : Correlated
        (df.requests.setForward f (.numbered c df.requests.nextHopByHopID)) :=
      h.advance hf (.inl rfl) (.inl rfl) nofun
    exact { hnum with }
  | @registered f c hop hf =>
    have hreg : Correlated (df.requests.setForward f (.registered c hop)) :=
      h.advance hf (.inl rfl) (.inr rfl) nofun
    exact hreg.addPending (by simp [ForwardPhase.entry])
  | unbuilt hf => exact h.advance hf (.inr rfl) (.inr rfl) nofun
  | unwritten hf => exact h.advance hf (.inr rfl) (.inr rfl) nofun
  | written hf => exact h.advance hf (.inr rfl) (.inr rfl) nofun
  | canceled hf => exact h.advance hf (.inr rfl) (.inr rfl) nofun
  | @lost f c hop _ hf =>
    have hleft : Correlated
        (df.requests.setForward f (.leaving hop false .connectionLost)) :=
      h.advance hf (.inr rfl) (.inr rfl) nofun
    exact hleft.setChannel nofun
  | @answered f c d hop m serializes hf hch =>
    obtain ⟨hhop, hd⟩ := h.channel f d m hch
    rw [hf] at hhop
    have hleft : Correlated (df.requests.setForward f
        (.leaving hop false (if serializes then .dea d m else .serializeFailed))) := by
      refine h.advance hf (.inr rfl) (.inr rfl) fun d' m' hres => ?_
      cases serializes with
      | true =>
        cases hres
        exact ⟨hhop, hd⟩
      | false => cases hres
    exact hleft.setChannel nofun
  | removed hf => exact h.leave hf rfl rfl
  | returned hf => exact h.leave hf rfl rfl
  | dropped m hd => exact h.setHandler (by rw [hd]; nofun) nofun
  | held hd hf =>
    refine h.setHandler (by rw [hd]; nofun) fun f' m' hq => ?_
    cases hq
    exact ForwardPhase.hop_of_entry (h.pending _ _ hf)
  | @delivered d f m hd hch =>
    have hsent : Correlated (df.requests.setHandler d (.delivered f)) :=
      h.setHandler (by rw [hd]; nofun) nofun
    refine hsent.setChannel fun d' m' hx => ?_
    cases hx
    exact ⟨h.holding d f m hd, by simp⟩

/-! ## One call -/

def DiamOutput.call : DiamOutput → Option ℕ
  | .none => Option.none
  | .der f _ _ _ => some f
  | .returned f _ => some f

/-- What an event can do to the call `f`, whose channel holds `x`. -/
inductive ForwardPhase.Next (f : ℕ) (x : Option (Option (ℕ × Dea))) :
    ForwardPhase → DiamOutput → ForwardPhase → Prop
  | same (p : ForwardPhase) {out : DiamOutput} (h : out.call ≠ some f) : Next f x p out p
  | redialling : Next f x .idle .none .redialling
  | begun {p : ForwardPhase} (c : ℕ) (h : p = .idle ∨ p = .redialling) :
      Next f x p .none (.connected c)
  | refused : Next f x .redialling (.returned f .noConnection) (.returned none .noConnection)
  | numbered (c : ℕ) (hop : UInt32) : Next f x (.connected c) .none (.numbered c hop)
  | registered (c : ℕ) (hop : UInt32) : Next f x (.numbered c hop) .none (.registered c hop)
  | failed (c : ℕ) (hop : UInt32) (again : Bool) {result : ForwardResult}
      (h : result = .buildFailed ∨ result = .writeFailed) :
      Next f x (.registered c hop) .none (.leaving hop again result)
  | written (c : ℕ) (hop : UInt32) (originStateID : ℕ) :
      Next f x (.registered c hop) (.der f c hop originStateID) (.sent c hop)
  | left (c : ℕ) (hop : UInt32) (again : Bool) {result : ForwardResult}
      (h : result = .connectionLost → x = some none) :
      Next f x (.sent c hop) .none (.leaving hop again result)
  | removed (hop : UInt32) (result : ForwardResult) :
      Next f x (.leaving hop true result) .none (.leaving hop false result)
  | returned (hop : UInt32) (result : ForwardResult) :
      Next f x (.leaving hop false result) (.returned f result) (.returned (some hop) result)

open ForwardPhase

theorem next_setForward {r : DiamRequests} {f : ℕ} {p p' : ForwardPhase} {out : DiamOutput}
    (hf : r.forwards f = p) (h : Next f (r.channels f) p out p')
    (hout : ∀ g, out.call = some g → g = f) (g : ℕ) :
    Next g (r.channels g) (r.forwards g) out ((r.setForward f p').forwards g) := by
  rw [setForward_forwards]
  split_ifs with hgf
  · subst hgf
    rw [hf]
    exact h
  · exact .same _ fun hg => hgf (hout g hg)

theorem DiamForwarder.Moves.next {df df' : DiamForwarder} {e : DiamEvent} {out : DiamOutput}
    (h : df.Moves e out df') (g : ℕ) :
    Next g (df.requests.channels g) (df.requests.forwards g) out (df'.requests.forwards g) := by
  cases h with
  | idle | linked | cleared | dropped | held | delivered => exact .same _ nofun
  | redialling _ hf => exact next_setForward hf .redialling nofun g
  | begun _ hf => exact next_setForward rfl (.begun _ hf) nofun g
  | made hf => exact next_setForward rfl (.begun _ (.inr hf)) nofun g
  | refused hf => exact next_setForward hf .refused (fun g hg => (Option.some.inj hg).symm) g
  | numbered hf => exact next_setForward hf (.numbered _ _) nofun g
  | registered hf => exact next_setForward hf (.registered _ _) nofun g
  | unbuilt hf => exact next_setForward hf (.failed _ _ _ (.inl rfl)) nofun g
  | unwritten hf => exact next_setForward hf (.failed _ _ _ (.inr rfl)) nofun g
  | written hf =>
    exact next_setForward hf (.written _ _ _) (fun g hg => (Option.some.inj hg).symm) g
  | canceled hf =>
    refine next_setForward hf (.left _ _ _ fun hres => ?_) nofun g
    cases hres
  | lost _ hf hch => exact next_setForward hf (.left _ _ _ fun _ => hch) nofun g
  | answered serializes hf =>
    refine next_setForward hf (.left _ _ _ fun hres => ?_) nofun g
    cases serializes with
    | true => cases hres
    | false => cases hres
  | removed hf => exact next_setForward hf (.removed _ _) nofun g
  | returned hf =>
    exact next_setForward hf (.returned _ _) (fun g hg => (Option.some.inj hg).symm) g

section Next

variable {f : ℕ} {x : Option (Option (ℕ × Dea))} {p p' : ForwardPhase} {out : DiamOutput}

theorem ForwardPhase.Next.hop (h : Next f x p out p') {hop : UInt32} (hp : p.hop = some hop) :
    p'.hop = some hop := by
  cases h with
  | same | registered | failed | written | left | removed | returned => exact hp
  | redialling | refused | numbered => cases hp
  | begun _ h =>
    rcases h with rfl | rfl
    · cases hp
    · cases hp

theorem ForwardPhase.Next.eq_of_returned {hop : Option UInt32} {result : ForwardResult}
    (h : Next f x (.returned hop result) out p') : p' = .returned hop result := by
  cases h with
  | same => rfl
  | begun _ h =>
    rcases h with h | h
    · cases h
    · cases h

theorem ForwardPhase.Next.of_der {c originStateID : ℕ} {hop : UInt32}
    (h : Next f x p (.der f c hop originStateID) p') : p' = .sent c hop := by
  cases h with
  | same _ hout => exact absurd rfl hout
  | written => rfl

theorem ForwardPhase.Next.of_returned {result : ForwardResult}
    (h : Next f x p (.returned f result) p') : ∃ hop, p' = .returned hop result := by
  cases h with
  | same _ hout => exact absurd rfl hout
  | refused => exact ⟨_, rfl⟩
  | returned => exact ⟨_, rfl⟩

/-- A call waits for an answer, or it has one. -/
def ForwardPhase.Awaited (p : ForwardPhase) : Prop :=
  (∃ c hop, p = .sent c hop) ∨ ∃ d m, p.result = some (.dea d m)

theorem ForwardPhase.Next.awaited (h : Next f x p out p') (hp : p'.Awaited) :
    p.Awaited ∨ ∃ c hop originStateID, out = .der f c hop originStateID := by
  cases h with
  | same => exact Or.inl hp
  | written => exact Or.inr ⟨_, _, _, rfl⟩
  | left => exact Or.inl (Or.inl ⟨_, _, rfl⟩)
  | failed _ _ _ h =>
    rcases hp with ⟨c, hop, hp⟩ | ⟨d, m, hp⟩
    · cases hp
    · rcases h with rfl | rfl
      · cases hp
      · cases hp
  | removed | returned =>
    rcases hp with ⟨c, hop, hp⟩ | ⟨d, m, hp⟩
    · cases hp
    · exact Or.inl (Or.inr ⟨d, m, hp⟩)
  | redialling | begun | refused | numbered | registered =>
    rcases hp with ⟨c, hop, hp⟩ | ⟨d, m, hp⟩
    · cases hp
    · cases hp

end Next

/-! ## Runs -/

abbrev DiamStep : Type := Record DiamForwarder DiamEvent DiamOutput

/-- What was sent and returned so far, and where the calls are. -/
structure Accounted (h : List DiamStep) (df : DiamForwarder) : Prop where
  correlated : Correlated df.requests
  hop : ∀ st ∈ h, ∀ f c hop originStateID, st.output = .der f c hop originStateID →
    (df.requests.forwards f).hop = some hop
  sent : ∀ f, (df.requests.forwards f).Awaited →
    ∃ st ∈ h, ∃ c hop originStateID, st.output = .der f c hop originStateID
  returned : ∀ st ∈ h, ∀ f result, st.output = .returned f result →
    ∃ hop, df.requests.forwards f = .returned hop result

theorem accounted_trace (es : List DiamEvent) :
    Accounted (trace DiamForwarder.step newDiamForwarder es)
      (final DiamForwarder.step newDiamForwarder es) := by
  refine history_inv (J := Accounted) (C := fun _ => True) ?_ ?_ fun _ _ => trivial
  · intro h df e hJ _
    have hm := df.step_moves e
    refine ⟨hJ.correlated.moves hm, fun st hst f c hop osi hout => ?_, fun f hf => ?_,
      fun st hst f result hout => ?_⟩
    · rcases List.mem_append.mp hst with hst | hst
      · exact (hm.next f).hop (hJ.hop st hst f c hop osi hout)
      · obtain rfl := List.mem_singleton.mp hst
        have hn := hm.next f
        rw [record_output] at hout
        rw [hout] at hn
        rw [hn.of_der]
        rfl
    · rcases (hm.next f).awaited hf with hold | ⟨c, hop, osi, hout⟩
      · obtain ⟨st, hst, hder⟩ := hJ.sent f hold
        exact ⟨st, List.mem_append_left _ hst, hder⟩
      · exact ⟨_, List.mem_append_right _ (List.mem_singleton.mpr rfl), c, hop, osi, hout⟩
    · rcases List.mem_append.mp hst with hst | hst
      · obtain ⟨hop, hret⟩ := hJ.returned st hst f result hout
        have hn := hm.next f
        rw [hret] at hn
        exact ⟨hop, hn.eq_of_returned⟩
      · obtain rfl := List.mem_singleton.mp hst
        have hn := hm.next f
        rw [record_output] at hout
        rw [hout] at hn
        exact hn.of_returned
  · refine ⟨correlated_new, fun st hst => absurd hst List.not_mem_nil, fun f hf => ?_,
      fun st hst => absurd hst List.not_mem_nil⟩
    rcases hf with ⟨c, hop, hf⟩ | ⟨d, m, hf⟩
    · cases hf
    · cases hf

/-- Every answer that a call returns has the id of its request; no answer is returned by two
calls; a call that is back has no entry. -/
structure CorrelatesAnswers (es : List DiamEvent) : Prop where
  own : ∀ st ∈ trace DiamForwarder.step newDiamForwarder es, ∀ f d m,
    st.output = .returned f (.dea d m) →
      (∃ st' ∈ trace DiamForwarder.step newDiamForwarder es, ∃ c originStateID,
        st'.output = .der f c m.hopByHop originStateID) ∧
      ∀ st' ∈ trace DiamForwarder.step newDiamForwarder es, ∀ c hop originStateID,
        st'.output = .der f c hop originStateID → hop = m.hopByHop
  once : ∀ st ∈ trace DiamForwarder.step newDiamForwarder es,
    ∀ st' ∈ trace DiamForwarder.step newDiamForwarder es, ∀ f f' d m m',
      st.output = .returned f (.dea d m) → st'.output = .returned f' (.dea d m') → f = f'
  removed : ∀ st ∈ trace DiamForwarder.step newDiamForwarder es, ∀ f result,
    st.output = .returned f result → ∀ hop,
      (final DiamForwarder.step newDiamForwarder es).requests.pending.lookup hop ≠ some f

/-- **Answers are correlated**, in every run. -/
theorem answers_correlated (es : List DiamEvent) : CorrelatesAnswers es := by
  have hacc := accounted_trace es
  refine ⟨fun st hst f d m hout => ?_, fun st hst st' hst' f f' d m m' hout hout' => ?_,
    fun st hst f result hout hop hlook => ?_⟩
  · obtain ⟨hop, hret⟩ := hacc.returned st hst f _ hout
    have hhop : hop = some m.hopByHop := by
      have := (hacc.correlated.result f d m (by rw [hret]; rfl)).1
      rw [hret] at this
      exact this
    have hown : ∀ st' ∈ trace DiamForwarder.step newDiamForwarder es, ∀ c hop osi,
        st'.output = .der f c hop osi → hop = m.hopByHop := by
      intro st' hst' c hop' osi hder
      have hhop' := hacc.hop st' hst' f c hop' osi hder
      rw [hret, hhop] at hhop'
      exact (Option.some.inj hhop').symm
    refine ⟨?_, hown⟩
    obtain ⟨st', hst', c, hop', osi, hder⟩ := hacc.sent f (Or.inr ⟨d, m, by rw [hret]; rfl⟩)
    obtain rfl := hown st' hst' c hop' osi hder
    exact ⟨st', hst', c, osi, hder⟩
  · obtain ⟨hop, hret⟩ := hacc.returned st hst f _ hout
    obtain ⟨hop', hret'⟩ := hacc.returned st' hst' f' _ hout'
    have hd := (hacc.correlated.result f d m (by rw [hret]; rfl)).2
    have hd' := (hacc.correlated.result f' d m' (by rw [hret']; rfl)).2
    rw [hd] at hd'
    exact HandlerPhase.delivered.inj hd'
  · obtain ⟨hop', hret⟩ := hacc.returned st hst f result hout
    have hentry := hacc.correlated.pending hop f hlook
    rw [hret] at hentry
    cases hentry

namespace Sample

/-- `Connect` has made the first connection, and its watcher watches it. -/
def connecting : List DiamEvent :=
  [.link (.connect true), .link (.connect true), .link (.connect true), .link (.watch 0)]

/-- A call that has a connection writes its request. -/
def calling (f : ℕ) : List DiamEvent :=
  [.forward f .number, .forward f .register, .forward f (.send .written)]

def dea : Dea := ⟨1, [3, 1, 0, 4]⟩

end Sample

end NssAAF.Aaa
