import NssAAF.Lib.Fairness
import Mathlib.Logic.Function.Basic
import Mathlib.Data.Nat.Pairing

/-!
# The connection of the Diameter forwarder

`internal/aaa/gateway/diameter_forward.go` keeps one connection to the AAA server. `Connect` makes
the first one and starts `watchDisconnect`, which clears the connection when the peer is lost, and
`monitorConnection`, which dials again when there is none. `getConn` dials too. What one of the
goroutines does under the lock is one event. Connections are numbered in the order in which they are
dialled, and watchers in the order in which they are started. Calls of `Close` and the end of the
context are left out.

`loss_noticed` says which connections are watched, and what follows after a loss.
-/

namespace NssAAF.Aaa

open Transducer Filter

/-- Where the call of `Connect` is: it has dialled, it has installed the connection, it is back. -/
inductive ConnectPhase
  | idle
  | dialled (c : ℕ)
  | installed (c : ℕ)
  | returned
  | failed
  deriving DecidableEq

/-- Where the loop of `monitorConnection` is: not started, before the test of `connected`, before it
dials, before `clearPending`. -/
inductive MonitorPhase
  | off
  | checking
  | reconnecting
  | clearing
  deriving DecidableEq

/-- Where a call of `watchDisconnect` is: before it reads the connection, waiting for its end,
before `clearPending`, back. -/
inductive WatcherPhase
  | idle
  | started
  | watching (c : ℕ)
  | clearing
  | done
  deriving DecidableEq

/-- The fields of the forwarder that have to do with the connection, what the peer has closed, and
where the goroutines are. `established` has the connections that were installed, with the
Origin-State-Id that the forwarder then has. -/
structure DiamLink where
  conn : Option ℕ
  connected : Bool
  originStateID : ℕ
  dialled : ℕ
  lost : ℕ → Bool
  established : List (ℕ × ℕ)
  connect : ConnectPhase
  monitor : MonitorPhase
  started : ℕ
  watchers : ℕ → WatcherPhase

def newDiamLink : DiamLink where
  conn := none
  connected := false
  originStateID := 0
  dialled := 0
  lost := fun _ => false
  established := []
  connect := .idle
  monitor := .off
  started := 0
  watchers := fun _ => .idle

/-- `Connect` goes on, the monitor goes on, a watcher goes on, the peer closes a connection,
`getConn` takes the lock. `dials` says whether the dialling that the event may come to succeeds.
-/
inductive LinkEvent
  | connect (dials : Bool)
  | monitor (dials : Bool)
  | watch (n : ℕ)
  | lose (c : ℕ)
  | getConn (dials : Bool)
  deriving DecidableEq

def LinkEvent.OfConnect (e : LinkEvent) : Prop := ∃ dials, e = .connect dials

def LinkEvent.OfMonitor (e : LinkEvent) : Prop := ∃ dials, e = .monitor dials

namespace DiamLink

section Step

variable (l : DiamLink)

def setWatcher (n : ℕ) (w : WatcherPhase) : DiamLink :=
  { l with watchers := Function.update l.watchers n w }

def startWatcher : DiamLink := { l.setWatcher l.started .started with started := l.started + 1 }

/-- A connection is dialled and installed, as `getConn` and the monitor do it. -/
def redial : DiamLink :=
  { l with
    conn := some l.dialled
    connected := true
    dialled := l.dialled + 1
    established := l.established ++ [(l.dialled, l.originStateID)] }

/-- The rest of `getConn` when it has found no connection: it looks again under the lock. -/
def getConn (dials : Bool) : Option ℕ × DiamLink :=
  match l.conn with
  | some c => (some c, l)
  | none => if dials then (some l.dialled, l.redial) else (none, l)

def connectStep (dials : Bool) : DiamLink :=
  match l.connect with
  | .idle =>
    if dials then { l with dialled := l.dialled + 1, connect := .dialled l.dialled }
    else { l with connect := .failed }
  | .dialled c => { l with conn := some c, connected := true, connect := .installed c }
  | .installed c =>
    { l.startWatcher with
      originStateID := l.originStateID + 1
      established := l.established ++ [(c, l.originStateID + 1)]
      connect := .returned
      monitor := .checking }
  | .returned | .failed => l

/-- A round of the monitor, and whether it calls `clearPending`. -/
def monitorConnection (dials : Bool) : Bool × DiamLink :=
  match l.monitor with
  | .off => (false, l)
  | .checking => (false, if l.connected then l else { l with monitor := .reconnecting })
  | .reconnecting =>
    -- the connection is installed whether there is one or not
    (false,
      if dials then { l.redial with monitor := .clearing } else { l with monitor := .checking })
  | .clearing => (true, { l.startWatcher with monitor := .checking })

/-- A watcher goes on, and whether it calls `clearPending`. -/
def watchDisconnect (n : ℕ) : Bool × DiamLink :=
  match l.watchers n with
  | .idle | .done => (false, l)
  | .started =>
    match l.conn with
    | none => (false, l.setWatcher n .done)
    | some c => (false, l.setWatcher n (.watching c))
  | .watching c =>
    if l.lost c then
      if l.conn = some c then
        (false, { l.setWatcher n .clearing with conn := none, connected := false })
      else (false, l.setWatcher n .done)
    else (false, l)
  | .clearing => (true, l.setWatcher n .done)

/-- Only a connection that was dialled can be lost. -/
def lose (c : ℕ) : DiamLink :=
  if c < l.dialled then { l with lost := Function.update l.lost c true } else l

def step : LinkEvent → Bool × DiamLink
  | .connect dials => (false, l.connectStep dials)
  | .monitor dials => l.monitorConnection dials
  | .watch n => l.watchDisconnect n
  | .lose c => (false, l.lose c)
  | .getConn dials => (false, (l.getConn dials).2)

end Step

section Fields

variable (l : DiamLink) (n m : ℕ) (w : WatcherPhase)

@[simp] theorem setWatcher_watchers :
    (l.setWatcher n w).watchers m = if m = n then w else l.watchers m :=
  Function.update_apply ..

@[simp] theorem startWatcher_watchers :
    l.startWatcher.watchers m = if m = l.started then .started else l.watchers m :=
  Function.update_apply ..

@[simp] theorem setWatcher_conn : (l.setWatcher n w).conn = l.conn := rfl
@[simp] theorem setWatcher_lost : (l.setWatcher n w).lost = l.lost := rfl
@[simp] theorem setWatcher_monitor : (l.setWatcher n w).monitor = l.monitor := rfl
@[simp] theorem setWatcher_started : (l.setWatcher n w).started = l.started := rfl

@[simp] theorem startWatcher_conn : l.startWatcher.conn = l.conn := rfl
@[simp] theorem startWatcher_lost : l.startWatcher.lost = l.lost := rfl

@[simp] theorem redial_established :
    l.redial.established = l.established ++ [(l.dialled, l.originStateID)] := rfl

end Fields

inductive Moves (l : DiamLink) : LinkEvent → Bool → DiamLink → Prop
  | idle (e : LinkEvent) : Moves l e false l
  | dialled (h : l.connect = .idle) :
      Moves l (.connect true) false { l with
        dialled := l.dialled + 1, connect := .dialled l.dialled }
  | failed (h : l.connect = .idle) : Moves l (.connect false) false { l with connect := .failed }
  | installed {c : ℕ} (dials : Bool) (h : l.connect = .dialled c) :
      Moves l (.connect dials) false { l with
        conn := some c, connected := true, connect := .installed c }
  | returned {c : ℕ} (dials : Bool) (h : l.connect = .installed c) :
      Moves l (.connect dials) false { l.startWatcher with
        originStateID := l.originStateID + 1
        established := l.established ++ [(c, l.originStateID + 1)]
        connect := .returned
        monitor := .checking }
  | noticed (dials : Bool) (h : l.monitor = .checking) (hconn : l.connected = false) :
      Moves l (.monitor dials) false { l with monitor := .reconnecting }
  | refused (h : l.monitor = .reconnecting) :
      Moves l (.monitor false) false { l with monitor := .checking }
  | redialled (h : l.monitor = .reconnecting) :
      Moves l (.monitor true) false { l.redial with monitor := .clearing }
  | rewatched (dials : Bool) (h : l.monitor = .clearing) :
      Moves l (.monitor dials) true { l.startWatcher with monitor := .checking }
  | watched {n c : ℕ} (h : l.watchers n = .started) (hconn : l.conn = some c) :
      Moves l (.watch n) false (l.setWatcher n (.watching c))
  | unwatched {n : ℕ} (h : l.watchers n = .started) (hconn : l.conn = none) :
      Moves l (.watch n) false (l.setWatcher n .done)
  | cleared {n c : ℕ} (h : l.watchers n = .watching c) (hlost : l.lost c = true)
      (hconn : l.conn = some c) :
      Moves l (.watch n) false { l.setWatcher n .clearing with conn := none, connected := false }
  | outlived {n c : ℕ} (h : l.watchers n = .watching c) (hconn : l.conn ≠ some c) :
      Moves l (.watch n) false (l.setWatcher n .done)
  | finished {n : ℕ} (h : l.watchers n = .clearing) :
      Moves l (.watch n) true (l.setWatcher n .done)
  | lost {c : ℕ} (h : c < l.dialled) :
      Moves l (.lose c) false { l with lost := Function.update l.lost c true }
  | made (h : l.conn = none) : Moves l (.getConn true) false l.redial

theorem connectStep_moves (l : DiamLink) (dials : Bool) :
    Moves l (.connect dials) false (l.connectStep dials) := by
  unfold connectStep
  cases h : l.connect with
  | idle =>
    cases dials with
    | true => exact .dialled h
    | false => exact .failed h
  | dialled c => exact .installed dials h
  | installed c => exact .returned dials h
  | returned => exact .idle _
  | failed => exact .idle _

theorem monitorConnection_moves (l : DiamLink) (dials : Bool) :
    Moves l (.monitor dials) (l.monitorConnection dials).1 (l.monitorConnection dials).2 := by
  unfold monitorConnection
  cases h : l.monitor with
  | off => exact .idle _
  | checking =>
    dsimp only
    split_ifs with hconn
    · exact .idle _
    · exact .noticed dials h (Bool.eq_false_iff.mpr hconn)
  | reconnecting =>
    cases dials with
    | true => exact .redialled h
    | false => exact .refused h
  | clearing => exact .rewatched dials h

theorem watchDisconnect_moves (l : DiamLink) (n : ℕ) :
    Moves l (.watch n) (l.watchDisconnect n).1 (l.watchDisconnect n).2 := by
  unfold watchDisconnect
  cases h : l.watchers n with
  | idle => exact .idle _
  | done => exact .idle _
  | started =>
    dsimp only
    cases hconn : l.conn with
    | none => exact .unwatched h hconn
    | some c => exact .watched h hconn
  | watching c =>
    dsimp only
    split_ifs with hlost hconn
    · exact .cleared h hlost hconn
    · exact .outlived h hconn
    · exact .idle _
  | clearing => exact .finished h

theorem getConn_moves (l : DiamLink) (dials : Bool) :
    Moves l (.getConn dials) false (l.getConn dials).2 := by
  unfold getConn
  cases h : l.conn with
  | some c => exact .idle _
  | none =>
    cases dials with
    | true => exact .made h
    | false => exact .idle _

theorem step_moves (l : DiamLink) (e : LinkEvent) : Moves l e (step l e).1 (step l e).2 := by
  cases e with
  | connect dials => exact connectStep_moves l dials
  | monitor dials => exact monitorConnection_moves l dials
  | watch n => exact watchDisconnect_moves l n
  | getConn dials => exact getConn_moves l dials
  | lose c =>
    dsimp only [step, lose]
    split_ifs with h
    · exact .lost h
    · exact .idle _

/-! ## What goes together -/

def Makes (l : DiamLink) (e : LinkEvent) : Prop := e = .getConn true ∧ l.conn = none

/-- `Connect` has installed its connection, or has failed. -/
def Connected (l : DiamLink) : Prop := l.connect ≠ .idle ∧ ∀ c, l.connect ≠ .dialled c

/-- `getConn` makes no connection before `Connect` has installed one, nor while the monitor is
about to dial. -/
def Timely (l : DiamLink) (e : LinkEvent) : Prop :=
  l.Makes e → l.Connected ∧ l.monitor ≠ .reconnecting

/-- How the fields and the goroutines go together. -/
structure Orderly (l : DiamLink) : Prop where
  connected_eq : l.connected = l.conn.isSome
  unmade : ¬ l.Connected → l.conn = none
  reconnecting : l.monitor = .reconnecting → l.conn = none
  returned : l.monitor ≠ .off → l.connect = .returned
  unwatched : l.monitor = .off → ∀ n, l.watchers n = .idle
  fresh : ∀ n, l.started ≤ n → l.watchers n = .idle

section Orderly

variable {l l' : DiamLink} {e : LinkEvent} {clears : Bool}

theorem orderly_new : Orderly newDiamLink where
  connected_eq := rfl
  unmade _ := rfl
  reconnecting _ := rfl
  returned h := absurd rfl h
  unwatched _ _ := rfl
  fresh _ _ := rfl

theorem Orderly.off (h : Orderly l) (hc : l.connect ≠ .returned) : l.monitor = .off := by
  by_contra hoff
  exact hc (h.returned hoff)

theorem Orderly.of_watcher (h : Orderly l) {n : ℕ} (hn : l.watchers n ≠ .idle) :
    l.monitor ≠ .off ∧ n < l.started := by
  refine ⟨fun hoff => hn (h.unwatched hoff n), ?_⟩
  by_contra hlt
  exact hn (h.fresh n (by omega))

theorem Orderly.setWatcher (h : Orderly l) {n : ℕ} (w : WatcherPhase)
    (hn : l.watchers n ≠ .idle) : Orderly (l.setWatcher n w) := by
  obtain ⟨hoff, hlt⟩ := h.of_watcher hn
  refine { h with unwatched := fun hm => absurd hm hoff, fresh := fun m hm => ?_ }
  have hne : m ≠ n := by
    rw [setWatcher_started] at hm
    omega
  rw [setWatcher_watchers, if_neg hne]
  exact h.fresh m hm

theorem Orderly.fresh_startWatcher (h : Orderly l) {m : ℕ} (hm : l.started + 1 ≤ m) :
    l.startWatcher.watchers m = .idle := by
  have hne : m ≠ l.started := by omega
  rw [startWatcher_watchers, if_neg hne]
  exact h.fresh m (by omega)

theorem Orderly.connected (h : Orderly l) (hon : l.monitor ≠ .off) : l.Connected := by
  have hret := h.returned hon
  exact ⟨by rw [hret]; nofun, fun c => by rw [hret]; nofun⟩

theorem Orderly.moves (h : Orderly l) (ht : l.Timely e) (hm : l.Moves e clears l') :
    Orderly l' := by
  cases hm with
  | idle => exact h
  | dialled hc | failed hc =>
    have hoff := h.off (by rw [hc]; nofun)
    exact { h with
      unmade := fun _ => h.unmade fun hcon => hcon.1 hc
      returned := fun hne => absurd hoff hne }
  | installed dials hc =>
    have hoff := h.off (by rw [hc]; nofun)
    exact { h with
      connected_eq := rfl
      unmade := fun hcon => absurd ⟨nofun, nofun⟩ hcon
      reconnecting := fun hre => absurd (hoff.symm.trans hre) nofun
      returned := fun hne => absurd hoff hne }
  | returned dials hc =>
    exact { h with
      unmade := fun hcon => absurd ⟨nofun, nofun⟩ hcon
      reconnecting := nofun
      returned := fun _ => rfl
      unwatched := nofun
      fresh := fun m hm => h.fresh_startWatcher hm }
  | noticed dials hc hconn =>
    have hnone : l.conn = none := by
      have heq := h.connected_eq
      rw [hconn] at heq
      exact Option.isNone_iff_eq_none.mp (by simpa using heq.symm)
    exact { h with
      reconnecting := fun _ => hnone
      returned := fun _ => h.returned (by rw [hc]; nofun)
      unwatched := nofun }
  | refused hc =>
    exact { h with
      reconnecting := nofun
      returned := fun _ => h.returned (by rw [hc]; nofun)
      unwatched := nofun }
  | redialled hc =>
    have hon : l.monitor ≠ .off := by rw [hc]; nofun
    exact { h with
      connected_eq := rfl
      unmade := fun hcon => absurd (h.connected hon) hcon
      reconnecting := nofun
      returned := fun _ => h.returned hon
      unwatched := nofun }
  | rewatched dials hc =>
    exact { h with
      reconnecting := nofun
      returned := fun _ => h.returned (by rw [hc]; nofun)
      unwatched := nofun
      fresh := fun m hm => h.fresh_startWatcher hm }
  | watched hn | unwatched hn | outlived hn | finished hn =>
    exact h.setWatcher _ (by rw [hn]; nofun)
  | cleared hn hlost hconn =>
    exact { h.setWatcher .clearing (by rw [hn]; nofun) with
      connected_eq := rfl
      unmade := fun _ => rfl
      reconnecting := fun _ => rfl }
  | lost hc => exact { h with }
  | made hnone =>
    obtain ⟨hcon, hre⟩ := ht ⟨rfl, hnone⟩
    exact { h with
      connected_eq := rfl
      unmade := fun hno => absurd hcon hno
      reconnecting := fun hre' => absurd hre' hre }

end Orderly

/-! ## Watchers -/

/-- A watcher watches the connection, or one that is started or about to be started will. -/
def Watched (l : DiamLink) (c : ℕ) : Prop :=
  (∃ n, l.watchers n = .watching c ∨ l.watchers n = .started) ∨
    (∃ c', l.connect = .installed c') ∨ l.monitor = .clearing

section Watched

variable {l l' : DiamLink} {e : LinkEvent} {clears : Bool} {c n : ℕ}

theorem Watched.setWatcher (h : Watched l c) (hc : l.watchers n ≠ .watching c)
    (hs : l.watchers n ≠ .started) (w : WatcherPhase) : Watched (l.setWatcher n w) c := by
  rcases h with ⟨m, hm⟩ | h
  · have hne : m ≠ n := by
      rintro rfl
      exact hm.elim hc hs
    refine Or.inl ⟨m, ?_⟩
    rw [setWatcher_watchers, if_neg hne]
    exact hm
  · exact Or.inr h

theorem Watched.moves (h : ∀ c, l.conn = some c → l.Watched c) (hno : ¬ l.Makes e)
    (hm : l.Moves e clears l') : ∀ c, l'.conn = some c → l'.Watched c := by
  intro c hc
  cases hm with
  | idle => exact h c hc
  | dialled hidle | failed hidle =>
    rcases h c hc with hn | ⟨c', hc'⟩ | hmon
    · exact Or.inl hn
    · rw [hidle] at hc'
      cases hc'
    · exact Or.inr (Or.inr hmon)
  | installed => exact Or.inr (Or.inl ⟨_, rfl⟩)
  | returned => exact Or.inl ⟨l.started, Or.inr (by simp)⟩
  | noticed dials hmon | refused hmon =>
    rcases h c hc with hn | hcon | hmon'
    · exact Or.inl hn
    · exact Or.inr (Or.inl hcon)
    · rw [hmon] at hmon'
      cases hmon'
  | redialled => exact Or.inr (Or.inr rfl)
  | rewatched => exact Or.inl ⟨l.started, Or.inr (by simp)⟩
  | @watched n c' hn hconn =>
    obtain rfl := Option.some.inj (hconn.symm.trans hc)
    exact Or.inl ⟨n, Or.inl (by simp)⟩
  | unwatched hn hconn =>
    rw [setWatcher_conn, hconn] at hc
    cases hc
  | cleared => cases hc
  | outlived hn hconn =>
    refine (h c hc).setWatcher (fun hw => ?_) (by rw [hn]; nofun) _
    rw [hn] at hw
    cases hw
    exact hconn hc
  | finished hn => exact (h c hc).setWatcher (by rw [hn]; nofun) (by rw [hn]; nofun) _
  | lost => exact h c hc
  | made hnone => exact absurd ⟨rfl, hnone⟩ hno

end Watched

/-! ## After a loss -/

/-- A lost connection is still installed. -/
def Held (c : ℕ) (l : DiamLink) : Prop := l.conn = some c ∧ l.lost c = true

/-- There is no connection, and the monitor runs. -/
def Cleared (l : DiamLink) : Prop := l.conn = none ∧ l.monitor ≠ .off

section Loss

variable {l l' : DiamLink} {e : LinkEvent} {clears : Bool} {c n : ℕ}

theorem Held.moves (h : Held c l) (ho : Orderly l) (hno : ¬ l.Makes e)
    (hm : l.Moves e clears l') : Held c l' ∨ Cleared l' := by
  have hsome : l.conn ≠ none := by
    rw [h.1]
    nofun
  cases hm with
  | installed dials hc =>
    have hnone := ho.unmade fun hcon => hcon.2 _ hc
    exact absurd hnone hsome
  | redialled hre => exact absurd (ho.reconnecting hre) hsome
  | cleared hn =>
    have hon := (ho.of_watcher (by rw [hn]; nofun)).1
    exact Or.inr ⟨rfl, hon⟩
  | lost =>
    refine Or.inl ⟨h.1, ?_⟩
    dsimp only
    rw [Function.update_apply, h.2, ite_self]
  | made hnone => exact absurd hnone hsome
  | idle | dialled | failed | returned | noticed | refused | rewatched | watched | unwatched
    | outlived | finished => exact Or.inl h

theorem Cleared.moves (h : Cleared l) (ho : Orderly l) (hno : ¬ l.Makes e)
    (hre : l.monitor ≠ .reconnecting) (hm : l.Moves e clears l') : Cleared l' := by
  have hret := ho.returned h.2
  cases hm with
  | installed dials hc =>
    rw [hret] at hc
    cases hc
  | redialled hc => exact absurd hc hre
  | made hnone => exact absurd ⟨rfl, hnone⟩ hno
  | cleared => exact ⟨rfl, h.2⟩
  | returned | noticed | refused | rewatched => exact ⟨h.1, nofun⟩
  | idle | dialled | failed | watched | unwatched | outlived | finished | lost => exact h

theorem watcher_moves (ho : Orderly l) (hn : l.watchers n ≠ .idle) (he : e ≠ .watch n)
    (hm : l.Moves e clears l') : l'.watchers n = l.watchers n := by
  have hne : n ≠ l.started := by
    have := (ho.of_watcher hn).2
    omega
  have hne' : ∀ m, e = .watch m → n ≠ m := by
    rintro m rfl rfl
    exact he rfl
  cases hm with
  | returned | rewatched => simp [hne]
  | watched | unwatched | cleared | outlived | finished => simp [hne' _ rfl]
  | idle | dialled | failed | installed | noticed | refused | redialled | lost | made => rfl

theorem connect_moves (he : ¬ e.OfConnect) (hm : l.Moves e clears l') :
    l'.connect = l.connect := by
  cases hm with
  | dialled | failed | installed | returned => exact absurd ⟨_, rfl⟩ he
  | idle | noticed | refused | redialled | rewatched | watched | unwatched | cleared | outlived
    | finished | lost | made => rfl

theorem monitor_moves (ho : Orderly l) (hon : l.monitor ≠ .off) (he : ¬ e.OfMonitor)
    (hm : l.Moves e clears l') : l'.monitor = l.monitor := by
  have hret := ho.returned hon
  cases hm with
  | returned dials hc =>
    rw [hret] at hc
    cases hc
  | noticed | refused | redialled | rewatched => exact absurd ⟨_, rfl⟩ he
  | idle | dialled | failed | installed | watched | unwatched | cleared | outlived | finished
    | lost | made => rfl

end Loss

/-! ## Endless runs -/

/-- The goroutines get their turns again and again. -/
structure Fair (run : ℕ → LinkEvent) : Prop where
  connect : ∃ᶠ k in atTop, (run k).OfConnect
  monitor : ∃ᶠ k in atTop, (run k).OfMonitor
  watch : ∀ n, ∃ᶠ k in atTop, run k = .watch n

/-- The states of an endless run. -/
abbrev states (run : ℕ → LinkEvent) : ℕ → DiamLink := stateAt step newDiamLink run

section Runs

variable {run : ℕ → LinkEvent} {c : ℕ}

theorem states_moves (run : ℕ → LinkEvent) (k : ℕ) :
    (states run k).Moves (run k) (step (states run k) (run k)).1 (states run (k + 1)) :=
  step_moves _ _

theorem orderly_states (hno : ∀ k, ¬ (states run k).Makes (run k)) (k : ℕ) :
    Orderly (states run k) :=
  inv_stateAt (C := fun l e => ¬ l.Makes e)
    (fun l e ho hc => ho.moves (fun hm => absurd hm hc) (step_moves l e)) orderly_new hno k

theorem watched_states (hno : ∀ k, ¬ (states run k).Makes (run k)) (k : ℕ) :
    ∀ c, (states run k).conn = some c → (states run k).Watched c :=
  inv_stateAt (I := fun l => ∀ c, l.conn = some c → l.Watched c) (C := fun l e => ¬ l.Makes e)
    (fun l e hw hc => Watched.moves hw hc (step_moves l e)) (fun c hc => by cases hc) hno k

/-- While a lost connection is installed, a goroutine that is at `W` is brought on by its turn. -/
theorem leads_held (hno : ∀ k, ¬ (states run k).Makes (run k)) {W Q : DiamLink → Prop}
    {H : LinkEvent → Prop}
    (hkeep : ∀ k, W (states run k) → ¬ H (run k) → W (states run (k + 1)))
    (hhelp : ∀ k, W (states run k) → Held c (states run k) → H (run k) → Q (states run (k + 1)))
    (hQ : ∀ l, Cleared l → Q l) (hoften : ∃ᶠ k in atTop, H (run k)) :
    Leads (states run) (fun l => W l ∧ Held c l) Q := by
  refine leads_of_helpful (fun k hk he => ?_) (fun k hk he => hhelp k hk.1 hk.2 he) hoften
  rcases hk.2.moves (orderly_states hno k) (hno k) (states_moves run k) with hheld | hcleared
  · exact Or.inl ⟨hkeep k hk.1 he, hheld⟩
  · exact Or.inr (hQ _ hcleared)

theorem leads_watching (hno : ∀ k, ¬ (states run k).Makes (run k)) (hfair : Fair run) (n : ℕ) :
    Leads (states run) (fun l => l.watchers n = .watching c ∧ Held c l) Cleared := by
  refine leads_held (H := fun e => e = .watch n) hno (fun k hn he => ?_)
    (fun k hn hheld he => ?_) (fun _ h => h) (hfair.watch n)
  · rw [watcher_moves (orderly_states hno k) (by rw [hn]; nofun) he (states_moves run k), hn]
  · have hon := ((orderly_states hno k).of_watcher (n := n) (by rw [hn]; nofun)).1
    show Cleared (step (states run k) (run k)).2
    rw [he]
    simp [step, watchDisconnect, hn, hheld.1, hheld.2, Cleared, hon]

theorem leads_started (hno : ∀ k, ¬ (states run k).Makes (run k)) (hfair : Fair run) (n : ℕ) :
    Leads (states run) (fun l => l.watchers n = .started ∧ Held c l) Cleared := by
  have hread : Leads (states run) (fun l => l.watchers n = .started ∧ Held c l)
      (fun l => (l.watchers n = .watching c ∧ Held c l) ∨ Cleared l) := by
    refine leads_held (H := fun e => e = .watch n) hno (fun k hn he => ?_)
      (fun k hn hheld he => ?_) (fun _ h => Or.inr h) (hfair.watch n)
    · rw [watcher_moves (orderly_states hno k) (by rw [hn]; nofun) he (states_moves run k), hn]
    · left
      show (step (states run k) (run k)).2.watchers n = _ ∧ Held c (step (states run k) (run k)).2
      rw [he]
      simp [step, watchDisconnect, hn, hheld.1, hheld.2, Held]
  exact hread.trans ((leads_watching hno hfair n).or (Leads.of_imp fun _ h => h))

theorem leads_starting (hno : ∀ k, ¬ (states run k).Makes (run k)) (hfair : Fair run)
    {W : DiamLink → Prop} {H : LinkEvent → Prop}
    (hkeep : ∀ k, W (states run k) → ¬ H (run k) → W (states run (k + 1)))
    (hstarts : ∀ k, W (states run k) → Held c (states run k) → H (run k) →
      (states run (k + 1)).watchers (states run k).started = .started ∧
        Held c (states run (k + 1)))
    (hoften : ∃ᶠ k in atTop, H (run k)) :
    Leads (states run) (fun l => W l ∧ Held c l) Cleared := by
  have hstart : Leads (states run) (fun l => W l ∧ Held c l)
      (fun l => (∃ n, l.watchers n = .started ∧ Held c l) ∨ Cleared l) :=
    leads_held hno hkeep (fun k hw hheld he => Or.inl ⟨_, hstarts k hw hheld he⟩)
      (fun _ h => Or.inr h) hoften
  exact hstart.trans ((Leads.exists (leads_started hno hfair)).or (Leads.of_imp fun _ h => h))

theorem leads_installed (hno : ∀ k, ¬ (states run k).Makes (run k)) (hfair : Fair run) :
    Leads (states run) (fun l => (∃ c', l.connect = .installed c') ∧ Held c l) Cleared := by
  refine leads_starting (H := LinkEvent.OfConnect) hno hfair (fun k hc he => ?_)
    (fun k hc hheld he => ?_) hfair.connect
  · rw [connect_moves he (states_moves run k)]
    exact hc
  · obtain ⟨c', hc'⟩ := hc
    obtain ⟨dials, he⟩ := he
    show (step (states run k) (run k)).2.watchers _ = _ ∧ Held c (step (states run k) (run k)).2
    rw [he]
    simp [step, connectStep, hc', hheld.1, hheld.2, Held]

theorem leads_clearing (hno : ∀ k, ¬ (states run k).Makes (run k)) (hfair : Fair run) :
    Leads (states run) (fun l => l.monitor = .clearing ∧ Held c l) Cleared := by
  refine leads_starting (H := LinkEvent.OfMonitor) hno hfair (fun k hc he => ?_)
    (fun k hc hheld he => ?_) hfair.monitor
  · rw [monitor_moves (orderly_states hno k) (by rw [hc]; nofun) he (states_moves run k), hc]
  · obtain ⟨dials, he⟩ := he
    show (step (states run k) (run k)).2.watchers _ = _ ∧ Held c (step (states run k) (run k)).2
    rw [he]
    simp [step, monitorConnection, hc, hheld.1, hheld.2, Held]

theorem leads_cleared (hno : ∀ k, ¬ (states run k).Makes (run k)) (hfair : Fair run) :
    Leads (states run) (Held c) Cleared := by
  intro k hheld
  rcases watched_states hno k c hheld.1 with ⟨n, hn | hn⟩ | hc | hmon
  · exact leads_watching hno hfair n k ⟨hn, hheld⟩
  · exact leads_started hno hfair n k ⟨hn, hheld⟩
  · exact leads_installed hno hfair k ⟨hc, hheld⟩
  · exact leads_clearing hno hfair k ⟨hmon, hheld⟩

theorem leads_reconnecting (hno : ∀ k, ¬ (states run k).Makes (run k)) (hfair : Fair run) :
    Leads (states run) Cleared (fun l => l.monitor = .reconnecting) := by
  have hstay : ∀ (p : MonitorPhase), p ≠ .off → p ≠ .reconnecting → ∀ k,
      Cleared (states run k) ∧ (states run k).monitor = p → ¬ (run k).OfMonitor →
      Cleared (states run (k + 1)) ∧ (states run (k + 1)).monitor = p := by
    rintro p hoff hre k ⟨hcl, rfl⟩ he
    have ho := orderly_states hno k
    exact ⟨hcl.moves ho (hno k) hre (states_moves run k),
      monitor_moves ho hoff he (states_moves run k)⟩
  have hcheck : Leads (states run) (fun l => Cleared l ∧ l.monitor = .checking)
      (fun l => l.monitor = .reconnecting) := by
    refine leads_of_helpful (H := LinkEvent.OfMonitor)
      (fun k hk he => Or.inl (hstay .checking nofun nofun k hk he)) ?_ hfair.monitor
    rintro k ⟨hcl, hmon⟩ ⟨dials, he⟩
    have hconn : (states run k).connected = false := by
      rw [(orderly_states hno k).connected_eq, hcl.1]
      rfl
    show (step (states run k) (run k)).2.monitor = _
    rw [he]
    simp [step, monitorConnection, hmon, hconn]
  have hclear : Leads (states run) (fun l => Cleared l ∧ l.monitor = .clearing)
      (fun l => l.monitor = .reconnecting) := by
    refine Leads.trans ?_ hcheck
    refine leads_of_helpful (H := LinkEvent.OfMonitor)
      (fun k hk he => Or.inl (hstay .clearing nofun nofun k hk he)) ?_ hfair.monitor
    rintro k ⟨hcl, hmon⟩ ⟨dials, he⟩
    show Cleared (step (states run k) (run k)).2 ∧ (step (states run k) (run k)).2.monitor = _
    rw [he]
    simp [step, monitorConnection, hmon, Cleared, hcl.1]
  intro k hcl
  cases hmon : (states run k).monitor with
  | off => exact absurd hmon hcl.2
  | checking => exact hcheck k ⟨hcl, hmon⟩
  | reconnecting => exact ⟨k, le_refl k, hmon⟩
  | clearing => exact hclear k ⟨hcl, hmon⟩

def Redials (l : DiamLink) (e : LinkEvent) : Prop := l.monitor = .reconnecting ∧ e.OfMonitor

theorem exists_redials (hno : ∀ k, ¬ (states run k).Makes (run k)) (hfair : Fair run) {k : ℕ}
    (hk : (states run k).monitor = .reconnecting) : ∃ i ≥ k, (states run i).Redials (run i) := by
  have hstay : ∀ j, (states run j).monitor = .reconnecting → ¬ (run j).OfMonitor →
      (states run (j + 1)).monitor = .reconnecting := by
    intro j hj he
    rw [monitor_moves (orderly_states hno j) (by rw [hj]; nofun) he (states_moves run j), hj]
  obtain ⟨i, hki, hfalse | hi⟩ := exists_meets
    (P := fun l : DiamLink => l.monitor = .reconnecting) (Q := fun _ => False)
    (fun j hj he => Or.inl (hstay j hj he)) hfair.monitor hk
  · exact hfalse.elim
  · exact ⟨i, hki, hi⟩

end Runs

/-! ## Origin-State-Ids -/

/-- Every connection has a greater Origin-State-Id than those before it. -/
def Increasing (l : DiamLink) : Prop := (l.established.map Prod.snd).Pairwise (· < ·)

def Remakes (l : DiamLink) (e : LinkEvent) : Prop := l.monitor = .reconnecting ∧ e = .monitor true

/-- The only connection is that of `Connect`. -/
structure Single (l : DiamLink) : Prop where
  length_le : l.established.length ≤ 1
  returned : l.established ≠ [] → l.connect = .returned

section Single

variable {l l' : DiamLink} {e : LinkEvent} {clears : Bool}

theorem Single.increasing (h : Single l) : Increasing l := by
  have hle := h.length_le
  unfold Increasing
  cases hl : l.established with
  | nil => exact .nil
  | cons p ps =>
    rw [hl, List.length_cons] at hle
    have hnil : ps = [] := List.length_eq_zero_iff.mp (by omega)
    rw [hnil]
    exact List.pairwise_singleton ..

theorem Single.moves (h : Single l) (hno : ¬ l.Makes e) (hre : ¬ l.Remakes e)
    (hm : l.Moves e clears l') : Single l' := by
  have hnil : l.connect ≠ .returned → l.established = [] := by
    intro hc
    by_contra hne
    exact hc (h.returned hne)
  cases hm with
  | dialled hc | failed hc | installed _ hc =>
    have he := hnil (by rw [hc]; nofun)
    exact ⟨h.length_le, fun hne => absurd he hne⟩
  | returned _ hc =>
    have he := hnil (by rw [hc]; nofun)
    exact ⟨by simp [he], fun _ => rfl⟩
  | redialled hmon => exact absurd ⟨hmon, rfl⟩ hre
  | made hnone => exact absurd ⟨rfl, hnone⟩ hno
  | idle | noticed | refused | rewatched | watched | unwatched | cleared | outlived | finished
    | lost => exact ⟨h.length_le, h.returned⟩

end Single

/-- Once the monitor runs, some connection has the present Origin-State-Id. -/
def Counted (l : DiamLink) : Prop :=
  l.monitor ≠ .off → ∃ p ∈ l.established, p.2 = l.originStateID

section Counted

variable {l l' : DiamLink} {e : LinkEvent} {clears : Bool}

theorem Counted.moves (h : Counted l) (hm : l.Moves e clears l') : Counted l' := by
  cases hm with
  | @returned c => exact fun _ => ⟨(c, l.originStateID + 1), by simp, rfl⟩
  | noticed _ hmon | refused hmon | rewatched _ hmon =>
    exact fun _ => h (by rw [hmon]; nofun)
  | redialled hmon =>
    obtain ⟨p, hp, heq⟩ := h (by rw [hmon]; nofun)
    exact fun _ => ⟨p, List.mem_append_left _ hp, heq⟩
  | made =>
    intro hon
    obtain ⟨p, hp, heq⟩ := h hon
    exact ⟨p, List.mem_append_left _ hp, heq⟩
  | idle | dialled | failed | installed | watched | unwatched | cleared | outlived | finished
    | lost => exact h

/-- A connection that the monitor makes has the Origin-State-Id of one before it. -/
theorem Counted.not_increasing (h : Counted l) (hre : l.Remakes e) :
    ¬ (l.step e).2.Increasing := by
  obtain ⟨hmon, rfl⟩ := hre
  obtain ⟨p, hp, heq⟩ := h (by rw [hmon]; nofun)
  intro hinc
  have hadd : (l.step (.monitor true)).2.established =
      l.established ++ [(l.dialled, l.originStateID)] := by
    simp [DiamLink.step, monitorConnection, hmon]
  unfold Increasing at hinc
  rw [hadd, List.map_append, List.pairwise_append] at hinc
  have hlt := hinc.2.2 p.2 (List.mem_map_of_mem hp) l.originStateID (by simp)
  omega

end Counted

end DiamLink

open DiamLink

/-- The installed connection is watched at any time. If it is lost it is cleared, and the monitor
dials again. -/
structure NoticesLoss (run : ℕ → LinkEvent) : Prop where
  watched : ∀ k c, (states run k).conn = some c → (states run k).Watched c
  noticed : Fair run → ∀ k c, Held c (states run k) →
    ∃ j ≥ k, (states run j).conn = none ∧ ∃ i ≥ j, (states run i).Redials (run i)

/-- **Loss of the peer.** In every endless run in which `getConn` makes no connection, every
installed connection is watched, and its loss is noticed if the goroutines get their turns. The
Origin-State-Ids increase in such a run exactly if the monitor makes no connection either. -/
theorem loss_noticed (run : ℕ → LinkEvent) (hget : ∀ k, ¬ (states run k).Makes (run k)) :
    NoticesLoss run ∧
      ((∀ k, (states run k).Increasing) ↔ ∀ k, ¬ (states run k).Remakes (run k)) := by
  refine ⟨⟨fun k => watched_states hget k, fun hfair k c hheld => ?_⟩, fun hinc k hre => ?_,
    fun hre k => ?_⟩
  · obtain ⟨j, hkj, hcl⟩ := leads_cleared hget hfair k hheld
    obtain ⟨i, hji, hmon⟩ := leads_reconnecting hget hfair j hcl
    obtain ⟨i', hii, hi'⟩ := exists_redials hget hfair hmon
    exact ⟨j, hkj, hcl.1, i', by omega, hi'⟩
  · have hcounted : Counted (states run k) :=
      inv_stateAt (C := fun _ _ => True) (fun l e h _ => h.moves (step_moves l e))
        (fun hon => absurd rfl hon) (fun _ => trivial) k
    exact hcounted.not_increasing hre (hinc (k + 1))
  · have hsingle : Single (states run k) := by
      refine inv_stateAt (C := fun l e => ¬ l.Makes e ∧ ¬ l.Remakes e)
        (fun l e h hc => h.moves hc.1 hc.2 (step_moves l e)) ?_ (fun j => ⟨hget j, hre j⟩) k
      exact ⟨Nat.zero_le _, fun hne => absurd rfl hne⟩
    exact hsingle.increasing

/-! ### A connection that is lost -/

/-- A connection that nobody watches and nobody will. -/
structure DiamLink.Abandoned (c : ℕ) (l : DiamLink) : Prop where
  conn : l.conn = some c
  connected : l.connected = true
  returned : l.connect = .returned
  monitor : l.monitor = .checking
  unwatched : ∀ n, l.watchers n ≠ .started ∧ l.watchers n ≠ .watching c

theorem DiamLink.Abandoned.setWatcher {l : DiamLink} {c : ℕ} (h : Abandoned c l) (n : ℕ) :
    Abandoned c (l.setWatcher n .done) := by
  refine { h with unwatched := fun m => ?_ }
  rw [setWatcher_watchers]
  split_ifs with hm
  · exact ⟨nofun, nofun⟩
  · exact h.unwatched m

/-- It stays for ever, lost or not. -/
theorem DiamLink.Abandoned.moves {l l' : DiamLink} {e : LinkEvent} {clears : Bool} {c : ℕ}
    (h : Abandoned c l) (hm : l.Moves e clears l') : Abandoned c l' := by
  cases hm with
  | dialled hc | failed hc | installed _ hc | returned _ hc => cases h.returned.symm.trans hc
  | noticed _ _ hconn => cases h.connected.symm.trans hconn
  | refused hmon | redialled hmon | rewatched _ hmon => cases h.monitor.symm.trans hmon
  | watched hn | unwatched hn => exact absurd hn (h.unwatched _).1
  | cleared hn _ hconn =>
    obtain rfl := Option.some.inj (h.conn.symm.trans hconn)
    exact absurd hn (h.unwatched _).2
  | outlived | finished => exact h.setWatcher _
  | made hnone => cases h.conn.symm.trans hnone
  | idle | lost => exact { h with }

namespace Sample

/-- `Connect` is called and everyone gets their turn, but the first connection is lost at once and
the server cannot be reached again. -/
def lossRun (k : ℕ) : LinkEvent :=
  match k % 4 with
  | 0 => .connect true
  | 1 => .monitor false
  | 2 => .watch (k / 4).unpair.1
  | _ => .lose 0

theorem fair_lossRun : Fair lossRun where
  connect := by
    refine frequently_atTop.mpr fun a => ⟨4 * a, by omega, true, ?_⟩
    simp [lossRun]
  monitor := by
    refine frequently_atTop.mpr fun a => ⟨4 * a + 1, by omega, false, ?_⟩
    simp [lossRun, Nat.add_mod]
  watch n := by
    refine frequently_atTop.mpr fun a => ⟨4 * Nat.pair n a + 2, ?_, ?_⟩
    · have := Nat.right_le_pair n a
      omega
    · have hmod : (4 * Nat.pair n a + 2) % 4 = 2 := by omega
      have hdiv : (4 * Nat.pair n a + 2) / 4 = Nat.pair n a := by omega
      simp [lossRun, hmod, hdiv]

/-- The first connection is lost and cleared, and `getConn` makes the next one, which is lost too.
-/
def unwatchedRun : List LinkEvent :=
  [.connect true, .connect true, .connect true, .watch 0, .lose 0, .watch 0, .getConn true, .lose 1]

end Sample

open Sample in
/-- The loss of the first connection is noticed. -/
theorem first_loss_noticed :
    Held 0 (states lossRun 5) ∧
      ∃ j ≥ 5, (states lossRun j).conn = none ∧
        ∃ i ≥ j, (states lossRun i).Redials (lossRun i) := by
  have hget : ∀ k, ¬ (states lossRun k).Makes (lossRun k) := by
    rintro k ⟨he, -⟩
    unfold lossRun at he
    split at he <;> cases he
  have hheld : Held 0 (states lossRun 5) := ⟨by decide, by decide⟩
  exact ⟨hheld, (loss_noticed lossRun hget).1.noticed fair_lossRun 5 0 hheld⟩

open Sample in
/-- The connection that `getConn` made is lost and stays installed, whatever happens. It has the
Origin-State-Id of the first one. -/
theorem unwatched_connection_kept :
    (final step newDiamLink unwatchedRun).lost 1 = true ∧
      (final step newDiamLink unwatchedRun).established = [(0, 1), (1, 1)] ∧
      ∀ es, (final step (final step newDiamLink unwatchedRun) es).conn = some 1 := by
  refine ⟨rfl, rfl, fun es => ?_⟩
  have habandoned : Abandoned 1 (final step newDiamLink unwatchedRun) := by
    refine ⟨rfl, rfl, rfl, rfl, fun n => ?_⟩
    cases n with
    | zero => exact ⟨nofun, nofun⟩
    | succ n => exact ⟨nofun, nofun⟩
  exact (inv_final (C := fun _ => True) (fun l e h _ => h.moves (step_moves l e)) habandoned
    fun _ _ => trivial).conn

end NssAAF.Aaa
