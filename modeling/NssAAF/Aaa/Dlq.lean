import NssAAF.Lib.Transducer
import NssAAF.Lib.Base64
import Mathlib.Data.Int.Basic

/-!
# The queue of undelivered server-initiated messages

`pushDLQ` of `internal/aaa/gateway/gateway.go` appends a message that could not be posted to Biz to
a list of Redis. The consumers of `internal/aaa/gateway/dlq.go` pop a message, post it, and append
it again with one more attempt if that fails; a message without attempts left is discarded. Every
command to Redis is one event, of any number of consumers and pushes. So is every `Do` of the HTTP
client: it would follow a redirect, but the Biz pods answer with none. Messages are numbered in the
order in which they are first pushed.

* `dlq_conserves`: no message is lost, doubled, changed or tried too often.
* `dlq_fair_iff`: which runs take the messages in their order.
-/

namespace NssAAF.Aaa

open Transducer

/-! ## Messages and their encoding -/

/-- The value of a member of a JSON object. -/
inductive JsonValue
  | null
  | number (n : ℤ)
  | string (s : String)
  deriving DecidableEq

abbrev JsonObject : Type := List (String × JsonValue)

/-- A slice of octets is written in base64. -/
def JsonValue.ofBytes : Option Bytes → JsonValue
  | none => .null
  | some b => .string (Base64.encodeToString b)

structure DLQMessage where
  sessionID : String
  transportType : String
  messageType : String
  payload : Option Bytes
  attemptCount : ℤ
  queuedAt : ℤ
  deriving DecidableEq

namespace DLQMessage

def zero : DLQMessage := ⟨"", "", "", none, 0, 0⟩

def members : List String :=
  ["sessionID", "transportType", "messageType", "payload", "attemptCount", "queuedAt"]

def marshal (msg : DLQMessage) : JsonObject :=
  [("sessionID", .string msg.sessionID), ("transportType", .string msg.transportType),
    ("messageType", .string msg.messageType), ("payload", .ofBytes msg.payload),
    ("attemptCount", .number msg.attemptCount), ("queuedAt", .number msg.queuedAt)]

/-- One member is read. Members with other names are skipped. -/
def setMember (msg : DLQMessage) : String × JsonValue → Except String DLQMessage
  | ("sessionID", .string s) => .ok { msg with sessionID := s }
  | ("transportType", .string s) => .ok { msg with transportType := s }
  | ("messageType", .string s) => .ok { msg with messageType := s }
  | ("payload", .null) => .ok { msg with payload := none }
  | ("payload", .string s) =>
    match Base64.decodeString s with
    | none => .error "illegal base64 data"
    | some b => .ok { msg with payload := some b }
  | ("attemptCount", .number n) => .ok { msg with attemptCount := n }
  | ("queuedAt", .number n) => .ok { msg with queuedAt := n }
  | (_, .null) => .ok msg
  | (name, _) =>
    if name ∈ members then .error ("cannot unmarshal into field " ++ name) else .ok msg

def unmarshal (data : JsonObject) : Except String DLQMessage := data.foldlM setMember zero

/-- What `pushDLQ` writes: the members of a map are sorted by their names. -/
def pushed (sessionID transportType messageType : String) (body : Option Bytes) (now : ℤ) :
    JsonObject :=
  [("attemptCount", .number 0), ("messageType", .string messageType), ("payload", .ofBytes body),
    ("queuedAt", .number now), ("sessionID", .string sessionID),
    ("transportType", .string transportType)]

def again (msg : DLQMessage) : DLQMessage := { msg with attemptCount := msg.attemptCount + 1 }

theorem setMember_payload (msg : DLQMessage) (body : Option Bytes) :
    msg.setMember ("payload", .ofBytes body) = .ok { msg with payload := body } := by
  cases body with
  | none => rfl
  | some b =>
    show (match Base64.decodeString (Base64.encodeToString b) with | none => _ | some b => _) = _
    rw [Base64.decodeString_encodeToString]

theorem unmarshal_marshal (msg : DLQMessage) : unmarshal msg.marshal = .ok msg := by
  simp only [unmarshal, marshal, List.foldlM_cons, setMember_payload]
  rfl

theorem unmarshal_pushed (sessionID transportType messageType : String) (body : Option Bytes)
    (now : ℤ) :
    unmarshal (pushed sessionID transportType messageType body now) =
      .ok ⟨sessionID, transportType, messageType, body, 0, now⟩ := by
  simp only [unmarshal, pushed, List.foldlM_cons, setMember_payload]
  rfl

end DLQMessage

/-! ## The machine -/

/-- Where a consumer is: between two messages, with a message from the list, waiting for the answer
to its POST, before it appends the message again. -/
inductive Consumer
  | idle
  | popped (n : ℕ) (msg : DLQMessage)
  | posted (n : ℕ) (msg : DLQMessage)
  | requeueing (n : ℕ) (msg : DLQMessage)
  deriving DecidableEq

/-- The list of Redis, how many messages were pushed so far, and where the consumers are. -/
structure Dlq where
  list : List (ℕ × JsonObject)
  pushed : ℕ
  consumers : List Consumer
  deriving DecidableEq

def newDlq (consumers : ℕ) : Dlq := ⟨[], 0, List.replicate consumers .idle⟩

/-- What becomes of the POST of a message: there is no target, the request cannot be made, or it is
sent. -/
inductive Posting
  | noTarget
  | unbuildable
  | sent
  deriving DecidableEq

/-- A message is pushed, a consumer pops one, posts it, gets the answer (a status, or no answer at
all), or appends the message again. -/
inductive DlqEvent
  | push (sessionID transportType messageType : String) (body : Option Bytes) (now : ℤ)
  | pop (c : ℕ)
  | post (c : ℕ) (posting : Posting)
  | answer (c : ℕ) (status : Option ℕ)
  | requeue (c : ℕ)
  deriving DecidableEq

inductive DlqOutput
  | none
  | unreadable (n : ℕ)
  | discarded (n : ℕ)
  | posted (n : ℕ) (body : Bytes)
  | failed (n : ℕ)
  | delivered (n : ℕ)
  deriving DecidableEq

namespace Dlq

section Step

variable (maxRetries : ℤ) (q : Dlq) (c : ℕ)

def setConsumer (x : Consumer) : Dlq := { q with consumers := q.consumers.set c x }

def pushDLQ (sessionID transportType messageType : String) (body : Option Bytes) (now : ℤ) : Dlq :=
  { q with
    list := q.list ++ [(q.pushed, DLQMessage.pushed sessionID transportType messageType body now)]
    pushed := q.pushed + 1 }

/-- The message is read, and discarded if it has no attempts left. -/
def takeMessage (n : ℕ) (data : JsonObject) : DlqOutput × Dlq :=
  match DLQMessage.unmarshal data with
  | .error _ => (.unreadable n, q)
  | .ok msg =>
    if msg.attemptCount ≥ maxRetries then (.discarded n, q)
    else (.none, q.setConsumer c (.popped n msg))

/-- An idle consumer pops the message at the right end of the list. -/
def processDLQOne : DlqOutput × Dlq :=
  match q.consumers[c]?, q.list.getLast? with
  | some .idle, some (n, data) =>
    takeMessage maxRetries { q with list := q.list.dropLast } c n data
  | _, _ => (.none, q)

/-- The attempt has failed, and the consumer is about to append the message again. -/
def fail (n : ℕ) (msg : DLQMessage) : DlqOutput × Dlq :=
  (.failed n, q.setConsumer c (.requeueing n msg.again))

def post (posting : Posting) : DlqOutput × Dlq :=
  match q.consumers[c]?, posting with
  | some (.popped n msg), .sent =>
    (.posted n (msg.payload.getD []), q.setConsumer c (.posted n msg))
  | some (.popped n msg), _ => q.fail c n msg
  | _, _ => (.none, q)

def answer (status : Option ℕ) : DlqOutput × Dlq :=
  match q.consumers[c]? with
  | some (.posted n msg) =>
    if status = some 200 then (.delivered n, q.setConsumer c .idle) else q.fail c n msg
  | _ => (.none, q)

def requeueDLQ : Dlq :=
  match q.consumers[c]? with
  | some (.requeueing n msg) =>
    { q.setConsumer c .idle with list := q.list ++ [(n, msg.marshal)] }
  | _ => q

def step : DlqEvent → DlqOutput × Dlq
  | .push sessionID transportType messageType body now =>
    (.none, q.pushDLQ sessionID transportType messageType body now)
  | .pop c => q.processDLQOne maxRetries c
  | .post c posting => q.post c posting
  | .answer c status => q.answer c status
  | .requeue c => (.none, q.requeueDLQ c)

end Step

inductive Moves (maxRetries : ℤ) (q : Dlq) : DlqEvent → DlqOutput → Dlq → Prop
  | idle {e : DlqEvent} (h : ∀ sessionID transportType messageType body now,
      e ≠ .push sessionID transportType messageType body now) : Moves maxRetries q e .none q
  | pushed (sessionID transportType messageType : String) (body : Option Bytes) (now : ℤ) :
      Moves maxRetries q (.push sessionID transportType messageType body now) .none
        (q.pushDLQ sessionID transportType messageType body now)
  | unreadable {c n : ℕ} {l : List (ℕ × JsonObject)} {data : JsonObject} {err : String}
      (hlist : q.list = l ++ [(n, data)]) (hc : q.consumers[c]? = some .idle)
      (hdata : DLQMessage.unmarshal data = .error err) :
      Moves maxRetries q (.pop c) (.unreadable n) { q with list := l }
  | discarded {c n : ℕ} {l : List (ℕ × JsonObject)} {data : JsonObject} {msg : DLQMessage}
      (hlist : q.list = l ++ [(n, data)]) (hc : q.consumers[c]? = some .idle)
      (hdata : DLQMessage.unmarshal data = .ok msg) (hmax : maxRetries ≤ msg.attemptCount) :
      Moves maxRetries q (.pop c) (.discarded n) { q with list := l }
  | popped {c n : ℕ} {l : List (ℕ × JsonObject)} {data : JsonObject} {msg : DLQMessage}
      (hlist : q.list = l ++ [(n, data)]) (hc : q.consumers[c]? = some .idle)
      (hdata : DLQMessage.unmarshal data = .ok msg) (hmax : msg.attemptCount < maxRetries) :
      Moves maxRetries q (.pop c) .none
        (({ q with list := l } : Dlq).setConsumer c (.popped n msg))
  | posted {c n : ℕ} {msg : DLQMessage} (hc : q.consumers[c]? = some (.popped n msg)) :
      Moves maxRetries q (.post c .sent) (.posted n (msg.payload.getD []))
        (q.setConsumer c (.posted n msg))
  | unsent {c n : ℕ} {msg : DLQMessage} (posting : Posting)
      (hc : q.consumers[c]? = some (.popped n msg)) :
      Moves maxRetries q (.post c posting) (.failed n) (q.setConsumer c (.requeueing n msg.again))
  | delivered {c n : ℕ} {msg : DLQMessage} (hc : q.consumers[c]? = some (.posted n msg)) :
      Moves maxRetries q (.answer c (some 200)) (.delivered n) (q.setConsumer c .idle)
  | refused {c n : ℕ} {msg : DLQMessage} (status : Option ℕ)
      (hc : q.consumers[c]? = some (.posted n msg)) :
      Moves maxRetries q (.answer c status) (.failed n) (q.setConsumer c (.requeueing n msg.again))
  | requeued {c n : ℕ} {msg : DLQMessage} (hc : q.consumers[c]? = some (.requeueing n msg)) :
      Moves maxRetries q (.requeue c) .none
        { q.setConsumer c .idle with list := q.list ++ [(n, msg.marshal)] }

theorem processDLQOne_moves (maxRetries : ℤ) (q : Dlq) (c : ℕ) :
    Moves maxRetries q (.pop c) (q.processDLQOne maxRetries c).1
      (q.processDLQOne maxRetries c).2 := by
  unfold processDLQOne
  split
  · next n data hc hlast =>
    obtain ⟨l, hlist⟩ := List.getLast?_eq_some_iff.mp hlast
    have hl : q.list.dropLast = l := by rw [hlist, List.dropLast_concat]
    unfold takeMessage
    rw [hl]
    split
    · next hdata => exact .unreadable hlist hc hdata
    · next msg hdata =>
      split_ifs with hmax
      · exact .discarded hlist hc hdata hmax
      · exact .popped hlist hc hdata (by omega)
  · exact .idle nofun

theorem step_moves (maxRetries : ℤ) (q : Dlq) (e : DlqEvent) :
    Moves maxRetries q e (step maxRetries q e).1 (step maxRetries q e).2 := by
  cases e with
  | push sessionID transportType messageType body now => exact .pushed ..
  | pop c => exact processDLQOne_moves maxRetries q c
  | post c posting =>
    dsimp only [step, post]
    split
    · exact .posted ‹_›
    · exact .unsent _ ‹_›
    · exact .idle nofun
  | answer c status =>
    dsimp only [step, answer]
    split
    · next n msg hc =>
      split_ifs with hstatus
      · rw [hstatus]
        exact .delivered hc
      · exact .refused status hc
    · exact .idle nofun
  | requeue c =>
    dsimp only [step, requeueDLQ]
    split
    · exact .requeued ‹_›
    · exact .idle nofun

end Dlq

/-! ## The books -/

abbrev DlqStep : Type := Record Dlq DlqEvent DlqOutput

def DlqEvent.body : DlqEvent → Option (Option Bytes)
  | .push _ _ _ body _ => some body
  | _ => none

theorem DlqEvent.body_eq_none {e : DlqEvent}
    (he : ∀ sessionID transportType messageType body now,
      e ≠ .push sessionID transportType messageType body now) : e.body = none := by
  cases e with
  | push sessionID transportType messageType body now => exact (he _ _ _ _ _ rfl).elim
  | pop | post | answer | requeue => rfl

namespace DlqOutput

def post : DlqOutput → Option ℕ
  | .posted n _ => some n
  | _ => Option.none

def about : DlqOutput → Option ℕ
  | .none => Option.none
  | .unreadable n | .discarded n | .posted n _ | .failed n | .delivered n => some n

end DlqOutput

def bodies (h : List DlqStep) : List (Option Bytes) := h.filterMap fun st => st.input.body

def failures (h : List DlqStep) (n : ℕ) : ℕ := h.countP fun st => st.output = .failed n
def posts (h : List DlqStep) (n : ℕ) : ℕ := h.countP fun st => st.output.post = some n
def deliveries (h : List DlqStep) (n : ℕ) : ℕ := h.countP fun st => st.output = .delivered n
def discards (h : List DlqStep) (n : ℕ) : ℕ := h.countP fun st => st.output = .discarded n

def Consumer.message : Consumer → Option ℕ
  | .idle => none
  | .popped n _ | .posted n _ | .requeueing n _ => some n

def Consumer.held : Consumer → Option (ℕ × DLQMessage)
  | .idle => none
  | .popped n msg | .posted n msg | .requeueing n msg => some (n, msg)

def Dlq.queued (q : Dlq) (n : ℕ) : ℕ := q.list.countP fun e => e.1 = n

def Dlq.holders (q : Dlq) (n : ℕ) : ℕ := q.consumers.countP fun x => x.message = some n

def Dlq.places (h : List DlqStep) (q : Dlq) (n : ℕ) : ℕ :=
  q.queued n + q.holders n + deliveries h n + discards h n

section Counting

variable (h : List DlqStep) (st : DlqStep) (n : ℕ)

theorem failures_append :
    failures (h ++ [st]) n = failures h n + if st.output = .failed n then 1 else 0 := by
  simp [failures, List.countP_append, List.countP_cons]

theorem posts_append :
    posts (h ++ [st]) n = posts h n + if st.output.post = some n then 1 else 0 := by
  simp [posts, List.countP_append, List.countP_cons]

theorem deliveries_append :
    deliveries (h ++ [st]) n = deliveries h n + if st.output = .delivered n then 1 else 0 := by
  simp [deliveries, List.countP_append, List.countP_cons]

theorem discards_append :
    discards (h ++ [st]) n = discards h n + if st.output = .discarded n then 1 else 0 := by
  simp [discards, List.countP_append, List.countP_cons]

theorem bodies_append : bodies (h ++ [st]) = bodies h ++ st.input.body.toList := by
  cases hb : st.input.body with
  | none => simp [bodies, hb]
  | some b => simp [bodies, hb]

variable {h n}

theorem getElem?_bodies_append {b : Option Bytes} (hb : (bodies h)[n]? = some b) :
    (bodies (h ++ [st]))[n]? = some b := by
  rw [bodies_append, List.getElem?_append_left (List.getElem?_eq_some_iff.mp hb).1]
  exact hb

end Counting

section Consumers

variable {q : Dlq} {c : ℕ} {x : Consumer}

theorem Dlq.holders_setConsumer (hc : q.consumers[c]? = some x) (y : Consumer) (n : ℕ) :
    (q.setConsumer c y).holders n + (if x.message = some n then 1 else 0) =
      q.holders n + if y.message = some n then 1 else 0 := by
  obtain ⟨hlt, hx⟩ := List.getElem?_eq_some_iff.mp hc
  have hpos : x.message = some n → 0 < q.consumers.countP fun x => x.message = some n := by
    intro hn
    refine List.countP_pos_iff.mpr ⟨x, List.mem_of_getElem? hc, by simpa using hn⟩
  unfold Dlq.holders Dlq.setConsumer
  rw [List.countP_set hlt, hx]
  simp only [decide_eq_true_eq]
  split_ifs with hxn
  all_goals
    try have := hpos hxn
    omega

theorem Dlq.holders_keep (hc : q.consumers[c]? = some x) {y : Consumer}
    (hy : x.message = y.message) (n : ℕ) : (q.setConsumer c y).holders n = q.holders n := by
  have hset := Dlq.holders_setConsumer hc y n
  rw [hy] at hset
  exact Nat.add_right_cancel hset

@[simp] theorem Dlq.queued_setConsumer (q : Dlq) (c : ℕ) (x : Consumer) (n : ℕ) :
    (q.setConsumer c x).queued n = q.queued n := rfl

theorem Dlq.queued_concat {n : ℕ} {l : List (ℕ × JsonObject)} {data : JsonObject}
    (hlist : q.list = l ++ [(n, data)]) (m : ℕ) :
    q.queued m = l.countP (fun e => e.1 = m) + if n = m then 1 else 0 := by
  simp [Dlq.queued, hlist, List.countP_append, List.countP_cons]

end Consumers

theorem eq_of_countP_le_one {α : Type*} {p : α → Bool} {l : List α} (hl : l.countP p ≤ 1)
    {i j : ℕ} {x y : α} (hi : l[i]? = some x) (hj : l[j]? = some y) (hx : p x = true)
    (hy : p y = true) : i = j := by
  induction l generalizing i j with
  | nil => cases hi
  | cons a l ih =>
    rw [List.countP_cons] at hl
    cases i with
    | zero =>
      cases j with
      | zero => rfl
      | succ j =>
        cases hi
        have hmem : y ∈ l := List.mem_of_getElem? (i := j) hj
        have hpos := List.countP_pos_iff.mpr ⟨y, hmem, hy⟩
        rw [if_pos hx] at hl
        omega
    | succ i =>
      cases j with
      | zero =>
        cases hj
        have hmem : x ∈ l := List.mem_of_getElem? (i := i) hi
        have hpos := List.countP_pos_iff.mpr ⟨x, hmem, hx⟩
        rw [if_pos hy] at hl
        omega
      | succ j => rw [ih (by omega) hi hj]

def DlqOutput.leaves : DlqOutput → Option ℕ
  | .unreadable n | .discarded n | .delivered n => some n
  | _ => Option.none

def Dlq.born (q : Dlq) (e : DlqEvent) : Option ℕ := e.body.map fun _ => q.pushed

section Balance

variable {maxRetries : ℤ} {q q' : Dlq} {e : DlqEvent} {out : DlqOutput}

theorem Dlq.Moves.pushed_eq (hm : Dlq.Moves maxRetries q e out q') :
    q'.pushed = q.pushed + e.body.toList.length := by
  cases hm with
  | idle he =>
    rw [DlqEvent.body_eq_none he]
    rfl
  | pushed | unreadable | discarded | popped | posted | unsent | delivered | refused | requeued =>
    rfl

theorem Dlq.Moves.balance (hm : Dlq.Moves maxRetries q e out q') (n : ℕ) :
    q'.queued n + q'.holders n + (if out.leaves = some n then 1 else 0) =
      q.queued n + q.holders n + if q.born e = some n then 1 else 0 := by
  cases hm with
  | idle he =>
    have hborn : q.born e = none := by
      unfold Dlq.born
      rw [DlqEvent.body_eq_none he]
      rfl
    simp [hborn, DlqOutput.leaves]
  | pushed sessionID transportType messageType body now =>
    simp only [Dlq.queued, Dlq.holders, Dlq.pushDLQ, Dlq.born, DlqEvent.body, DlqOutput.leaves,
      List.countP_append, List.countP_singleton, decide_eq_true_eq, Option.map_some,
      Option.some.injEq, reduceCtorEq, if_false]
    omega
  | unreadable hlist hc hdata =>
    have hqueued := Dlq.queued_concat hlist n
    simp [DlqOutput.leaves, Dlq.born, DlqEvent.body, Dlq.queued, Dlq.holders] at hqueued ⊢
    omega
  | discarded hlist hc hdata hmax =>
    have hqueued := Dlq.queued_concat hlist n
    simp [DlqOutput.leaves, Dlq.born, DlqEvent.body, Dlq.queued, Dlq.holders] at hqueued ⊢
    omega
  | @popped c m l data msg hlist hc hdata hmax =>
    have hqueued := Dlq.queued_concat hlist n
    have hset := Dlq.holders_setConsumer (q := { q with list := l }) hc (.popped m msg) n
    simp [DlqOutput.leaves, Dlq.born, DlqEvent.body, Consumer.message, Dlq.queued, Dlq.holders,
      Dlq.setConsumer] at hqueued hset ⊢
    omega
  | @posted c m msg hc =>
    have hkeep : (q.setConsumer c (.posted m msg)).holders n = q.holders n :=
      Dlq.holders_keep hc (by rfl) n
    simp [hkeep, DlqOutput.leaves, Dlq.born, DlqEvent.body]
  | @unsent c m msg posting hc =>
    have hkeep : (q.setConsumer c (.requeueing m msg.again)).holders n = q.holders n :=
      Dlq.holders_keep hc (by rfl) n
    simp [hkeep, DlqOutput.leaves, Dlq.born, DlqEvent.body]
  | delivered hc =>
    have hset := Dlq.holders_setConsumer hc .idle n
    simp [DlqOutput.leaves, Dlq.born, DlqEvent.body, Consumer.message] at hset ⊢
    omega
  | @refused c m msg status hc =>
    have hkeep : (q.setConsumer c (.requeueing m msg.again)).holders n = q.holders n :=
      Dlq.holders_keep hc (by rfl) n
    simp [hkeep, DlqOutput.leaves, Dlq.born, DlqEvent.body]
  | requeued hc =>
    have hset := Dlq.holders_setConsumer hc .idle n
    simp [DlqOutput.leaves, Dlq.born, DlqEvent.body, Consumer.message, Dlq.queued, Dlq.holders,
      Dlq.setConsumer] at hset ⊢
    omega

/-- A message is in one place of the queue at most, and in none before it is pushed. -/
structure Dlq.Distinct (q : Dlq) : Prop where
  once : ∀ n, q.queued n + q.holders n ≤ 1
  fresh : ∀ n, q.pushed ≤ n → q.queued n + q.holders n = 0

theorem Dlq.distinct_new (consumers : ℕ) : Dlq.Distinct (newDlq consumers) := by
  have hzero : ∀ n, (newDlq consumers).queued n + (newDlq consumers).holders n = 0 := by
    simp [newDlq, Dlq.queued, Dlq.holders, Consumer.message]
  exact ⟨fun n => by rw [hzero]; omega, fun n _ => hzero n⟩

theorem Dlq.Distinct.moves (hd : q.Distinct) (hm : Dlq.Moves maxRetries q e out q') :
    q'.Distinct := by
  have hborn : ∀ n, q.born e = some n → n = q.pushed ∧ q'.pushed = q.pushed + 1 := by
    intro n hn
    obtain ⟨body, hbody, rfl⟩ := Option.map_eq_some_iff.mp hn
    exact ⟨rfl, by rw [hm.pushed_eq, hbody]; rfl⟩
  refine ⟨fun n => ?_, fun n hn => ?_⟩
  · have hbalance := hm.balance n
    have hold := hd.once n
    by_cases hn : q.born e = some n
    · have hfresh := hd.fresh n (Nat.le_of_eq (hborn n hn).1.symm)
      rw [if_pos hn] at hbalance
      omega
    · rw [if_neg hn] at hbalance
      omega
  · have hbalance := hm.balance n
    have hpushed := hm.pushed_eq
    have hfresh := hd.fresh n (by omega)
    have hne : q.born e ≠ some n := by
      intro hn'
      have := hborn n hn'
      omega
    rw [if_neg hne] at hbalance
    omega

end Balance

/-! ## Every message -/

/-- A message is the one with this number: it counts the failures, it has the body that was pushed,
and it was posted once in each failed attempt at most, and in the `pending` one. -/
structure Tracks (maxRetries : ℤ) (h : List DlqStep) (n : ℕ) (msg : DLQMessage) (pending : ℕ) :
    Prop where
  attempts : msg.attemptCount = failures h n
  body : (bodies h)[n]? = some msg.payload
  posted : posts h n ≤ failures h n + pending
  retries : (failures h n : ℤ) + pending ≤ maxRetries

/-- What is known of the message that a consumer holds. -/
def Consumer.Tracked (maxRetries : ℤ) (h : List DlqStep) : Consumer → Prop
  | .idle => True
  | .popped n msg => Tracks maxRetries h n msg 0 ∧ (failures h n : ℤ) < maxRetries
  | .posted n msg => Tracks maxRetries h n msg 1
  | .requeueing n msg => Tracks maxRetries h n msg 0

/-- The books after the steps `h`. -/
structure Ledger (maxRetries : ℤ) (h : List DlqStep) (q : Dlq) : Prop where
  pushed : q.pushed = (bodies h).length
  places : ∀ n, q.places h n = if n < q.pushed then 1 else 0
  unborn : ∀ n, q.pushed ≤ n → failures h n = 0 ∧ posts h n = 0
  queued : ∀ n data, (n, data) ∈ q.list →
    ∃ msg, DLQMessage.unmarshal data = .ok msg ∧ Tracks maxRetries h n msg 0
  held : ∀ (c : ℕ) (x : Consumer), q.consumers[c]? = some x → x.Tracked maxRetries h
  posted : ∀ n, (posts h n : ℤ) ≤ maxRetries
  exhausted : ∀ n, discards h n ≠ 0 → (failures h n : ℤ) = maxRetries
  unchanged : ∀ st ∈ h, ∀ n b, st.output = .posted n b →
    ∃ body, (bodies h)[n]? = some body ∧ b = body.getD []

section Ledger

variable {maxRetries : ℤ} {h : List DlqStep} {q q' : Dlq} {e : DlqEvent} {out : DlqOutput}

theorem DlqOutput.ne_failed {n : ℕ} (hout : out.about ≠ some n) : out ≠ .failed n := by
  rintro rfl
  exact hout rfl

theorem DlqOutput.post_ne {n : ℕ} (hout : out.about ≠ some n) : out.post ≠ some n := by
  cases out with
  | posted m b => exact hout
  | none | unreadable | discarded | failed | delivered => nofun

theorem Tracks.append {n pending : ℕ} {msg : DLQMessage} (ht : Tracks maxRetries h n msg pending)
    {st : DlqStep} (hst : st.output.about ≠ some n) :
    Tracks maxRetries (h ++ [st]) n msg pending := by
  have hf : failures (h ++ [st]) n = failures h n := by
    rw [failures_append, if_neg (DlqOutput.ne_failed hst), Nat.add_zero]
  have hp : posts (h ++ [st]) n = posts h n := by
    rw [posts_append, if_neg (DlqOutput.post_ne hst), Nat.add_zero]
  exact ⟨by rw [hf]; exact ht.attempts, getElem?_bodies_append st ht.body,
    by rw [hf, hp]; exact ht.posted, by rw [hf]; exact ht.retries⟩

theorem Consumer.Tracked.append {x : Consumer} (hx : x.Tracked maxRetries h) {st : DlqStep}
    (hst : ∀ n, x.message = some n → st.output.about ≠ some n) :
    x.Tracked maxRetries (h ++ [st]) := by
  cases x with
  | idle => trivial
  | popped n msg =>
    have hn := hst n rfl
    refine ⟨hx.1.append hn, ?_⟩
    rw [failures_append, if_neg (DlqOutput.ne_failed hn), Nat.add_zero]
    exact hx.2
  | posted n msg => exact Tracks.append hx (hst n rfl)
  | requeueing n msg => exact Tracks.append hx (hst n rfl)

theorem Consumer.Tracked.attempts {x : Consumer} (hx : x.Tracked maxRetries h) {n : ℕ}
    {msg : DLQMessage} (hheld : x.held = some (n, msg)) : msg.attemptCount = failures h n := by
  cases x with
  | idle => cases hheld
  | popped m msg' =>
    cases hheld
    exact hx.1.attempts
  | posted m msg' =>
    cases hheld
    exact Tracks.attempts hx
  | requeueing m msg' =>
    cases hheld
    exact Tracks.attempts hx

namespace Ledger

theorem places_le (hl : Ledger maxRetries h q) (n : ℕ) : q.places h n ≤ 1 := by
  rw [hl.places]
  split_ifs <;> omega

theorem lt_pushed (hl : Ledger maxRetries h q) {n : ℕ} (hn : q.places h n ≠ 0) :
    n < q.pushed := by
  by_contra hge
  rw [hl.places, if_neg hge] at hn
  exact hn rfl

theorem of_holder (hl : Ledger maxRetries h q) {c n : ℕ} {x : Consumer}
    (hc : q.consumers[c]? = some x) (hx : x.message = some n) :
    n < q.pushed ∧ discards h n = 0 ∧ (∀ data, (n, data) ∉ q.list) ∧
      ∀ (j : ℕ) (y : Consumer), q.consumers[j]? = some y → y.message = some n → j = c := by
  have hle := hl.places_le n
  have hpos : 0 < q.holders n :=
    List.countP_pos_iff.mpr ⟨x, List.mem_of_getElem? hc, by simpa using hx⟩
  unfold Dlq.places at hle
  refine ⟨hl.lt_pushed (by unfold Dlq.places; omega), by omega, fun data hmem => ?_,
    fun j y hj hy => ?_⟩
  · have hq : 0 < q.queued n := List.countP_pos_iff.mpr ⟨(n, data), hmem, by simp⟩
    omega
  · exact eq_of_countP_le_one (p := fun x : Consumer => x.message = some n)
      (by unfold Dlq.holders at hle; omega) hj hc (by simpa using hy) (by simpa using hx)

theorem of_last (hl : Ledger maxRetries h q) {n : ℕ} {l : List (ℕ × JsonObject)}
    {data : JsonObject} (hlist : q.list = l ++ [(n, data)]) :
    n < q.pushed ∧ discards h n = 0 ∧ (∀ data, (n, data) ∉ l) ∧
      ∀ (j : ℕ) (y : Consumer), q.consumers[j]? = some y → y.message ≠ some n := by
  have hle := hl.places_le n
  have hq : q.queued n = l.countP (fun e => e.1 = n) + 1 := by
    simp [Dlq.queued, hlist, List.countP_append]
  unfold Dlq.places at hle
  refine ⟨hl.lt_pushed (by unfold Dlq.places; omega), by omega, fun data hmem => ?_,
    fun j y hj hy => ?_⟩
  · have hpos : 0 < l.countP (fun e => e.1 = n) :=
      List.countP_pos_iff.mpr ⟨(n, data), hmem, by simp⟩
    omega
  · have hpos : 0 < q.holders n :=
      List.countP_pos_iff.mpr ⟨y, List.mem_of_getElem? hj, by simpa using hy⟩
    omega

theorem readable_last (hl : Ledger maxRetries h q) {n : ℕ} {l : List (ℕ × JsonObject)}
    {data : JsonObject} (hlist : q.list = l ++ [(n, data)]) :
    ∃ msg, DLQMessage.unmarshal data = .ok msg ∧ Tracks maxRetries h n msg 0 := by
  refine hl.queued n data ?_
  rw [hlist]
  exact List.mem_append_right _ (List.mem_singleton_self _)

theorem tracks_last (hl : Ledger maxRetries h q) {n : ℕ} {l : List (ℕ × JsonObject)}
    {data : JsonObject} {msg : DLQMessage} (hlist : q.list = l ++ [(n, data)])
    (hdata : DLQMessage.unmarshal data = .ok msg) : Tracks maxRetries h n msg 0 := by
  obtain ⟨msg', hok, ht⟩ := hl.readable_last hlist
  obtain rfl : msg' = msg := Except.ok.inj (hok.symm.trans hdata)
  exact ht

theorem queued_append (hl : Ledger maxRetries h q) {st : DlqStep} {l : List (ℕ × JsonObject)}
    (hsub : ∀ p ∈ l, p ∈ q.list) (hst : ∀ n data, (n, data) ∈ l → st.output.about ≠ some n) :
    ∀ n data, (n, data) ∈ l →
      ∃ msg, DLQMessage.unmarshal data = .ok msg ∧ Tracks maxRetries (h ++ [st]) n msg 0 := by
  intro n data hmem
  obtain ⟨msg, hdata, ht⟩ := hl.queued n data (hsub _ hmem)
  exact ⟨msg, hdata, ht.append (hst n data hmem)⟩

theorem held_set (hl : Ledger maxRetries h q) {st : DlqStep} {c : ℕ} {y : Consumer}
    (hst : ∀ (j : ℕ) (x : Consumer) (n : ℕ), j ≠ c → q.consumers[j]? = some x →
      x.message = some n → st.output.about ≠ some n)
    (hy : y.Tracked maxRetries (h ++ [st])) :
    ∀ (j : ℕ) (x : Consumer), (q.consumers.set c y)[j]? = some x →
      x.Tracked maxRetries (h ++ [st]) := by
  intro j x hj
  rw [List.getElem?_set] at hj
  split_ifs at hj with hcj hlt
  · cases hj
    exact hy
  · exact (hl.held j x hj).append fun n hn => hst j x n (Ne.symm hcj) hj hn

theorem next (hl : Ledger maxRetries h q) (hm : Dlq.Moves maxRetries q e out q')
    (hin : e.body = none) (hread : ∀ n, out ≠ .unreadable n)
    (hout : ∀ n, out.about = some n → n < q.pushed ∧ discards h n = 0)
    (hqueued : ∀ n data, (n, data) ∈ q'.list → ∃ msg, DLQMessage.unmarshal data = .ok msg ∧
      Tracks maxRetries (h ++ [⟨q, e, out, q'⟩]) n msg 0)
    (hheld : ∀ (c : ℕ) (x : Consumer), q'.consumers[c]? = some x →
      x.Tracked maxRetries (h ++ [⟨q, e, out, q'⟩]))
    (hposted : ∀ n b, out = .posted n b → (posts h n : ℤ) + 1 ≤ maxRetries ∧
      ∃ body, (bodies h)[n]? = some body ∧ b = body.getD [])
    (hexhausted : ∀ n, out = .discarded n → (failures h n : ℤ) = maxRetries) :
    Ledger maxRetries (h ++ [⟨q, e, out, q'⟩]) q' := by
  have hbodies : bodies (h ++ [⟨q, e, out, q'⟩]) = bodies h := by
    rw [bodies_append, hin, Option.toList_none, List.append_nil]
  have hpushed : q'.pushed = q.pushed := by rw [hm.pushed_eq, hin]; rfl
  refine ⟨?_, fun n => ?_, fun n hn => ?_, hqueued, hheld, fun n => ?_, fun n hn => ?_, ?_⟩
  · rw [hpushed, hbodies]
    exact hl.pushed
  · have hbalance := hm.balance n
    have hborn : q.born e = none := by rw [Dlq.born, hin]; rfl
    have hold := hl.places n
    have hleaves : (if out.leaves = some n then 1 else 0) =
        (if out = .delivered n then 1 else 0) + if out = .discarded n then 1 else 0 := by
      cases out with
      | unreadable m => exact absurd rfl (hread m)
      | none | posted | failed => simp [DlqOutput.leaves]
      | delivered m | discarded m => simp [DlqOutput.leaves]
    rw [hborn, if_neg (Option.some_ne_none n).symm] at hbalance
    unfold Dlq.places at hold ⊢
    rw [deliveries_append, discards_append, hpushed, ← hold]
    dsimp only
    omega
  · rw [hpushed] at hn
    have habout : out.about ≠ some n := fun ha => absurd (hout n ha).1 (by omega)
    rw [failures_append, posts_append, if_neg (DlqOutput.ne_failed habout),
      if_neg (DlqOutput.post_ne habout)]
    exact hl.unborn n hn
  · rw [posts_append]
    split_ifs with hpost
    · cases out with
      | posted m b =>
        obtain rfl := Option.some.inj hpost
        exact_mod_cast (hposted m b rfl).1
      | none | unreadable | discarded | failed | delivered => cases hpost
    · exact_mod_cast hl.posted n
  · rw [discards_append] at hn
    have hfail : out ≠ .failed n := by
      rintro rfl
      have hzero := (hout n rfl).2
      rw [hzero] at hn
      exact hn rfl
    rw [failures_append, if_neg hfail, Nat.add_zero]
    by_cases hdis : out = .discarded n
    · exact hexhausted n hdis
    · rw [if_neg hdis, Nat.add_zero] at hn
      exact hl.exhausted n hn
  · intro st hst n b hb
    rw [hbodies]
    rcases List.mem_append.mp hst with hst | hst
    · exact hl.unchanged st hst n b hb
    · rw [List.mem_singleton.mp hst] at hb
      exact (hposted n b hb).2

theorem carry (hl : Ledger maxRetries h q) {c n : ℕ} {x y : Consumer}
    (hm : Dlq.Moves maxRetries q e out (q.setConsumer c y)) (hin : e.body = none)
    (hc : q.consumers[c]? = some x) (hx : x.message = some n) (hout : out.about = some n)
    (hstays : ∀ m, out ≠ .unreadable m ∧ out ≠ .discarded m)
    (hy : y.Tracked maxRetries (h ++ [⟨q, e, out, q.setConsumer c y⟩]))
    (hposted : ∀ m b, out = .posted m b → (posts h m : ℤ) + 1 ≤ maxRetries ∧
      ∃ body, (bodies h)[m]? = some body ∧ b = body.getD []) :
    Ledger maxRetries (h ++ [⟨q, e, out, q.setConsumer c y⟩]) (q.setConsumer c y) := by
  obtain ⟨hlt, hzero, hlist, halone⟩ := hl.of_holder hc hx
  have habout : ∀ m, out.about = some m → m = n := by
    intro m hm
    rw [hout] at hm
    exact (Option.some.inj hm).symm
  refine hl.next hm hin (fun m => (hstays m).1) (fun m hm => ?_) ?_ ?_ hposted
    fun m hm => absurd hm (hstays m).2
  · rw [habout m hm]
    exact ⟨hlt, hzero⟩
  · refine hl.queued_append (fun p hp => hp) fun m data hmem hm => ?_
    rw [habout m hm] at hmem
    exact hlist data hmem
  · refine hl.held_set (fun j z m hj hz hm hm' => ?_) hy
    rw [habout m hm'] at hm
    exact hj (halone j z hz hm)

theorem fail (hl : Ledger maxRetries h q) {c n : ℕ} {x : Consumer} {msg : DLQMessage}
    (hm : Dlq.Moves maxRetries q e (.failed n) (q.setConsumer c (.requeueing n msg.again)))
    (hin : e.body = none) (hc : q.consumers[c]? = some x) (hx : x.message = some n)
    (ht : Tracks maxRetries h n msg 1) :
    Ledger maxRetries (h ++ [⟨q, e, .failed n, q.setConsumer c (.requeueing n msg.again)⟩])
      (q.setConsumer c (.requeueing n msg.again)) := by
  have hretries := ht.retries
  refine hl.carry hm hin hc hx rfl (fun m => ⟨nofun, nofun⟩)
    ⟨?_, getElem?_bodies_append _ ht.body, ?_, ?_⟩ nofun
  · simpa [failures_append, DLQMessage.again] using ht.attempts
  · simpa [failures_append, posts_append, DlqOutput.post] using ht.posted
  · simp only [failures_append, if_true]
    push_cast at hretries ⊢
    omega

theorem push (hl : Ledger maxRetries h q) (hmax : 0 ≤ maxRetries)
    (sessionID transportType messageType : String) (body : Option Bytes) (now : ℤ) :
    Ledger maxRetries
      (h ++ [⟨q, .push sessionID transportType messageType body now, .none,
        q.pushDLQ sessionID transportType messageType body now⟩])
      (q.pushDLQ sessionID transportType messageType body now) := by
  have hm : Dlq.Moves maxRetries q (.push sessionID transportType messageType body now) .none
      (q.pushDLQ sessionID transportType messageType body now) := .pushed ..
  -- the books on the other messages stay as they are
  generalize hst : (⟨q, .push sessionID transportType messageType body now, .none,
    q.pushDLQ sessionID transportType messageType body now⟩ : DlqStep) = st
  have hout : st.output = .none := by rw [← hst]
  have hbodies : bodies (h ++ [st]) = bodies h ++ [body] := by
    rw [bodies_append, ← hst]
    rfl
  have hfailures : ∀ n, failures (h ++ [st]) n = failures h n := by
    simp [failures_append, hout]
  have hposts : ∀ n, posts (h ++ [st]) n = posts h n := by
    simp [posts_append, hout, DlqOutput.post]
  have hdiscards : ∀ n, discards (h ++ [st]) n = discards h n := by
    simp [discards_append, hout]
  have hdeliveries : ∀ n, deliveries (h ++ [st]) n = deliveries h n := by
    simp [deliveries_append, hout]
  have hquiet : ∀ n, st.output.about ≠ some n := by
    intro n
    rw [hout]
    nofun
  refine ⟨?_, fun n => ?_, fun n hn => ?_, ?_, fun c x hx => ?_, fun n => ?_, fun n hn => ?_, ?_⟩
  · rw [hbodies, List.length_append, ← hl.pushed]
    rfl
  · have hold := hl.places n
    have hbalance := hm.balance n
    have hpushed := hm.pushed_eq
    simp only [DlqOutput.leaves, Dlq.born, DlqEvent.body, Option.map_some, Option.some.injEq,
      reduceCtorEq, if_false, Option.toList_some, List.length_singleton] at hbalance hpushed
    unfold Dlq.places at hold ⊢
    rw [hdeliveries, hdiscards, hpushed]
    split_ifs at hold hbalance ⊢ <;> omega
  · rw [hfailures, hposts]
    exact hl.unborn n (Nat.le_of_succ_le hn)
  · intro n data hmem
    rcases List.mem_append.mp hmem with hmem | hmem
    · exact hl.queued_append (fun p hp => hp) (fun m _ _ => hquiet m) n data hmem
    · obtain ⟨rfl, rfl⟩ := Prod.mk.inj (List.mem_singleton.mp hmem)
      obtain ⟨hf, hp⟩ := hl.unborn q.pushed le_rfl
      refine ⟨_, DLQMessage.unmarshal_pushed .., ?_, ?_, ?_, ?_⟩
      · rw [hfailures, hf]
        rfl
      · rw [hbodies, hl.pushed, List.getElem?_concat_length]
      · rw [hposts, hp]
        omega
      · rw [hfailures, hf]
        exact_mod_cast hmax
  · exact (hl.held c x hx).append fun n _ => hquiet n
  · rw [hposts]
    exact hl.posted n
  · rw [hdiscards] at hn
    rw [hfailures]
    exact hl.exhausted n hn
  · intro st' hst' n b hb
    rcases List.mem_append.mp hst' with hst' | hst'
    · obtain ⟨body', hbody', rfl⟩ := hl.unchanged st' hst' n b hb
      exact ⟨body', getElem?_bodies_append st hbody', rfl⟩
    · rw [List.mem_singleton.mp hst', hout] at hb
      cases hb

theorem discard (hl : Ledger maxRetries h q) {n : ℕ} {l : List (ℕ × JsonObject)}
    {data : JsonObject} {msg : DLQMessage}
    (hm : Dlq.Moves maxRetries q e (.discarded n) { q with list := l }) (hin : e.body = none)
    (hlist : q.list = l ++ [(n, data)]) (hdata : DLQMessage.unmarshal data = .ok msg)
    (hge : maxRetries ≤ msg.attemptCount) :
    Ledger maxRetries (h ++ [⟨q, e, .discarded n, { q with list := l }⟩]) { q with list := l } := by
  obtain ⟨hlt, hzero, hfresh, hfree⟩ := hl.of_last hlist
  have ht := hl.tracks_last hlist hdata
  have habout : ∀ m, (DlqOutput.discarded n).about = some m → m = n :=
    fun m hm => (Option.some.inj hm).symm
  refine hl.next hm hin nofun (fun m hm => ?_) ?_ (fun j x hx => ?_) nofun fun m hm => ?_
  · rw [habout m hm]
    exact ⟨hlt, hzero⟩
  · have hsub : ∀ p ∈ l, p ∈ q.list := fun p hp => hlist ▸ List.mem_append_left _ hp
    refine hl.queued_append hsub fun m data' hmem hm => ?_
    rw [habout m hm] at hmem
    exact hfresh data' hmem
  · refine (hl.held j x hx).append fun m hm hm' => ?_
    rw [habout m hm'] at hm
    exact hfree j x hx hm
  · obtain rfl := DlqOutput.discarded.inj hm
    have hattempts := ht.attempts
    have hretries := ht.retries
    push_cast at hretries
    omega

theorem pop (hl : Ledger maxRetries h q) {c n : ℕ} {l : List (ℕ × JsonObject)}
    {data : JsonObject} {msg : DLQMessage}
    (hm : Dlq.Moves maxRetries q e .none
      (({ q with list := l } : Dlq).setConsumer c (.popped n msg))) (hin : e.body = none)
    (hlist : q.list = l ++ [(n, data)]) (hdata : DLQMessage.unmarshal data = .ok msg)
    (hlt : msg.attemptCount < maxRetries) :
    Ledger maxRetries
      (h ++ [⟨q, e, .none, ({ q with list := l } : Dlq).setConsumer c (.popped n msg)⟩])
      (({ q with list := l } : Dlq).setConsumer c (.popped n msg)) := by
  have ht := hl.tracks_last hlist hdata
  refine hl.next hm hin nofun nofun ?_ ?_ nofun nofun
  · exact hl.queued_append (fun p hp => hlist ▸ List.mem_append_left _ hp) fun _ _ _ => nofun
  · refine hl.held_set (fun _ _ _ _ _ _ => nofun) ⟨ht.append nofun, ?_⟩
    have hattempts := ht.attempts
    rw [failures_append, if_neg nofun]
    omega

theorem post (hl : Ledger maxRetries h q) {c n : ℕ} {msg : DLQMessage}
    (hm : Dlq.Moves maxRetries q e (.posted n (msg.payload.getD []))
      (q.setConsumer c (.posted n msg))) (hin : e.body = none)
    (hc : q.consumers[c]? = some (.popped n msg)) :
    Ledger maxRetries
      (h ++ [⟨q, e, .posted n (msg.payload.getD []), q.setConsumer c (.posted n msg)⟩])
      (q.setConsumer c (.posted n msg)) := by
  obtain ⟨ht, hlt⟩ := hl.held c _ hc
  have hposted := ht.posted
  refine hl.carry hm hin hc rfl rfl (fun m => ⟨nofun, nofun⟩)
    ⟨?_, getElem?_bodies_append _ ht.body, ?_, ?_⟩ fun m b hb => ?_
  · simpa [failures_append] using ht.attempts
  · simpa [failures_append, posts_append, DlqOutput.post] using hposted
  · simp only [failures_append, reduceCtorEq, if_false]
    push_cast
    omega
  · obtain ⟨rfl, rfl⟩ := DlqOutput.posted.inj hb
    exact ⟨by omega, msg.payload, ht.body, rfl⟩

theorem requeue (hl : Ledger maxRetries h q) {c n : ℕ} {msg : DLQMessage}
    (hm : Dlq.Moves maxRetries q e .none
      { q.setConsumer c .idle with list := q.list ++ [(n, msg.marshal)] }) (hin : e.body = none)
    (hc : q.consumers[c]? = some (.requeueing n msg)) :
    Ledger maxRetries
      (h ++ [⟨q, e, .none, { q.setConsumer c .idle with list := q.list ++ [(n, msg.marshal)] }⟩])
      { q.setConsumer c .idle with list := q.list ++ [(n, msg.marshal)] } := by
  refine hl.next hm hin nofun nofun (fun m data hmem => ?_) ?_ nofun nofun
  · rcases List.mem_append.mp hmem with hmem | hmem
    · exact hl.queued_append (fun p hp => hp) (fun _ _ _ => by nofun) m data hmem
    · obtain ⟨rfl, rfl⟩ := Prod.mk.inj (List.mem_singleton.mp hmem)
      exact ⟨msg, DLQMessage.unmarshal_marshal msg, Tracks.append (hl.held c _ hc) (by nofun)⟩
  · exact hl.held_set (fun _ _ _ _ _ _ => nofun) trivial

theorem moves (hl : Ledger maxRetries h q) (hmax : 0 ≤ maxRetries)
    (hm : Dlq.Moves maxRetries q e out q') : Ledger maxRetries (h ++ [⟨q, e, out, q'⟩]) q' := by
  have hmoves := hm
  cases hm with
  | idle he =>
    refine hl.next hmoves (DlqEvent.body_eq_none he) nofun nofun ?_ (fun c x hx => ?_) nofun nofun
    · exact hl.queued_append (fun p hp => hp) fun _ _ _ => nofun
    · exact (hl.held c x hx).append fun _ _ => nofun
  | pushed sessionID transportType messageType body now => exact hl.push hmax ..
  | unreadable hlist hc hdata =>
    -- what is in the list can be read
    obtain ⟨msg, hok, -⟩ := hl.readable_last hlist
    rw [hok] at hdata
    cases hdata
  | discarded hlist hc hdata hge => exact hl.discard hmoves rfl hlist hdata hge
  | popped hlist hc hdata hlt => exact hl.pop hmoves rfl hlist hdata hlt
  | posted hc => exact hl.post hmoves rfl hc
  | @unsent c n msg posting hc =>
    obtain ⟨ht, hlt⟩ := hl.held c _ hc
    refine hl.fail hmoves rfl hc rfl ⟨ht.attempts, ht.body, Nat.le_succ_of_le ht.posted, ?_⟩
    push_cast
    omega
  | delivered hc => exact hl.carry hmoves rfl hc rfl rfl (fun m => ⟨nofun, nofun⟩) trivial nofun
  | refused status hc => exact hl.fail hmoves rfl hc rfl (hl.held _ _ hc)
  | requeued hc => exact hl.requeue hmoves rfl hc

end Ledger

end Ledger

namespace Sample

end Sample

/-- The step takes a message from the list. -/
def Takes (st : DlqStep) (n : ℕ) : Prop := st.pre.queued n = st.post.queued n + 1

/-- A message that is taken is the one that has been in the list for the longest time. Between two
times at which a message is taken, all that were in the list at the first time are taken. -/
structure FairQueue (h : List DlqStep) : Prop where
  inOrder : ∀ st ∈ h, ∀ n, Takes st n → st.pre.list.head?.map Prod.fst = some n
  unstarved : ∀ h₁ st h₂ st' h₃ n, h = h₁ ++ st :: (h₂ ++ st' :: h₃) → Takes st n → Takes st' n →
    ∀ m, st.post.queued m ≠ 0 → ∃ st'' ∈ h₂, Takes st'' m

theorem Dlq.Moves.of_takes {maxRetries : ℤ} {q q' : Dlq} {e : DlqEvent} {out : DlqOutput}
    (hm : Dlq.Moves maxRetries q e out q') {n : ℕ} (ht : Takes ⟨q, e, out, q'⟩ n) :
    ∃ l data, q.list = l ++ [(n, data)] ∧ q'.list = l := by
  have hpop : ∀ {l m data}, q.list = l ++ [(m, data)] → q'.list = l →
      ∃ l data, q.list = l ++ [(n, data)] ∧ q'.list = l := by
    intro l m data hlist hlist'
    have hqueued := Dlq.queued_concat hlist n
    have htakes : q.queued n = q'.queued n + 1 := ht
    have hmn : m = n := by
      by_contra hne
      have hqueued' : q'.queued n = l.countP fun e => e.1 = n := by rw [Dlq.queued, hlist']
      rw [if_neg hne] at hqueued
      omega
    subst hmn
    exact ⟨l, data, hlist, hlist'⟩
  unfold Takes at ht
  cases hm with
  | unreadable hlist hc hdata => exact hpop hlist rfl
  | discarded hlist hc hdata hmax => exact hpop hlist rfl
  | popped hlist hc hdata hmax => exact hpop hlist rfl
  | idle | posted | unsent | delivered | refused =>
    -- the list stays as it is
    exact absurd ht (Nat.ne_of_lt (Nat.lt_succ_self _))
  | pushed | requeued =>
    simp only [Dlq.queued, Dlq.pushDLQ, List.countP_append] at ht
    omega

/-- **The order of the queue.** One consumer takes the messages in their order, and starves none,
exactly if there is never more than one message in the list when it takes one. -/
theorem dlq_fair_iff (maxRetries : ℤ) (es : List DlqEvent) :
    FairQueue (trace (Dlq.step maxRetries) (newDlq 1) es) ↔
      ∀ st ∈ trace (Dlq.step maxRetries) (newDlq 1) es, ∀ n, Takes st n →
        st.pre.list.length = 1 := by
  have hlast : ∀ st ∈ trace (Dlq.step maxRetries) (newDlq 1) es, ∀ n, Takes st n →
      ∃ l data, st.pre.list = l ++ [(n, data)] ∧ st.post.list = l := by
    intro st hst n ht
    have heq := eq_record_of_mem_trace hst
    rw [heq] at ht ⊢
    exact (Dlq.step_moves maxRetries st.pre st.input).of_takes ht
  constructor
  · intro hfair st hst n ht
    obtain ⟨l, data, hlist, -⟩ := hlast st hst n ht
    have hhead := hfair.inOrder st hst n ht
    -- the message is not in the list twice
    have hd : st.pre.Distinct :=
      inv_of_mem_trace (C := fun _ => True)
        (fun q e hd _ => hd.moves (Dlq.step_moves maxRetries q e)) (Dlq.distinct_new 1)
        (fun _ _ => trivial) hst
    have honce := hd.once n
    rw [Dlq.queued_concat hlist, if_pos rfl] at honce
    cases l with
    | nil => rw [hlist]; rfl
    | cons p l =>
      rw [hlist, List.cons_append, List.head?_cons, Option.map_some] at hhead
      rw [List.countP_cons, if_pos (by simpa using Option.some.inj hhead)] at honce
      omega
  · intro hone
    have hnil : ∀ st ∈ trace (Dlq.step maxRetries) (newDlq 1) es, ∀ n, Takes st n →
        (∃ data, st.pre.list = [(n, data)]) ∧ st.post.list = [] := by
      intro st hst n ht
      obtain ⟨l, data, hlist, hpost⟩ := hlast st hst n ht
      have hlength := hone st hst n ht
      rw [hlist, List.length_append, List.length_singleton] at hlength
      have hl : l = [] := List.eq_nil_of_length_eq_zero (by omega)
      subst hl
      exact ⟨⟨data, hlist⟩, hpost⟩
    refine ⟨fun st hst n ht => ?_, fun h₁ st h₂ st' h₃ n heq ht _ m hm => ?_⟩
    · obtain ⟨⟨data, hlist⟩, -⟩ := hnil st hst n ht
      rw [hlist]
      rfl
    · have hst : st ∈ trace (Dlq.step maxRetries) (newDlq 1) es := by
        rw [heq]
        simp
      obtain ⟨-, hpost⟩ := hnil st hst n ht
      rw [Dlq.queued, hpost] at hm
      exact absurd rfl hm

namespace Sample

/-- Two messages are pushed. The second one is taken, fails, and is taken again. -/
def starving : List DlqEvent :=
  [.push "aaa;1" "RADIUS" "COA" (some [1]) 100, .push "aaa;2" "RADIUS" "COA" (some [2]) 101,
    .pop 0, .post 0 .noTarget, .requeue 0, .pop 0]

end Sample

/-- The newest message is taken first, and again after it has failed. The older one stays where it
is. -/
theorem newest_message_first :
    ((trace (Dlq.step 10) (newDlq 1) Sample.starving).map fun st =>
        (st.pre.list.map Prod.fst, st.post.list.map Prod.fst)) =
      [([], [0]), ([0], [0, 1]), ([0, 1], [0]), ([0], [0]), ([0], [0, 1]), ([0, 1], [0])] ∧
    ¬ FairQueue (trace (Dlq.step 10) (newDlq 1) Sample.starving) := by
  refine ⟨by decide +kernel, fun hfair => ?_⟩
  -- the third step takes message 1 while message 0 is before it
  have htaken := hfair.inOrder
    (record (Dlq.step 10) (final (Dlq.step 10) (newDlq 1) (Sample.starving.take 2)) (.pop 0))
    (List.mem_cons_of_mem _ (List.mem_cons_of_mem _ List.mem_cons_self)) 1
    (by unfold Takes; decide +kernel)
  revert htaken
  decide +kernel

end NssAAF.Aaa
