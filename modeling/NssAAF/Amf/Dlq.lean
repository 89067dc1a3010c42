import NssAAF.Lib.Transducer
import NssAAF.Lib.Bytes
import Mathlib.Data.Int.Basic

/-!
# The queue of undelivered notifications

`DLQ` of `internal/cache/redis/dlq.go`. `Enqueue` pushes an item to the left end of a list of Redis.
`Process` pops an item from the right end, posts it to the AMF, and pushes it again with one more
attempt if that fails; an item without attempts left is discarded. `Stop`, or the end of the parent
context, cancels the context with which `Process` does all this. Every command to Redis and every
exchange with the AMF is one event, and the cancellation comes at any time. Items are numbered in
the order in which they are first pushed. Redis is available: a push fails only because of the
context.
-/

namespace NssAAF.Amf

open Transducer

/-! ## Items and their encoding -/

structure AMFDLQItem where
  id : String
  type : String
  uri : String
  payload : Option Bytes
  authCtxID : String
  attempt : ℤ
  maxAttempts : ℤ
  createdAt : ℤ
  lastError : String
  deriving DecidableEq

inductive Member
  | string (s : String)
  | number (n : ℤ)
  | time (t : ℤ)
  | raw (json : Bytes)
  deriving DecidableEq

abbrev Encoded : Type := List (String × Member)

def nullJson : Bytes := [110, 117, 108, 108]

/-- How `encoding/json` writes a value that is already encoded: without white space, or not at all
if it is no JSON. What it has written it writes again as it is. -/
structure RawJson where
  compact : Bytes → Except String Bytes
  compact_null : compact nullJson = .ok nullJson
  compact_compact : ∀ {b c}, compact b = .ok c → compact c = .ok c

/-- A payload that is nil is written as `null`. -/
def RawJson.write (json : RawJson) : Option Bytes → Except String Bytes
  | none => .ok nullJson
  | some b => json.compact b

theorem RawJson.write_some_of_write (json : RawJson) {payload : Option Bytes} {raw : Bytes}
    (h : json.write payload = .ok raw) : json.write (some raw) = .ok raw := by
  cases payload with
  | none =>
    cases h
    exact json.compact_null
  | some b => exact json.compact_compact h

namespace AMFDLQItem

def zero : AMFDLQItem := ⟨"", "", "", none, "", 0, 0, 0, ""⟩

def members : List String :=
  ["id", "type", "uri", "payload", "authCtxId", "attempt", "maxAttempts", "createdAt", "lastError"]

def encode (item : AMFDLQItem) (payload : Bytes) : Encoded :=
  [("id", .string item.id), ("type", .string item.type), ("uri", .string item.uri),
    ("payload", .raw payload), ("authCtxId", .string item.authCtxID),
    ("attempt", .number item.attempt), ("maxAttempts", .number item.maxAttempts),
    ("createdAt", .time item.createdAt), ("lastError", .string item.lastError)]

def marshal (json : RawJson) (item : AMFDLQItem) : Except String Encoded :=
  match json.write item.payload with
  | .error err => .error ("dlq: marshal: " ++ err)
  | .ok raw => .ok (item.encode raw)

/-- One member is read. Members with other names are skipped. -/
def setMember (item : AMFDLQItem) : String × Member → Except String AMFDLQItem
  | ("id", .string s) => .ok { item with id := s }
  | ("type", .string s) => .ok { item with type := s }
  | ("uri", .string s) => .ok { item with uri := s }
  | ("payload", .raw b) => .ok { item with payload := some b }
  | ("authCtxId", .string s) => .ok { item with authCtxID := s }
  | ("attempt", .number n) => .ok { item with attempt := n }
  | ("maxAttempts", .number n) => .ok { item with maxAttempts := n }
  | ("createdAt", .time t) => .ok { item with createdAt := t }
  | ("lastError", .string s) => .ok { item with lastError := s }
  | (name, _) =>
    if name ∈ members then .error ("cannot unmarshal into field " ++ name) else .ok item

def unmarshal (data : Encoded) : Except String AMFDLQItem := data.foldlM setMember zero

theorem unmarshal_encode (item : AMFDLQItem) (payload : Bytes) :
    unmarshal (item.encode payload) = .ok { item with payload := some payload } := rfl

def again (item : AMFDLQItem) (err : String) : AMFDLQItem :=
  { item with attempt := item.attempt + 1, lastError := err }

def Exhausted (item : AMFDLQItem) : Prop :=
  0 < item.maxAttempts ∧ item.maxAttempts ≤ item.attempt

instance : DecidablePred Exhausted := fun item =>
  inferInstanceAs (Decidable (0 < item.maxAttempts ∧ item.maxAttempts ≤ item.attempt))

end AMFDLQItem

/-! ## The machine -/

/-- Where `Process` is. In `pushing` it is before the next of its pushes of an item, with the number
of those that failed. -/
inductive Worker
  | ready
  | waiting
  | popped (n : ℕ) (item : AMFDLQItem)
  | posted (n : ℕ) (item : AMFDLQItem)
  | pushing (n : ℕ) (item : AMFDLQItem) (failed : ℕ)
  | stopped
  deriving DecidableEq

namespace Worker

def item : Worker → Option (ℕ × AMFDLQItem)
  | .popped n item | .posted n item | .pushing n item _ => some (n, item)
  | .ready | .waiting | .stopped => none

def failedPushes : Worker → ℕ
  | .pushing _ _ failed => failed
  | _ => 0

def isPushing : Worker → Bool
  | .pushing _ _ _ => true
  | _ => false

end Worker

/-- The list, how many items were pushed so far, whether the context of `Process` is cancelled, and
where `Process` is. -/
structure AmfDlq where
  list : List (ℕ × Encoded)
  enqueued : ℕ
  cancelled : Bool
  worker : Worker
  deriving DecidableEq

def newDLQ : AmfDlq := ⟨[], 0, false, .ready⟩

/-- What becomes of a request to the AMF: it cannot be made, or it is sent. With a cancelled context
it is not sent but fails with the error `unsent`. -/
inductive Posting
  | unbuildable (err : String)
  | request (unsent : String)
  deriving DecidableEq

/-- An item is enqueued, the context is cancelled, or `Process` goes on. -/
inductive AmfEvent
  | enqueue (item : AMFDLQItem)
  | cancel
  | dequeue
  | pop
  | timeout
  | post (posting : Posting)
  | answer (status : Except String ℕ)
  | push
  deriving DecidableEq

inductive AmfOutput
  | none
  | refused (err : String)
  | enqueued (n : ℕ)
  | unreadable (n : ℕ)
  | discarded (n : ℕ) (item : AMFDLQItem)
  | popped (n : ℕ)
  | posted (n : ℕ) (item : AMFDLQItem)
  | delivered (n : ℕ) (status : ℕ)
  | failed (n : ℕ)
  | lost (n : ℕ)
  deriving DecidableEq

/-- A failed push is tried five times more. -/
def enqueueRetryMax : ℕ := 5

namespace AmfDlq

section Step

variable (json : RawJson) (q : AmfDlq)

def enqueue (item : AMFDLQItem) : AmfOutput × AmfDlq :=
  match item.marshal json with
  | .error err => (.refused err, q)
  | .ok data =>
    (.enqueued q.enqueued,
      { q with list := (q.enqueued, data) :: q.list, enqueued := q.enqueued + 1 })

/-- `Process` has no item: it ends if the context is cancelled. -/
def turn (w : Worker) : AmfDlq := { q with worker := if q.cancelled then .stopped else w }

def dequeue : AmfDlq :=
  -- with a cancelled context no command is sent
  match q.worker with
  | .ready => q.turn .waiting
  | _ => q

def timeout : AmfDlq :=
  match q.worker with
  | .waiting => q.turn .ready
  | _ => q

/-- The item is read, and discarded if it has no attempts left. -/
def take (n : ℕ) (data : Encoded) : AmfOutput × AmfDlq :=
  match AMFDLQItem.unmarshal data with
  | .error _ => (.unreadable n, q.turn .ready)
  | .ok item =>
    if item.Exhausted then (.discarded n item, { q with worker := .ready })
    else (.popped n, { q with worker := .popped n item })

def pop : AmfOutput × AmfDlq :=
  -- a `BRPOP` under way gets its item also after the cancellation
  match q.worker, q.list.getLast? with
  | .waiting, some (n, data) => take { q with list := q.list.dropLast } n data
  | _, _ => (.none, q)

/-- The delivery has failed, and the item is to be pushed again. -/
def fail (n : ℕ) (item : AMFDLQItem) (err : String) : AmfOutput × AmfDlq :=
  (.failed n, { q with worker := .pushing n (item.again err) 0 })

def post (posting : Posting) : AmfOutput × AmfDlq :=
  match q.worker with
  | .popped n item =>
    match posting with
    | .unbuildable err => q.fail n item ("dlq: create request: " ++ err)
    | .request unsent =>
      if q.cancelled then q.fail n item ("dlq: do request: " ++ unsent)
      else (.posted n item, { q with worker := .posted n item })
  | _ => (.none, q)

def answer (status : Except String ℕ) : AmfOutput × AmfDlq :=
  match q.worker with
  | .posted n item =>
    match status with
    | .error err => q.fail n item ("dlq: do request: " ++ err)
    | .ok code =>
      if 200 ≤ code ∧ code < 300 then (.delivered n code, { q with worker := .ready })
      else q.fail n item ("dlq: non-2xx status: " ++ toString code)
  | _ => (.none, q)

/-- What `Enqueue` with the context of `Process` writes. -/
def pushed (item : AMFDLQItem) : Except String Encoded :=
  match item.marshal json with
  | .error err => .error err
  | .ok data => if q.cancelled then .error "context canceled" else .ok data

def push : AmfOutput × AmfDlq :=
  match q.worker with
  | .pushing n item failed =>
    match q.pushed json item with
    | .ok data => (.none, { q with list := (n, data) :: q.list, worker := .ready })
    | .error _ =>
      if failed = enqueueRetryMax then (.lost n, { q with worker := .ready })
      else (.none, { q with worker := .pushing n item (failed + 1) })
  | _ => (.none, q)

def step : AmfEvent → AmfOutput × AmfDlq
  | .enqueue item => q.enqueue json item
  | .cancel => (.none, { q with cancelled := true })
  | .dequeue => (.none, q.dequeue)
  | .pop => q.pop
  | .timeout => (.none, q.timeout)
  | .post posting => q.post posting
  | .answer status => q.answer status
  | .push => q.push json

end Step

inductive Moves (json : RawJson) (q : AmfDlq) : AmfEvent → AmfOutput → AmfDlq → Prop
  | stay {e : AmfEvent} (hpush : e = .push → q.worker.isPushing = false) : Moves json q e .none q
  | refuse (item : AMFDLQItem) (err : String) : Moves json q (.enqueue item) (.refused err) q
  | enqueue {item : AMFDLQItem} {data : Encoded} (hdata : item.marshal json = .ok data) :
      Moves json q (.enqueue item) (.enqueued q.enqueued)
        { q with list := (q.enqueued, data) :: q.list, enqueued := q.enqueued + 1 }
  | cancel : Moves json q .cancel .none { q with cancelled := true }
  | turn {e : AmfEvent} {w : Worker} (he : e ≠ .push) (hfree : q.worker.item = none)
      (hw : w.item = none) : Moves json q e .none { q with worker := w }
  | unreadable {n : ℕ} {l : List (ℕ × Encoded)} {data : Encoded} {err : String} {w : Worker}
      (hfree : q.worker.item = none) (hw : w.item = none) (hlist : q.list = l ++ [(n, data)])
      (hdata : AMFDLQItem.unmarshal data = .error err) :
      Moves json q .pop (.unreadable n) { q with list := l, worker := w }
  | discard {n : ℕ} {l : List (ℕ × Encoded)} {data : Encoded} {item : AMFDLQItem}
      (hw : q.worker = .waiting) (hlist : q.list = l ++ [(n, data)])
      (hdata : AMFDLQItem.unmarshal data = .ok item) (hmax : item.Exhausted) :
      Moves json q .pop (.discarded n item) { q with list := l, worker := .ready }
  | pop {n : ℕ} {l : List (ℕ × Encoded)} {data : Encoded} {item : AMFDLQItem}
      (hw : q.worker = .waiting) (hlist : q.list = l ++ [(n, data)])
      (hdata : AMFDLQItem.unmarshal data = .ok item) :
      Moves json q .pop (.popped n) { q with list := l, worker := .popped n item }
  | post {n : ℕ} {item : AMFDLQItem} (posting : Posting) (hw : q.worker = .popped n item) :
      Moves json q (.post posting) (.posted n item) { q with worker := .posted n item }
  | fail {e : AmfEvent} {n : ℕ} {item : AMFDLQItem} (err : String) (he : e ≠ .push)
      (hw : q.worker = .popped n item ∨ q.worker = .posted n item) :
      Moves json q e (.failed n) { q with worker := .pushing n (item.again err) 0 }
  | deliver {n code : ℕ} {item : AMFDLQItem} (hw : q.worker = .posted n item)
      (hcode : 200 ≤ code ∧ code < 300) :
      Moves json q (.answer (.ok code)) (.delivered n code) { q with worker := .ready }
  | push {n failed : ℕ} {item : AMFDLQItem} {data : Encoded}
      (hw : q.worker = .pushing n item failed) (hdata : q.pushed json item = .ok data) :
      Moves json q .push .none { q with list := (n, data) :: q.list, worker := .ready }
  | retry {n failed : ℕ} {item : AMFDLQItem} {err : String}
      (hw : q.worker = .pushing n item failed) (herr : q.pushed json item = .error err) :
      Moves json q .push .none { q with worker := .pushing n item (failed + 1) }
  | lose {n failed : ℕ} {item : AMFDLQItem} {err : String}
      (hw : q.worker = .pushing n item failed) (herr : q.pushed json item = .error err) :
      Moves json q .push (.lost n) { q with worker := .ready }

section Moves

variable (json : RawJson) (q : AmfDlq)

theorem pop_moves : Moves json q .pop q.pop.1 q.pop.2 := by
  unfold pop
  split
  · next n data hw hlast =>
    obtain ⟨l, hlist⟩ := List.getLast?_eq_some_iff.mp hlast
    have hl : q.list.dropLast = l := by rw [hlist, List.dropLast_concat]
    unfold take
    rw [hl]
    split
    · next hdata =>
      refine .unreadable ?_ ?_ hlist hdata
      · rw [hw]
        rfl
      · split_ifs
        all_goals rfl
    · next item hdata =>
      split_ifs with hmax
      · exact .discard hw hlist hdata hmax
      · exact .pop hw hlist hdata
  · exact .stay (by simp)

theorem turn_moves {e : AmfEvent} {w : Worker} (he : e ≠ .push) (hfree : q.worker.item = none)
    (hw : w.item = none) : Moves json q e .none (q.turn w) := by
  refine .turn he hfree ?_
  split_ifs
  · rfl
  · exact hw

theorem post_moves (posting : Posting) :
    Moves json q (.post posting) (q.post posting).1 (q.post posting).2 := by
  unfold post
  split
  · next n item hw =>
    cases posting with
    | unbuildable err => exact .fail _ (by simp) (Or.inl hw)
    | request unsent =>
      dsimp only
      split_ifs
      · exact .fail _ (by simp) (Or.inl hw)
      · exact .post _ hw
  · exact .stay (by simp)

theorem answer_moves (status : Except String ℕ) :
    Moves json q (.answer status) (q.answer status).1 (q.answer status).2 := by
  unfold answer
  split
  · next n item hw =>
    cases status with
    | error err => exact .fail _ (by simp) (Or.inr hw)
    | ok code =>
      dsimp only
      split_ifs with hcode
      · exact .deliver hw hcode
      · exact .fail _ (by simp) (Or.inr hw)
  · exact .stay (by simp)

theorem push_moves : Moves json q .push (q.push json).1 (q.push json).2 := by
  unfold push
  split
  · next n item failed hw =>
    split
    · next data hdata => exact .push hw hdata
    · next err herr =>
      split_ifs
      · exact .lose hw herr
      · exact .retry hw herr
  · next hw =>
    refine .stay fun _ => ?_
    cases hworker : q.worker with
    | pushing n item failed => exact absurd hworker (hw n item failed)
    | ready | waiting | popped | posted | stopped => rfl

theorem step_moves (e : AmfEvent) : Moves json q e (q.step json e).1 (q.step json e).2 := by
  cases e with
  | enqueue item =>
    dsimp only [step, enqueue]
    split
    · exact .refuse _ _
    · exact .enqueue ‹_›
  | cancel => exact .cancel
  | dequeue =>
    dsimp only [step, dequeue]
    split
    · next hw => exact turn_moves json q (by simp) (by rw [hw]; rfl) rfl
    · exact .stay (by simp)
  | pop => exact pop_moves json q
  | timeout =>
    dsimp only [step, timeout]
    split
    · next hw => exact turn_moves json q (by simp) (by rw [hw]; rfl) rfl
    · exact .stay (by simp)
  | post posting => exact post_moves json q posting
  | answer status => exact answer_moves json q status
  | push => exact push_moves json q

end Moves

end AmfDlq

abbrev AmfStep : Type := Record AmfDlq AmfEvent AmfOutput

/-- The steps of a run, and the state after it. -/
abbrev AmfDlq.run (json : RawJson) (es : List AmfEvent) : List AmfStep :=
  trace (step json) newDLQ es

@[inherit_doc AmfDlq.run]
abbrev AmfDlq.after (json : RawJson) (es : List AmfEvent) : AmfDlq := final (step json) newDLQ es

end NssAAF.Amf
