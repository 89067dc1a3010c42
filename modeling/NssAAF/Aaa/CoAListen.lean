import NssAAF.Aaa.CoAPackets
import NssAAF.Lib.Transducer
import Mathlib.Logic.Function.Basic

/-!
# The read loop and its goroutines

`Listen` of `internal/aaa/gateway/radius_handler.go` reads every datagram into one buffer and keeps
the address it came from in one field. For an accepted request it starts a goroutine, which has a
slice of that buffer: it forwards the slice to Biz, waits for the result, and answers from the slice
to the address in the field, while the loop goes on reading.

`answer_belongs_to_request` says for which runs this makes no difference.
-/

namespace NssAAF.Aaa

open NssAAF.Radius Transducer

def bufferSize : ℕ := 4096

inductive CoAPhase
  | received
  | forwarded
  | answered
  deriving DecidableEq

/-- The goroutine of a request. It has the session, the type and the first `size` octets of the
buffer, whatever is in it. The address and the octets that the request came with are kept here to
say what it should use; the code does not keep them. -/
structure CoATask where
  sessionID : Bytes
  msgType : String
  size : ℕ
  origin : String
  request : Bytes
  phase : CoAPhase
  deriving DecidableEq

structure RadiusHandler where
  sharedSecret : Bytes
  buf : Bytes
  replyAddr : Option String
  tasks : ℕ → Option CoATask

def newRadiusHandler (sharedSecret : Bytes) : RadiusHandler :=
  ⟨sharedSecret, List.replicate bufferSize 0, none, fun _ => none⟩

/-- What happens: the loop reads a datagram, and the goroutine it may start gets a number; a
goroutine forwards its request; a goroutine has the result of Biz and answers. -/
inductive ListenEvent
  | arrive (n : ℕ) (addr : String) (datagram : Bytes)
  | forward (n : ℕ)
  | answer (n : ℕ) (fuel : ℕ) (resultCode : UInt32)
  deriving DecidableEq

/-- What leaves the handler: the payload for Biz, or an answer with the address it goes to. -/
inductive ListenOutput
  | none
  | payload (n : ℕ) (raw : Bytes)
  | answer (n : ℕ) (addr : Option String) (answer : Answer)
  deriving DecidableEq

namespace RadiusHandler

variable (h : RadiusHandler)

def setTask (n : ℕ) (task : CoATask) : RadiusHandler :=
  { h with tasks := Function.update h.tasks n (some task) }

/-- The loop reads into the buffer, stores the address and starts a goroutine if the datagram is
accepted. -/
def arrive (n : ℕ) (addr : String) (datagram : Bytes) : RadiusHandler :=
  let raw := datagram.take bufferSize
  let h' := { h with buf := h.buf.copy raw, replyAddr := some addr }
  match handlePacket h.sharedSecret raw with
  | none => h'
  | some (sessionID, msgType) =>
    h'.setTask n ⟨sessionID, msgType, raw.length, addr, raw, .received⟩

def slice (task : CoATask) : Bytes := h.buf.take task.size

def step : ListenEvent → ListenOutput × RadiusHandler
  | .arrive n addr datagram =>
    if (h.tasks n).isSome then (.none, h) else (.none, h.arrive n addr datagram)
  | .forward n =>
    match h.tasks n with
    | some task =>
      if task.phase = .received then
        (.payload n (h.slice task), h.setTask n { task with phase := .forwarded })
      else (.none, h)
    | none => (.none, h)
  | .answer n fuel resultCode =>
    match h.tasks n with
    | some task =>
      if task.phase = .forwarded then
        (.answer n h.replyAddr (sendCoAResponse fuel h.sharedSecret (h.slice task) resultCode),
          h.setTask n { task with phase := .answered })
      else (.none, h)
    | none => (.none, h)

@[simp] theorem setTask_tasks (n m : ℕ) (task : CoATask) :
    (h.setTask n task).tasks m = if m = n then some task else h.tasks m :=
  Function.update_apply ..

end RadiusHandler

abbrev ListenStep : Type := Record RadiusHandler ListenEvent ListenOutput

/-- What leaves the handler belongs to its request: the payload has the octets of the request, and
the answer is made from them and goes to the address of the request. -/
def BelongsTo (st : ListenStep) : Prop :=
  match st.input, st.output with
  | .forward _, .payload n raw => ∃ task, st.pre.tasks n = some task ∧ raw = task.request
  | .answer _ fuel resultCode, .answer n addr answer =>
    ∃ task, st.pre.tasks n = some task ∧ addr = some task.origin ∧
      answer = sendCoAResponse fuel st.pre.sharedSecret task.request resultCode
  | _, out => out = .none

/-- While a request is not yet answered, every datagram comes from the same address, and it begins
with the request or the request begins with it. -/
def Undisturbed (st : ListenStep) : Prop :=
  match st.input with
  | .arrive _ addr datagram => ∀ m task, st.pre.tasks m = some task → task.phase ≠ .answered →
      addr = task.origin ∧ (task.request <+: datagram.take bufferSize ∨
        datagram.take bufferSize <+: task.request)
  | _ => True

namespace RadiusHandler

/-- The buffer and the address are still those of every request that is not yet answered. -/
structure Intact (h : RadiusHandler) : Prop where
  length : h.buf.length = bufferSize
  own : ∀ n task, h.tasks n = some task → task.phase ≠ .answered →
    h.replyAddr = some task.origin ∧ h.slice task = task.request ∧
      task.size = task.request.length

theorem intact_new (secret : Bytes) : (newRadiusHandler secret).Intact :=
  ⟨List.length_replicate, fun _ _ hn => nomatch hn⟩

theorem take_copy_of_isPrefix {buf raw request : Bytes} (hraw : raw.length ≤ buf.length)
    (hbuf : buf.take request.length = request) (h : request <+: raw ∨ raw <+: request) :
    (buf.copy raw).take request.length = request := by
  have hcopy : buf.copy raw = raw ++ buf.drop raw.length := by
    unfold Bytes.copy
    rw [List.take_of_length_le hraw]
  rw [hcopy]
  rcases h with ⟨rest, rfl⟩ | ⟨rest, rfl⟩
  · rw [List.append_assoc, List.take_left]
  · have hsplit : buf = raw ++ (rest ++ buf.drop (raw ++ rest).length) := by
      rw [← List.append_assoc]
      conv_lhs => rw [← List.take_append_drop (raw ++ rest).length buf, hbuf]
    rw [hsplit, List.drop_left, ← List.append_assoc, List.take_left]

theorem take_copy_self {buf raw : Bytes} (hraw : raw.length ≤ buf.length) :
    (buf.copy raw).take raw.length = raw := by
  unfold Bytes.copy
  rw [List.take_of_length_le hraw, List.take_left]

variable {h : RadiusHandler}

theorem Intact.length_raw_le (hi : h.Intact) (datagram : Bytes) :
    (datagram.take bufferSize).length ≤ h.buf.length := by
  rw [hi.length, List.length_take]
  exact Nat.min_le_left _ _

theorem Intact.arrive (hi : h.Intact) {n : ℕ} {addr : String} {datagram : Bytes}
    (hu : ∀ m task, h.tasks m = some task → task.phase ≠ .answered →
      addr = task.origin ∧ (task.request <+: datagram.take bufferSize ∨
        datagram.take bufferSize <+: task.request)) :
    (h.arrive n addr datagram).Intact := by
  have hlen := hi.length_raw_le datagram
  unfold RadiusHandler.arrive
  generalize datagram.take bufferSize = raw at hlen hu ⊢
  have hkept :
      ({ h with buf := h.buf.copy raw, replyAddr := some addr } : RadiusHandler).Intact := by
    refine ⟨(Bytes.length_copy ..).trans hi.length, fun m task hm hphase => ?_⟩
    obtain ⟨-, hslice, hsize⟩ := hi.own m task hm hphase
    obtain ⟨hfrom, hbegins⟩ := hu m task hm hphase
    refine ⟨congrArg some hfrom, ?_, hsize⟩
    unfold slice at hslice ⊢
    rw [hsize] at hslice ⊢
    exact take_copy_of_isPrefix hlen hslice hbegins
  dsimp only
  split
  · exact hkept
  · refine ⟨hkept.length, fun m task hm hphase => ?_⟩
    by_cases hmn : m = n
    · rw [setTask_tasks, if_pos hmn, Option.some.injEq] at hm
      subst hm
      exact ⟨rfl, take_copy_self hlen, rfl⟩
    · rw [setTask_tasks, if_neg hmn] at hm
      exact hkept.own m task hm hphase

theorem Intact.setTask (hi : h.Intact) {n : ℕ} {task : CoATask} {phase : CoAPhase}
    (hn : h.tasks n = some task) (hphase : task.phase ≠ .answered) :
    (h.setTask n { task with phase := phase }).Intact := by
  refine ⟨hi.length, fun m task' hm hphase' => ?_⟩
  by_cases hmn : m = n
  · rw [setTask_tasks, if_pos hmn, Option.some.injEq] at hm
    subst hm
    exact hi.own n task hn hphase
  · rw [setTask_tasks, if_neg hmn] at hm
    exact hi.own m task' hm hphase'

theorem Intact.step (hi : h.Intact) {e : ListenEvent}
    (hu : Undisturbed (record RadiusHandler.step h e)) : (h.step e).2.Intact := by
  cases e with
  | arrive n addr datagram =>
    dsimp only [RadiusHandler.step]
    split_ifs
    · exact hi
    · exact hi.arrive hu
  | forward n =>
    dsimp only [RadiusHandler.step]
    split
    · split_ifs with hphase
      · exact hi.setTask ‹_› (by rw [hphase]; nofun)
      · exact hi
    · exact hi
  | answer n fuel resultCode =>
    dsimp only [RadiusHandler.step]
    split
    · split_ifs with hphase
      · exact hi.setTask ‹_› (by rw [hphase]; nofun)
      · exact hi
    · exact hi

theorem Intact.belongsTo (hi : h.Intact) (e : ListenEvent) :
    BelongsTo (record RadiusHandler.step h e) := by
  unfold BelongsTo
  cases e with
  | arrive n addr datagram =>
    dsimp only [record, RadiusHandler.step]
    split_ifs
    · rfl
    · rfl
  | forward n =>
    dsimp only [record, RadiusHandler.step]
    cases hn : h.tasks n with
    | none => rfl
    | some task =>
      dsimp only
      by_cases hphase : task.phase = .received
      · rw [if_pos hphase]
        exact ⟨task, hn, (hi.own n task hn (by rw [hphase]; nofun)).2.1⟩
      · rw [if_neg hphase]
  | answer n fuel resultCode =>
    dsimp only [record, RadiusHandler.step]
    cases hn : h.tasks n with
    | none => rfl
    | some task =>
      dsimp only
      by_cases hphase : task.phase = .forwarded
      · obtain ⟨haddr, hslice, -⟩ := hi.own n task hn (by rw [hphase]; nofun)
        rw [if_pos hphase]
        exact ⟨task, hn, haddr, by rw [hslice]⟩
      · rw [if_neg hphase]

end RadiusHandler

open RadiusHandler

/-- **Answers belong to their requests.** In every run in which, while a request is not yet
answered, every datagram comes from its address and begins like it, the payload for Biz and the
answer of each request are made from its own octets, and the answer goes to its own address. -/
theorem answer_belongs_to_request (secret : Bytes) (es : List ListenEvent)
    (h : ∀ st ∈ trace step (newRadiusHandler secret) es, Undisturbed st) :
    ∀ st ∈ trace step (newRadiusHandler secret) es, BelongsTo st := by
  intro st hst
  have hi := inv_of_mem_trace (I := Intact) (fun _ _ hi hu => hi.step hu) (intact_new secret) h hst
  rw [eq_record_of_mem_trace hst]
  exact hi.belongsTo st.input

def ListenEvent.number : ListenEvent → ℕ
  | .arrive n _ _ | .forward n | .answer n _ _ => n

theorem tasks_step_of_ne {h : RadiusHandler} {e : ListenEvent} {m : ℕ} (hm : m ≠ e.number) :
    (h.step e).2.tasks m = h.tasks m := by
  cases e with
  | arrive n addr datagram =>
    change m ≠ n at hm
    dsimp only [RadiusHandler.step]
    split_ifs
    · rfl
    · unfold RadiusHandler.arrive
      dsimp only
      split
      · rfl
      · rw [RadiusHandler.setTask_tasks, if_neg hm]
  | forward n | answer n =>
    change m ≠ n at hm
    dsimp only [RadiusHandler.step]
    split
    · split_ifs
      · rw [RadiusHandler.setTask_tasks, if_neg hm]
      · rfl
    · rfl

theorem tasks_eq_none_of_mem_trace {secret : Bytes} {es : List ListenEvent} {m : ℕ}
    (hes : ∀ st ∈ trace step (newRadiusHandler secret) es, m ≠ st.input.number) {st : ListenStep}
    (hst : st ∈ trace step (newRadiusHandler secret) es) : st.pre.tasks m = none :=
  inv_of_mem_trace (I := fun h => h.tasks m = none) (C := fun st => m ≠ st.input.number)
    (fun _ _ hnone hne => (tasks_step_of_ne hne).trans hnone) rfl hes hst

namespace Sample

/-- A request comes twice before it is answered, and then one of another server. -/
def again : List ListenEvent :=
  [.arrive 0 "10.0.0.1:3799" plainRequest, .arrive 1 "10.0.0.1:3799" plainRequest, .forward 0,
    .answer 0 2 0, .forward 1, .answer 1 2 0,
    .arrive 2 "10.0.0.2:3799" (signedRequest 40 18 []), .forward 2, .answer 2 2 0]

/-- The datagram that arrives, if one does, is the request again. -/
def repeats (task : CoATask) : ListenEvent → Bool
  | .arrive _ addr datagram => addr = task.origin ∧ task.request = datagram.take bufferSize
  | _ => true

/-- The addresses that are answered, with the numbers of the requests. -/
def answers : ListenOutput → Option (ℕ × Option String)
  | .answer n addr _ => some (n, addr)
  | _ => none

/-- A Disconnect-Request comes from another server before the first request is answered. -/
def crossed : List ListenEvent :=
  [.arrive 0 "10.0.0.1:3799" plainRequest,
    .arrive 1 "10.0.0.2:3799" (signedRequest 40 18 []), .forward 0, .answer 0 2 0]

end Sample

open Sample Radius.Sample in
/-- The second datagram leaves the buffer and the address as they are. -/
theorem repeated_belongs :
    (trace step (newRadiusHandler secret) again).filterMap
        (fun st => answers st.output) =
      [(0, some "10.0.0.1:3799"), (1, some "10.0.0.1:3799"), (2, some "10.0.0.2:3799")] ∧
    (∀ st ∈ trace step (newRadiusHandler secret) again, Undisturbed st) ∧
      ∀ st ∈ trace step (newRadiusHandler secret) again, BelongsTo st := by
  have hnumbers : ∀ st ∈ trace step (newRadiusHandler secret) again,
      st.input.number < 3 := by decide +kernel
  have hbelow : ∀ st ∈ trace step (newRadiusHandler secret) again,
      ∀ m < 3, ∀ task ∈ st.pre.tasks m, task.phase ≠ .answered →
        repeats task st.input := by decide +kernel
  have hundisturbed : ∀ st ∈ trace step (newRadiusHandler secret) again,
      Undisturbed st := by
    intro st hst
    unfold Undisturbed
    split
    · next n addr datagram hinput =>
      intro m task hm hphase
      have hlt : m < 3 := by
        by_contra hge
        have hnone := tasks_eq_none_of_mem_trace (m := m)
          (fun st hst => by have := hnumbers st hst; omega) hst
        rw [hm] at hnone
        cases hnone
      have hsame := hbelow st hst m hlt task hm hphase
      rw [hinput, repeats, decide_eq_true_iff] at hsame
      exact ⟨hsame.1, Or.inl (hsame.2 ▸ List.prefix_refl _)⟩
    · trivial
  exact ⟨by decide +kernel, hundisturbed, answer_belongs_to_request _ _ hundisturbed⟩

open Sample in
/-- The request of the first server is answered to the second one, with the octets of the second
one's request. -/
theorem crossed_answer :
    ((trace step (newRadiusHandler Radius.Sample.secret) crossed).map Record.output) =
      [.none, .none, .payload 0 (signedRequest 40 18 []),
        .answer 0 (some "10.0.0.2:3799") (sendCoAResponse 2 Radius.Sample.secret
          (signedRequest 40 18 []) 0)] ∧
      plainRequest ≠ signedRequest 40 18 [] := by
  decide +kernel

end NssAAF.Aaa
