import NssAAF.Amf.Shutdown
import NssAAF.Resilience.Requests

/-!
# Notifications to the AMF

`sendNotification` of `internal/amf/amf.go` posts a notification until the AMF accepts it, at most
`MaxAttempts` times. If no attempt succeeds it enqueues the notification, with the number of
attempts it has made and `MaxAttempts` as their limit.

* `extractBaseURLAndPath`, `sendNotification`: the source.
* `Passes`: how the consumer gets from one state to another without a POST of an item.
* `second_chance_iff`: which notifications get another attempt from the queue.
-/

namespace NssAAF.Amf

open Transducer Resilience

/-! ## The client -/

inductive NotificationType
  | sliceReAuth
  | sliceRevoc
  deriving DecidableEq

def NotificationType.name : NotificationType → String
  | .sliceReAuth => "SLICE_RE_AUTH"
  | .sliceRevoc => "SLICE_REVOCATION"

/-- A text up to its first `://`, and what follows. -/
def splitScheme : List Char → Option (List Char × List Char)
  | [] => none
  | c :: cs =>
    match c, cs with
    | ':', '/' :: '/' :: rest => some ([':', '/', '/'], rest)
    | _, _ => (splitScheme cs).map fun (scheme, rest) => (c :: scheme, rest)

def extractBaseURLAndPath (uri : String) : Except String (String × String) :=
  if uri = "" then .error "empty uri"
  else
    match splitScheme uri.toList with
    | none => .error ("no scheme in uri: " ++ uri)
    | some (scheme, rest) =>
      match rest.dropWhile (· ≠ '/') with
      | [] => .ok (uri, "/")
      | path =>
        .ok (String.ofList (scheme ++ rest.takeWhile (· ≠ '/')), String.ofList path)

/-- What the caller of `sendNotification` passes, and the readings of the clock. -/
structure Notification where
  typ : NotificationType
  uri : String
  authCtxID : String
  payload : Option Bytes
  unixNano : ℤ
  now : ℤ
  deriving DecidableEq

/-- What `Factory.Do` returns. No exchange takes place if the circuit breaker is open. -/
def factoryDo (baseURL : String) : Option Exchange → Except String (ℕ × Bytes)
  | none => .error ("nfclient: circuit breaker open for " ++ baseURL)
  | some exchange => exchange.result

/-- The redirects that `http.Client` follows, up to ten of them. It has no `CheckRedirect`. -/
inductive Redirect
  | movedPermanently
  | found
  | seeOther
  | temporaryRedirect
  | permanentRedirect
  deriving DecidableEq

/-- The surroundings of a call: the redirects of an attempt, what becomes of its last request for a
base URL and a path, the error of the context if it is done after a wait, and the error of Redis
when the item is pushed. -/
structure Surroundings where
  redirects : ℤ → List Redirect
  exchange : ℤ → String → String → Option Bytes → Option Exchange
  done : ℕ → Option String
  pushErr : Option String

section Send

variable (json : RawJson) (maxAttempts : ℤ) (env : Surroundings) (note : Notification)

def newItem : AMFDLQItem where
  id := note.authCtxID ++ "-" ++ toString note.unixNano
  type := note.typ.name
  uri := note.uri
  payload := note.payload
  authCtxID := note.authCtxID
  attempt := 0
  maxAttempts := maxAttempts
  createdAt := note.now
  lastError := ""

def postResult (attempt : ℤ) : Except String Unit :=
  match extractBaseURLAndPath note.uri with
  | .error err => .error ("amf: parse uri: " ++ err)
  | .ok (baseURL, path) =>
    match factoryDo baseURL (env.exchange attempt baseURL path note.payload) with
    | .error err => .error ("amf: send " ++ note.typ.name ++ ": " ++ err)
    | .ok (status, _) =>
      if 500 ≤ status then .error ("amf: server error " ++ toString status)
      else if 400 ≤ status then
        .error ("amf: client error " ++ toString status ++ " (not retryable)")
      else .ok ()

def attemptOnce (item : AMFDLQItem) : Except String Unit × AMFDLQItem :=
  (postResult env note (item.attempt + 1), { item with attempt := item.attempt + 1 })

def enqueueItem (item : AMFDLQItem) (q : AmfDlq) : Except String Unit × AmfDlq :=
  match q.enqueue json item, env.pushErr with
  | (.refused err, _), _ => (.error err, q)
  | (_, _), some err => (.error err, q)
  | (_, q'), none => (.ok (), q')

def sendNotification (q : AmfDlq) : Except String Unit × AmfDlq :=
  match retry (attemptOnce env note) env.done maxAttempts (newItem maxAttempts note) with
  | (.ok (), _) => (.ok (), q)
  | (.error err, item) =>
    match enqueueItem json env { item with lastError := err } q with
    | (.error dlqErr, q) =>
      (.error
        ("notification failed and dlq enqueue failed: " ++ err ++ " (dlq: " ++ dlqErr ++ ")"), q)
    | (.ok (), q) => (.ok (), q)

end Send

/-! ## What the direct attempts leave behind -/

section Attempts

variable {maxAttempts : ℤ} {env : Surroundings} {note : Notification}

def directAttempts (maxAttempts : ℤ) : ℕ :=
  (if maxAttempts = 0 then defaultMaxAttempts else maxAttempts).toNat

def AllFail (maxAttempts : ℤ) (env : Surroundings) (note : Notification) : Prop :=
  ∀ k < directAttempts maxAttempts, FailsAt (attemptOnce env note) (newItem maxAttempts note) k

theorem afterAttempts_attemptOnce (item : AMFDLQItem) (k : ℕ) :
    afterAttempts (attemptOnce env note) item k = { item with attempt := item.attempt + k } := by
  induction k with
  | zero => simp [afterAttempts]
  | succ k ih =>
    have hadd : item.attempt + k + 1 = item.attempt + ((k + 1 : ℕ) : ℤ) := by omega
    simp only [afterAttempts, ih, attemptOnce, hadd]

def exhaustedItem (maxAttempts : ℤ) (note : Notification) (err : String) : AMFDLQItem :=
  { newItem maxAttempts note with
    attempt := directAttempts maxAttempts
    lastError := err }

theorem retry_of_allFail (hdone : ∀ k, env.done k = none) (hfail : AllFail maxAttempts env note) :
    ∃ err, retry (attemptOnce env note) env.done maxAttempts (newItem maxAttempts note) =
      (.error err, { newItem maxAttempts note with attempt := directAttempts maxAttempts }) := by
  obtain ⟨err, h⟩ := attempts_of_fails hdone hfail 0 "%!w(<nil>)"
  refine ⟨err, h.trans ?_⟩
  rw [afterAttempts_attemptOnce]
  simp [newItem]

theorem enqueueItem_of_marshal {json : RawJson} (hpush : env.pushErr = none) {item : AMFDLQItem}
    {data : Encoded} (hdata : item.marshal json = .ok data) (q : AmfDlq) :
    (enqueueItem json env item q).2 =
      { q with list := (q.enqueued, data) :: q.list, enqueued := q.enqueued + 1 } := by
  simp [enqueueItem, AmfDlq.enqueue, hdata, hpush]

theorem enqueueItem_of_not_writable {json : RawJson} {item : AMFDLQItem}
    (hitem : ¬ item.Writable json) (q : AmfDlq) : (enqueueItem json env item q).2 = q := by
  cases hdata : item.marshal json with
  | error err => simp [enqueueItem, AmfDlq.enqueue, hdata]
  | ok data => exact absurd ⟨data, hdata⟩ hitem

theorem sendNotification_of_allFail (json : RawJson) (hdone : ∀ k, env.done k = none)
    (hfail : AllFail maxAttempts env note) (q : AmfDlq) :
    ∃ err, (sendNotification json maxAttempts env note q).2 =
      (enqueueItem json env (exhaustedItem maxAttempts note err) q).2 := by
  obtain ⟨err, hretry⟩ := retry_of_allFail hdone hfail
  refine ⟨err, ?_⟩
  unfold sendNotification
  rw [hretry]
  dsimp only
  split
  · next h => exact (congrArg Prod.snd h).symm
  · next h => exact (congrArg Prod.snd h).symm

end Attempts

/-! ## How the consumer passes an item by -/

namespace AmfDlq

def Posts (n : ℕ) (r : AmfStep) : Prop := ∃ item, r.output = .posted n item
def Discards (n : ℕ) (r : AmfStep) : Prop := ∃ item, r.output = .discarded n item

/-- A run leads from one state to the other without a POST of the item. -/
def Passes (json : RawJson) (n : ℕ) (q q' : AmfDlq) : Prop :=
  ∃ es, final (step json) q es = q' ∧ ∀ r ∈ trace (step json) q es, ¬ Posts n r

section Passes

variable {json : RawJson} {n : ℕ} {q q' q'' : AmfDlq}

theorem Passes.refl (q : AmfDlq) : Passes json n q q := ⟨[], rfl, by simp⟩

theorem Passes.trans (h : Passes json n q q') (h' : Passes json n q' q'') :
    Passes json n q q'' := by
  obtain ⟨es, rfl, hes⟩ := h
  obtain ⟨es', rfl, hes'⟩ := h'
  refine ⟨es ++ es', final_append _ _ _ _, ?_⟩
  intro r hr
  rw [trace_append] at hr
  rcases List.mem_append.mp hr with hr | hr
  · exact hes r hr
  · exact hes' r hr

theorem Passes.step {e : AmfEvent} {o : AmfOutput} (h : q.step json e = (o, q'))
    (ho : ∀ item, o ≠ .posted n item) : Passes json n q q' := by
  refine ⟨[e], by simp [h], ?_⟩
  intro r hr
  obtain rfl := List.mem_singleton.mp hr
  rintro ⟨item, hitem⟩
  rw [record_output, h] at hitem
  exact ho item hitem

theorem passes_answer {m : ℕ} {item : AMFDLQItem} (hw : q.worker = .posted m item) :
    Passes json n q { q with worker := .ready } := by
  refine Passes.step (e := .answer (.ok 200)) (o := .delivered m 200) ?_ (by simp)
  simp [AmfDlq.step, answer, hw]

theorem passes_popped {m : ℕ} {item : AMFDLQItem} (hw : q.worker = .popped m item) (hm : m ≠ n)
    (hlive : q.cancelled = false) : Passes json n q { q with worker := .ready } := by
  have hpost : Passes json n q { q with worker := .posted m item } := by
    refine Passes.step (e := .post (.request "")) (o := .posted m item) ?_ (by simp [hm])
    simp [AmfDlq.step, post, hw, hlive]
  have hanswer : Passes json n { q with worker := .posted m item } { q with worker := .ready } :=
    passes_answer (q := { q with worker := .posted m item }) rfl
  exact hpost.trans hanswer

theorem passes_ready (hs : q.Sound json) (hlive : q.cancelled = false)
    (hrun : q.worker ≠ .stopped) (hn : q.worker.item.map Prod.fst ≠ some n) :
    ∃ front, Passes json n q { q with list := front ++ q.list, worker := .ready } := by
  cases hw : q.worker with
  | ready =>
    refine ⟨[], ?_⟩
    rw [List.nil_append, ← hw]
    exact Passes.refl q
  | waiting =>
    refine ⟨[], Passes.step (e := .timeout) (o := .none) ?_ (by simp)⟩
    simp [AmfDlq.step, timeout, turn, hw, hlive]
  | popped m item =>
    refine ⟨[], passes_popped hw ?_ hlive⟩
    rintro rfl
    simp [hw, Worker.item] at hn
  | posted m item => exact ⟨[], passes_answer hw⟩
  | pushing m item failed =>
    obtain ⟨data, hdata⟩ := hs.items.held m item (by rw [hw]; rfl)
    have hpushed : q.pushed json item = .ok data := pushed_eq_ok_iff.mpr ⟨hdata, hlive⟩
    refine ⟨[(m, data)], Passes.step (e := .push) (o := .none) ?_ (by simp)⟩
    simp [AmfDlq.step, push, hw, hpushed]
  | stopped => exact absurd hw hrun

theorem step_dequeue (json : RawJson) (hw : q.worker = .ready) (hlive : q.cancelled = false) :
    q.step json .dequeue = (.none, { q with worker := .waiting }) := by
  simp [AmfDlq.step, dequeue, turn, hw, hlive]

theorem step_pop (json : RawJson) {l : List (ℕ × Encoded)} {m : ℕ} {data : Encoded}
    {item : AMFDLQItem} (hw : q.worker = .waiting) (hlist : q.list = l ++ [(m, data)])
    (hdata : AMFDLQItem.unmarshal data = .ok item) :
    q.step json .pop =
      if item.Exhausted then (.discarded m item, { q with list := l, worker := .ready })
      else (.popped m, { q with list := l, worker := .popped m item }) := by
  simp [AmfDlq.step, pop, take, hw, hlist, hdata]

theorem passes_last {l : List (ℕ × Encoded)} {m : ℕ} {data : Encoded} {item : AMFDLQItem}
    (hw : q.worker = .ready) (hlive : q.cancelled = false) (hlist : q.list = l ++ [(m, data)])
    (hdata : AMFDLQItem.unmarshal data = .ok item) (hm : m ≠ n) :
    Passes json n q { q with list := l, worker := .ready } := by
  have hwait : Passes json n q { q with worker := .waiting } :=
    Passes.step (step_dequeue json hw hlive) (by simp)
  have hpop := step_pop json (q := { q with worker := .waiting }) rfl hlist hdata
  by_cases hmax : item.Exhausted
  · rw [if_pos hmax] at hpop
    exact hwait.trans (Passes.step hpop (by simp))
  · rw [if_neg hmax] at hpop
    have htake : Passes json n q { q with list := l, worker := .popped m item } :=
      hwait.trans (Passes.step hpop (by simp))
    have hdeliver : Passes json n { q with list := l, worker := .popped m item }
        { q with list := l, worker := .ready } :=
      passes_popped (q := { q with list := l, worker := .popped m item }) rfl hm hlive
    exact htake.trans hdeliver

theorem passes_ahead {front ahead : List (ℕ × Encoded)} {data : Encoded}
    (hahead : ∀ e ∈ ahead, e.1 ≠ n ∧ ∃ item, AMFDLQItem.unmarshal e.2 = .ok item)
    (hw : q.worker = .ready) (hlive : q.cancelled = false)
    (hlist : q.list = front ++ (n, data) :: ahead) :
    Passes json n q { q with list := front ++ [(n, data)], worker := .ready } := by
  -- from the right end, where the items are taken
  induction ahead using List.reverseRecOn generalizing q with
  | nil =>
    rw [← hlist, ← hw]
    exact Passes.refl q
  | append_singleton ahead e ih =>
    obtain ⟨hne, item, hitem⟩ := hahead e (by simp)
    have hlast : q.list = (front ++ (n, data) :: ahead) ++ [(e.1, e.2)] := by simp [hlist]
    have hskip : Passes json n q { q with list := front ++ (n, data) :: ahead, worker := .ready } :=
      passes_last hw hlive hlast hitem hne
    have hrest := ih (q := { q with list := front ++ (n, data) :: ahead, worker := .ready })
      (fun e he => hahead e (List.mem_append_left _ he)) rfl hlive rfl
    exact hskip.trans hrest

theorem exists_discard (hs : q.Sound json) (hlive : q.cancelled = false)
    (hrun : q.worker ≠ .stopped) (hn : q.worker.item.map Prod.fst ≠ some n)
    {ahead : List (ℕ × Encoded)} {data : Encoded} {item : AMFDLQItem}
    (hlist : q.list = (n, data) :: ahead) (hahead : n ∉ ahead.map Prod.fst)
    (hdata : AMFDLQItem.unmarshal data = .ok item) (hmax : item.Exhausted) :
    ∃ es, (∃ r ∈ trace (AmfDlq.step json) q es, Discards n r) ∧
      ∀ r ∈ trace (AmfDlq.step json) q es, ¬ Posts n r := by
  -- `Process` finishes what it has, then works off what is before the item, then pops it
  obtain ⟨front, hready⟩ := passes_ready hs hlive hrun hn
  have hothers : ∀ e ∈ ahead, e.1 ≠ n ∧ ∃ item, AMFDLQItem.unmarshal e.2 = .ok item := by
    intro e he
    refine ⟨?_, ?_⟩
    · rintro rfl
      exact hahead (List.mem_map_of_mem he)
    · obtain ⟨item, hread, -⟩ := hs.items.queued e (by rw [hlist]; exact List.mem_cons_of_mem _ he)
      exact ⟨item, hread⟩
  have hahead : Passes json n { q with list := front ++ q.list, worker := .ready }
      { q with list := front ++ [(n, data)], worker := .ready } :=
    passes_ahead (q := { q with list := front ++ q.list, worker := .ready }) hothers rfl hlive
      (by rw [hlist])
  have hwait : Passes json n { q with list := front ++ [(n, data)], worker := .ready }
      { q with list := front ++ [(n, data)], worker := .waiting } :=
    Passes.step (step_dequeue json (q := { q with list := front ++ [(n, data)], worker := .ready })
      rfl hlive) (by simp)
  obtain ⟨es, hfinal, hes⟩ := (hready.trans hahead).trans hwait
  have hpop := step_pop json (q := { q with list := front ++ [(n, data)], worker := .waiting })
    rfl rfl hdata
  rw [if_pos hmax, ← hfinal] at hpop
  refine ⟨es ++ [.pop], ?_, ?_⟩
  · refine ⟨record (AmfDlq.step json) (final (AmfDlq.step json) q es) .pop, ?_, item, ?_⟩
    · rw [trace_append]
      exact List.mem_append_right _ (List.mem_singleton.mpr rfl)
    · rw [record_output, hpop]
  · intro r hr
    rw [trace_append] at hr
    rcases List.mem_append.mp hr with hr | hr
    · exact hes r hr
    · obtain rfl := List.mem_singleton.mp hr
      rintro ⟨item', h⟩
      rw [record_output, hpop] at h
      cases h

end Passes

end AmfDlq

/-! ## Who gets a second chance -/

/-- The item with number `n` can be written, and has the limit `m`. -/
def HasLimit (json : RawJson) (n : ℕ) (m : ℤ) (k : ℕ) (item : AMFDLQItem) : Prop :=
  item.Writable json ∧ (k = n → item.maxAttempts = m)

/-- If no direct attempt succeeds, the item is enqueued, and no run of the queue from there discards
it without a POST. -/
def SecondChance (json : RawJson) (maxAttempts : ℤ) (env : Surroundings) (note : Notification)
    (q : AmfDlq) : Prop :=
  AllFail maxAttempts env note →
    (sendNotification json maxAttempts env note q).2.Queued q.enqueued ∧
    ∀ es, (∃ r ∈ trace (AmfDlq.step json) (sendNotification json maxAttempts env note q).2 es,
        AmfDlq.Discards q.enqueued r) →
      ∃ r ∈ trace (AmfDlq.step json) (sendNotification json maxAttempts env note q).2 es,
        AmfDlq.Posts q.enqueued r

section SecondChance

open AmfDlq

variable {json : RawJson} {n : ℕ} {m : ℤ} {q q' : AmfDlq} {e : AmfEvent} {o : AmfOutput}

theorem stable_hasLimit : Stable json (HasLimit json n m) where
  again := fun h err => ⟨h.1.again err, h.2⟩
  reread := by
    intro k item data h hdata
    obtain ⟨raw, hread, hwrite⟩ := AMFDLQItem.unmarshal_of_marshal hdata
    exact ⟨_, hread, hwrite, h.2⟩

theorem limit_step {q : AmfDlq} (hq : n < q.enqueued ∧ q.Everywhere (HasLimit json n m))
    (e : AmfEvent) : n < (q.step json e).2.enqueued ∧
      (q.step json e).2.Everywhere (HasLimit json n m) := by
  obtain ⟨hn, hitems⟩ := hq
  have hm := step_moves json q e
  refine ⟨Nat.lt_of_lt_of_le hn hm.enqueued_le, hitems.moves stable_hasLimit hm ?_⟩
  intro item data _ hdata
  exact ⟨⟨data, hdata⟩, fun h => absurd h (by omega)⟩

theorem limit_of_discard {item : AMFDLQItem} (hm : Moves json q e (.discarded n item) q')
    (hq : q.Everywhere (HasLimit json n m)) : 0 < m := by
  cases hm with
  | @discard n l data item hw hlist hdata hmax =>
    obtain ⟨item', hread, -, hlimit⟩ := hq.queued (n, data) (by rw [hlist]; simp)
    obtain rfl := Except.ok.inj (hdata.symm.trans hread)
    rw [← hlimit rfl]
    exact hmax.1

theorem not_discards_of_limit (hm : m ≤ 0) (hn : n < q.enqueued)
    (hq : q.Everywhere (HasLimit json n m)) (es : List AmfEvent) :
    ∀ r ∈ trace (AmfDlq.step json) q es, ¬ Discards n r := by
  rintro r hr ⟨item, hitem⟩
  have hpre : n < r.pre.enqueued ∧ r.pre.Everywhere (HasLimit json n m) :=
    inv_of_mem_trace (I := fun q => n < q.enqueued ∧ q.Everywhere (HasLimit json n m))
      (C := fun _ => True) (fun _ e hq _ => limit_step hq e) ⟨hn, hq⟩ (fun _ _ => trivial) hr
  have hmoves := step_moves json r.pre r.input
  rw [← output_of_mem_trace hr, hitem] at hmoves
  have hpos := limit_of_discard hmoves hpre.2
  omega

theorem Books.next_unused {h : List AmfStep} (hb : Books json h q) :
    q.enqueued ∉ q.list.map Prod.fst ∧ q.worker.item.map Prod.fst ≠ some q.enqueued := by
  have honce := hb.once q.enqueued
  rw [if_neg (Nat.lt_irrefl _)] at honce
  unfold places at honce
  refine ⟨?_, ?_⟩
  · rw [← queuedIn_pos_iff]
    omega
  · intro hitem
    rw [if_pos hitem] at honce
    omega

variable {maxAttempts : ℤ} {env : Surroundings} {note : Notification}

theorem writable_exhaustedItem (err : String) :
    (exhaustedItem maxAttempts note err).Writable json ↔
      (newItem maxAttempts note).Writable json := by
  rw [AMFDLQItem.writable_iff, AMFDLQItem.writable_iff]
  rfl

theorem exhausted_exhaustedItem (note : Notification) (hmax : 0 < maxAttempts) (err : String) :
    (exhaustedItem maxAttempts note err).Exhausted := by
  refine ⟨hmax, ?_⟩
  show maxAttempts ≤ ((directAttempts maxAttempts : ℕ) : ℤ)
  unfold directAttempts
  rw [if_neg (by omega)]
  exact Int.self_le_toNat maxAttempts

theorem exists_enqueued (hdone : ∀ k, env.done k = none) (hpush : env.pushErr = none)
    (hfail : AllFail maxAttempts env note) (hitem : (newItem maxAttempts note).Writable json)
    (q : AmfDlq) :
    ∃ err data, (exhaustedItem maxAttempts note err).marshal json = .ok data ∧
      (sendNotification json maxAttempts env note q).2 =
        { q with list := (q.enqueued, data) :: q.list, enqueued := q.enqueued + 1 } := by
  obtain ⟨err, hsend⟩ := sendNotification_of_allFail json hdone hfail q
  obtain ⟨data, hdata⟩ := (writable_exhaustedItem err).mpr hitem
  exact ⟨err, data, hdata, hsend.trans (enqueueItem_of_marshal hpush hdata q)⟩

theorem not_secondChance_of_not_writable {h : List AmfStep} (hb : Books json h q)
    (hdone : ∀ k, env.done k = none) (hfail : AllFail maxAttempts env note)
    (hitem : ¬ (newItem maxAttempts note).Writable json) :
    ¬ SecondChance json maxAttempts env note q := by
  intro hsecond
  obtain ⟨err, hsend⟩ := sendNotification_of_allFail json hdone hfail q
  have hqueued := (hsecond hfail).1
  rw [hsend, enqueueItem_of_not_writable (fun h => hitem ((writable_exhaustedItem err).mp h))]
    at hqueued
  exact hb.next_unused.1 hqueued

theorem not_secondChance_of_limit {h : List AmfStep} (hb : Books json h q)
    (hlive : q.cancelled = false) (hrun : q.worker ≠ .stopped) (hdone : ∀ k, env.done k = none)
    (hpush : env.pushErr = none) (hfail : AllFail maxAttempts env note)
    (hitem : (newItem maxAttempts note).Writable json) (hmax : 0 < maxAttempts) :
    ¬ SecondChance json maxAttempts env note q := by
  intro hsecond
  obtain ⟨err, data, hdata, hsend⟩ := exists_enqueued hdone hpush hfail hitem q
  obtain ⟨raw, hread, -⟩ := AMFDLQItem.unmarshal_of_marshal hdata
  have hsound : Sound json
      { q with list := (q.enqueued, data) :: q.list, enqueued := q.enqueued + 1 } :=
    hb.sound.moves (.enqueue hdata)
  obtain ⟨es, hdiscard, hpost⟩ := exists_discard hsound hlive hrun hb.next_unused.2 rfl
    hb.next_unused.1 hread (exhausted_exhaustedItem note hmax err)
  have hposted := (hsecond hfail).2 es
  rw [hsend] at hposted
  obtain ⟨r, hr, hrpost⟩ := hposted hdiscard
  exact hpost r hr hrpost

theorem Books.hasLimit {h : List AmfStep} (hb : Books json h q) (m : ℤ) :
    q.Everywhere (HasLimit json q.enqueued m) where
  queued := by
    intro e he
    obtain ⟨item, hread, hwrite⟩ := hb.sound.items.queued e he
    refine ⟨item, hread, hwrite, fun hn => ?_⟩
    exact absurd (hn ▸ List.mem_map_of_mem he) hb.next_unused.1
  held := by
    intro k item hitem
    refine ⟨hb.sound.items.held k item hitem, ?_⟩
    rintro rfl
    exact absurd (by rw [hitem]; rfl) hb.next_unused.2

theorem secondChance_of_no_limit {h : List AmfStep} (hb : Books json h q)
    (hdone : ∀ k, env.done k = none) (hpush : env.pushErr = none)
    (hitem : (newItem maxAttempts note).Writable json) (hmax : maxAttempts ≤ 0) :
    SecondChance json maxAttempts env note q := by
  intro hfail
  obtain ⟨err, data, hdata, hsend⟩ := exists_enqueued hdone hpush hfail hitem q
  rw [hsend]
  refine ⟨List.mem_cons_self .., fun es hdiscard => ?_⟩
  have hlimit : Everywhere (HasLimit json q.enqueued maxAttempts)
      { q with list := (q.enqueued, data) :: q.list, enqueued := q.enqueued + 1 } := by
    refine (hb.hasLimit maxAttempts).moves stable_hasLimit (.enqueue hdata) ?_
    rintro item data' ⟨⟩ hdata'
    exact ⟨⟨data', hdata'⟩, fun _ => rfl⟩
  obtain ⟨r, hr, hrdiscard⟩ := hdiscard
  exact absurd hrdiscard (not_discards_of_limit hmax (Nat.lt_succ_self _) hlimit es r hr)

/-- **Second chance.** A notification whose direct attempts have all failed gets another attempt
from the queue before it is discarded if and only if there is no limit on the attempts and its
payload is JSON. -/
theorem second_chance_iff (json : RawJson) (maxAttempts : ℤ) (env : Surroundings)
    (hdone : ∀ k, env.done k = none) (hpush : env.pushErr = none) (note : Notification)
    (es : List AmfEvent) (hlive : (after json es).cancelled = false)
    (hrun : (after json es).worker ≠ .stopped) :
    SecondChance json maxAttempts env note (after json es) ↔
      ¬ AllFail maxAttempts env note ∨
        maxAttempts ≤ 0 ∧ (newItem maxAttempts note).Writable json := by
  have hb := books_run json es
  constructor
  · intro hsecond
    by_cases hfail : AllFail maxAttempts env note
    · refine Or.inr ?_
      have hitem : (newItem maxAttempts note).Writable json := by
        by_contra hitem
        exact not_secondChance_of_not_writable hb hdone hfail hitem hsecond
      refine ⟨?_, hitem⟩
      by_contra hmax
      exact not_secondChance_of_limit hb hlive hrun hdone hpush hfail hitem (by omega) hsecond
    · exact Or.inl hfail
  · rintro (hsome | ⟨hmax, hitem⟩)
    · intro hfail
      exact absurd hfail hsome
    · exact secondChance_of_no_limit hb hdone hpush hitem hmax

end SecondChance

namespace Sample

def note : Notification :=
  ⟨.sliceReAuth, "http://amf:8080/reauth", "ctx1", some object, 0, 0⟩

/-- The AMF answers every POST with 503. -/
def unavailable : Surroundings :=
  ⟨fun _ => [], fun _ _ _ _ => some (.answered 503 []), fun _ => none, none⟩

/-- The item of the notification after three direct attempts. -/
def exhausted : AMFDLQItem :=
  ⟨"ctx1-0", "SLICE_RE_AUTH", "http://amf:8080/reauth", some object, "ctx1", 3, 3, 0,
    "max retries exceeded: amf: server error 503"⟩

theorem allFail_unavailable (maxAttempts : ℤ) : AllFail maxAttempts unavailable note := by
  intro k _
  exact ⟨"amf: server error 503", by rfl⟩

end Sample

open Sample in
/-- Without a limit the three default attempts are made, and the queue goes on. -/
theorem second_chance_unlimited :
    AllFail 0 unavailable note ∧ SecondChance json 0 unavailable note (AmfDlq.after json []) :=
  ⟨allFail_unavailable 0,
    (second_chance_iff json 0 unavailable (fun _ => rfl) rfl note [] rfl (by simp [newDLQ])).mpr
      (Or.inr ⟨Int.le_refl 0, _, rfl⟩)⟩

open Sample AmfDlq in
/-- The item has used up its three attempts when it is enqueued, and is discarded without a POST. A
payload that is no JSON is not even enqueued. -/
theorem no_second_chance :
    (AllFail 3 unavailable note ∧
      (sendNotification json 3 unavailable note newDLQ).2.list = [(0, exhausted.encode object)] ∧
      (trace (step json) (sendNotification json 3 unavailable note newDLQ).2
        [.dequeue, .pop]).map Record.output = [.none, .discarded 0 exhausted] ∧
      ¬ SecondChance json 3 unavailable note newDLQ) ∧
    (sendNotification json 3 unavailable { note with payload := some [255] } newDLQ).2 =
      newDLQ := by
  have hout : (trace (step json) (sendNotification json 3 unavailable note newDLQ).2
      [.dequeue, .pop]).map Record.output = [.none, .discarded 0 exhausted] := by rfl
  have hmem : ∀ r ∈ trace (step json) (sendNotification json 3 unavailable note newDLQ).2
      [.dequeue, .pop], r.output ∈ [AmfOutput.none, .discarded 0 exhausted] := by
    intro r hr
    rw [← hout]
    exact List.mem_map_of_mem hr
  refine ⟨⟨allFail_unavailable 3, by rfl, hout, fun hsecond => ?_⟩, by rfl⟩
  obtain ⟨r, hr, item, hitem⟩ := (hsecond (allFail_unavailable 3)).2 [.dequeue, .pop]
    ⟨_, List.mem_cons_of_mem _ (List.mem_singleton.mpr rfl), exhausted, rfl⟩
  have hin := hmem r hr
  rw [hitem] at hin
  simp at hin

end NssAAF.Amf
