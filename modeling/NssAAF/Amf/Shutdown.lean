import NssAAF.Amf.Dlq

/-!
# What a shutdown of the consumer keeps

An item that `Process` could not deliver is pushed again with the context of `Process`. After
`Stop`, or the end of the parent context, that push fails, and the item is given up.

* `Everywhere.moves`: what is so of every item, wherever it is.
* `Books.moves`: an item is in one place, delivered, discarded or given up.
* `shutdown_keeps_iff`: which runs lose nothing.
-/

namespace NssAAF.Amf

open Transducer

/-! ## The books -/

namespace AMFDLQItem

variable {json : RawJson}

def Writable (json : RawJson) (item : AMFDLQItem) : Prop := ∃ data, item.marshal json = .ok data

theorem writable_iff {item : AMFDLQItem} :
    item.Writable json ↔ ∃ raw, json.write item.payload = .ok raw := by
  unfold Writable marshal
  cases json.write item.payload with
  | error err => simp
  | ok raw => simp

theorem unmarshal_of_marshal {item : AMFDLQItem} {data : Encoded}
    (hdata : item.marshal json = .ok data) :
    ∃ raw, unmarshal data = .ok { item with payload := some raw } ∧
      Writable json { item with payload := some raw } := by
  unfold marshal at hdata
  cases hraw : json.write item.payload with
  | error err =>
    rw [hraw] at hdata
    cases hdata
  | ok raw =>
    rw [hraw] at hdata
    cases hdata
    exact ⟨raw, unmarshal_encode item raw, writable_iff.mpr ⟨raw, json.write_some_of_write hraw⟩⟩

theorem Writable.again {item : AMFDLQItem} (h : item.Writable json) (err : String) :
    (item.again err).Writable json := by
  rw [writable_iff] at h ⊢
  exact h

end AMFDLQItem

namespace AmfOutput

def settled : AmfOutput → Option ℕ
  | .delivered n _ | .discarded n _ => some n
  | _ => Option.none

def givenUp : AmfOutput → Option ℕ
  | .lost n | .unreadable n => some n
  | _ => Option.none

end AmfOutput

def AmfStep.LatePush (r : AmfStep) : Prop :=
  r.input = .push ∧ r.pre.worker.isPushing = true ∧ r.pre.cancelled = true

instance : DecidablePred AmfStep.LatePush := fun r =>
  inferInstanceAs
    (Decidable (r.input = .push ∧ r.pre.worker.isPushing = true ∧ r.pre.cancelled = true))

def settlements (h : List AmfStep) (n : ℕ) : ℕ := h.countP fun r => r.output.settled = some n
def losses (h : List AmfStep) (n : ℕ) : ℕ := h.countP fun r => r.output.givenUp = some n

theorem settlements_append (h : List AmfStep) (r : AmfStep) (n : ℕ) :
    settlements (h ++ [r]) n = settlements h n + if r.output.settled = some n then 1 else 0 := by
  simp [settlements, List.countP_append, List.countP_cons]

theorem losses_append (h : List AmfStep) (r : AmfStep) (n : ℕ) :
    losses (h ++ [r]) n = losses h n + if r.output.givenUp = some n then 1 else 0 := by
  simp [losses, List.countP_append, List.countP_cons]

namespace AmfDlq

def queuedIn (l : List (ℕ × Encoded)) (n : ℕ) : ℕ := l.countP fun e => e.1 = n

def places (q : AmfDlq) (n : ℕ) : ℕ :=
  queuedIn q.list n + if q.worker.item.map Prod.fst = some n then 1 else 0

theorem queuedIn_cons (e : ℕ × Encoded) (l : List (ℕ × Encoded)) (n : ℕ) :
    queuedIn (e :: l) n = queuedIn l n + if e.1 = n then 1 else 0 := by
  simp [queuedIn, List.countP_cons]

theorem queuedIn_concat (l : List (ℕ × Encoded)) (e : ℕ × Encoded) (n : ℕ) :
    queuedIn (l ++ [e]) n = queuedIn l n + if e.1 = n then 1 else 0 := by
  simp [queuedIn, List.countP_append, List.countP_cons]

theorem queuedIn_pos_iff {l : List (ℕ × Encoded)} {n : ℕ} :
    0 < queuedIn l n ↔ n ∈ l.map Prod.fst := by
  simp [queuedIn, List.countP_pos_iff]

/-- An item that is new, or leaves its place, is in another place or done with afterwards. -/
theorem Moves.balance {json : RawJson} {q q' : AmfDlq} {e : AmfEvent} {o : AmfOutput}
    (hm : Moves json q e o q') (n : ℕ) :
    (if o.settled = some n then 1 else 0) + (if o.givenUp = some n then 1 else 0) + q'.places n +
        (if n < q.enqueued then 1 else 0) =
      q.places n + if n < q'.enqueued then 1 else 0 := by
  cases hm with
  | stay | refuse | cancel => simp [AmfOutput.settled, AmfOutput.givenUp, places]
  | enqueue hdata =>
    simp only [AmfOutput.settled, AmfOutput.givenUp, places, queuedIn_cons]
    grind
  | turn he hfree hw => simp [AmfOutput.settled, AmfOutput.givenUp, places, hfree, hw]
  | unreadable hfree hw hlist hdata =>
    simp [AmfOutput.settled, AmfOutput.givenUp, places, hfree, hw, hlist, queuedIn_concat]
    omega
  | discard hw hlist hdata hmax =>
    simp [AmfOutput.settled, AmfOutput.givenUp, places, hw, hlist, queuedIn_concat, Worker.item]
    omega
  | pop hw hlist hdata =>
    simp [AmfOutput.settled, AmfOutput.givenUp, places, hw, hlist, queuedIn_concat, Worker.item]
  | post posting hw => simp [AmfOutput.settled, AmfOutput.givenUp, places, hw, Worker.item]
  | fail err he hw =>
    rcases hw with hw | hw
    all_goals simp [AmfOutput.settled, AmfOutput.givenUp, places, hw, Worker.item]
  | deliver hw hcode =>
    simp [AmfOutput.settled, AmfOutput.givenUp, places, hw, Worker.item]
    omega
  | push hw hdata =>
    simp [AmfOutput.settled, AmfOutput.givenUp, places, hw, queuedIn_cons, Worker.item]
  | retry hw herr => simp [AmfOutput.settled, AmfOutput.givenUp, places, hw, Worker.item]
  | lose hw herr =>
    simp [AmfOutput.settled, AmfOutput.givenUp, places, hw, Worker.item]
    omega

/-- Whatever is in the list can be read, and is as `P` says, like the item that `Process` has. -/
structure Everywhere (P : ℕ → AMFDLQItem → Prop) (q : AmfDlq) : Prop where
  queued : ∀ e ∈ q.list, ∃ item, AMFDLQItem.unmarshal e.2 = .ok item ∧ P e.1 item
  held : ∀ n item, q.worker.item = some (n, item) → P n item

/-- What another attempt and another encoding of an item do not change. -/
structure Stable (json : RawJson) (P : ℕ → AMFDLQItem → Prop) : Prop where
  again : ∀ {n item}, P n item → ∀ err, P n (item.again err)
  reread : ∀ {n item data}, P n item → item.marshal json = .ok data →
    ∃ item', AMFDLQItem.unmarshal data = .ok item' ∧ P n item'

section Everywhere

variable {json : RawJson} {P : ℕ → AMFDLQItem → Prop} {q q' : AmfDlq} {e : AmfEvent} {o : AmfOutput}

theorem Everywhere.free (hq : q.Everywhere P) {l : List (ℕ × Encoded)} {w : Worker}
    (hl : ∀ e ∈ l, e ∈ q.list) (hw : w.item = none) :
    Everywhere P { q with list := l, worker := w } where
  queued := fun e he => hq.queued e (hl e he)
  held := by simp [hw]

theorem Everywhere.hold (hq : q.Everywhere P) {l : List (ℕ × Encoded)} {w : Worker} {n : ℕ}
    {item : AMFDLQItem} (hl : ∀ e ∈ l, e ∈ q.list) (hw : w.item = some (n, item))
    (hitem : P n item) : Everywhere P { q with list := l, worker := w } where
  queued := fun e he => hq.queued e (hl e he)
  held := by
    intro m item' h
    obtain ⟨rfl, rfl⟩ := Prod.mk.inj (Option.some.inj (hw.symm.trans h))
    exact hitem

theorem Everywhere.pushed (hq : q.Everywhere P) (hP : Stable json P) {n : ℕ} {item : AMFDLQItem}
    {data : Encoded} (hdata : item.marshal json = .ok data) (hitem : P n item) :
    ∀ e ∈ (n, data) :: q.list, ∃ item, AMFDLQItem.unmarshal e.2 = .ok item ∧ P e.1 item := by
  intro e he
  rcases List.mem_cons.mp he with rfl | he
  · exact hP.reread hitem hdata
  · exact hq.queued e he

theorem pushed_eq_ok_iff {item : AMFDLQItem} {data : Encoded} :
    q.pushed json item = .ok data ↔ item.marshal json = .ok data ∧ q.cancelled = false := by
  unfold AmfDlq.pushed
  cases item.marshal json with
  | error err => simp
  | ok d =>
    cases q.cancelled with
    | false => simp
    | true => simp

theorem Everywhere.moves (hq : q.Everywhere P) (hP : Stable json P) (hm : Moves json q e o q')
    (hnew : ∀ item data, e = .enqueue item → item.marshal json = .ok data → P q.enqueued item) :
    q'.Everywhere P := by
  have hinit : ∀ {l : List (ℕ × Encoded)} {x : ℕ × Encoded}, q.list = l ++ [x] →
      ∀ e ∈ l, e ∈ q.list := by
    intro l x hlist e he
    rw [hlist]
    exact List.mem_append_left _ he
  cases hm with
  | stay | refuse => exact hq
  | @enqueue item data hdata => exact ⟨hq.pushed hP hdata (hnew item data rfl hdata), hq.held⟩
  | cancel => exact ⟨hq.queued, hq.held⟩
  | turn he hfree hw => exact hq.free (fun _ he => he) hw
  | unreadable hfree hw hlist hdata => exact hq.free (hinit hlist) hw
  | discard hw hlist hdata hmax => exact hq.free (hinit hlist) rfl
  | @pop n l data item hw hlist hdata =>
    obtain ⟨item', hread, hitem⟩ := hq.queued (n, data) (by rw [hlist]; simp)
    obtain rfl := Except.ok.inj (hdata.symm.trans hread)
    exact hq.hold (hinit hlist) rfl hitem
  | post posting hw => exact hq.hold (fun _ he => he) rfl (hq.held _ _ (by rw [hw]; rfl))
  | @fail e n item err he hw =>
    have hitem : P n item := by
      rcases hw with hw | hw
      all_goals exact hq.held n item (by rw [hw]; rfl)
    exact hq.hold (fun _ he => he) rfl (hP.again hitem err)
  | deliver hw hcode => exact hq.free (fun _ he => he) rfl
  | push hw hdata =>
    refine ⟨hq.pushed hP (pushed_eq_ok_iff.mp hdata).1 (hq.held _ _ (by rw [hw]; rfl)), ?_⟩
    simp [Worker.item]
  | retry hw herr => exact hq.hold (fun _ he => he) rfl (hq.held _ _ (by rw [hw]; rfl))
  | lose hw herr => exact hq.free (fun _ he => he) rfl

end Everywhere

/-- What `Process` has can be written, and its pushes fail only because of the context. -/
structure Sound (json : RawJson) (q : AmfDlq) : Prop where
  items : q.Everywhere fun _ item => item.Writable json
  late : 0 < q.worker.failedPushes → q.cancelled = true

section Sound

variable {json : RawJson} {q q' : AmfDlq} {e : AmfEvent} {o : AmfOutput}

theorem sound_newDLQ : newDLQ.Sound json where
  items := ⟨by simp [newDLQ], by simp [newDLQ, Worker.item]⟩
  late := by simp [newDLQ, Worker.failedPushes]

theorem failedPushes_eq_zero_of_item {w : Worker} (h : w.item = none) : w.failedPushes = 0 := by
  cases w with
  | pushing n item failed => simp [Worker.item] at h
  | ready | waiting | popped | posted | stopped => rfl

theorem stable_writable : Stable json fun _ item => item.Writable json where
  again := fun hitem err => hitem.again err
  reread := by
    intro n item data hitem hdata
    obtain ⟨raw, hread, hwrite⟩ := AMFDLQItem.unmarshal_of_marshal hdata
    exact ⟨_, hread, hwrite⟩

/-- An item that can be written is refused only because of the context. -/
theorem Sound.cancelled_of_pushed (hs : q.Sound json) {n failed : ℕ} {item : AMFDLQItem}
    {err : String} (hw : q.worker = .pushing n item failed)
    (herr : q.pushed json item = .error err) : q.cancelled = true := by
  obtain ⟨data, hdata⟩ := hs.items.held n item (by rw [hw]; rfl)
  by_contra hlive
  rw [pushed_eq_ok_iff.mpr ⟨hdata, by simpa using hlive⟩] at herr
  cases herr

theorem Sound.moves (hs : q.Sound json) (hm : Moves json q e o q') : q'.Sound json where
  items := hs.items.moves stable_writable hm fun item data _ hdata => ⟨data, hdata⟩
  late := by
    cases hm with
    | stay | refuse | enqueue => exact hs.late
    | cancel => exact fun _ => rfl
    | turn he hfree hw | unreadable hfree hw => simp [failedPushes_eq_zero_of_item hw]
    | discard | pop | post | fail | deliver | push | lose => simp [Worker.failedPushes]
    | retry hw herr => exact fun _ => hs.cancelled_of_pushed hw herr

/-- Pushes fail when they are late, and an item is given up only after late pushes. -/
theorem Sound.late_iff (hs : q.Sound json) (hm : Moves json q e o q') :
    (AmfStep.LatePush ⟨q, e, o, q'⟩ ∨ 0 < q.worker.failedPushes) ↔
      (∃ n, o.givenUp = some n) ∨ 0 < q'.worker.failedPushes := by
  cases hm with
  | stay hpush =>
    have hlate : ¬ AmfStep.LatePush ⟨q, e, .none, q⟩ := by
      rintro ⟨he, hw, -⟩
      rw [hpush he] at hw
      cases hw
    simp [hlate, AmfOutput.givenUp]
  | refuse | enqueue | cancel => simp [AmfStep.LatePush, AmfOutput.givenUp]
  | turn he hfree hw =>
    simp [AmfStep.LatePush, he, AmfOutput.givenUp, failedPushes_eq_zero_of_item hfree,
      failedPushes_eq_zero_of_item hw]
  | @unreadable n l data err w hfree hw hlist hdata =>
    -- what is in the list can be read
    obtain ⟨item, hread, -⟩ := hs.items.queued (n, data) (by rw [hlist]; simp)
    rw [hdata] at hread
    cases hread
  | discard hw | pop hw | post posting hw | deliver hw =>
    simp [AmfStep.LatePush, AmfOutput.givenUp, hw, Worker.failedPushes]
  | fail err he hw =>
    rcases hw with hw | hw
    all_goals simp [AmfStep.LatePush, he, AmfOutput.givenUp, hw, Worker.failedPushes]
  | @push n failed item data hw hdata =>
    -- the context is alive, so no push of this item has failed before
    have hlive := (pushed_eq_ok_iff.mp hdata).2
    have hnone : ¬ 0 < q.worker.failedPushes := by
      intro h
      rw [hs.late h] at hlive
      cases hlive
    have hready : Worker.ready.failedPushes = 0 := rfl
    simp [AmfStep.LatePush, hlive, hnone, AmfOutput.givenUp, hready]
  | retry hw herr | lose hw herr =>
    have hlate := hs.cancelled_of_pushed hw herr
    simp [AmfStep.LatePush, hw, hlate, Worker.isPushing, AmfOutput.givenUp, Worker.failedPushes]

end Sound

end AmfDlq

/-- The books on a run: an item that was enqueued is in one place, settled or given up, and one is
given up if and only if a push is late. -/
structure Books (json : RawJson) (h : List AmfStep) (q : AmfDlq) : Prop where
  sound : q.Sound json
  once : ∀ n, settlements h n + losses h n + q.places n = if n < q.enqueued then 1 else 0
  popped : ∀ r ∈ h, ∀ n, r.output = .popped n → n < q.enqueued
  late : (∃ r ∈ h, r.LatePush) ↔
    (∃ r ∈ h, ∃ n, r.output.givenUp = some n) ∨ 0 < q.worker.failedPushes

section Books

variable {json : RawJson} {h : List AmfStep} {q q' : AmfDlq} {e : AmfEvent} {o : AmfOutput}

open AmfDlq

theorem AmfDlq.Moves.enqueued_le (hm : Moves json q e o q') : q.enqueued ≤ q'.enqueued := by
  cases hm with
  | enqueue hdata => exact Nat.le_succ _
  | stay | refuse | cancel | turn | unreadable | discard | pop | post | fail | deliver | push
  | retry | lose => exact le_rfl

theorem AmfDlq.Moves.places_of_popped {n : ℕ} (hm : Moves json q e (.popped n) q') :
    0 < q.places n := by
  cases hm with
  | pop hw hlist hdata =>
    unfold places
    rw [hlist, queuedIn_concat, if_pos rfl]
    omega

theorem exists_mem_concat {α : Type*} {l : List α} {a : α} {p : α → Prop} :
    (∃ x ∈ l ++ [a], p x) ↔ (∃ x ∈ l, p x) ∨ p a := by
  simp [or_and_right, exists_or]

theorem Books.lt_enqueued (hb : Books json h q) {n : ℕ}
    (hn : 0 < settlements h n + losses h n + q.places n) : n < q.enqueued := by
  by_contra hge
  rw [hb.once, if_neg hge] at hn
  exact Nat.lt_irrefl 0 hn

theorem Books.moves (hb : Books json h q) (hm : Moves json q e o q') :
    Books json (h ++ [⟨q, e, o, q'⟩]) q' where
  sound := hb.sound.moves hm
  once := by
    intro n
    have hn := hb.once n
    have hbal := hm.balance n
    rw [settlements_append, losses_append]
    dsimp only
    omega
  popped := by
    intro r hr n hn
    rcases List.mem_append.mp hr with hr | hr
    · exact Nat.lt_of_lt_of_le (hb.popped r hr n hn) hm.enqueued_le
    · obtain rfl := List.mem_singleton.mp hr
      obtain rfl : o = .popped n := hn
      have hplaces := hm.places_of_popped
      exact Nat.lt_of_lt_of_le (hb.lt_enqueued (by omega)) hm.enqueued_le
  late := by
    have hstep := hb.sound.late_iff hm
    rw [exists_mem_concat, exists_mem_concat, hb.late]
    dsimp only
    rw [or_assoc, or_assoc, ← hstep]
    exact or_congr_right or_comm

theorem books_newDLQ : Books json [] newDLQ where
  sound := sound_newDLQ
  once := by simp [settlements, losses, newDLQ, places, queuedIn, Worker.item]
  popped := by simp
  late := by simp [newDLQ, Worker.failedPushes]

theorem books_run (json : RawJson) (es : List AmfEvent) :
    Books json (run json es) (after json es) :=
  history_inv (J := Books json) (C := fun _ => True)
    (fun _ q e hb _ => hb.moves (step_moves json q e)) books_newDLQ (fun _ _ => trivial)

end Books

/-! ## What a shutdown keeps -/

/-- The AMF has answered the item with a status 2xx. -/
def Delivered (h : List AmfStep) (n : ℕ) : Prop :=
  ∃ r ∈ h, ∃ code, r.output = .delivered n code ∧ 200 ≤ code ∧ code < 300

def Discarded (h : List AmfStep) (n : ℕ) : Prop :=
  ∃ r ∈ h, ∃ item, r.output = .discarded n item ∧ item.Exhausted

def Popped (h : List AmfStep) (n : ℕ) : Prop := ∃ r ∈ h, r.output = .popped n

def AmfDlq.Queued (q : AmfDlq) (n : ℕ) : Prop := n ∈ q.list.map Prod.fst

/-- Nothing is lost: every item is delivered, discarded or in the list, and one that was popped and
not delivered is back there. -/
structure Kept (h : List AmfStep) (q : AmfDlq) : Prop where
  accounted : ∀ n < q.enqueued, Delivered h n ∨ Discarded h n ∨ q.Queued n
  back : ∀ n, Popped h n → ¬ Delivered h n → ¬ Discarded h n → q.Queued n

section Shutdown

open AmfDlq

variable {json : RawJson} {es : List AmfEvent} {n : ℕ}

theorem AmfDlq.Moves.settled_cases {q q' : AmfDlq} {e : AmfEvent} {o : AmfOutput}
    (hm : Moves json q e o q') (ho : o.settled = some n) :
    (∃ code, o = .delivered n code ∧ 200 ≤ code ∧ code < 300) ∨
      ∃ item, o = .discarded n item ∧ item.Exhausted := by
  cases hm with
  | @discard m l data item hw hlist hdata hmax =>
    obtain rfl : m = n := Option.some.inj ho
    exact Or.inr ⟨item, rfl, hmax⟩
  | @deliver m code item hw hcode =>
    obtain rfl : m = n := Option.some.inj ho
    exact Or.inl ⟨code, rfl, hcode⟩
  | stay | refuse | enqueue | cancel | turn | unreadable | pop | post | fail | push | retry
  | lose => cases ho

theorem settlements_pos_iff :
    0 < settlements (run json es) n ↔ Delivered (run json es) n ∨ Discarded (run json es) n := by
  unfold settlements
  rw [List.countP_pos_iff]
  constructor
  · rintro ⟨r, hr, hn⟩
    have hm := step_moves json r.pre r.input
    rw [← output_of_mem_trace hr] at hm
    rcases hm.settled_cases (by simpa using hn) with ⟨code, ho, hcode⟩ | ⟨item, ho, hmax⟩
    · exact Or.inl ⟨r, hr, code, ho, hcode⟩
    · exact Or.inr ⟨r, hr, item, ho, hmax⟩
  · rintro (⟨r, hr, code, ho, -⟩ | ⟨r, hr, item, ho, -⟩)
    all_goals exact ⟨r, hr, by simp [ho, AmfOutput.settled]⟩

theorem places_of_stopped {q : AmfDlq} (hstop : q.worker = .stopped) :
    0 < q.places n ↔ q.Queued n := by
  unfold places
  rw [hstop]
  exact queuedIn_pos_iff

theorem Books.exists_latePush_iff {h : List AmfStep} {q : AmfDlq} (hb : Books json h q)
    (hstop : q.worker = .stopped) : (∃ r ∈ h, r.LatePush) ↔ ∃ n, 0 < losses h n := by
  have hfailed : ¬ 0 < q.worker.failedPushes := by simp [hstop, Worker.failedPushes]
  rw [hb.late]
  simp only [hfailed, or_false, losses, List.countP_pos_iff, decide_eq_true_eq]
  tauto

theorem kept_iff (hstop : (after json es).worker = .stopped) (hn : n < (after json es).enqueued) :
    (Delivered (run json es) n ∨ Discarded (run json es) n ∨ (after json es).Queued n) ↔
      ¬ 0 < losses (run json es) n := by
  have honce := (books_run json es).once n
  rw [← or_assoc, ← settlements_pos_iff, ← places_of_stopped hstop]
  rw [if_pos hn] at honce
  omega

/-- **Shutdown.** When `Process` has ended after `Stop` or the end of its parent context, nothing is
lost if and only if it never pushed an item with the cancelled context. -/
theorem shutdown_keeps_iff (json : RawJson) (es : List AmfEvent)
    (hstop : (after json es).worker = .stopped) :
    Kept (run json es) (after json es) ↔ ∀ r ∈ run json es, ¬ AmfStep.LatePush r := by
  have hb := books_run json es
  constructor
  · -- a lost item is in no other place
    intro hk r hr hpush
    obtain ⟨n, hn⟩ := (hb.exists_latePush_iff hstop).mp ⟨r, hr, hpush⟩
    have hlt : n < (after json es).enqueued := hb.lt_enqueued (by omega)
    exact (kept_iff hstop hlt).mp (hk.accounted n hlt) hn
  · intro hin
    have hkept : ∀ n < (after json es).enqueued,
        Delivered (run json es) n ∨ Discarded (run json es) n ∨ (after json es).Queued n := by
      intro n hlt
      refine (kept_iff hstop hlt).mpr fun hn => ?_
      obtain ⟨r, hr, hpush⟩ := (hb.exists_latePush_iff hstop).mpr ⟨n, hn⟩
      exact hin r hr hpush
    refine ⟨hkept, ?_⟩
    rintro n ⟨r, hr, hn⟩ hdel hdis
    rcases hkept n (hb.popped r hr n hn) with h | h | h
    · exact absurd h hdel
    · exact absurd h hdis
    · exact h

end Shutdown

namespace Sample

def object : Bytes := [123, 125]

def compact (b : Bytes) : Except String Bytes :=
  if b = nullJson ∨ b = object then .ok b else .error "invalid character"

theorem compact_compact {b c : Bytes} (h : compact b = .ok c) : compact c = .ok c := by
  unfold compact at h
  split_ifs at h with hb
  obtain rfl := Except.ok.inj h
  exact if_pos hb

theorem compact_null : compact nullJson = .ok nullJson := rfl

def json : RawJson := ⟨compact, compact_null, compact_compact⟩

def item : AMFDLQItem :=
  ⟨"ctx1-0", "SLICE_RE_AUTH", "http://amf:8080/reauth", some object, "ctx1", 0, 3, 0, ""⟩

/-- An item is enqueued and popped, and the AMF answers 503. -/
def failure : List AmfEvent :=
  [.enqueue item, .dequeue, .pop, .post (.request "context canceled"), .answer (.ok 503)]

/-- `Stop` comes after the item is pushed again, or before. -/
def inTime : List AmfEvent := failure ++ [.push, .cancel, .dequeue]
def tooLate : List AmfEvent := failure ++ .cancel :: List.replicate 6 .push ++ [.dequeue]

end Sample

open Sample AmfDlq in
theorem shutdown_keeps_pushed :
    (after json inTime).worker = .stopped ∧ Kept (run json inTime) (after json inTime) :=
  ⟨by decide, (shutdown_keeps_iff json inTime (by decide)).mpr (by decide)⟩

open Sample AmfDlq in
/-- The item was popped and not delivered before `Stop`, has two attempts left, and is nowhere when
`Stop` returns. -/
theorem shutdown_loses :
    (after json tooLate).worker = .stopped ∧ (after json tooLate).enqueued = 1 ∧
      (after json tooLate).list = [] ∧
      (run json tooLate).map Record.output =
        [.enqueued 0, .none, .popped 0, .posted 0 item, .failed 0, .none, .none, .none, .none,
          .none, .none, .lost 0, .none] ∧
      ¬ Kept (run json tooLate) (after json tooLate) := by
  have hout : (run json tooLate).map Record.output =
      [.enqueued 0, .none, .popped 0, .posted 0 item, .failed 0, .none, .none, .none, .none,
        .none, .none, .lost 0, .none] := by decide
  have hlist : (after json tooLate).list = [] := by decide
  refine ⟨by decide, by decide, hlist, hout, fun hk => ?_⟩
  have hmem : ∀ r ∈ run json tooLate, r.output ∈ (run json tooLate).map Record.output :=
    fun r hr => List.mem_map_of_mem hr
  rw [hout] at hmem
  rcases hk.accounted 0 (by decide) with ⟨r, hr, code, ho, -⟩ | ⟨r, hr, item, ho, -⟩ | h
  · simpa [ho] using hmem r hr
  · simpa [ho] using hmem r hr
  · unfold Queued at h
    rw [hlist] at h
    cases h

end NssAAF.Amf
