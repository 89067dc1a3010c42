import NssAAF.Eap.FragmentRuns

/-!
# The fragment manager

`FragmentManager` in `internal/eap/fragment.go` has one buffer for each session and identifier. The
callers keep the pointer that `GetOrCreate` returns, so a buffer can be used when the manager has
already dropped it.

* `memory_bounded_iff`: the constants `MaxFragmentSize` and `MaxFragmentsPerSession` bound what is
  stored in exactly those runs that never go beyond them.
-/

namespace NssAAF.Eap

open Transducer FragmentBuffer

def maxFragmentSize : ℕ := 4096

def maxFragmentsPerSession : ℕ := 16

/-! ## What a buffer stores -/

def allSeqs : List UInt16 := (List.range 65536).map UInt16.ofNat

namespace FragmentBuffer

def size (fb : FragmentBuffer) : ℕ := allSeqs.countP fun seq => (fb.fragments seq).isSome

/-- The buffer stores no more and no larger fragments than it should. -/
structure Bounded (fb : FragmentBuffer) : Prop where
  size_le : fb.size ≤ maxFragmentsPerSession
  length_le : ∀ seq data, fb.fragments seq = some data → data.length ≤ maxFragmentSize

/-- One fragment more than the buffer should store, or too large a one. -/
def Exceeds (fb : FragmentBuffer) (data : Bytes) : Prop :=
  maxFragmentSize < data.length ∨ maxFragmentsPerSession ≤ fb.size

variable {fb fb' : FragmentBuffer} {pieces : List Bytes}

theorem size_congr (h : fb'.fragments = fb.fragments) : fb'.size = fb.size := by
  unfold size
  rw [h]

theorem bounded_congr (h : fb'.fragments = fb.fragments) : fb'.Bounded ↔ fb.Bounded := by
  constructor
  · rintro ⟨hsize, hlength⟩
    exact ⟨size_congr h ▸ hsize, h ▸ hlength⟩
  · rintro ⟨hsize, hlength⟩
    exact ⟨(size_congr h).symm ▸ hsize, h.symm ▸ hlength⟩

theorem countP_range_lt (m n : ℕ) : (List.range n).countP (fun i => i < m) = min m n := by
  induction n with
  | zero => simp
  | succ n ih =>
    rw [List.range_succ, List.countP_append, ih, List.countP_singleton]
    split <;> simp_all <;> omega

theorem Contains.isSome_iff (h : fb.Contains pieces) {i : ℕ} (hi : i < 65536) :
    (fb.fragments (UInt16.ofNat i)).isSome ↔ i < pieces.length := by
  by_cases hlt : i < pieces.length
  · refine iff_of_true ?_ hlt
    -- the last piece with this number
    have hj : pieces.length - 1 - (pieces.length - 1 - i) % 65536 < pieces.length := by omega
    have hpresent := h.present _ _ (List.getElem?_eq_getElem hj) (by omega)
    have hsame : UInt16.ofNat (pieces.length - 1 - (pieces.length - 1 - i) % 65536) =
        UInt16.ofNat i := by
      apply UInt16.toNat_inj.mp
      rw [toNat_ofNat16, toNat_ofNat16]
      omega
    rw [← hsame, hpresent]
    rfl
  · refine iff_of_false ?_ hlt
    rw [h.absent]
    · exact Bool.false_ne_true
    · rw [toNat_ofNat16]
      omega

theorem Contains.size_eq (h : fb.Contains pieces) : fb.size = min pieces.length 65536 := by
  unfold size allSeqs
  rw [List.countP_map, ← countP_range_lt pieces.length 65536]
  refine List.countP_congr fun i hi => ?_
  rw [decide_eq_true_iff]
  exact h.isSome_iff (List.mem_range.mp hi)

/-- **One more fragment.** The buffer stays within its bounds unless the fragment exceeds them. -/
theorem Bounded.store_iff (hb : fb.Bounded) (hc : fb.Contains pieces) (data : Bytes) :
    (fb.store data).Bounded ↔ ¬ fb.Exceeds data := by
  have hsize := hc.size_eq
  have hstore := (hc.store data).size_eq
  rw [List.length_append, List.length_singleton] at hstore
  constructor
  · rintro ⟨hle, hlength⟩ (hlong | hmany)
    · have := hlength fb.fragmentSeq data (if_pos rfl)
      omega
    · unfold maxFragmentsPerSession at hmany hle
      omega
  · intro hno
    unfold Exceeds at hno
    rw [not_or, Nat.not_lt, Nat.not_le] at hno
    refine ⟨?_, fun seq stored hseq => ?_⟩
    · unfold maxFragmentsPerSession at hno ⊢
      omega
    · change (if seq = fb.fragmentSeq then some data else fb.fragments seq) = some stored at hseq
      split at hseq
      · rw [← Option.some.inj hseq]
        exact hno.1
      · exact hb.length_le seq stored hseq

theorem Adds.fragments_eq {frag : Fragment} {answer : Except FragmentError (Option Bytes)}
    (h : fb.Adds pieces frag answer fb') :
    fb'.fragments = if fb.Takes frag.seq then (fb.store frag.data).fragments else fb.fragments := by
  cases h with
  | alreadyComplete hc => rw [if_neg (not_takes_of_complete hc frag.seq)]
  | notFound hseq => rw [if_neg fun ht : fb.Takes frag.seq => hseq ht.2]
  | overflow ht | incomplete ht | waits ht => rw [if_pos ht]
  | finishes ht => rw [if_pos ht]

theorem Bounded.addFragment_iff (hb : fb.Bounded) (hc : fb.Contains pieces) (frag : Fragment) :
    (fb.addFragment frag.seq frag.data frag.moreComing).2.Bounded ↔
      ¬ (fb.Takes frag.seq ∧ fb.Exceeds frag.data) := by
  have hfragments := (hc.addFragment_adds frag).fragments_eq
  by_cases ht : fb.Takes frag.seq
  · rw [if_pos ht] at hfragments
    rw [bounded_congr hfragments, hb.store_iff hc, and_iff_right ht]
  · rw [if_neg ht] at hfragments
    rw [bounded_congr hfragments]
    exact iff_of_true hb fun h => ht h.1

end FragmentBuffer

/-! ## The manager -/

/-- The manager. A pointer to a buffer is its position in `heap`, where every buffer stays that was
ever allocated. -/
structure FragmentManager where
  buffers : List (String × ℕ)
  maxAge : ℤ
  heap : List FragmentBuffer

def newFragmentManager (ttlSeconds : ℤ) : FragmentManager := ⟨[], ttlSeconds, []⟩

def fragmentKey (authCtxID : String) (id : UInt8) : String :=
  authCtxID ++ ":" ++ toString id.toNat

namespace FragmentManager

variable (m : FragmentManager)

def getOrCreate (authCtxID : String) (id : UInt8) (now : ℤ) : (ℕ × Bool) × FragmentManager :=
  let key := fragmentKey authCtxID id
  match m.buffers.lookup key with
  | some p => ((p, false), m)
  | none =>
    let p := m.heap.length
    ((p, true), { m with
      buffers := (key, p) :: m.buffers
      heap := m.heap ++ [newFragmentBuffer authCtxID id now] })

def get (authCtxID : String) (id : UInt8) : Option ℕ :=
  m.buffers.lookup (fragmentKey authCtxID id)

def delete (authCtxID : String) (id : UInt8) : FragmentManager :=
  { m with buffers := m.buffers.filter fun entry => entry.1 ≠ fragmentKey authCtxID id }

def expired (now : ℤ) (p : ℕ) : Bool :=
  match m.heap[p]? with
  | some fb => m.maxAge < now - fb.createdAt
  | none => false

def cleanup (now : ℤ) : ℕ × FragmentManager :=
  (m.buffers.countP fun entry => m.expired now entry.2,
    { m with buffers := m.buffers.filter fun entry => ¬ m.expired now entry.2 })

def size : ℕ := m.buffers.length

def callBuffer (p : ℕ) (c : BufferCall) : Option BufferAnswer × FragmentManager :=
  match m.heap[p]? with
  | some fb =>
    let (answer, fb) := fb.call c
    (some answer, { m with heap := m.heap.set p fb })
  | none => (none, m)

end FragmentManager

inductive ManagerCall
  | getOrCreate (authCtxID : String) (id : UInt8) (now : ℤ)
  | get (authCtxID : String) (id : UInt8)
  | delete (authCtxID : String) (id : UInt8)
  | cleanup (now : ℤ)
  | size
  | callBuffer (p : ℕ) (c : BufferCall)

inductive ManagerAnswer
  | created (p : ℕ) (isNew : Bool)
  | found (p : Option ℕ)
  | deleted
  | count (n : ℕ)
  | answered (answer : Option BufferAnswer)

def FragmentManager.call (m : FragmentManager) : ManagerCall → ManagerAnswer × FragmentManager
  | .getOrCreate authCtxID id now =>
    let ((p, isNew), m) := m.getOrCreate authCtxID id now
    (.created p isNew, m)
  | .get authCtxID id => (.found (m.get authCtxID id), m)
  | .delete authCtxID id => (.deleted, m.delete authCtxID id)
  | .cleanup now =>
    let (n, m) := m.cleanup now
    (.count n, m)
  | .size => (.count m.size, m)
  | .callBuffer p c =>
    let (answer, m) := m.callBuffer p c
    (.answered answer, m)

abbrev ManagerStep : Type := Record FragmentManager ManagerCall ManagerAnswer

/-- The call adds `frag` to the buffer `fb`. -/
def AddsTo (m : FragmentManager) (c : ManagerCall) (fb : FragmentBuffer) (frag : Fragment) : Prop :=
  ∃ p, c = .callBuffer p (.addFragment frag) ∧ m.heap[p]? = some fb

/-- After the step every buffer is within its bounds, and a fragment that exceeds them was refused
with an error. -/
structure BoundsMemory (r : ManagerStep) : Prop where
  bounded : ∀ fb ∈ r.post.heap, fb.Bounded
  refused : ∀ fb frag, AddsTo r.pre r.input fb frag → fb.Exceeds frag.data →
    ∃ err, r.output = .answered (some (.added (.error err)))

/-- The call adds a fragment that exceeds the bounds, and that the buffer takes. -/
def Overfills (r : ManagerStep) : Prop :=
  ∃ fb frag, AddsTo r.pre r.input fb frag ∧ fb.Takes frag.seq ∧ fb.Exceeds frag.data

/-! ## Runs of the manager -/

/-- Every buffer is within its bounds and is the result of some fragments. -/
def Sound (m : FragmentManager) : Prop := ∀ fb ∈ m.heap, fb.Bounded ∧ ∃ pieces, fb.Contains pieces

theorem FragmentBuffer.Contains.bounded_of_nil {fb : FragmentBuffer} (h : fb.Contains []) :
    fb.Bounded := by
  refine ⟨?_, fun seq data hseq => ?_⟩
  · rw [h.size_eq]
    exact Nat.zero_le _
  · rw [h.absent seq (Nat.zero_le _)] at hseq
    simp at hseq

theorem sound_new (ttlSeconds : ℤ) : Sound (newFragmentManager ttlSeconds) :=
  List.forall_mem_nil _

variable {m : FragmentManager}

theorem Sound.getOrCreate (h : Sound m) (authCtxID : String) (id : UInt8) (now : ℤ) :
    Sound (m.getOrCreate authCtxID id now).2 := by
  unfold FragmentManager.getOrCreate
  dsimp only
  split
  · exact h
  · intro fb hfb
    rcases List.mem_append.mp hfb with hfb | hfb
    · exact h fb hfb
    · have hnew := contains_new authCtxID id now
      rw [List.mem_singleton.mp hfb]
      exact ⟨hnew.bounded_of_nil, [], hnew⟩

theorem Sound.set (h : Sound m) {p : ℕ} {fb : FragmentBuffer} {pieces : List Bytes}
    (hb : fb.Bounded) (hc : fb.Contains pieces) : Sound { m with heap := m.heap.set p fb } := by
  intro fb' hfb'
  rcases List.mem_or_eq_of_mem_set hfb' with hfb' | rfl
  · exact h fb' hfb'
  · exact ⟨hb, pieces, hc⟩

theorem FragmentBuffer.Bounded.setTotalLength {fb : FragmentBuffer} (hb : fb.Bounded)
    (length : UInt32) : (fb.setTotalLength length).2.Bounded := by
  refine (bounded_congr ?_).mpr hb
  unfold FragmentBuffer.setTotalLength
  split <;> rfl

theorem FragmentManager.call_callBuffer {p : ℕ} {fb : FragmentBuffer} (hp : m.heap[p]? = some fb)
    (c : BufferCall) :
    m.call (.callBuffer p c) =
      (.answered (some (fb.call c).1), { m with heap := m.heap.set p (fb.call c).2 }) := by
  unfold FragmentManager.call FragmentManager.callBuffer
  dsimp only
  rw [hp]

theorem Sound.call_of_not_addsTo (h : Sound m) {c : ManagerCall}
    (hno : ∀ fb frag, ¬ AddsTo m c fb frag) : Sound (m.call c).2 := by
  cases c with
  | getOrCreate authCtxID id now => exact h.getOrCreate authCtxID id now
  | get | delete | cleanup | size => exact h
  | callBuffer p c =>
    cases hp : m.heap[p]? with
    | none =>
      unfold FragmentManager.call FragmentManager.callBuffer
      dsimp only
      rw [hp]
      exact h
    | some fb =>
      obtain ⟨hb, pieces, hc⟩ := h fb (List.mem_of_getElem? hp)
      rw [FragmentManager.call_callBuffer hp]
      cases c with
      | addFragment frag => exact absurd ⟨p, rfl, hp⟩ (hno fb frag)
      | setTotalLength length => exact h.set (hb.setTotalLength length) (hc.setTotalLength length)
      | reset => exact h.set (contains_reset fb).bounded_of_nil (contains_reset fb)

theorem AddsTo.unique {c : ManagerCall} {fb fb' : FragmentBuffer} {frag frag' : Fragment}
    (h : AddsTo m c fb frag) (h' : AddsTo m c fb' frag') : fb' = fb ∧ frag' = frag := by
  obtain ⟨p, rfl, hp⟩ := h
  obtain ⟨p', hc, hp'⟩ := h'
  cases hc
  exact ⟨Option.some.inj (hp'.symm.trans hp), rfl⟩

theorem AddsTo.overfills_iff {c : ManagerCall} {fb : FragmentBuffer} {frag : Fragment}
    (h : AddsTo m c fb frag) :
    Overfills (record FragmentManager.call m c) ↔
      fb.Takes frag.seq ∧ fb.Exceeds frag.data := by
  constructor
  · rintro ⟨fb', frag', hadds, hover⟩
    obtain ⟨rfl, rfl⟩ := h.unique hadds
    exact hover
  · exact fun hover => ⟨fb, frag, h, hover⟩

theorem Sound.call_of_addsTo (h : Sound m) {c : ManagerCall} {fb : FragmentBuffer}
    {frag : Fragment} (hadds : AddsTo m c fb frag)
    (hno : ¬ (fb.Takes frag.seq ∧ fb.Exceeds frag.data)) : Sound (m.call c).2 := by
  obtain ⟨p, rfl, hp⟩ := hadds
  obtain ⟨hb, pieces, hc⟩ := h fb (List.mem_of_getElem? hp)
  rw [FragmentManager.call_callBuffer hp]
  exact h.set ((hb.addFragment_iff hc frag).mpr hno) ((hc.addFragment_adds frag).contains hc)

theorem Sound.call (h : Sound m) {c : ManagerCall}
    (hno : ¬ Overfills (record FragmentManager.call m c)) : Sound (m.call c).2 := by
  by_cases hadds : ∃ fb frag, AddsTo m c fb frag
  · obtain ⟨fb, frag, hadds⟩ := hadds
    exact h.call_of_addsTo hadds (hadds.overfills_iff.not.mp hno)
  · exact h.call_of_not_addsTo fun fb frag hc => hadds ⟨fb, frag, hc⟩

theorem Sound.not_bounds_of_addsTo (h : Sound m) {c : ManagerCall} {fb : FragmentBuffer}
    {frag : Fragment} (hadds : AddsTo m c fb frag)
    (hover : fb.Takes frag.seq ∧ fb.Exceeds frag.data) :
    ¬ ∀ fb ∈ (m.call c).2.heap, fb.Bounded := by
  obtain ⟨p, rfl, hp⟩ := hadds
  obtain ⟨hb, pieces, hc⟩ := h fb (List.mem_of_getElem? hp)
  intro hall
  refine (hb.addFragment_iff hc frag).mp (hall _ ?_) hover
  rw [FragmentManager.call_callBuffer hp]
  exact List.mem_set (List.getElem?_eq_some_iff.mp hp).1 _

theorem Sound.boundsMemory_iff (h : Sound m) (c : ManagerCall) :
    BoundsMemory (record FragmentManager.call m c) ↔
      ¬ Overfills (record FragmentManager.call m c) := by
  constructor
  · rintro ⟨hbounded, -⟩ ⟨fb, frag, hadds, hover⟩
    exact h.not_bounds_of_addsTo hadds hover hbounded
  · intro hno
    refine ⟨fun fb hfb => (h.call hno fb hfb).1, ?_⟩
    -- a fragment beyond the bounds is not taken here, so it is refused
    rintro fb frag hadds hexceeds
    have hnot : ¬ fb.Takes frag.seq := fun ht => hno (hadds.overfills_iff.mpr ⟨ht, hexceeds⟩)
    obtain ⟨p, hc, hp⟩ := hadds
    rw [record_pre] at hp
    obtain ⟨-, pieces, hcontains⟩ := h fb (List.mem_of_getElem? hp)
    have hok := (hcontains.addFragment_adds frag).exists_ok_iff
    cases hanswer : (fb.addFragment frag.seq frag.data frag.moreComing).1 with
    | ok payload => exact absurd (hok.mp ⟨payload, hanswer⟩).1 hnot
    | error err =>
      refine ⟨err, ?_⟩
      rw [record_input] at hc
      rw [hc, record_output, FragmentManager.call_callBuffer hp, ← hanswer]
      rfl

/-- In any run of a manager and of the buffers that come from it, the memory is bounded if and only
if no call adds a fragment beyond the bounds that its buffer takes. -/
theorem memory_bounded_iff (ttlSeconds : ℤ) (calls : List ManagerCall) :
    (∀ r ∈ trace FragmentManager.call (newFragmentManager ttlSeconds) calls, BoundsMemory r) ↔
      ∀ r ∈ trace FragmentManager.call (newFragmentManager ttlSeconds) calls, ¬ Overfills r :=
  forall_trace_congr (fun _ _ h hno => h.call hno) (fun _ c h => h.boundsMemory_iff c)
    (sound_new ttlSeconds) calls

namespace Sample

/-- A buffer from the manager gets one octet more than `MaxFragmentSize`. -/
def oversize : List ManagerCall :=
  [.getOrCreate "ctx" 1 0,
    .callBuffer 0 (.addFragment ⟨0, List.replicate 4097 0, true⟩)]

end Sample

/-- The fragment is accepted and stored. -/
theorem memory_not_bounded_oversize :
    ∃ r ∈ trace FragmentManager.call (newFragmentManager 30) Sample.oversize,
      r.output = .answered (some (.added (.ok none))) ∧
      (∃ fb ∈ r.post.heap, fb.fragments 0 = some (List.replicate 4097 0)) ∧
      ¬ BoundsMemory r := by
  refine ⟨_, List.mem_cons_of_mem _ (List.mem_singleton_self _), rfl,
    ⟨_, List.mem_singleton_self _, rfl⟩, fun h => ?_⟩
  have hlength := (h.bounded _ (List.mem_singleton_self _)).length_le 0 (List.replicate 4097 0) rfl
  rw [List.length_replicate] at hlength
  exact absurd hlength (by decide)

end NssAAF.Eap
