import NssAAF.Eap.Fragment
import NssAAF.Lib.History
import NssAAF.Lib.Results

/-!
# Runs of a fragment buffer

The methods of `FragmentBuffer` in `internal/eap/fragment.go`, in any order and with any arguments.
`AddFragment` stores a fragment before it compares the octets so far with the declared length, and
the map of the fragments has only 65536 numbers. `Contains` says which of the fragments so far are
still in the buffer, and `addFragment_adds` what a call can do.

* `declared_length_exact_iff`: which runs keep to the declared length.
* `rejected_leaves_no_trace_iff`: which calls that fail change nothing.
-/

namespace NssAAF.Eap

open Transducer History

namespace FragmentBuffer

def reset (fb : FragmentBuffer) : FragmentBuffer :=
  { fb with
    fragmentSeq := 0
    received := 0
    totalLength := 0
    complete := false
    fragments := fun _ => none }

/-- The buffer takes a fragment with this number. -/
def Takes (fb : FragmentBuffer) (seq : UInt16) : Prop :=
  fb.complete = false ∧ seq = fb.fragmentSeq

instance (fb : FragmentBuffer) (seq : UInt16) : Decidable (fb.Takes seq) :=
  inferInstanceAs (Decidable (_ ∧ _))

/-- A last fragment with which there are more or fewer octets than declared, by the count of 32
bits. -/
def Mismatches (fb : FragmentBuffer) (frag : Fragment) : Prop :=
  frag.moreComing = false ∧ 0 < fb.totalLength ∧
    fb.received + UInt32.ofNat frag.data.length ≠ fb.totalLength

instance (fb : FragmentBuffer) (frag : Fragment) : Decidable (fb.Mismatches frag) :=
  inferInstanceAs (Decidable (_ ∧ _ ∧ _))

theorem not_takes_of_complete {fb : FragmentBuffer} (hc : fb.complete = true) (seq : UInt16) :
    ¬ fb.Takes seq :=
  fun ht => Bool.false_ne_true (ht.1.symm.trans hc)

theorem not_mismatches_of_more {frag : Fragment} (hmore : frag.moreComing = true)
    (fb : FragmentBuffer) : ¬ fb.Mismatches frag :=
  fun hm => Bool.false_ne_true (hm.1.symm.trans hmore)

/-! ## What is in the buffer -/

/-- The numbers of the fragments repeat after 65536 of them. What is left then are the fragments
since the last one with the number 0. -/
def lastRound (pieces : List Bytes) : List Bytes := pieces.drop (65536 * (pieces.length / 65536))

/-- The buffer has taken `pieces`. The last 65536 of them are in the map. -/
structure Contains (fb : FragmentBuffer) (pieces : List Bytes) : Prop where
  seq : fb.fragmentSeq = UInt16.ofNat pieces.length
  received : fb.received = UInt32.ofNat pieces.flatten.length
  present : ∀ i piece, pieces[i]? = some piece → pieces.length ≤ i + 65536 →
    fb.fragments (UInt16.ofNat i) = some piece
  absent : ∀ seq : UInt16, pieces.length ≤ seq.toNat → fb.fragments seq = none

theorem contains_new (authCtxID : String) (id : UInt8) (now : ℤ) :
    (newFragmentBuffer authCtxID id now).Contains [] :=
  ⟨rfl, rfl, fun i piece h => by simp at h, fun _ _ => rfl⟩

theorem contains_reset (fb : FragmentBuffer) : fb.reset.Contains [] :=
  ⟨rfl, rfl, fun i piece h => by simp at h, fun _ _ => rfl⟩

theorem toNat_ofNat16 (n : ℕ) : (UInt16.ofNat n).toNat = n % 65536 := UInt16.toNat_ofNat'

namespace Contains

variable {fb : FragmentBuffer} {pieces : List Bytes}

theorem absent_store (h : fb.Contains pieces) (data : Bytes) {seq : UInt16}
    (hseq : pieces.length < seq.toNat) : (fb.store data).fragments seq = none := by
  have hne : seq ≠ fb.fragmentSeq := by
    intro heq
    have hnat := congrArg UInt16.toNat heq
    rw [h.seq, toNat_ofNat16] at hnat
    omega
  show (if seq = fb.fragmentSeq then some data else _) = none
  rw [if_neg hne]
  exact h.absent seq (by omega)

theorem store (h : fb.Contains pieces) (data : Bytes) :
    (fb.store data).Contains (pieces ++ [data]) where
  seq := fragmentSeq_store data h.seq
  received := received_store data h.received
  present := by
    intro i piece hi hle
    rw [List.length_append, List.length_singleton] at hle
    exact fragments_store data h.seq hi hle fun hold => h.present i piece hold (by omega)
  absent := by
    intro seq hseq
    rw [List.length_append, List.length_singleton] at hseq
    exact h.absent_store data hseq

theorem setTotalLength (h : fb.Contains pieces) (length : UInt32) :
    (fb.setTotalLength length).2.Contains pieces := by
  obtain ⟨hseq, hreceived, hpresent, habsent⟩ := h
  unfold FragmentBuffer.setTotalLength
  split <;> exact ⟨hseq, hreceived, hpresent, habsent⟩

theorem toNat_received_store (h : fb.Contains pieces) (data : Bytes) :
    (fb.store data).received.toNat = (pieces.flatten.length + data.length) % 4294967296 := by
  rw [(h.store data).received, UInt32.toNat_ofNat', List.flatten_append, List.flatten_singleton,
    List.length_append]

theorem map_seqs (h : fb.Contains pieces) :
    fb.seqs.map fb.fragments = (lastRound pieces).map some := by
  have hn : fb.fragmentSeq.toNat = pieces.length % 65536 := by rw [h.seq, toNat_ofNat16]
  have hlen : (lastRound pieces).length = pieces.length % 65536 := by
    unfold lastRound
    rw [List.length_drop]
    omega
  apply List.ext_getElem?
  intro i
  unfold seqs
  rw [hn]
  by_cases hi : i < pieces.length % 65536
  · have hj : 65536 * (pieces.length / 65536) + i < pieces.length := by omega
    have hpresent := h.present _ _ (List.getElem?_eq_getElem hj) (by omega)
    have hsame : UInt16.ofNat (65536 * (pieces.length / 65536) + i) = UInt16.ofNat i := by
      apply UInt16.toNat_inj.mp
      rw [toNat_ofNat16, toNat_ofNat16]
      omega
    rw [hsame] at hpresent
    have hget : (lastRound pieces)[i]? = some pieces[65536 * (pieces.length / 65536) + i] := by
      unfold lastRound
      rw [List.getElem?_drop, List.getElem?_eq_getElem hj]
    simp [hi, hpresent, hget]
  · have hnone : (lastRound pieces)[i]? = none := List.getElem?_eq_none (by omega)
    simp [hi, hnone]

theorem reassemble_eq (h : fb.Contains pieces) :
    ({ fb with complete := true } : FragmentBuffer).reassemble = .ok (lastRound pieces).flatten :=
  reassemble_of_map_seqs h.map_seqs

end Contains

/-! ## What a call does -/

/-- What `AddFragment` can do with a buffer that contains `pieces`. -/
inductive Adds (fb : FragmentBuffer) (pieces : List Bytes) (frag : Fragment) :
    Except FragmentError (Option Bytes) → FragmentBuffer → Prop
  | alreadyComplete (hc : fb.complete = true) : Adds fb pieces frag (.error .alreadyComplete) fb
  | notFound (hseq : frag.seq ≠ fb.fragmentSeq) :
      Adds fb pieces frag (.error (.notFound fb.fragmentSeq frag.seq)) fb
  | overflow (ht : fb.Takes frag.seq) (hm : fb.Mismatches frag)
      (hlt : fb.totalLength < (fb.store frag.data).received) :
      Adds fb pieces frag (.error (.overflow (fb.store frag.data).received fb.totalLength))
        (fb.store frag.data)
  | incomplete (ht : fb.Takes frag.seq) (hm : fb.Mismatches frag)
      (hlt : (fb.store frag.data).received < fb.totalLength) :
      Adds fb pieces frag (.error (.incomplete (fb.store frag.data).received fb.totalLength))
        (fb.store frag.data)
  | waits (ht : fb.Takes frag.seq) (hmore : frag.moreComing = true)
      (hlt : fb.totalLength = 0 ∨ (fb.store frag.data).received < fb.totalLength) :
      Adds fb pieces frag (.ok none) (fb.store frag.data)
  | finishes (ht : fb.Takes frag.seq) (hm : ¬ fb.Mismatches frag)
      (hle : 0 < fb.totalLength → fb.totalLength ≤ (fb.store frag.data).received) :
      Adds fb pieces frag (.ok (some (lastRound (pieces ++ [frag.data])).flatten))
        { fb.store frag.data with complete := true }

variable {fb : FragmentBuffer} {pieces : List Bytes}

theorem Adds.exists_ok_iff {frag : Fragment} {answer : Except FragmentError (Option Bytes)}
    {fb' : FragmentBuffer} (h : fb.Adds pieces frag answer fb') :
    (∃ payload, answer = .ok payload) ↔ fb.Takes frag.seq ∧ ¬ fb.Mismatches frag := by
  cases h with
  | alreadyComplete hc =>
    exact iff_of_false Results.not_exists_ok fun h => not_takes_of_complete hc _ h.1
  | notFound hseq => exact iff_of_false Results.not_exists_ok fun h => hseq h.1.2
  | overflow _ hm => exact iff_of_false Results.not_exists_ok fun h => h.2 hm
  | incomplete _ hm => exact iff_of_false Results.not_exists_ok fun h => h.2 hm
  | waits ht hmore => exact iff_of_true ⟨_, rfl⟩ ⟨ht, not_mismatches_of_more hmore fb⟩
  | finishes ht hm => exact iff_of_true ⟨_, rfl⟩ ⟨ht, hm⟩

theorem Contains.finish_eq (h : fb.Contains pieces) (data : Bytes) :
    (fb.store data).finish = (.ok (some (lastRound (pieces ++ [data])).flatten),
      { fb.store data with complete := true }) := by
  unfold finish
  dsimp only
  rw [(h.store data).reassemble_eq]
  rfl

theorem pos_iff_ne_zero (n : UInt32) : 0 < n ↔ n ≠ 0 := by
  rw [UInt32.lt_iff_toNat_lt, ← UInt32.toNat_inj.ne, UInt32.toNat_zero]
  omega

/-- **One call.** The fragments of a buffer can always be put together. -/
theorem Contains.addFragment_adds (h : fb.Contains pieces) (frag : Fragment) :
    fb.Adds pieces frag (fb.addFragment frag.seq frag.data frag.moreComing).1
      (fb.addFragment frag.seq frag.data frag.moreComing).2 := by
  unfold addFragment
  by_cases hc : fb.complete = true
  · rw [if_pos hc]
    exact .alreadyComplete hc
  · by_cases hseq : frag.seq = fb.fragmentSeq
    · have ht : fb.Takes frag.seq := ⟨eq_false_of_ne_true hc, hseq⟩
      rw [if_neg hc, if_neg (not_not.mpr hseq)]
      dsimp only
      rw [h.finish_eq]
      have htotal : (fb.store frag.data).totalLength = fb.totalLength := rfl
      rw [htotal]
      by_cases hmore : frag.moreComing = true
      · have hm := not_mismatches_of_more hmore fb
        rw [if_neg (not_not.mpr hmore)]
        split
        · rename_i hle
          exact .finishes ht hm fun _ => hle.2
        · rename_i hle
          refine .waits ht hmore ?_
          by_cases hzero : fb.totalLength = 0
          · exact Or.inl hzero
          · rw [not_and, UInt32.not_le] at hle
            exact Or.inr (hle ((pos_iff_ne_zero _).mpr hzero))
      · have hlast : frag.moreComing = false := eq_false_of_ne_true hmore
        rw [if_pos hmore]
        split
        · rename_i hlt
          exact .overflow ht ⟨hlast, hlt.1, (UInt32.ne_of_lt hlt.2).symm⟩ hlt.2
        · rename_i hover
          split
          · rename_i hlt
            exact .incomplete ht ⟨hlast, hlt.1, UInt32.ne_of_lt hlt.2⟩ hlt.2
          · rename_i hless
            rw [not_and, UInt32.not_lt] at hover hless
            refine .finishes ht (fun hm => hm.2.2 ?_) hless
            exact UInt32.le_antisymm (hover hm.2.1) (hless hm.2.1)
    · rw [if_neg hc, if_pos hseq]
      exact .notFound hseq

end FragmentBuffer

/-! ## Runs -/

inductive BufferCall
  | addFragment (frag : Fragment)
  | setTotalLength (length : UInt32)
  | reset
  deriving DecidableEq

inductive BufferAnswer
  | added (answer : Except FragmentError (Option Bytes))
  | announced (answer : Except String Unit)
  | cleared
  deriving DecidableEq

def FragmentBuffer.call (fb : FragmentBuffer) : BufferCall → BufferAnswer × FragmentBuffer
  | .addFragment frag =>
    let (answer, fb) := fb.addFragment frag.seq frag.data frag.moreComing
    (.added answer, fb)
  | .setTotalLength length =>
    let (answer, fb) := fb.setTotalLength length
    (.announced answer, fb)
  | .reset => (.cleared, fb.reset)

abbrev BufferStep : Type := Record FragmentBuffer BufferCall BufferAnswer

namespace BufferStep

variable (r : BufferStep)

def IsReset : Prop := r.input = .reset

instance : DecidablePred IsReset := fun r => inferInstanceAs (Decidable (r.input = .reset))

def taken : Option Fragment :=
  match r.input with
  | .addFragment frag => if r.pre.Takes frag.seq then some frag else none
  | _ => none

/-- The fragment that is accepted: `AddFragment` returns no error for it. -/
def accepted : Option Bytes :=
  match r.input, r.output with
  | .addFragment frag, .added (.ok _) => some frag.data
  | _, _ => none

/-- What is accepted if only the fragments that mismatch are refused. -/
def fitting : Option Bytes :=
  (r.taken.filter fun frag => ¬ r.pre.Mismatches frag).map Fragment.data

end BufferStep

/-- The fragments that a buffer has taken since it was cleared. -/
def held (h : List BufferStep) : List Bytes :=
  (since BufferStep.IsReset h).filterMap fun r => r.taken.map Fragment.data

def accepted (h : List BufferStep) : List Bytes :=
  (since BufferStep.IsReset h).filterMap BufferStep.accepted

open FragmentBuffer

section Steps

variable {h : List BufferStep} {fb : FragmentBuffer} {pieces : List Bytes} {frag : Fragment}

theorem taken_addFragment (fb : FragmentBuffer) (frag : Fragment) :
    BufferStep.taken (record FragmentBuffer.call fb (.addFragment frag)) =
      if fb.Takes frag.seq then some frag else none := rfl

theorem mem_taken_addFragment {fb : FragmentBuffer} {frag frag' : Fragment} :
    frag' ∈ BufferStep.taken (record FragmentBuffer.call fb (.addFragment frag)) ↔
      fb.Takes frag.seq ∧ frag = frag' := by
  rw [taken_addFragment, Option.mem_def, Option.ite_none_right_eq_some, Option.some_inj]

theorem accepted_addFragment (fb : FragmentBuffer) (frag : Fragment) :
    BufferStep.accepted (record FragmentBuffer.call fb (.addFragment frag)) =
      match (fb.addFragment frag.seq frag.data frag.moreComing).1 with
      | .ok _ => some frag.data
      | .error _ => none := by
  unfold BufferStep.accepted
  rw [record_input, record_output]
  unfold FragmentBuffer.call
  dsimp only
  cases (fb.addFragment frag.seq frag.data frag.moreComing).1 <;> rfl

theorem filterMap_since_concat (f : BufferStep → Option Bytes) {r : BufferStep}
    (hr : ¬ r.IsReset) :
    (since BufferStep.IsReset (h ++ [r])).filterMap f =
      (since BufferStep.IsReset h).filterMap f ++ (f r).toList := by
  rw [since_concat hr, List.filterMap_append]
  cases hd : f r with
  | none => simp [hd]
  | some data => simp [hd]

theorem held_append {r : BufferStep} (hr : ¬ r.IsReset) :
    held (h ++ [r]) = held h ++ (r.taken.map Fragment.data).toList :=
  filterMap_since_concat _ hr

theorem accepted_append {r : BufferStep} (hr : ¬ r.IsReset) :
    accepted (h ++ [r]) = accepted h ++ r.accepted.toList :=
  filterMap_since_concat _ hr

theorem FragmentBuffer.Contains.accepted_eq (hc : fb.Contains pieces) (frag : Fragment) :
    BufferStep.accepted (record FragmentBuffer.call fb (.addFragment frag)) =
      BufferStep.fitting (record FragmentBuffer.call fb (.addFragment frag)) := by
  have hok := (hc.addFragment_adds frag).exists_ok_iff
  rw [accepted_addFragment]
  unfold BufferStep.fitting
  rw [taken_addFragment, record_pre]
  cases hout : (fb.addFragment frag.seq frag.data frag.moreComing).1 with
  | error err =>
    rw [hout] at hok
    have hno := fun hyes => Results.not_exists_ok (hok.mpr hyes)
    by_cases ht : fb.Takes frag.seq
    · have hm : fb.Mismatches frag := not_not.mp fun hm => hno ⟨ht, hm⟩
      simp [ht, hm, Option.filter]
    · simp [ht]
  | ok payload =>
    rw [hout] at hok
    obtain ⟨ht, hm⟩ := hok.mp ⟨payload, rfl⟩
    simp [ht, hm, Option.filter]

/-- The buffer after the steps `h`: it contains what it has taken, and it has accepted what did not
mismatch. -/
structure Tracked (h : List BufferStep) (fb : FragmentBuffer) : Prop where
  contains : fb.Contains (held h)
  fits : ∀ r ∈ since BufferStep.IsReset h, r.accepted = r.fitting

theorem tracked_new (authCtxID : String) (id : UInt8) (now : ℤ) :
    Tracked [] (newFragmentBuffer authCtxID id now) :=
  ⟨contains_new authCtxID id now, List.forall_mem_nil _⟩

theorem FragmentBuffer.Adds.contains {answer : Except FragmentError (Option Bytes)}
    {fb' : FragmentBuffer} (h : fb.Adds pieces frag answer fb') (hc : fb.Contains pieces) :
    fb'.Contains (pieces ++ (if fb.Takes frag.seq then [frag.data] else [])) := by
  have hstored : fb.Takes frag.seq → (fb.store frag.data).Contains
      (pieces ++ (if fb.Takes frag.seq then [frag.data] else [])) := by
    intro ht
    rw [if_pos ht]
    exact hc.store frag.data
  have hkept : ¬ fb.Takes frag.seq →
      fb.Contains (pieces ++ (if fb.Takes frag.seq then [frag.data] else [])) := by
    intro ht
    rw [if_neg ht, List.append_nil]
    exact hc
  cases h with
  | alreadyComplete hcomplete => exact hkept (not_takes_of_complete hcomplete _)
  | notFound hseq => exact hkept fun ht => hseq ht.2
  | overflow ht | incomplete ht | waits ht => exact hstored ht
  | finishes ht =>
    obtain ⟨hseq, hreceived, hpresent, habsent⟩ := hstored ht
    exact ⟨hseq, hreceived, hpresent, habsent⟩

theorem Tracked.concat {r : BufferStep} (ht : Tracked h fb) (hr : ¬ r.IsReset)
    {fb' : FragmentBuffer} (hc : fb'.Contains (held h ++ (r.taken.map Fragment.data).toList))
    (ha : r.accepted = r.fitting) : Tracked (h ++ [r]) fb' where
  contains := by
    rw [held_append hr]
    exact hc
  fits := by
    intro e he
    rw [since_concat hr] at he
    rcases List.mem_append.mp he with he | he
    · exact ht.fits e he
    · rw [List.mem_singleton.mp he]
      exact ha

theorem Tracked.call (ht : Tracked h fb) (c : BufferCall) :
    Tracked (h ++ [record FragmentBuffer.call fb c]) (fb.call c).2 := by
  cases c with
  | addFragment frag =>
    have hno : ¬ BufferStep.IsReset (record FragmentBuffer.call fb (.addFragment frag)) := nofun
    refine ht.concat hno ?_ (ht.contains.accepted_eq frag)
    have hdata : ((BufferStep.taken (record FragmentBuffer.call fb (.addFragment frag))).map
        Fragment.data).toList = if fb.Takes frag.seq then [frag.data] else [] := by
      rw [taken_addFragment]
      split <;> rfl
    rw [hdata]
    exact (ht.contains.addFragment_adds frag).contains ht.contains
  | setTotalLength length =>
    have hno : ¬ BufferStep.IsReset (record FragmentBuffer.call fb (.setTotalLength length)) :=
      nofun
    refine ht.concat hno ?_ rfl
    show (fb.setTotalLength length).2.Contains (held h ++ [])
    rw [List.append_nil]
    exact ht.contains.setTotalLength length
  | reset =>
    have hnil := since_concat_of
      (show BufferStep.IsReset (record FragmentBuffer.call fb .reset) from rfl) h
    constructor
    · unfold held
      rw [hnil]
      exact contains_reset fb
    · rw [hnil]
      exact List.forall_mem_nil _

end Steps

theorem tracked_run (authCtxID : String) (id : UInt8) (now : ℤ) (calls : List BufferCall) :
    Tracked (trace FragmentBuffer.call (newFragmentBuffer authCtxID id now) calls)
      (final FragmentBuffer.call (newFragmentBuffer authCtxID id now) calls) :=
  history_inv (C := fun _ => True) (fun _ _ c ht _ => ht.call c) (tracked_new authCtxID id now)
    fun _ _ => trivial

/-! ## The declared length -/

/-- The step keeps to the declared length `n` after the steps `h`. A payload has that length and
consists of what was accepted, and a fragment that goes beyond it is an overflow. -/
structure Exact (n : UInt32) (h : List BufferStep) (r : BufferStep) : Prop where
  payload : ∀ payload, r.output = .added (.ok (some payload)) →
    payload.length = n.toNat ∧ payload = (accepted (h ++ [r])).flatten
  overflow : ∀ frag ∈ r.taken, n.toNat < (held h).flatten.length + frag.data.length →
    ∃ received total, r.output = .added (.error (.overflow received total))

/-- The fragments of all rounds but the last. -/
def earlierRounds (pieces : List Bytes) : List Bytes :=
  pieces.take (65536 * (pieces.length / 65536))

/-- What a fragment that the buffer takes has to meet. Only the last fragment goes beyond the
declared length, and by less than the count of 32 bits can hold. When the length is reached, no
octet has been refused and none is in a round before the last. -/
def Conforms (n : UInt32) (h : List BufferStep) (r : BufferStep) : Prop :=
  ∀ frag ∈ r.taken,
    (n.toNat < (held h).flatten.length + frag.data.length →
      frag.moreComing = false ∧
        n.toNat < ((held h).flatten.length + frag.data.length) % 4294967296) ∧
    ((held h).flatten.length + frag.data.length = n.toNat →
      (∀ e ∈ since BufferStep.IsReset h, ∀ refused ∈ e.taken,
        e.pre.Mismatches refused → refused.data = []) ∧
      ∀ piece ∈ earlierRounds (held h ++ [frag.data]), piece = [])

instance (n : UInt32) (h : List BufferStep) (r : BufferStep) : Decidable (Conforms n h r) :=
  inferInstanceAs (Decidable (∀ frag ∈ r.taken, (_ → _ ∧ _) ∧ (_ → _ ∧ _)))

section Declared

variable {h : List BufferStep} {fb : FragmentBuffer} {pieces : List Bytes} {frag : Fragment}

theorem flatten_eq_rounds (pieces : List Bytes) :
    pieces.flatten = (earlierRounds pieces).flatten ++ (lastRound pieces).flatten := by
  unfold earlierRounds lastRound
  rw [← List.flatten_append, List.take_append_drop]

theorem length_lastRound_iff (pieces : List Bytes) :
    (lastRound pieces).flatten.length = pieces.flatten.length ↔
      ∀ piece ∈ earlierRounds pieces, piece = [] := by
  rw [flatten_eq_rounds pieces, List.length_append, ← List.flatten_eq_nil_iff,
    ← List.length_eq_zero_iff]
  omega

theorem flatten_filterMap {α : Type*} (f : α → Option Bytes) (xs : List α) :
    (xs.filterMap f).flatten = xs.flatMap fun x => (f x).getD [] := by
  induction xs with
  | nil => rfl
  | cons x xs ih =>
    rw [List.flatMap_cons, ← ih]
    cases hx : f x with
    | none => simp [hx]
    | some data => simp [hx]

theorem length_flatMap_le {α : Type*} {f g : α → Bytes} {xs : List α}
    (hfg : ∀ x ∈ xs, f x = g x ∨ f x = []) : (xs.flatMap f).length ≤ (xs.flatMap g).length := by
  induction xs with
  | nil => exact le_rfl
  | cons x xs ih =>
    rw [List.forall_mem_cons] at hfg
    rw [List.flatMap_cons, List.flatMap_cons, List.length_append, List.length_append]
    refine Nat.add_le_add ?_ (ih hfg.2)
    rcases hfg.1 with hx | hx
    · rw [hx]
    · rw [hx]
      exact Nat.zero_le _

theorem flatMap_eq_iff {α : Type*} {f g : α → Bytes} {xs : List α}
    (hfg : ∀ x ∈ xs, f x = g x ∨ f x = []) :
    xs.flatMap f = xs.flatMap g ↔ ∀ x ∈ xs, f x = g x := by
  refine ⟨fun heq => ?_, fun hall => ?_⟩
  · induction xs with
    | nil => exact List.forall_mem_nil _
    | cons x xs ih =>
      rw [List.flatMap_cons, List.flatMap_cons] at heq
      rw [List.forall_mem_cons] at hfg ⊢
      have hlen := congrArg List.length heq
      have hxs := length_flatMap_le hfg.2
      rw [List.length_append, List.length_append] at hlen
      have hx : (f x).length ≤ (g x).length := by
        rcases hfg.1 with hx | hx <;> simp [hx]
      obtain ⟨hx, hxs⟩ := List.append_inj heq (by omega)
      exact ⟨hx, ih hfg.2 hxs⟩
  · exact List.flatMap_congr hall

theorem BufferStep.fitting_eq_iff (r : BufferStep) :
    r.fitting.getD [] = (r.taken.map Fragment.data).getD [] ↔
      ∀ refused ∈ r.taken, r.pre.Mismatches refused → refused.data = [] := by
  unfold BufferStep.fitting
  cases r.taken with
  | none => simp
  | some frag => by_cases hm : r.pre.Mismatches frag <;> simp [hm, Option.filter, eq_comm]

theorem BufferStep.fitting_eq_or (r : BufferStep) :
    r.fitting.getD [] = (r.taken.map Fragment.data).getD [] ∨ r.fitting.getD [] = [] := by
  unfold BufferStep.fitting
  cases r.taken with
  | none => exact Or.inl rfl
  | some frag => by_cases hm : r.pre.Mismatches frag <;> simp [hm, Option.filter]

theorem Tracked.flatten_accepted_iff (ht : Tracked h fb) :
    (accepted h).flatten = (held h).flatten ↔
      ∀ e ∈ since BufferStep.IsReset h, ∀ refused ∈ e.taken,
        e.pre.Mismatches refused → refused.data = [] := by
  unfold accepted held
  rw [flatten_filterMap, flatten_filterMap, flatMap_eq_iff]
  · refine forall₂_congr fun e he => ?_
    rw [ht.fits e he]
    exact e.fitting_eq_iff
  · intro e he
    rw [ht.fits e he]
    exact e.fitting_eq_or

theorem Tracked.payload_iff (ht : Tracked h fb) {n : ℕ} (data : Bytes)
    (hn : (held h).flatten.length + data.length = n) :
    ((lastRound (held h ++ [data])).flatten.length = n ∧
        (lastRound (held h ++ [data])).flatten = (accepted h).flatten ++ data) ↔
      (∀ e ∈ since BufferStep.IsReset h, ∀ refused ∈ e.taken,
        e.pre.Mismatches refused → refused.data = []) ∧
      ∀ piece ∈ earlierRounds (held h ++ [data]), piece = [] := by
  have hall : (held h ++ [data]).flatten = (held h).flatten ++ data := by
    rw [List.flatten_append, List.flatten_singleton]
  rw [← ht.flatten_accepted_iff, ← length_lastRound_iff, hall, List.length_append, hn, and_comm]
  refine and_congr_left fun hlen => ?_
  -- the last round is everything then
  have hlast : (lastRound (held h ++ [data])).flatten = (held h).flatten ++ data := by
    rw [← hall, flatten_eq_rounds (held h ++ [data])]
    have hnil : (earlierRounds (held h ++ [data])).flatten = [] := by
      rw [List.flatten_eq_nil_iff]
      apply (length_lastRound_iff _).mp
      rw [hlen, hall, List.length_append, hn]
    rw [hnil, List.nil_append]
  rw [hlast, List.append_left_inj]
  exact eq_comm

/-- The answer to a fragment keeps to the declared length: `total` octets have come with it, and
`whole` is what a payload has to be. -/
structure AnswersWithin (fb : FragmentBuffer) (frag : Fragment) (total : ℕ) (whole : Bytes)
    (answer : Except FragmentError (Option Bytes)) : Prop where
  payload : ∀ payload, answer = .ok (some payload) →
    payload.length = fb.totalLength.toNat ∧ payload = whole
  overflow : fb.Takes frag.seq → fb.totalLength.toNat < total →
    ∃ received length, answer = .error (.overflow received length)

section Answers

variable {total : ℕ} {whole : Bytes} {answer : Except FragmentError (Option Bytes)}

theorem answersWithin_of_not_takes (hno : ¬ fb.Takes frag.seq) (err : FragmentError) :
    AnswersWithin fb frag total whole (.error err) :=
  ⟨nofun, fun ht => absurd ht hno⟩

theorem answersWithin_iff_of_takes (ht : fb.Takes frag.seq)
    (hno : ∀ received length, answer ≠ .error (.overflow received length)) :
    AnswersWithin fb frag total whole answer ↔
      (∀ payload, answer = .ok (some payload) →
        payload.length = fb.totalLength.toNat ∧ payload = whole) ∧
      total ≤ fb.totalLength.toNat := by
  constructor
  · rintro ⟨hpayload, hover⟩
    refine ⟨hpayload, Nat.le_of_not_lt fun hgt => ?_⟩
    obtain ⟨received, length, hanswer⟩ := hover ht hgt
    exact hno received length hanswer
  · rintro ⟨hpayload, hle⟩
    exact ⟨hpayload, fun _ hgt => absurd hle (Nat.not_le_of_lt hgt)⟩

theorem conforms_iff_of_waits {n : ℕ} (hn : n < 4294967296) {last Whole : Prop}
    (hlt : total % 4294967296 < n) :
    ((n < total → last ∧ n < total % 4294967296) ∧ (total = n → Whole)) ↔ total ≤ n := by
  constructor
  · rintro ⟨hover, -⟩
    refine Nat.le_of_not_lt fun hgt => ?_
    have hcount := (hover hgt).2
    omega
  · intro hle
    exact ⟨fun hgt => absurd hle (Nat.not_le_of_lt hgt), fun heq => absurd hlt (by omega)⟩

/-- A payload is given when the count of the octets has reached the declared length, and there is no
overflow that the count does not show. -/
theorem conforms_iff_of_finishes {n : ℕ} (hn : n < 4294967296) {last Whole : Prop}
    (hle : n ≤ total % 4294967296) (hm : last → total % 4294967296 = n) :
    ((n < total → last ∧ n < total % 4294967296) ∧ (total = n → Whole)) ↔
      total = n ∧ Whole := by
  constructor
  · rintro ⟨hover, hreached⟩
    have hnot : ¬ n < total := by
      intro hgt
      obtain ⟨hlast, hlt⟩ := hover hgt
      have hcount := hm hlast
      omega
    have heq : total = n := by omega
    exact ⟨heq, hreached heq⟩
  · rintro ⟨heq, hwhole⟩
    exact ⟨fun hgt => by omega, fun _ => hwhole⟩

/-- **One fragment.** `hwhole` says when the payload is right if the length is. -/
theorem FragmentBuffer.Adds.answersWithin_iff {fb' : FragmentBuffer}
    (ha : fb.Adds pieces frag answer fb') (hc : fb.Contains pieces) (hpos : 0 < fb.totalLength)
    (htotal : total = pieces.flatten.length + frag.data.length) {Whole : Prop}
    (hwhole : total = fb.totalLength.toNat →
      ((lastRound (pieces ++ [frag.data])).flatten.length = fb.totalLength.toNat ∧
        (lastRound (pieces ++ [frag.data])).flatten = whole ↔ Whole)) :
    AnswersWithin fb frag total whole answer ↔ (fb.Takes frag.seq →
      (fb.totalLength.toNat < total →
        frag.moreComing = false ∧ fb.totalLength.toNat < total % 4294967296) ∧
      (total = fb.totalLength.toNat → Whole)) := by
  have hreceived : (fb.store frag.data).received.toNat = total % 4294967296 := by
    rw [hc.toNat_received_store, htotal]
  have hbound := fb.totalLength.toNat_lt
  cases ha with
  | alreadyComplete hcomplete =>
    have hno := not_takes_of_complete hcomplete frag.seq
    exact iff_of_true (answersWithin_of_not_takes hno _) fun ht => absurd ht hno
  | notFound hseq =>
    have hno : ¬ fb.Takes frag.seq := fun ht => hseq ht.2
    exact iff_of_true (answersWithin_of_not_takes hno _) fun ht => absurd ht hno
  | overflow ht hm hlt =>
    rw [UInt32.lt_iff_toNat_lt, hreceived] at hlt
    exact iff_of_true ⟨nofun, fun _ _ => ⟨_, _, rfl⟩⟩ fun _ =>
      ⟨fun _ => ⟨hm.1, hlt⟩, fun heq => absurd hlt (by omega)⟩
  | incomplete ht hm hlt =>
    rw [UInt32.lt_iff_toNat_lt, hreceived] at hlt
    refine Iff.trans (answersWithin_iff_of_takes ht fun _ _ => nofun) ?_
    rw [imp_iff_right ht, conforms_iff_of_waits hbound hlt]
    exact and_iff_right nofun
  | waits ht hmore hlt =>
    rw [or_iff_right ((pos_iff_ne_zero _).mp hpos), UInt32.lt_iff_toNat_lt, hreceived] at hlt
    refine Iff.trans (answersWithin_iff_of_takes ht fun _ _ => nofun) ?_
    rw [imp_iff_right ht, conforms_iff_of_waits hbound hlt]
    exact and_iff_right nofun
  | finishes ht hm hle =>
    have hle := hle hpos
    rw [UInt32.le_iff_toNat_le, hreceived] at hle
    have hsame : frag.moreComing = false → total % 4294967296 = fb.totalLength.toNat := by
      intro hlast
      have heq : (fb.store frag.data).received = fb.totalLength :=
        not_not.mp fun hne => hm ⟨hlast, hpos, hne⟩
      rw [← hreceived, heq]
    refine Iff.trans (answersWithin_iff_of_takes ht fun _ _ => nofun) ?_
    rw [imp_iff_right ht, conforms_iff_of_finishes hbound hle hsame]
    constructor
    · rintro ⟨hpayload, hmost⟩
      have heq : total = fb.totalLength.toNat := by omega
      exact ⟨heq, (hwhole heq).mp (hpayload _ rfl)⟩
    · rintro ⟨heq, hgiven⟩
      refine ⟨fun payload hanswer => ?_, Nat.le_of_eq heq⟩
      obtain rfl := Option.some.inj (Except.ok.inj hanswer)
      exact (hwhole heq).mpr hgiven

end Answers

theorem exact_addFragment_iff {n : UInt32} (hn : fb.totalLength = n) :
    Exact n h (record FragmentBuffer.call fb (.addFragment frag)) ↔
      AnswersWithin fb frag ((held h).flatten.length + frag.data.length)
        ((accepted h).flatten ++ frag.data)
        (fb.addFragment frag.seq frag.data frag.moreComing).1 := by
  have hno : ¬ BufferStep.IsReset (record FragmentBuffer.call fb (.addFragment frag)) := nofun
  have hout : (record FragmentBuffer.call fb (.addFragment frag)).output =
      .added (fb.addFragment frag.seq frag.data frag.moreComing).1 := rfl
  have haccepted : ∀ payload,
      (fb.addFragment frag.seq frag.data frag.moreComing).1 = .ok (some payload) →
      (accepted (h ++ [record FragmentBuffer.call fb (.addFragment frag)])).flatten =
        (accepted h).flatten ++ frag.data := by
    intro payload hanswer
    rw [accepted_append hno, accepted_addFragment, hanswer]
    simp
  subst hn
  constructor
  · rintro ⟨hpayload, hover⟩
    refine ⟨fun payload hanswer => ?_, fun ht hgt => ?_⟩
    · rw [← haccepted payload hanswer]
      exact hpayload payload (hout.trans (congrArg _ hanswer))
    · obtain ⟨received, total, hanswer⟩ := hover frag (mem_taken_addFragment.mpr ⟨ht, rfl⟩) hgt
      exact ⟨received, total, BufferAnswer.added.inj (hout.symm.trans hanswer)⟩
  · rintro ⟨hpayload, hover⟩
    refine ⟨fun payload hanswer => ?_, fun frag' htaken hgt => ?_⟩
    · have hanswer := BufferAnswer.added.inj (hout.symm.trans hanswer)
      rw [haccepted payload hanswer]
      exact hpayload payload hanswer
    · obtain ⟨ht, rfl⟩ := mem_taken_addFragment.mp htaken
      obtain ⟨received, total, hanswer⟩ := hover ht hgt
      exact ⟨received, total, hout.trans (congrArg _ hanswer)⟩

theorem conforms_addFragment_iff (n : UInt32) :
    Conforms n h (record FragmentBuffer.call fb (.addFragment frag)) ↔ (fb.Takes frag.seq →
      (n.toNat < (held h).flatten.length + frag.data.length →
        frag.moreComing = false ∧
          n.toNat < ((held h).flatten.length + frag.data.length) % 4294967296) ∧
      ((held h).flatten.length + frag.data.length = n.toNat →
        (∀ e ∈ since BufferStep.IsReset h, ∀ refused ∈ e.taken,
          e.pre.Mismatches refused → refused.data = []) ∧
        ∀ piece ∈ earlierRounds (held h ++ [frag.data]), piece = [])) := by
  constructor
  · intro hconforms ht
    exact hconforms frag (mem_taken_addFragment.mpr ⟨ht, rfl⟩)
  · rintro hconforms frag' htaken
    obtain ⟨ht, rfl⟩ := mem_taken_addFragment.mp htaken
    exact hconforms ht

theorem Tracked.exact_iff (ht : Tracked h fb) {n : UInt32} (hn : fb.totalLength = n) (hpos : 0 < n)
    (frag : Fragment) :
    Exact n h (record FragmentBuffer.call fb (.addFragment frag)) ↔
      Conforms n h (record FragmentBuffer.call fb (.addFragment frag)) := by
  rw [exact_addFragment_iff hn, conforms_addFragment_iff]
  subst hn
  exact (ht.contains.addFragment_adds frag).answersWithin_iff ht.contains hpos rfl
    (ht.payload_iff frag.data)

end Declared

theorem FragmentBuffer.Adds.totalLength_eq {fb fb' : FragmentBuffer} {pieces : List Bytes}
    {frag : Fragment} {answer : Except FragmentError (Option Bytes)}
    (h : fb.Adds pieces frag answer fb') : fb'.totalLength = fb.totalLength := by
  cases h <;> rfl

/-- The length is declared after any calls, and any fragments follow. The payloads have the declared
length, and more octets are an overflow, if and only if each fragment conforms. -/
theorem declared_length_exact_iff (authCtxID : String) (id : UInt8) (now : ℤ)
    (calls : List BufferCall) {n : UInt32} (hpos : 0 < n) {fb : FragmentBuffer}
    (hset : (final FragmentBuffer.call (newFragmentBuffer authCtxID id now) calls).setTotalLength
      n = (.ok (), fb)) (frags : List Fragment) :
    AlongFrom FragmentBuffer.call (Exact n)
        (trace FragmentBuffer.call (newFragmentBuffer authCtxID id now)
          (calls ++ [.setTotalLength n])) fb (frags.map .addFragment) ↔
      AlongFrom FragmentBuffer.call (Conforms n)
        (trace FragmentBuffer.call (newFragmentBuffer authCtxID id now)
          (calls ++ [.setTotalLength n])) fb (frags.map .addFragment) := by
  have hfb : final FragmentBuffer.call (newFragmentBuffer authCtxID id now)
      (calls ++ [.setTotalLength n]) = fb := by
    rw [final_append]
    exact congrArg Prod.snd hset
  have htotal : fb.totalLength = n := by
    unfold FragmentBuffer.setTotalLength at hset
    split at hset
    · simp at hset
    · rw [← (Prod.mk.inj hset).2]
  have htracked := tracked_run authCtxID id now (calls ++ [.setTotalLength n])
  rw [hfb] at htracked
  refine alongFrom_congr (J := fun h fb => Tracked h fb ∧ fb.totalLength = n) ?_ ?_
    ⟨htracked, htotal⟩
  · rintro h fb c hc ⟨ht, hn⟩
    obtain ⟨frag, -, rfl⟩ := List.mem_map.mp hc
    exact ⟨ht.call _, ((ht.contains.addFragment_adds frag).totalLength_eq).trans hn⟩
  · rintro h fb c hc ⟨ht, hn⟩
    obtain ⟨frag, -, rfl⟩ := List.mem_map.mp hc
    exact ht.exact_iff hn hpos frag

namespace Sample

def inTwo : List Fragment := [⟨0, [1, 2], true⟩, ⟨1, [3], false⟩]

/-- More octets than the declared three, with the flag that more follow. -/
def tooLong : List Fragment := [⟨0, [1, 2, 3, 4, 5], true⟩]

end Sample

theorem declared_length_exact_inTwo :
    AlongFrom FragmentBuffer.call (Exact 3)
      (trace FragmentBuffer.call (newFragmentBuffer "ctx" 1 0) [.setTotalLength 3])
      ((newFragmentBuffer "ctx" 1 0).setTotalLength 3).2 (Sample.inTwo.map .addFragment) :=
  (declared_length_exact_iff "ctx" 1 0 [] (by decide) rfl Sample.inTwo).mpr (by decide)

theorem declared_length_tooLong :
    ((newFragmentBuffer "ctx" 1 0).setTotalLength 3).1 = .ok () ∧
      (((newFragmentBuffer "ctx" 1 0).setTotalLength 3).2.addFragment 0 [1, 2, 3, 4, 5] true).1 =
        .ok (some [1, 2, 3, 4, 5]) ∧
      ¬ AlongFrom FragmentBuffer.call (Exact 3)
        (trace FragmentBuffer.call (newFragmentBuffer "ctx" 1 0) [.setTotalLength 3])
        ((newFragmentBuffer "ctx" 1 0).setTotalLength 3).2
        (Sample.tooLong.map .addFragment) := by
  refine ⟨by decide, by decide, fun h => ?_⟩
  have hlength := (h.1.payload [1, 2, 3, 4, 5] (by decide)).1
  exact absurd hlength (by decide)

/-! ## Fragments that are refused -/

/-- A call with the number `seq` has left no trace: what `fb` was is still there, and each fragment
with that number is accepted afterwards if it was accepted before. -/
structure LeftNoTrace (fb : FragmentBuffer) (seq : UInt16) (fb' : FragmentBuffer) : Prop where
  fragmentSeq : fb'.fragmentSeq = fb.fragmentSeq
  received : fb'.received = fb.received
  complete : fb'.complete = fb.complete
  fragments : fb'.fragments = fb.fragments
  accepts : ∀ data moreComing payload,
    (fb.addFragment seq data moreComing).1 = .ok payload →
    (fb'.addFragment seq data moreComing).1 = .ok payload

theorem leftNoTrace_refl (fb : FragmentBuffer) (seq : UInt16) : LeftNoTrace fb seq fb :=
  ⟨rfl, rfl, rfl, rfl, fun _ _ _ h => h⟩

theorem not_leftNoTrace_store (fb : FragmentBuffer) (data : Bytes) (seq : UInt16) :
    ¬ LeftNoTrace fb seq (fb.store data) := by
  intro h
  have hseq : fb.fragmentSeq + 1 = fb.fragmentSeq := h.fragmentSeq
  have hnat := congrArg UInt16.toNat hseq
  rw [UInt16.toNat_add] at hnat
  have hone : (1 : UInt16).toNat = 1 := rfl
  have hlt := fb.fragmentSeq.toNat_lt
  omega

theorem FragmentBuffer.Adds.leftNoTrace_iff {fb fb' : FragmentBuffer} {pieces : List Bytes}
    {frag : Fragment} {answer : Except FragmentError (Option Bytes)}
    (h : fb.Adds pieces frag answer fb') :
    (∀ err, answer = .error err → LeftNoTrace fb frag.seq fb') ↔
      ¬ (fb.Takes frag.seq ∧ fb.Mismatches frag) := by
  have hok := h.exists_ok_iff
  cases h with
  | alreadyComplete hc =>
    exact iff_of_true (fun _ _ => leftNoTrace_refl fb frag.seq) fun h =>
      not_takes_of_complete hc _ h.1
  | notFound hseq =>
    exact iff_of_true (fun _ _ => leftNoTrace_refl fb frag.seq) fun h => hseq h.1.2
  | overflow ht hm | incomplete ht hm =>
    refine iff_of_false (fun h => ?_) (not_not.mpr ⟨ht, hm⟩)
    exact not_leftNoTrace_store fb frag.data frag.seq (h _ rfl)
  | waits | finishes =>
    exact iff_of_true nofun fun h => (hok.mp ⟨_, rfl⟩).2 h.2

/-- In a buffer after any calls, a fragment that is refused leaves no trace, unless it is a last
fragment that the buffer takes and with which there are more or fewer octets than declared. -/
theorem rejected_leaves_no_trace_iff (authCtxID : String) (id : UInt8) (now : ℤ)
    (calls : List BufferCall) (frag : Fragment) {fb : FragmentBuffer}
    (hfb : final FragmentBuffer.call (newFragmentBuffer authCtxID id now) calls = fb) :
    (∀ err, (fb.addFragment frag.seq frag.data frag.moreComing).1 = .error err →
        LeftNoTrace fb frag.seq (fb.addFragment frag.seq frag.data frag.moreComing).2) ↔
      ¬ (fb.Takes frag.seq ∧ fb.Mismatches frag) := by
  have ht := tracked_run authCtxID id now calls
  rw [hfb] at ht
  exact (ht.contains.addFragment_adds frag).leftNoTrace_iff

namespace Sample

/-- The declared length is 3. -/
def ofThree : FragmentBuffer :=
  final FragmentBuffer.call (newFragmentBuffer "ctx" 1 0) [.setTotalLength 3]

end Sample

theorem rejected_leaves_no_trace_wrong_seq :
    (Sample.ofThree.addFragment 4 [1, 2, 3] false).1 = .error (.notFound 0 4) ∧
      LeftNoTrace Sample.ofThree 4 (Sample.ofThree.addFragment 4 [1, 2, 3] false).2 :=
  ⟨by decide, (rejected_leaves_no_trace_iff "ctx" 1 0 [.setTotalLength 3] ⟨4, [1, 2, 3], false⟩
    rfl).mpr (by decide) (.notFound 0 4) (by decide)⟩

open Sample in
/-- A fragment that is too short is refused, and the one that has the declared length is then
refused also, since the buffer waits for the next number. -/
theorem rejected_leaves_trace :
    (ofThree.addFragment 0 [1, 2] false).1 = .error (.incomplete 2 3) ∧
      (ofThree.addFragment 0 [1, 2, 3] false).1 = .ok (some [1, 2, 3]) ∧
      ((ofThree.addFragment 0 [1, 2] false).2.addFragment 0 [1, 2, 3] false).1 =
        .error (.notFound 1 0) ∧
      ¬ LeftNoTrace ofThree 0 (ofThree.addFragment 0 [1, 2] false).2 := by
  refine ⟨by decide, by decide, by decide, fun h => ?_⟩
  exact absurd h.fragmentSeq (by decide)

end NssAAF.Eap
