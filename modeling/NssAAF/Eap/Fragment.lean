import NssAAF.Lib.Transducer
import NssAAF.Eap.Codec
import Mathlib.Data.Int.Basic

/-!
# Fragments of an EAP packet

`SplitPacket` and `FragmentBuffer` of `internal/eap/fragment.go`. A packet is cut into numbered
fragments, and a buffer puts them together again. It takes only the fragment with the number it
expects next. The number is a `uint16` and the count of the octets a `uint32`.

The two halves meet at `Cut`, which says what a list of fragments of a string looks like:
`splitPacket_cut` shows that `splitPacket` makes such a list, and `answers_of_cut` that a buffer
makes the string of it, whatever other calls come between.
-/

namespace NssAAF.Eap

open Transducer

/-! ## Splitting -/

structure Fragment where
  seq : UInt16
  data : Bytes
  moreComing : Bool
  deriving DecidableEq

/-- The loop of `splitPacket`. There are at most `fuel` fragments. -/
def splitLoop (maxSize : ℕ) : ℕ → UInt16 → Bytes → List Fragment
  | 0, _, _ => []
  | fuel + 1, seq, remaining =>
    if remaining = [] then []
    else
      let size := min maxSize remaining.length
      ⟨seq, remaining.take size, decide (0 < remaining.length - size)⟩ ::
        splitLoop maxSize fuel (seq + 1) (remaining.drop size)

def splitPacket (packet : Bytes) (maxSize : ℕ) : List Fragment :=
  if packet.length ≤ maxSize then [⟨0, packet, false⟩]
  else splitLoop maxSize packet.length 0 packet

/-- The fragments of a string from number `k` on: all but the last say that more are coming, and
none of them is the end of the string. -/
inductive Cut : ℕ → Bytes → List Fragment → Prop
  | last (k : ℕ) (data : Bytes) : Cut k data [⟨UInt16.ofNat k, data, false⟩]
  | more {k : ℕ} {data rest : Bytes} {frags : List Fragment} (hdata : data ≠ []) (hrest : rest ≠ [])
      (h : Cut (k + 1) rest frags) : Cut k (data ++ rest) (⟨UInt16.ofNat k, data, true⟩ :: frags)

namespace Cut

variable {k : ℕ} {data : Bytes} {frags : List Fragment}

theorem length_pos (h : Cut k data frags) : 0 < frags.length := by
  cases h <;> simp

end Cut

theorem splitLoop_cut {maxSize : ℕ} (hmax : 1 ≤ maxSize) {fuel : ℕ} {remaining : Bytes}
    (hfuel : remaining.length ≤ fuel) (hne : remaining ≠ []) (k : ℕ) :
    Cut k remaining (splitLoop maxSize fuel (UInt16.ofNat k) remaining) := by
  induction fuel generalizing remaining k with
  | zero => exact absurd (List.length_eq_zero_iff.mp (Nat.le_zero.mp hfuel)) hne
  | succ fuel ih =>
    have hpos := List.length_pos_iff.mpr hne
    have hseq : UInt16.ofNat k + 1 = UInt16.ofNat (k + 1) := (UInt16.ofNat_add k 1).symm
    unfold splitLoop
    rw [if_neg hne]
    dsimp only
    rw [hseq]
    by_cases hlast : remaining.length ≤ maxSize
    · -- the rest fits, and the loop is left after it
      rw [Nat.min_eq_right hlast, Nat.sub_self, List.take_length, List.drop_length]
      have hnil : splitLoop maxSize fuel (UInt16.ofNat (k + 1)) [] = [] := by
        cases fuel <;> rfl
      rw [hnil]
      exact .last k remaining
    · have hrest : remaining.drop maxSize ≠ [] := by
        apply List.length_pos_iff.mp
        rw [List.length_drop]
        omega
      have hdata : remaining.take maxSize ≠ [] := by
        apply List.length_pos_iff.mp
        rw [List.length_take]
        omega
      have htail := ih (by rw [List.length_drop]; omega) hrest (k + 1)
      rw [Nat.min_eq_left (by omega), decide_eq_true (by omega : 0 < remaining.length - maxSize)]
      have h := Cut.more hdata hrest htail
      rwa [List.take_append_drop] at h

theorem splitPacket_cut (packet : Bytes) {maxSize : ℕ} (hmax : 1 ≤ maxSize) :
    Cut 0 packet (splitPacket packet maxSize) := by
  unfold splitPacket
  split_ifs with hle
  · exact .last 0 packet
  · apply splitLoop_cut hmax (Nat.le_refl _)
    rintro rfl
    exact hle (Nat.zero_le _)

/-! ## The buffer -/

/-- Why a fragment is refused or the fragments are not put together. -/
inductive FragmentError
  | alreadyComplete
  | notFound (expected got : UInt16)
  | overflow (received expected : UInt32)
  | incomplete (received expected : UInt32)
  | notComplete (received total : UInt32)
  | missing (seq : UInt16)
  deriving DecidableEq

def FragmentError.text : FragmentError → String
  | .alreadyComplete => "fragment buffer already complete"
  | .notFound expected got =>
    "eap: fragment not found: expected seq=" ++ toString expected.toNat ++ ", got seq=" ++
      toString got.toNat
  | .overflow received expected =>
    "eap: fragment overflow: received " ++ toString received.toNat ++ " bytes, expected " ++
      toString expected.toNat
  | .incomplete received expected =>
    "eap: fragment buffer incomplete: received " ++ toString received.toNat ++
      " bytes, expected " ++ toString expected.toNat
  | .notComplete received total =>
    "eap: fragment buffer incomplete: received " ++ toString received.toNat ++ "/" ++
      toString total.toNat ++ " bytes"
  | .missing seq => "eap: fragment not found: missing seq=" ++ toString seq.toNat

/-- `fragmentSeq` is the number that is expected next and `totalLength` the announced length, zero
if it is unknown. -/
structure FragmentBuffer where
  authCtxID : String
  expectedID : UInt8
  fragmentSeq : UInt16
  totalLength : UInt32
  received : UInt32
  fragments : UInt16 → Option Bytes
  complete : Bool
  createdAt : ℤ

def newFragmentBuffer (authCtxID : String) (id : UInt8) (now : ℤ) : FragmentBuffer :=
  ⟨authCtxID, id, 0, 0, 0, fun _ => none, false, now⟩

namespace FragmentBuffer

def seqs (fb : FragmentBuffer) : List UInt16 :=
  (List.range fb.fragmentSeq.toNat).map UInt16.ofNat

/-- Puts the fragments together in the order of their numbers. -/
def reassemble (fb : FragmentBuffer) : Except FragmentError Bytes :=
  if fb.complete = false then .error (.notComplete fb.received fb.totalLength)
  else
    match fb.seqs.find? fun seq => fb.fragments seq = none with
    | some seq => .error (.missing seq)
    | none => .ok (fb.seqs.flatMap fun seq => (fb.fragments seq).getD [])

def store (fb : FragmentBuffer) (data : Bytes) : FragmentBuffer :=
  { fb with
    fragments := fun seq => if seq = fb.fragmentSeq then some data else fb.fragments seq
    received := fb.received + UInt32.ofNat data.length
    fragmentSeq := fb.fragmentSeq + 1 }

def finish (fb : FragmentBuffer) : Except FragmentError (Option Bytes) × FragmentBuffer :=
  let fb := { fb with complete := true }
  (fb.reassemble.map some, fb)

/-- Adds a fragment. The answer is nil as long as more are to come. -/
def addFragment (fb : FragmentBuffer) (seq : UInt16) (data : Bytes) (moreFragments : Bool) :
    Except FragmentError (Option Bytes) × FragmentBuffer :=
  if fb.complete then (.error .alreadyComplete, fb)
  else if seq ≠ fb.fragmentSeq then (.error (.notFound fb.fragmentSeq seq), fb)
  else
    let fb := fb.store data
    if ¬ moreFragments then
      if 0 < fb.totalLength ∧ fb.totalLength < fb.received then
        (.error (.overflow fb.received fb.totalLength), fb)
      else if 0 < fb.totalLength ∧ fb.received < fb.totalLength then
        (.error (.incomplete fb.received fb.totalLength), fb)
      else fb.finish
    else if 0 < fb.totalLength ∧ fb.totalLength ≤ fb.received then fb.finish
    else (.ok none, fb)

/-- Announces the length of the packet, which is possible only before the first octet. -/
def setTotalLength (fb : FragmentBuffer) (length : UInt32) : Except String Unit × FragmentBuffer :=
  if 0 < fb.received then (.error "cannot set total length after receiving data", fb)
  else (.ok (), { fb with totalLength := length })

/-- **Out of sequence.** A call with another number than the next one fails and changes nothing. -/
theorem addFragment_of_ne {fb : FragmentBuffer} {seq : UInt16} (h : seq ≠ fb.fragmentSeq)
    (data : Bytes) (moreFragments : Bool) :
    ∃ err, fb.addFragment seq data moreFragments = (.error err, fb) := by
  unfold addFragment
  by_cases hc : fb.complete
  · exact ⟨.alreadyComplete, if_pos hc⟩
  · rw [if_neg hc, if_pos h]
    exact ⟨_, rfl⟩

theorem reassemble_of_map_seqs {fb : FragmentBuffer} {front : List Bytes}
    (hmap : fb.seqs.map fb.fragments = front.map some) :
    ({ fb with complete := true } : FragmentBuffer).reassemble = .ok front.flatten := by
  have hall : ∀ seq ∈ fb.seqs, fb.fragments seq ≠ none := by
    intro seq hseq hnone
    have hmem : fb.fragments seq ∈ front.map some := by
      rw [← hmap]
      exact List.mem_map_of_mem hseq
    obtain ⟨piece, -, heq⟩ := List.mem_map.mp hmem
    rw [hnone] at heq
    cases heq
  have hfind : (fb.seqs.find? fun seq => fb.fragments seq = none) = none := by
    apply List.find?_eq_none.mpr
    intro seq hseq
    simpa using hall seq hseq
  have hflat : (fb.seqs.flatMap fun seq => (fb.fragments seq).getD []) = front.flatten := by
    have hcomp : (fb.seqs.map fun seq => (fb.fragments seq).getD []) = front := by
      calc (fb.seqs.map fun seq => (fb.fragments seq).getD [])
          = (fb.seqs.map fb.fragments).map (fun o => o.getD []) := by rw [List.map_map]; rfl
        _ = front := by rw [hmap, List.map_map]; exact List.map_id front
    rw [List.flatMap_def, hcomp]
  show (match fb.seqs.find? fun seq => fb.fragments seq = none with
    | some seq => Except.error (FragmentError.missing seq)
    | none => Except.ok (fb.seqs.flatMap fun seq => (fb.fragments seq).getD [])) = _
  rw [hfind, hflat]

/-! ### What a buffer holds -/

section Store

variable {fb : FragmentBuffer} {pieces : List Bytes} (data : Bytes)

theorem fragmentSeq_store (h : fb.fragmentSeq = UInt16.ofNat pieces.length) :
    (fb.store data).fragmentSeq = UInt16.ofNat (pieces ++ [data]).length := by
  show fb.fragmentSeq + 1 = _
  rw [h, List.length_append, List.length_singleton, UInt16.ofNat_add]
  rfl

theorem received_store (h : fb.received = UInt32.ofNat pieces.flatten.length) :
    (fb.store data).received = UInt32.ofNat (pieces ++ [data]).flatten.length := by
  show fb.received + UInt32.ofNat data.length = _
  rw [h, List.flatten_append, List.flatten_singleton, List.length_append, UInt32.ofNat_add]

/-- The numbers of the last 65535 fragments and of the new one are different. -/
theorem fragments_store {i : ℕ} {piece : Bytes}
    (hseq : fb.fragmentSeq = UInt16.ofNat pieces.length)
    (hi : (pieces ++ [data])[i]? = some piece) (hnear : pieces.length < i + 65536)
    (hold : pieces[i]? = some piece → fb.fragments (UInt16.ofNat i) = some piece) :
    (fb.store data).fragments (UInt16.ofNat i) = some piece := by
  show (if UInt16.ofNat i = fb.fragmentSeq then some data else _) = _
  rw [hseq]
  by_cases hif : i < pieces.length
  · have hne : UInt16.ofNat i ≠ UInt16.ofNat pieces.length := by
      intro heq
      have hnat := congrArg UInt16.toNat heq
      rw [UInt16.toNat_ofNat', UInt16.toNat_ofNat'] at hnat
      omega
    rw [List.getElem?_append_left hif] at hi
    rw [if_neg hne]
    exact hold hi
  · rw [List.getElem?_append_right (by omega)] at hi
    obtain ⟨hlt, rfl⟩ := List.getElem?_eq_some_iff.mp hi
    have hlast : i = pieces.length := by
      rw [List.length_singleton] at hlt
      omega
    subst hlast
    rw [if_pos rfl]
    simp

end Store

/-- The buffer has taken the pieces `front` and waits for the next. -/
structure Holds (fb : FragmentBuffer) (total : ℕ) (front : List Bytes) : Prop where
  waiting : fb.complete = false
  total : fb.totalLength = UInt32.ofNat total
  seq : fb.fragmentSeq = UInt16.ofNat front.length
  received : fb.received = UInt32.ofNat front.flatten.length
  fragments : ∀ i piece, front[i]? = some piece → fb.fragments (UInt16.ofNat i) = some piece

theorem holds_new (authCtxID : String) (id : UInt8) (now : ℤ) :
    (newFragmentBuffer authCtxID id now).Holds 0 [] :=
  ⟨rfl, rfl, rfl, rfl, fun i piece h => by simp at h⟩

namespace Holds

variable {fb : FragmentBuffer} {total : ℕ} {front : List Bytes}

theorem setTotalLength_snd (h : fb.Holds 0 []) (total : ℕ) :
    (fb.setTotalLength (UInt32.ofNat total)).2.Holds total [] := by
  have hzero : ¬ 0 < fb.received := by
    rw [h.received]
    decide
  unfold setTotalLength
  rw [if_neg hzero]
  exact ⟨h.waiting, rfl, h.seq, h.received, h.fragments⟩

theorem store (h : fb.Holds total front) (hlen : front.length < 65536) (data : Bytes) :
    (fb.store data).Holds total (front ++ [data]) where
  waiting := h.waiting
  total := h.total
  seq := fragmentSeq_store data h.seq
  received := received_store data h.received
  fragments := by
    intro i piece hi
    exact fragments_store data h.seq hi (by omega) fun hold => h.fragments i piece hold

theorem map_seqs (h : fb.Holds total front) (hlen : front.length < 65536) :
    fb.seqs.map fb.fragments = front.map some := by
  have hn : fb.fragmentSeq.toNat = front.length := by
    rw [h.seq, UInt16.toNat_ofNat']
    omega
  apply List.ext_getElem?
  intro i
  unfold seqs
  rw [hn]
  by_cases hi : i < front.length
  · have hget := h.fragments i _ (List.getElem?_eq_getElem hi)
    simp [hi, hget]
  · simp [hi]

theorem reassemble_eq (h : fb.Holds total front) (hlen : front.length < 65536) :
    ({ fb with complete := true } : FragmentBuffer).reassemble = .ok front.flatten :=
  reassemble_of_map_seqs (h.map_seqs hlen)

theorem addFragment_more (h : fb.Holds total front) (data : Bytes)
    (hfit : front.flatten.length + data.length < 65536) (htotal : total < 65536)
    (hmiss : total = 0 ∨ front.flatten.length + data.length < total) :
    fb.addFragment (UInt16.ofNat front.length) data true = (.ok none, fb.store data) := by
  have hmore : ¬ (0 < (fb.store data).totalLength ∧
      (fb.store data).totalLength ≤ (fb.store data).received) := by
    show ¬ (0 < fb.totalLength ∧ fb.totalLength ≤ fb.received + UInt32.ofNat data.length)
    rw [h.total, h.received, ← UInt32.ofNat_add, UInt32.lt_iff_toNat_lt, UInt32.le_iff_toNat_le,
      UInt32.toNat_ofNat', UInt32.toNat_ofNat']
    simp only [UInt32.toNat_zero]
    omega
  unfold addFragment
  rw [if_neg (by rw [h.waiting]; decide), if_neg (not_not.mpr h.seq.symm)]
  dsimp only
  rw [if_neg (by decide), if_neg hmore]

theorem addFragment_last (h : fb.Holds total front) (data : Bytes) (hlen : front.length < 65535)
    (htotal : total = 0 ∨ total = front.flatten.length + data.length) :
    fb.addFragment (UInt16.ofNat front.length) data false =
      (.ok (some (front.flatten ++ data)), { fb.store data with complete := true }) := by
  have hnext := h.store (by omega) data
  have hreceived : (fb.store data).received.toNat =
      (front.flatten.length + data.length) % 4294967296 := by
    rw [hnext.received, UInt32.toNat_ofNat', List.flatten_append, List.flatten_singleton,
      List.length_append]
  have hdeclared : (fb.store data).totalLength.toNat = total % 4294967296 := by
    rw [hnext.total, UInt32.toNat_ofNat']
  have hover : ¬ (0 < (fb.store data).totalLength ∧
      (fb.store data).totalLength < (fb.store data).received) := by
    rw [UInt32.lt_iff_toNat_lt, UInt32.lt_iff_toNat_lt, hreceived, hdeclared, UInt32.toNat_zero]
    omega
  have hless : ¬ (0 < (fb.store data).totalLength ∧
      (fb.store data).received < (fb.store data).totalLength) := by
    rw [UInt32.lt_iff_toNat_lt, UInt32.lt_iff_toNat_lt, hreceived, hdeclared, UInt32.toNat_zero]
    omega
  have hwhole := hnext.reassemble_eq (by rw [List.length_append, List.length_singleton]; omega)
  unfold addFragment
  rw [if_neg (by rw [h.waiting]; decide), if_neg (not_not.mpr h.seq.symm)]
  dsimp only
  rw [if_pos (by decide), if_neg hover, if_neg hless]
  unfold finish
  dsimp only
  rw [hwhole, List.flatten_append, List.flatten_singleton]
  rfl

end Holds

end FragmentBuffer

/-! ## Fragments among other calls -/

/-- A call of `AddFragment`: one of the fragments that were made of the packet, or any other
call. -/
inductive FragmentCall
  | fragment (frag : Fragment)
  | other (seq : UInt16) (data : Bytes) (moreFragments : Bool)
  deriving DecidableEq

def FragmentBuffer.step (fb : FragmentBuffer) :
    FragmentCall → Except FragmentError (Option Bytes) × FragmentBuffer
  | .fragment frag => fb.addFragment frag.seq frag.data frag.moreComing
  | .other seq data moreFragments => fb.addFragment seq data moreFragments

abbrev FragmentStep : Type :=
  Record FragmentBuffer FragmentCall (Except FragmentError (Option Bytes))

/-- The fragment of the packet that a call brings. -/
def FragmentCall.fed : FragmentCall → Option Fragment
  | .fragment frag => some frag
  | .other .. => none

/-- What a call with a fragment of the packet returned. -/
def fragmentAnswer (r : FragmentStep) : Option (Except FragmentError (Option Bytes)) :=
  r.input.fed.map fun _ => r.output

/-- A call that is not a fragment of the packet is out of sequence. -/
def OutOfSequence (r : FragmentStep) : Prop :=
  ∀ seq data moreFragments, r.input = .other seq data moreFragments → seq ≠ r.pre.fragmentSeq

open FragmentBuffer

theorem answers_of_noise {calls : List FragmentCall} {fb : FragmentBuffer}
    (hfed : calls.filterMap FragmentCall.fed = []) :
    (trace FragmentBuffer.step fb calls).filterMap fragmentAnswer = [] := by
  apply List.filterMap_eq_nil_iff.mpr
  intro r hr
  have hnone := List.filterMap_eq_nil_iff.mp hfed r.input (input_mem_of_mem_trace hr)
  unfold fragmentAnswer
  rw [hnone]
  rfl

/-- The buffer holds the front of the packet, and the rest of it is still to come. -/
structure Midway (packet : Bytes) (total : ℕ) (front : List Bytes) (rest : Bytes)
    (fb : FragmentBuffer) : Prop where
  fits : packet.length ≤ maxEAPSize
  announced : total = 0 ∨ total = packet.length
  split : packet = front.flatten ++ rest
  pieces : front.length ≤ front.flatten.length
  rest_ne : front ≠ [] → rest ≠ []
  holds : fb.Holds total front

namespace Midway

variable {packet rest data : Bytes} {total : ℕ} {front : List Bytes} {fb : FragmentBuffer}

theorem length_eq (h : Midway packet total front rest fb) :
    packet.length = front.flatten.length + rest.length := by
  rw [h.split, List.length_append]

theorem addFragment_last (h : Midway packet total front rest fb) :
    (fb.addFragment (UInt16.ofNat front.length) rest false).1 = .ok (some packet) := by
  have hfits := h.fits
  have htotal := h.announced
  have hlen := h.length_eq
  have hpieces := h.pieces
  unfold maxEAPSize at hfits
  have hshort : front.length < 65535 := by
    by_cases hnil : front = []
    · rw [hnil]
      decide
    · have hpos := List.length_pos_iff.mpr (h.rest_ne hnil)
      omega
  rw [h.holds.addFragment_last rest hshort (by omega), ← h.split]

theorem addFragment_more (h : Midway packet total front (data ++ rest) fb) (hrest : rest ≠ []) :
    fb.addFragment (UInt16.ofNat front.length) data true = (.ok none, fb.store data) := by
  have hfits := h.fits
  have htotal := h.announced
  have hlen := h.length_eq
  have hpos := List.length_pos_iff.mpr hrest
  unfold maxEAPSize at hfits
  rw [List.length_append] at hlen
  exact h.holds.addFragment_more data (by omega) (by omega) (by omega)

theorem store (h : Midway packet total front (data ++ rest) fb) (hdata : data ≠ [])
    (hrest : rest ≠ []) : Midway packet total (front ++ [data]) rest (fb.store data) := by
  have hfits := h.fits
  have hlen := h.length_eq
  have hpieces := h.pieces
  have hpos := List.length_pos_iff.mpr hdata
  have hflat : (front ++ [data]).flatten = front.flatten ++ data := by
    rw [List.flatten_append, List.flatten_singleton]
  unfold maxEAPSize at hfits
  rw [List.length_append] at hlen
  refine ⟨h.fits, h.announced, ?_, ?_, fun _ => hrest, h.holds.store (by omega) data⟩
  · rw [hflat, List.append_assoc]
    exact h.split
  · rw [hflat, List.length_append, List.length_append, List.length_singleton]
    omega

end Midway

/-- A buffer that holds the front of a packet makes the packet of the fragments of the rest,
whatever else comes between them. -/
theorem answers_of_cut {packet rest : Bytes} {total : ℕ} {calls : List FragmentCall}
    {frags : List Fragment} {front : List Bytes} {fb : FragmentBuffer}
    (hmid : Midway packet total front rest fb) (hcut : Cut front.length rest frags)
    (hfed : calls.filterMap FragmentCall.fed = frags)
    (hnoise : ∀ r ∈ trace FragmentBuffer.step fb calls, OutOfSequence r) :
    (trace FragmentBuffer.step fb calls).filterMap fragmentAnswer =
      List.replicate (frags.length - 1) (.ok none) ++ [.ok (some packet)] := by
  induction calls generalizing frags front rest fb with
  | nil =>
    have hpos := hcut.length_pos
    rw [← hfed] at hpos
    exact absurd hpos (Nat.lt_irrefl 0)
  | cons call calls ih =>
    rw [trace_cons] at hnoise ⊢
    have htail := fun r hr => hnoise r (List.mem_cons_of_mem _ hr)
    cases call with
    | other seq data moreFragments =>
      -- the call fails, and the buffer stays
      have hseq : seq ≠ fb.fragmentSeq :=
        hnoise _ (List.mem_cons_self ..) seq data moreFragments rfl
      obtain ⟨err, herr⟩ := addFragment_of_ne hseq data moreFragments
      have hsame : (FragmentBuffer.step fb (.other seq data moreFragments)).2 = fb :=
        congrArg Prod.snd herr
      rw [hsame] at htail ⊢
      exact ih hmid hcut hfed htail
    | fragment frag =>
      have hfed' : frag :: calls.filterMap FragmentCall.fed = frags := hfed
      cases hcut with
      | last data =>
        obtain ⟨rfl, hnil⟩ := List.cons.inj hfed'
        have hanswer : fragmentAnswer (record FragmentBuffer.step fb
            (.fragment ⟨UInt16.ofNat front.length, rest, false⟩)) = some (.ok (some packet)) :=
          congrArg some hmid.addFragment_last
        rw [List.filterMap_cons_some hanswer, answers_of_noise hnil]
        rfl
      | @more _ data rest frags hdata hrest hcut =>
        obtain ⟨rfl, htl⟩ := List.cons.inj hfed'
        have hadd := hmid.addFragment_more hrest
        have hanswer : fragmentAnswer (record FragmentBuffer.step fb
            (.fragment ⟨UInt16.ofNat front.length, data, true⟩)) = some (.ok none) :=
          congrArg (some ∘ Prod.fst) hadd
        have hpost : (FragmentBuffer.step fb
            (.fragment ⟨UInt16.ofNat front.length, data, true⟩)).2 = fb.store data :=
          congrArg Prod.snd hadd
        have hnext : (front ++ [data]).length = front.length + 1 := by
          rw [List.length_append, List.length_singleton]
        rw [hpost] at htail
        have hrec := ih (hmid.store hdata hrest) (by rw [hnext]; exact hcut) htl htail
        have hcount : frags.length = frags.length - 1 + 1 := by
          have hpos := hcut.length_pos
          omega
        rw [List.filterMap_cons_some hanswer, hpost, hrec, List.length_cons, Nat.add_sub_cancel,
          hcount, List.replicate_succ]
        rfl

/-- The buffer before the first fragment, with the length of the packet announced or not. -/
def freshBuffer (authCtxID : String) (id : UInt8) (now : ℤ) (packet : Bytes) (declared : Bool) :
    FragmentBuffer :=
  if declared then
    ((newFragmentBuffer authCtxID id now).setTotalLength (UInt32.ofNat packet.length)).2
  else newFragmentBuffer authCtxID id now

theorem holds_freshBuffer (authCtxID : String) (id : UInt8) (now : ℤ) (packet : Bytes)
    (declared : Bool) :
    (freshBuffer authCtxID id now packet declared).Holds (if declared then packet.length else 0)
      [] := by
  have hnew := holds_new authCtxID id now
  cases declared with
  | false => exact hnew
  | true => exact hnew.setTotalLength_snd packet.length

/-- **Fragmentation.** The fragments of a packet in their order, with any calls out of sequence
among them, make the packet: the other calls fail without effect, every fragment but the last
returns nothing, and the last returns the packet. -/
theorem fragmentation_round_trip {packet : Bytes} {maxSize : ℕ} (hlen : packet.length ≤ maxEAPSize)
    (hmax : 1 ≤ maxSize) (authCtxID : String) (id : UInt8) (now : ℤ) (declared : Bool)
    {calls : List FragmentCall}
    (hfed : calls.filterMap FragmentCall.fed = splitPacket packet maxSize)
    (hnoise : ∀ r ∈ trace FragmentBuffer.step (freshBuffer authCtxID id now packet declared) calls,
      OutOfSequence r) :
    (∀ r ∈ trace FragmentBuffer.step (freshBuffer authCtxID id now packet declared) calls,
      r.input.fed = none → (∃ err, r.output = .error err) ∧ r.post = r.pre) ∧
      (trace FragmentBuffer.step (freshBuffer authCtxID id now packet declared) calls).filterMap
          fragmentAnswer =
        List.replicate ((splitPacket packet maxSize).length - 1) (.ok none) ++
          [.ok (some packet)] := by
  constructor
  · intro r hr hnone
    have hout := hnoise r hr
    rw [eq_record_of_mem_trace hr]
    cases hinput : r.input with
    | fragment frag => rw [hinput] at hnone; cases hnone
    | other seq data moreFragments =>
      obtain ⟨err, herr⟩ := addFragment_of_ne (hout _ _ _ hinput) data moreFragments
      exact ⟨⟨err, congrArg Prod.fst herr⟩, congrArg Prod.snd herr⟩
  · have htotal : (if declared then packet.length else 0) = 0 ∨
        (if declared then packet.length else 0) = packet.length := by
      cases declared with
      | false => exact Or.inl rfl
      | true => exact Or.inr rfl
    have hmid : Midway packet (if declared then packet.length else 0) [] packet
        (freshBuffer authCtxID id now packet declared) :=
      ⟨hlen, htotal, rfl, Nat.le_refl _, fun h => absurd rfl h, holds_freshBuffer ..⟩
    exact answers_of_cut hmid (splitPacket_cut packet hmax) hfed hnoise

namespace Sample

/-- The fragments of a packet of five octets, with a repeated fragment and a stray one. -/
def noisyCalls : List FragmentCall :=
  [.other 3 [9] false, .fragment ⟨0, [2, 7], true⟩, .other 0 [2, 7] true,
    .fragment ⟨1, [0, 5], true⟩, .fragment ⟨2, [1], false⟩, .other 7 [] false]

end Sample

theorem fragmentation_round_trip_noisy :
    Sample.noisyCalls.filterMap FragmentCall.fed = splitPacket [2, 7, 0, 5, 1] 2 ∧
      (trace FragmentBuffer.step (freshBuffer "ctx" 7 0 [2, 7, 0, 5, 1] true)
          Sample.noisyCalls).filterMap fragmentAnswer =
        [.ok none, .ok none, .ok (some [2, 7, 0, 5, 1])] := by
  have hlen : ([2, 7, 0, 5, 1] : Bytes).length ≤ maxEAPSize := by decide
  have hmax : 1 ≤ 2 := by decide
  refine ⟨by decide, (fragmentation_round_trip hlen hmax "ctx" 7 0 true (by decide) ?_).2⟩
  intro r hr seq data moreFragments hinput
  simp only [Sample.noisyCalls, trace_cons, trace_nil, List.mem_cons, List.not_mem_nil,
    or_false] at hr
  rcases hr with rfl | rfl | rfl | rfl | rfl | rfl <;> cases hinput <;> decide

end NssAAF.Eap
