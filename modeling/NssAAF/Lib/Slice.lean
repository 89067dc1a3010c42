import NssAAF.Lib.Bytes
import Mathlib.Data.Int.Notation

/-!
# Checked access to a byte string

The operations on a slice of octets that stop a program when an index is out of bounds. `none` is
that stop. A slice has the capacity of its length, so that what is beyond its end does not exist.

* `fill_of_le`, `fill_of_lt`: a loop that writes octet by octet.
* `copyTo_eq`, `copyTo_copyTo`: copies into the parts of a slice.
-/

namespace Bytes

def write (b : Bytes) (i : ℕ) (v : UInt8) : Option Bytes :=
  if i < b.length then some (b.set i v) else none

/-- The octets from `lo` to `hi`. -/
def cut (b : Bytes) (lo hi : ℕ) : Option Bytes :=
  if lo ≤ hi ∧ hi ≤ b.length then some ((b.take hi).drop lo) else none

def make (n : ℤ) : Option Bytes := if 0 ≤ n then some (List.replicate n.toNat 0) else none

/-- Copies into the octets from `lo` to `hi`, as far as there are any. -/
def copyTo (b : Bytes) (lo hi : ℕ) (src : Bytes) : Option Bytes := do
  let dst ← b.cut lo hi
  return b.take lo ++ (dst.copy src ++ b.drop hi)

/-- Writes `n` octets from `i` on, one after the other. -/
def fill (v : UInt8) : ℕ → ℕ → Bytes → Option Bytes
  | 0, _, b => some b
  | n + 1, i, b => do fill v n (i + 1) (← b.write i v)

/-- The same up to the end of the slice. -/
def fillWithin (v : UInt8) : ℕ → ℕ → Bytes → Option Bytes
  | 0, _, b => some b
  | n + 1, i, b => if i < b.length then do fillWithin v n (i + 1) (← b.write i v) else some b

variable {b src : Bytes} {v : UInt8} {i n lo hi : ℕ}

theorem write_of_lt (h : i < b.length) (v : UInt8) : b.write i v = some (b.set i v) := if_pos h

theorem cut_zero (h : hi ≤ b.length) : b.cut 0 hi = some (b.take hi) :=
  if_pos ⟨Nat.zero_le hi, h⟩

theorem cut_length (h : lo ≤ b.length) : b.cut lo b.length = some (b.drop lo) := by
  unfold cut
  rw [if_pos ⟨h, Nat.le_refl _⟩, List.take_length]

theorem make_sub (h : n ≤ i) : make ((i : ℤ) - n) = some (List.replicate (i - n) 0) := by
  unfold make
  rw [if_pos (by omega)]
  congr 2
  omega

theorem copyAt_of_le (h : b.length ≤ i) (src : Bytes) : b.copyAt i src = b := by
  unfold copyAt copy
  rw [List.drop_of_length_le h, List.take_of_length_le h]
  simp

theorem copyAt_cons (h : i < b.length) (v : UInt8) (src : Bytes) :
    b.copyAt i (v :: src) = copyAt (b.set i v) (i + 1) src := by
  have hlen : (b.drop i).length = (b.drop (i + 1)).length + 1 := by
    rw [List.length_drop, List.length_drop]
    omega
  have hfront : (b.set i v).take (i + 1) = b.take i ++ [v] := by
    rw [List.take_add_one, List.take_set_of_le (Nat.le_refl i), List.getElem?_set_self h]
    rfl
  have hback : (b.set i v).drop (i + 1) = b.drop (i + 1) :=
    List.drop_set_of_lt (Nat.lt_succ_self i)
  unfold copyAt copy
  rw [hfront, hback, hlen, List.take_succ_cons, List.length_cons, List.append_assoc,
    List.drop_drop, List.drop_drop, List.cons_append, List.singleton_append]
  congr 4
  omega

theorem fill_of_le (h : i + n ≤ b.length) :
    fill v n i b = some (b.copyAt i (List.replicate n v)) := by
  induction n generalizing i b with
  | zero => simp [fill, copyAt, copy]
  | succ n ih =>
    have hi : i < b.length := by omega
    rw [List.replicate_succ, copyAt_cons hi, fill, write_of_lt hi]
    exact ih (by rw [List.length_set]; omega)

theorem fill_of_lt (h : b.length < i + n) (hn : 0 < n) : fill v n i b = none := by
  induction n generalizing i b with
  | zero => omega
  | succ n ih =>
    unfold fill write
    by_cases hi : i < b.length
    · rw [if_pos hi]
      exact ih (by rw [List.length_set]; omega) (by omega)
    · rw [if_neg hi]
      rfl

theorem fillWithin_eq (v : UInt8) (n i : ℕ) (b : Bytes) :
    fillWithin v n i b = some (b.copyAt i (List.replicate n v)) := by
  induction n generalizing i b with
  | zero => simp [fillWithin, copyAt, copy]
  | succ n ih =>
    unfold fillWithin
    by_cases hi : i < b.length
    · rw [if_pos hi, List.replicate_succ, copyAt_cons hi, write_of_lt hi]
      exact ih (i + 1) (b.set i v)
    · rw [if_neg hi, copyAt_of_le (Nat.le_of_not_lt hi)]

theorem copyTo_eq (hle : lo ≤ hi) (hhi : hi ≤ b.length) (hsrc : src.length = hi - lo) :
    b.copyTo lo hi src = some (b.take lo ++ (src ++ b.drop hi)) := by
  have hdst : ((b.take hi).drop lo).length = src.length := by
    rw [List.length_drop, List.length_take]
    omega
  unfold copyTo cut
  rw [if_pos ⟨hle, hhi⟩]
  show some (b.take lo ++ (copy ((b.take hi).drop lo) src ++ b.drop hi)) = _
  unfold copy
  rw [hdst, List.take_length, List.drop_of_length_le (Nat.le_of_eq hdst), List.append_nil]

theorem copyTo_of_lt (h : b.length < hi) (lo : ℕ) (src : Bytes) : b.copyTo lo hi src = none := by
  unfold copyTo cut
  rw [if_neg fun hcut => Nat.not_lt_of_le hcut.2 h]
  rfl

theorem make_bind_copyTo_of_lt (h : i < hi + n) (lo : ℕ) (src : Bytes) :
    (make ((i : ℤ) - n)).bind (fun b => b.copyTo lo hi src) = none := by
  by_cases hn : n ≤ i
  · rw [make_sub hn]
    refine copyTo_of_lt ?_ lo src
    rw [List.length_replicate]
    omega
  · unfold make
    rw [if_neg (by omega)]
    rfl

theorem copyTo_copyTo {front back : Bytes} (h : b.length = front.length + back.length) :
    ((b.copyTo 0 front.length front).bind fun r => r.copyTo front.length r.length back) =
      some (front ++ back) := by
  have hlen : (front ++ b.drop front.length).length = b.length := by
    rw [List.length_append, List.length_drop]
    omega
  rw [copyTo_eq (Nat.zero_le _) (by omega) rfl, List.take_zero, List.nil_append]
  show copyTo (front ++ b.drop front.length) front.length (front ++ b.drop front.length).length
    back = _
  rw [copyTo_eq (by omega) (Nat.le_refl _) (by omega), List.drop_length, List.append_nil,
    List.take_left]

end Bytes
