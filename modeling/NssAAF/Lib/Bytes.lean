import Mathlib.Tactic.Common
import Mathlib.Data.List.Basic

/-!
# Octet strings

Octet strings are lists of `UInt8`. A slice that may be nil is an `Option Bytes`, where `none` is
nil and `some []` is the empty slice. The module has the big-endian fields of the wire formats and
the cutting of a string into pieces.
-/

/-- An octet string. -/
abbrev Bytes : Type := List UInt8

namespace Bytes

def ofString (s : String) : Bytes := s.toUTF8.toList

/-- The text of the octets, empty if they are no UTF-8. -/
def text (b : Bytes) : String := (String.fromUTF8? ⟨b.toArray⟩).getD ""

theorem toList_loop (b : ByteArray) (i : ℕ) (front : Bytes) :
    ByteArray.toList.loop b i front = front.reverse ++ b.data.toList.drop i := by
  fun_induction ByteArray.toList.loop b i front with
  | case1 i front hlt ih =>
    have hi : i < b.data.toList.length := hlt
    have hget : b.get! i = b.data.toList[i] := getElem!_pos b.data i hlt
    rw [ih, List.reverse_cons, List.append_assoc, hget, List.singleton_append,
      List.getElem_cons_drop]
  | case2 i front hle =>
    rw [List.drop_of_length_le (Nat.le_of_not_lt hle), List.append_nil]

@[simp] theorem text_ofString (s : String) : text (ofString s) = s := by
  have hdata : (⟨(ofString s).toArray⟩ : ByteArray) = s.toUTF8 := by
    unfold ofString ByteArray.toList
    rw [toList_loop]
    rfl
  have hread : String.fromUTF8? s.toUTF8 = some s := dif_pos s.isValidUTF8
  unfold text
  rw [hdata, hread, Option.getD_some]

/-- The 16-bit number whose big-endian octets are `hi` and `lo`. -/
def uint16 (hi lo : UInt8) : UInt16 := UInt16.ofNat (hi.toNat * 256 + lo.toNat)

def putUint16 (n : ℕ) : Bytes := [UInt8.ofNat (n / 256), UInt8.ofNat n]

theorem toNat_uint16 (hi lo : UInt8) : (uint16 hi lo).toNat = hi.toNat * 256 + lo.toNat := by
  have h1 := hi.toNat_lt
  have h2 := lo.toNat_lt
  unfold uint16
  rw [UInt16.toNat_ofNat']
  omega

theorem toNat_uint16_putUint16 {n : ℕ} (hn : n < 65536) :
    (uint16 (UInt8.ofNat (n / 256)) (UInt8.ofNat n)).toNat = n := by
  rw [toNat_uint16, UInt8.toNat_ofNat', UInt8.toNat_ofNat']
  omega

theorem putUint16_toNat_uint16 (hi lo : UInt8) : putUint16 (uint16 hi lo).toNat = [hi, lo] := by
  have h1 := hi.toNat_lt
  have h2 := lo.toNat_lt
  have hhi : UInt8.ofNat ((uint16 hi lo).toNat / 256) = hi := by
    apply UInt8.toNat_inj.mp
    rw [toNat_uint16, UInt8.toNat_ofNat']
    omega
  have hlo : UInt8.ofNat (uint16 hi lo).toNat = lo := by
    apply UInt8.toNat_inj.mp
    rw [toNat_uint16, UInt8.toNat_ofNat']
    omega
  unfold putUint16
  rw [hhi, hlo]

/-- The little-endian 16-bit number at offset `i`. -/
def uint16LE (b : Bytes) (i : ℕ) : ℕ := (b.getD i 0).toNat + 256 * (b.getD (i + 1) 0).toNat

/-- The little-endian 16-bit number at offset `i`, if there is one. -/
def uint16LE? (b : Bytes) (i : ℕ) : Option ℕ :=
  if i + 2 ≤ b.length then some (uint16LE b i) else none

def putUint32 (n : UInt32) : Bytes :=
  [(n >>> 24).toUInt8, (n >>> 16).toUInt8, (n >>> 8).toUInt8, n.toUInt8]

/-- Overwrites the front of `dst` with `src`, as far as there is room. -/
def copy (dst src : Bytes) : Bytes := src.take dst.length ++ dst.drop src.length

theorem length_copy (dst src : Bytes) : (copy dst src).length = dst.length := by
  unfold copy
  rw [List.length_append, List.length_take, List.length_drop]
  omega

/-- Overwrites `dst` with `src` from offset `i` on, as far as there is room. -/
def copyAt (dst : Bytes) (i : ℕ) (src : Bytes) : Bytes := dst.take i ++ copy (dst.drop i) src

theorem length_copyAt (dst : Bytes) (i : ℕ) (src : Bytes) :
    (copyAt dst i src).length = dst.length := by
  unfold copyAt
  rw [List.length_append, length_copy, List.length_take, List.length_drop]
  omega

theorem copyAt_eq {dst src : Bytes} {i : ℕ} (h : i + src.length ≤ dst.length) :
    copyAt dst i src = dst.take i ++ (src ++ dst.drop (i + src.length)) := by
  have htake : src.take (dst.drop i).length = src := by
    apply List.take_of_length_le
    rw [List.length_drop]
    omega
  unfold copyAt copy
  rw [htake, List.drop_drop]

theorem copyAt_append {front old src : Bytes} (h : src.length = old.length) (back : Bytes) :
    copyAt (front ++ (old ++ back)) front.length src = front ++ (src ++ back) := by
  unfold copyAt copy
  rw [List.take_left, List.drop_left, List.take_of_length_le, h, List.drop_left]
  rw [List.length_append]
  omega

/-! ### Reading at an offset -/

theorem getD_of_drop_eq {b rest : Bytes} {i : ℕ} {a : UInt8} (h : b.drop i = a :: rest) :
    b.getD i 0 = a := by
  have hget : (b.drop i)[0]? = some a := by rw [h]; rfl
  rw [List.getElem?_drop, Nat.add_zero] at hget
  rw [List.getD_eq_getElem?_getD, hget]
  rfl

theorem drop_add_of_drop_eq {b front rest : Bytes} {i : ℕ} (h : b.drop i = front ++ rest) :
    b.drop (i + front.length) = rest := by
  rw [← List.drop_drop, h, List.drop_left]

theorem drop_succ_of_drop_eq {b rest : Bytes} {i : ℕ} {a : UInt8} (h : b.drop i = a :: rest) :
    b.drop (i + 1) = rest := by
  rw [← List.drop_drop, h, List.drop_one, List.tail_cons]

theorem length_of_drop_eq {b rest : Bytes} {i : ℕ} (h : b.drop i = rest) (hne : rest ≠ []) :
    b.length = i + rest.length := by
  have hpos := List.length_pos_iff.mpr hne
  rw [← h, List.length_drop] at hpos ⊢
  omega

/-- Cuts a string into pieces of `n` octets, the last one possibly shorter. There are at most
`fuel` pieces. -/
def pieces (n : ℕ) : ℕ → Bytes → List Bytes
  | 0, _ => []
  | fuel + 1, b => if b = [] then [] else b.take n :: pieces n fuel (b.drop n)

theorem flatten_pieces {n : ℕ} (hn : 0 < n) {fuel : ℕ} {b : Bytes} (h : b.length ≤ fuel) :
    (pieces n fuel b).flatten = b := by
  induction fuel generalizing b with
  | zero =>
    rw [List.eq_nil_of_length_eq_zero (Nat.le_zero.mp h)]
    rfl
  | succ fuel ih =>
    unfold pieces
    split_ifs with hb
    · rw [hb]
      rfl
    · have hpos := List.length_pos_iff.mpr hb
      rw [List.flatten_cons, ih (by rw [List.length_drop]; omega), List.take_append_drop]

theorem length_le_of_mem_pieces {n fuel : ℕ} {b p : Bytes} (hp : p ∈ pieces n fuel b) :
    p.length ≤ n := by
  induction fuel generalizing b with
  | zero => cases hp
  | succ fuel ih =>
    unfold pieces at hp
    split_ifs at hp
    · cases hp
    · rcases List.mem_cons.mp hp with rfl | hp
      · rw [List.length_take]
        omega
      · exact ih hp

end Bytes
