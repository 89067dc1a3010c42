import NssAAF.Lib.Bytes

/-!
# Hexadecimal strings

Two digits of either case for each octet; what is encoded has digits of lower case.
-/

namespace Hex

def value? (c : Char) : Option UInt8 :=
  if '0' ≤ c ∧ c ≤ '9' then some (UInt8.ofNat (c.toNat - '0'.toNat))
  else if 'a' ≤ c ∧ c ≤ 'f' then some (UInt8.ofNat (c.toNat - 'a'.toNat + 10))
  else if 'A' ≤ c ∧ c ≤ 'F' then some (UInt8.ofNat (c.toNat - 'A'.toNat + 10))
  else none

def decode : List Char → Option Bytes
  | [] => some []
  | [_] => none
  | hi :: lo :: rest => do
    let h ← value? hi
    let l ← value? lo
    let b ← decode rest
    return (h * 16 + l) :: b

def decodeString (s : String) : Option Bytes := decode s.toList

def digit (n : UInt8) : Char :=
  if n < 10 then Char.ofNat (n.toNat + '0'.toNat) else Char.ofNat (n.toNat - 10 + 'a'.toNat)

def encodeToString (b : Bytes) : String :=
  String.ofList (b.flatMap fun x => [digit (x / 16), digit (x % 16)])

example : decodeString "01aBff" = some [1, 171, 255] := by decide

example : encodeToString [1, 171, 255] = "01abff" := by decide

theorem le_iff_toNat_le {a b : Char} : a ≤ b ↔ a.toNat ≤ b.toNat := by
  rw [Char.le_def, UInt32.le_iff_toNat_le]
  rfl

/-- A digit has a value below 16. If it is a letter, the value is at least 10. -/
theorem value?_cases {c : Char} {v : UInt8} (h : value? c = some v) :
    v.toNat < 16 ∧ (c.toNat = 48 + v.toNat ∨ 10 ≤ v.toNat) := by
  unfold value? at h
  simp only [le_iff_toNat_le, Char.reduceToNat] at h
  split_ifs at h <;> rw [Option.some.injEq] at h <;> subst h <;> rw [UInt8.toNat_ofNat'] <;> omega

theorem value?_zero : value? '0' = some 0 := rfl

theorem value?_eq_zero_iff {c : Char} : value? c = some 0 ↔ c = '0' := by
  constructor
  · intro h
    rcases (value?_cases h).2 with hc | hc
    · exact Char.toNat_inj.mp hc
    · exact absurd hc (by decide)
  · rintro rfl
    exact value?_zero

theorem mul_add_eq_zero_iff {hi lo : Char} {h l : UInt8} (hh : value? hi = some h)
    (hl : value? lo = some l) : h * 16 + l = 0 ↔ hi = '0' ∧ lo = '0' := by
  have h1 := (value?_cases hh).1
  have h2 := (value?_cases hl).1
  rw [← value?_eq_zero_iff, ← value?_eq_zero_iff, hh, hl, Option.some.injEq, Option.some.injEq,
    ← UInt8.toNat_inj, ← UInt8.toNat_inj, ← UInt8.toNat_inj, UInt8.toNat_add, UInt8.toNat_mul]
  show (h.toNat * 16 % 256 + l.toNat) % 256 = 0 ↔ h.toNat = 0 ∧ l.toNat = 0
  omega

theorem decode_eq_zeros_iff {n : ℕ} {cs : List Char} :
    decode cs = some (List.replicate n 0) ↔ cs = List.replicate (2 * n) '0' := by
  induction n generalizing cs with
  | zero =>
    match cs with
    | [] => exact iff_of_true rfl rfl
    | [_] => exact iff_of_false nofun nofun
    | hi :: lo :: rest =>
      refine iff_of_false (fun h => ?_) nofun
      obtain ⟨x, -, h⟩ := Option.bind_eq_some_iff.mp h
      obtain ⟨y, -, h⟩ := Option.bind_eq_some_iff.mp h
      obtain ⟨b, -, h⟩ := Option.bind_eq_some_iff.mp h
      cases h
  | succ n ih =>
    match cs with
    | [] => exact iff_of_false nofun nofun
    | [_] => exact iff_of_false nofun nofun
    | hi :: lo :: rest =>
      rw [show 2 * (n + 1) = 2 * n + 1 + 1 by omega, List.replicate_succ, List.replicate_succ,
        List.replicate_succ, List.cons.injEq, List.cons.injEq, ← ih]
      constructor
      · intro h
        obtain ⟨x, hx, h⟩ := Option.bind_eq_some_iff.mp h
        obtain ⟨y, hy, h⟩ := Option.bind_eq_some_iff.mp h
        obtain ⟨b, hb, h⟩ := Option.bind_eq_some_iff.mp h
        obtain ⟨hxy, rfl⟩ := List.cons.inj (Option.some.inj h)
        obtain ⟨h1, h2⟩ := (mul_add_eq_zero_iff hx hy).mp hxy
        exact ⟨h1, h2, hb⟩
      · rintro ⟨rfl, rfl, hb⟩
        show (decode rest).bind _ = _
        rw [hb]
        rfl

theorem value?_isSome_iff {c : Char} :
    (value? c).isSome ↔ ('0' ≤ c ∧ c ≤ '9') ∨ ('a' ≤ c ∧ c ≤ 'f') ∨ ('A' ≤ c ∧ c ≤ 'F') := by
  unfold value?
  split_ifs with h1 h2 h3
  · exact iff_of_true rfl (Or.inl h1)
  · exact iff_of_true rfl (Or.inr (Or.inl h2))
  · exact iff_of_true rfl (Or.inr (Or.inr h3))
  · refine iff_of_false Bool.false_ne_true ?_
    rintro (h | h | h)
    · exact h1 h
    · exact h2 h
    · exact h3 h

theorem toNat_lt_of_value? {c : Char} {v : UInt8} (h : value? c = some v) : c.toNat < 128 := by
  have hc := value?_isSome_iff.mp (Option.isSome_iff_exists.mpr ⟨v, h⟩)
  simp only [le_iff_toNat_le, Char.reduceToNat] at hc
  omega

theorem digit_of_value? {c : Char} {v : UInt8} (h : value? c = some v) : digit v = c.toLower := by
  have hall : ∀ n < 128, ∀ v ∈ value? (Char.ofNat n), digit v = (Char.ofNat n).toLower := by
    decide +kernel
  have hc := hall c.toNat (toNat_lt_of_value? h) v
  rw [Char.ofNat_toNat] at hc
  exact hc h

theorem div_mod_octet {h l : UInt8} (hh : h.toNat < 16) (hl : l.toNat < 16) :
    (h * 16 + l) / 16 = h ∧ (h * 16 + l) % 16 = l := by
  have hoctet : (h * 16 + l).toNat = h.toNat * 16 + l.toNat := by
    rw [UInt8.toNat_add, UInt8.toNat_mul]
    show (h.toNat * 16 % 256 + l.toNat) % 256 = _
    omega
  constructor
  · apply UInt8.toNat_inj.mp
    rw [UInt8.toNat_div, hoctet]
    show (h.toNat * 16 + l.toNat) / 16 = h.toNat
    omega
  · apply UInt8.toNat_inj.mp
    rw [UInt8.toNat_mod, hoctet]
    show (h.toNat * 16 + l.toNat) % 16 = l.toNat
    omega

theorem decode_cons_ok {hi lo : Char} {rest : List Char} {b : Bytes}
    (h : decode (hi :: lo :: rest) = some b) :
    ∃ x y tail, value? hi = some x ∧ value? lo = some y ∧ decode rest = some tail ∧
      b = (x * 16 + y) :: tail := by
  obtain ⟨x, hx, h⟩ := Option.bind_eq_some_iff.mp h
  obtain ⟨y, hy, h⟩ := Option.bind_eq_some_iff.mp h
  obtain ⟨tail, ht, h⟩ := Option.bind_eq_some_iff.mp h
  exact ⟨x, y, tail, hx, hy, ht, (Option.some.inj h).symm⟩

theorem digits_of_decode {cs : List Char} {b : Bytes} (h : decode cs = some b) :
    (b.flatMap fun x => [digit (x / 16), digit (x % 16)]) = cs.map Char.toLower := by
  induction cs using decode.induct generalizing b with
  | case1 =>
    cases h
    rfl
  | case2 c => cases h
  | case3 hi lo rest ih =>
    obtain ⟨x, y, tail, hx, hy, ht, rfl⟩ := decode_cons_ok h
    obtain ⟨hdiv, hmod⟩ := div_mod_octet (value?_cases hx).1 (value?_cases hy).1
    rw [List.flatMap_cons, ih ht, hdiv, hmod, digit_of_value? hx, digit_of_value? hy]
    rfl

theorem decode_isSome_iff {n : ℕ} {cs : List Char} :
    (∃ b, decode cs = some b ∧ b.length = n) ↔
      cs.length = 2 * n ∧ ∀ c ∈ cs, (value? c).isSome := by
  induction cs using decode.induct generalizing n with
  | case1 =>
    constructor
    · rintro ⟨b, h, rfl⟩
      cases h
      exact ⟨rfl, nofun⟩
    · rintro ⟨h, -⟩
      rw [List.length_nil] at h
      exact ⟨[], rfl, by rw [List.length_nil]; omega⟩
  | case2 c =>
    refine iff_of_false (fun ⟨b, h, _⟩ => by cases h) (fun h => ?_)
    have hlen := h.1
    rw [List.length_singleton] at hlen
    omega
  | case3 hi lo rest ih =>
    constructor
    · rintro ⟨b, h, rfl⟩
      obtain ⟨x, y, tail, hx, hy, ht, rfl⟩ := decode_cons_ok h
      obtain ⟨hlen, hall⟩ := ih.mp ⟨tail, ht, rfl⟩
      refine ⟨by simp only [List.length_cons]; omega, ?_⟩
      intro c hc
      rcases List.mem_cons.mp hc with rfl | hc
      · rw [hx]; rfl
      rcases List.mem_cons.mp hc with rfl | hc
      · rw [hy]; rfl
      · exact hall c hc
    · rintro ⟨hlen, hall⟩
      obtain ⟨x, hx⟩ := Option.isSome_iff_exists.mp (hall hi (by simp))
      obtain ⟨y, hy⟩ := Option.isSome_iff_exists.mp (hall lo (by simp))
      simp only [List.length_cons] at hlen
      obtain ⟨tail, ht, htail⟩ := (@ih (n - 1)).mpr ⟨by omega, fun c hc => hall c (by simp [hc])⟩
      refine ⟨(x * 16 + y) :: tail, ?_, by rw [List.length_cons]; omega⟩
      show (value? hi).bind _ = _
      rw [hx, Option.bind_some, hy]
      show (decode rest).bind _ = _
      rw [ht]
      rfl

theorem value?_toUpper (c : Char) : value? c.toUpper = value? c := by
  have hall : ∀ n < 128, value? (Char.ofNat n).toUpper = value? (Char.ofNat n) := by
    decide +kernel
  by_cases hc : c.toNat < 128
  · have hn := hall c.toNat hc
    rwa [Char.ofNat_toNat] at hn
  · -- beyond the letters nothing has an upper case
    have hsame : c.toUpper = c := by
      refine dif_neg fun h => hc ?_
      have hz : c.toNat ≤ 122 := UInt32.le_iff_toNat_le.mp h.2
      omega
    rw [hsame]

theorem decode_map_toUpper (cs : List Char) : decode (cs.map Char.toUpper) = decode cs := by
  induction cs using decode.induct with
  | case1 => rfl
  | case2 c => rfl
  | case3 hi lo rest ih =>
    rw [List.map_cons, List.map_cons, decode, decode, value?_toUpper, value?_toUpper, ih]

theorem toUpper_toLower_of_value? {c : Char} {v : UInt8} (h : value? c = some v) :
    c.toLower.toUpper = c.toUpper := by
  have hall : ∀ n < 128, (Char.ofNat n).toLower.toUpper = (Char.ofNat n).toUpper := by
    decide +kernel
  have hc := hall c.toNat (toNat_lt_of_value? h)
  rwa [Char.ofNat_toNat] at hc

theorem map_toUpper_toLower {cs : List Char} (h : ∀ c ∈ cs, (value? c).isSome) :
    (cs.map Char.toLower).map Char.toUpper = cs.map Char.toUpper := by
  rw [List.map_map]
  refine List.map_congr_left fun c hc => ?_
  obtain ⟨v, hv⟩ := Option.isSome_iff_exists.mp (h c hc)
  exact toUpper_toLower_of_value? hv

theorem decode_eq_decode_iff {cs ds : List Char} {b : Bytes} (h : decode cs = some b)
    (hds : ∀ d ∈ ds, (value? d).isSome) :
    decode cs = decode ds ↔ cs.map Char.toUpper = ds.map Char.toUpper := by
  obtain ⟨-, hcs⟩ := decode_isSome_iff.mp ⟨b, h, rfl⟩
  constructor
  · intro heq
    rw [← map_toUpper_toLower hcs, ← map_toUpper_toLower hds, ← digits_of_decode h,
      ← digits_of_decode (heq.symm.trans h)]
  · intro heq
    rw [← decode_map_toUpper cs, heq, decode_map_toUpper]

theorem size_utf8Encode {cs : List Char} (h : ∀ c ∈ cs, (value? c).isSome) :
    cs.utf8Encode.size = cs.length := by
  induction cs with
  | nil => rfl
  | cons c cs ih =>
    obtain ⟨v, hv⟩ := Option.isSome_iff_exists.mp (h c (by simp))
    have hc := toNat_lt_of_value? hv
    have hone : c.utf8Size = 1 := by
      rw [Char.utf8Size_eq_one_iff, UInt32.le_iff_toNat_le]
      exact Nat.le_of_lt_succ hc
    rw [List.utf8Encode_cons, ByteArray.size_append, ih (fun d hd => h d (by simp [hd])),
      List.length_cons, List.utf8Encode_singleton, List.size_toByteArray,
      String.length_utf8EncodeChar, hone, Nat.add_comm]

theorem utf8ByteSize_of_decode {s : String} {b : Bytes} (h : decodeString s = some b) :
    s.utf8ByteSize = 2 * b.length := by
  obtain ⟨hlen, hall⟩ := decode_isSome_iff.mp ⟨b, h, rfl⟩
  rw [← hlen, ← size_utf8Encode hall, String.utf8Encode_toList]
  rfl

end Hex
