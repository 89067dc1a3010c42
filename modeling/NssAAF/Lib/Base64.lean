import NssAAF.Lib.Bytes

/-!
# Base64 with padding

The standard alphabet and padding. Decoding skips line breaks, needs the padding, and ignores the
low bits of the last digit that no octet uses. `decode_encode` is the round trip.
-/

namespace Base64

def alphabet : List Char :=
  "ABCDEFGHIJKLMNOPQRSTUVWXYZabcdefghijklmnopqrstuvwxyz0123456789+/".toList

def digit (n : ℕ) : Char := alphabet.getD n 'A'

def value? (c : Char) : Option ℕ := alphabet.findIdx? (· == c)

/-- Three octets at a time become four digits. -/
def encode : Bytes → List Char
  | a :: b :: c :: rest =>
    digit (a.toNat / 4) :: digit (a.toNat % 4 * 16 + b.toNat / 16) ::
      digit (b.toNat % 16 * 4 + c.toNat / 64) :: digit (c.toNat % 64) :: encode rest
  | [a, b] =>
    [digit (a.toNat / 4), digit (a.toNat % 4 * 16 + b.toNat / 16), digit (b.toNat % 16 * 4), '=']
  | [a] => [digit (a.toNat / 4), digit (a.toNat % 4 * 16), '=', '=']
  | [] => []

/-- The octets of the first two, three or four digits of a quantum. -/
def octet₁ (v w : ℕ) : UInt8 := UInt8.ofNat (v * 4 + w / 16)
@[inherit_doc octet₁] def octet₂ (w x : ℕ) : UInt8 := UInt8.ofNat (w % 16 * 16 + x / 4)
@[inherit_doc octet₁] def octet₃ (x y : ℕ) : UInt8 := UInt8.ofNat (x % 4 * 64 + y)

/-- The octets of a text without line breaks: padding stands at the end only. -/
def decodeQuanta : List Char → Option Bytes
  | [] => some []
  | [p, q, '=', '='] => do
    let v ← value? p
    let w ← value? q
    pure [octet₁ v w]
  | [p, q, r, '='] => do
    let v ← value? p
    let w ← value? q
    let x ← value? r
    pure [octet₁ v w, octet₂ w x]
  | p :: q :: r :: t :: rest => do
    let v ← value? p
    let w ← value? q
    let x ← value? r
    let y ← value? t
    let bs ← decodeQuanta rest
    pure (octet₁ v w :: octet₂ w x :: octet₃ x y :: bs)
  | _ => none

/-- Line breaks may stand anywhere. -/
def IsLineBreak (c : Char) : Prop := c = '\r' ∨ c = '\n'

instance : DecidablePred IsLineBreak := fun c => inferInstanceAs (Decidable (c = '\r' ∨ c = '\n'))

def decode (cs : List Char) : Option Bytes := decodeQuanta (cs.filter fun c => ¬ IsLineBreak c)

/-! ## The digits -/

theorem value?_digit {n : ℕ} (hn : n < 64) : value? (digit n) = some n := by
  have h : ∀ k : Fin 64, value? (digit k) = some k.val := by decide +kernel
  exact h ⟨n, hn⟩

theorem digit_ne {n : ℕ} (hn : n < 64) {c : Char} (hc : value? c = none) : digit n ≠ c := by
  rintro rfl
  rw [value?_digit hn] at hc
  cases hc

theorem value?_pad : value? '=' = none := by decide +kernel

theorem value?_of_isLineBreak {c : Char} (hc : IsLineBreak c) : value? c = none := by
  rcases hc with rfl | rfl
  · decide +kernel
  · decide +kernel

theorem digit_ne_pad {n : ℕ} (hn : n < 64) : digit n ≠ '=' := digit_ne hn value?_pad

theorem not_isLineBreak_digit {n : ℕ} (hn : n < 64) : ¬ IsLineBreak (digit n) :=
  fun h => digit_ne hn (value?_of_isLineBreak h) rfl

theorem not_isLineBreak_pad : ¬ IsLineBreak '=' := by decide

/-! ## Round trip -/

section Octets

variable (a b c : UInt8)

theorem octet₁_digits {w : ℕ} (hw : w / 16 = a.toNat % 4) : octet₁ (a.toNat / 4) w = a := by
  unfold octet₁
  rw [hw, show a.toNat / 4 * 4 + a.toNat % 4 = a.toNat by omega, UInt8.ofNat_toNat]

theorem octet₂_digits {w x : ℕ} (hw : w % 16 = b.toNat / 16) (hx : x / 4 = b.toNat % 16) :
    octet₂ w x = b := by
  unfold octet₂
  rw [hw, hx, show b.toNat / 16 * 16 + b.toNat % 16 = b.toNat by omega, UInt8.ofNat_toNat]

theorem octet₃_digits {x : ℕ} (hx : x % 4 = c.toNat / 64) : octet₃ x (c.toNat % 64) = c := by
  unfold octet₃
  rw [hx, show c.toNat / 64 * 64 + c.toNat % 64 = c.toNat by omega, UInt8.ofNat_toNat]

end Octets

theorem decodeQuanta_quantum {p q r t : Char} {v w x y : ℕ} (hp : value? p = some v)
    (hq : value? q = some w) (hr : value? r = some x) (ht : value? t = some y) (hpad : t ≠ '=')
    (rest : List Char) :
    decodeQuanta (p :: q :: r :: t :: rest) =
      (decodeQuanta rest).map fun bs => octet₁ v w :: octet₂ w x :: octet₃ x y :: bs := by
  rw [decodeQuanta, hp, hq, hr, ht]
  · cases decodeQuanta rest <;> rfl
  · intro _ h
    exact absurd h hpad
  · intro h
    exact absurd h hpad

theorem decodeQuanta_encode (bs : Bytes) : decodeQuanta (encode bs) = some bs := by
  induction bs using encode.induct with
  | case1 a b c rest ih =>
    have ha := a.toNat_lt
    have hb := b.toNat_lt
    have hc := c.toNat_lt
    rw [encode, decodeQuanta_quantum (value?_digit (by omega)) (value?_digit (by omega))
      (value?_digit (by omega)) (value?_digit (by omega)) (digit_ne_pad (by omega)), ih,
      Option.map_some, octet₁_digits a (by omega), octet₂_digits b (by omega) (by omega),
      octet₃_digits c (by omega)]
  | case2 a b =>
    have ha := a.toNat_lt
    have hb := b.toNat_lt
    have hpad : digit (b.toNat % 16 * 4) ≠ '=' := digit_ne_pad (by omega)
    rw [encode, decodeQuanta, value?_digit (by omega), value?_digit (by omega),
      value?_digit (by omega)]
    · simp only [Option.bind_eq_bind, Option.bind_some, Option.pure_def]
      rw [octet₁_digits a (by omega), octet₂_digits b (by omega) (by omega)]
    · intro h
      exact absurd h hpad
  | case3 a =>
    have ha := a.toNat_lt
    rw [encode, decodeQuanta, value?_digit (by omega), value?_digit (by omega)]
    simp only [Option.bind_eq_bind, Option.bind_some, Option.pure_def]
    rw [octet₁_digits a (by omega)]
  | case4 => rfl

theorem mem_encode {bs : Bytes} {d : Char} (hd : d ∈ encode bs) :
    d = '=' ∨ ∃ n < 64, d = digit n := by
  induction bs using encode.induct with
  | case1 a b c rest ih =>
    have ha := a.toNat_lt
    have hb := b.toNat_lt
    have hc := c.toNat_lt
    simp only [encode, List.mem_cons] at hd
    obtain hd | hd | hd | hd | hd := hd
    · exact Or.inr ⟨_, by omega, hd⟩
    · exact Or.inr ⟨_, by omega, hd⟩
    · exact Or.inr ⟨_, by omega, hd⟩
    · exact Or.inr ⟨_, by omega, hd⟩
    · exact ih hd
  | case2 a b =>
    have ha := a.toNat_lt
    have hb := b.toNat_lt
    simp only [encode, List.mem_cons, List.not_mem_nil, or_false] at hd
    obtain hd | hd | hd | hd := hd
    · exact Or.inr ⟨_, by omega, hd⟩
    · exact Or.inr ⟨_, by omega, hd⟩
    · exact Or.inr ⟨_, by omega, hd⟩
    · exact Or.inl hd
  | case3 a =>
    have ha := a.toNat_lt
    simp only [encode, List.mem_cons, List.not_mem_nil, or_false] at hd
    obtain hd | hd | hd | hd := hd
    · exact Or.inr ⟨_, by omega, hd⟩
    · exact Or.inr ⟨_, by omega, hd⟩
    · exact Or.inl hd
    · exact Or.inl hd
  | case4 => cases hd

theorem filter_encode (bs : Bytes) :
    ((encode bs).filter fun c => ¬ IsLineBreak c) = encode bs := by
  rw [List.filter_eq_self]
  intro d hd
  rw [decide_eq_true_eq]
  obtain rfl | ⟨n, hn, rfl⟩ := mem_encode hd
  · exact not_isLineBreak_pad
  · exact not_isLineBreak_digit hn

theorem decode_encode (bs : Bytes) : decode (encode bs) = some bs := by
  unfold decode
  rw [filter_encode, decodeQuanta_encode]

def encodeToString (bs : Bytes) : String := String.ofList (encode bs)

/-- The octets of a text, or `none` if it is not valid. -/
def decodeString (s : String) : Option Bytes := decode s.toList

@[simp] theorem decodeString_encodeToString (bs : Bytes) :
    decodeString (encodeToString bs) = some bs := by
  unfold decodeString encodeToString
  rw [String.toList_ofList, decode_encode]

example : encodeToString [0x74, 0x65, 0x73, 0x74] = "dGVzdA==" := by decide

end Base64
