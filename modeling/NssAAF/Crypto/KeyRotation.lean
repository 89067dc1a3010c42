import NssAAF.Lib.Transducer
import NssAAF.Crypto.Envelope

/-!
# Rotation of the master key

The `SoftKeyManager` of `internal/crypto/kms.go` over whole runs. `Rotate` derives the next master
key from the current one and keeps one key before it. `kekOverlap` is set by `SetOverlapDays` and
read by nothing.

A wrapped key is opened after no rotation or one, and never after more (`Follows.unwrap_eq`): the
key that wrapped it is then neither the master key nor the previous one. What is left of the overlap
that was configured is the part before the second rotation.
-/

namespace NssAAF.Crypto

open Transducer

/-- The two stages of HKDF, of the standard library. -/
structure Kdf where
  extract : Bytes → Bytes → Except String Bytes
  expand : Bytes → String → ℕ → Except String Bytes

/-- A manager with its overlap, in days. -/
structure RotatingManager extends SoftKeyManager where
  kekOverlap : ℤ
  deriving DecidableEq

inductive KeyCall
  | wrap (nonce : Draw nonceSize) (dek : Bytes)
  | unwrap (wrappedDEK : Bytes)
  | getKeyVersion
  | rotate
  | setOverlapDays (days : ℤ)

inductive KeyAnswer
  | wrapped (answer : Except String (Bytes × ℤ))
  | unwrapped (answer : Except String Bytes)
  | version (answer : Except String ℤ)
  | rotated (answer : Except String Unit)
  | set
  deriving DecidableEq

/-- The manager that `NewSoftKeyManager` makes of the hexadecimal digits of a key. -/
def newSoftKeyManager (key : {b : Bytes // b.length = keySize}) : RotatingManager :=
  ⟨⟨key.1, 1, none⟩, 30⟩

section Code

variable (A : Aead) (kdf : Kdf)

def deriveKey (ikm : Bytes) (salt : Option Bytes) (info : String) (length : ℤ) :
    Except String Bytes :=
  if ikm.length = 0 then .error "DeriveKey: ikm cannot be empty"
  else if length ≤ 0 ∨ 255 < length then .error "DeriveKey: length must be 1-255"
  else
    match kdf.extract ikm (salt.getD (List.replicate 32 0)) with
    | .error err => .error ("DeriveKey: extract failed: " ++ err)
    | .ok prk => kdf.expand prk info length.toNat

namespace RotatingManager

variable (m : RotatingManager)

def nextKey : Except String Bytes :=
  deriveKey kdf m.masterKey none ("nssaa-kek-rotation:v" ++ toString (m.currentVer + 1)) 32

def step : KeyCall → KeyAnswer × RotatingManager
  | .wrap nonce dek => (.wrapped (m.wrap A nonce dek), m)
  | .unwrap wrappedDEK => (.unwrapped (m.unwrap A wrappedDEK), m)
  | .getKeyVersion => (.version (.ok m.currentVer), m)
  | .rotate =>
    match m.rotate (m.nextKey kdf) with
    | .error err => (.rotated (.error err), m)
    | .ok s => (.rotated (.ok ()), { m with toSoftKeyManager := s })
  | .setOverlapDays days => (.set, { m with kekOverlap := days })

end RotatingManager

end Code

abbrev KeyStep : Type := Record RotatingManager KeyCall KeyAnswer

def Rotates (r : KeyStep) : Prop := r.output = .rotated (.ok ())

instance : DecidablePred Rotates :=
  fun r => inferInstanceAs (Decidable (r.output = .rotated (.ok ())))

def rotations (h : List KeyStep) : ℕ := h.countP Rotates

def derivedKeys (h : List KeyStep) : List Bytes :=
  (h.filter Rotates).map fun r => r.post.masterKey

section Counting

variable {h : List KeyStep} {r : KeyStep}

theorem rotations_concat_of (hr : Rotates r) : rotations (h ++ [r]) = rotations h + 1 := by
  simp [rotations, hr]

theorem rotations_concat (hr : ¬ Rotates r) : rotations (h ++ [r]) = rotations h := by
  simp [rotations, hr]

theorem derivedKeys_concat_of (hr : Rotates r) :
    derivedKeys (h ++ [r]) = derivedKeys h ++ [r.post.masterKey] := by
  simp [derivedKeys, hr]

theorem derivedKeys_concat (hr : ¬ Rotates r) : derivedKeys (h ++ [r]) = derivedKeys h := by
  simp [derivedKeys, hr]

theorem derivedKeys_append (h h' : List KeyStep) :
    derivedKeys (h ++ h') = derivedKeys h ++ derivedKeys h' := by
  simp [derivedKeys]

end Counting

section Steps

variable {A : Aead} {kdf : Kdf} {m : RotatingManager} {h : List KeyStep}

/-- What a step does to the keys. -/
inductive KeyMoves (m : RotatingManager) (r : KeyStep) : Prop
  | kept (hno : ¬ Rotates r) (hsame : r.post.toSoftKeyManager = m.toSoftKeyManager)
  | rotated (key : Bytes) (hyes : Rotates r)
      (hpost : r.post.toSoftKeyManager = ⟨key, m.currentVer + 1, some m.masterKey⟩)

variable (A kdf m) in
theorem step_moves (c : KeyCall) :
    KeyMoves m (record (RotatingManager.step A kdf) m c) := by
  cases c with
  | wrap | unwrap | getKeyVersion | setOverlapDays =>
    refine .kept ?_ rfl
    simp [Rotates, RotatingManager.step]
  | rotate =>
    cases hrot : m.rotate (m.nextKey kdf) with
    | error err =>
      have hstep : m.step A kdf .rotate = (.rotated (.error err), m) := by
        unfold RotatingManager.step
        rw [hrot]
      exact .kept (by simp [Rotates, hstep]) (by rw [record_post, hstep])
    | ok s =>
      have hstep : m.step A kdf .rotate =
          (.rotated (.ok ()), { m with toSoftKeyManager := s }) := by
        unfold RotatingManager.step
        rw [hrot]
      obtain ⟨key, -, rfl⟩ := Results.of_map_ok hrot
      exact .rotated key (by simp [Rotates, hstep]) (by rw [record_post, hstep])

/-! ## The manager after a run -/

/-- A manager after the steps `h` from `m₁`: the key of `m₁` is the master key, then the previous
one, and then neither. -/
structure Follows (m₁ : RotatingManager) (h : List KeyStep) (m : RotatingManager) : Prop where
  version : m.currentVer = m₁.currentVer + rotations h
  same : rotations h = 0 → m.masterKey = m₁.masterKey
  kept : rotations h = 1 → m.previousKey = some m₁.masterKey
  master : 1 ≤ rotations h → m.masterKey ∈ derivedKeys h
  previous : 2 ≤ rotations h → ∃ key ∈ derivedKeys h, m.previousKey = some key

theorem follows_nil (m : RotatingManager) : Follows m [] m where
  version := (Int.add_zero _).symm
  same _ := rfl
  kept hone := absurd hone (by decide)
  master hone := absurd hone (by decide)
  previous htwo := absurd htwo (by decide)

variable {m₁ : RotatingManager}

theorem Follows.rotated {r : KeyStep} {key : Bytes} (hm : Follows m₁ h m) (hr : Rotates r)
    (hpost : r.post.toSoftKeyManager = ⟨key, m.currentVer + 1, some m.masterKey⟩) :
    Follows m₁ (h ++ [r]) r.post := by
  have hkey : r.post.masterKey = key := congrArg SoftKeyManager.masterKey hpost
  have hprev : r.post.previousKey = some m.masterKey := congrArg SoftKeyManager.previousKey hpost
  have hver : r.post.currentVer = m.currentVer + 1 := congrArg SoftKeyManager.currentVer hpost
  have hrot := rotations_concat_of (h := h) hr
  have hkeys := derivedKeys_concat_of (h := h) hr
  rw [hkey] at hkeys
  constructor
  · rw [hver, hm.version, hrot]
    push_cast
    omega
  · intro hzero
    omega
  · intro hone
    rw [hprev, hm.same (by omega)]
  · intro _
    rw [hkey, hkeys]
    exact List.mem_append_right _ (List.mem_singleton_self key)
  · intro htwo
    refine ⟨m.masterKey, ?_, hprev⟩
    rw [hkeys]
    exact List.mem_append_left _ (hm.master (by omega))

theorem Follows.step (hm : Follows m₁ h m) (c : KeyCall) :
    Follows m₁ (h ++ [record (RotatingManager.step A kdf) m c]) (m.step A kdf c).2 := by
  rcases step_moves A kdf m c with ⟨hno, hsame⟩ | ⟨key, hyes, hpost⟩
  · have hrot := rotations_concat (h := h) hno
    have hkeys := derivedKeys_concat (h := h) hno
    rw [record_post] at hsame
    constructor
    · rw [hsame, hrot]
      exact hm.version
    · rw [hsame, hrot]
      exact hm.same
    · rw [hsame, hrot]
      exact hm.kept
    · rw [hsame, hrot, hkeys]
      exact hm.master
    · rw [hsame, hrot, hkeys]
      exact hm.previous
  · exact hm.rotated hyes hpost

theorem follows_final (A : Aead) (kdf : Kdf) (m : RotatingManager) (calls : List KeyCall) :
    Follows m (trace (RotatingManager.step A kdf) m calls)
      (final (RotatingManager.step A kdf) m calls) :=
  history_inv (J := Follows m) (C := fun _ => True) (fun _ _ c hm _ => hm.step c) (follows_nil m)
    (fun _ _ => trivial)

theorem Follows.unwrap_eq (hm : Follows m₁ h m) (hA : A.Ideal)
    (hk : m₁.masterKey.length = keySize) (hnew : m₁.masterKey ∉ derivedKeys h) {dek w : Bytes}
    (hw : Sealed A m₁.masterKey dek w) :
    m.unwrap A w = if rotations h ≤ 1 then .ok dek else .error errDEKUnwrapFailed := by
  split_ifs with hle
  · apply hA.unwrap_of_sealed hk hw
    rcases Nat.le_one_iff_eq_zero_or_eq_one.mp hle with hzero | hone
    · exact Or.inl (hm.same hzero)
    · exact Or.inr (hm.kept hone)
  · obtain ⟨key, hmem, hprev⟩ := hm.previous (by omega)
    apply hA.unwrap_of_ne hk hw
    · intro hmaster
      exact hnew (hmaster ▸ hm.master (by omega))
    · intro hprevious
      rw [hprev, Option.some.injEq] at hprevious
      exact hnew (hprevious ▸ hmem)

theorem sealed_of_wrap {s : SoftKeyManager} (hA : A.Ideal) {nonce : Draw nonceSize}
    {dek w : Bytes} {ver : ℤ} (hwrap : s.wrap A nonce dek = .ok (w, ver)) :
    s.masterKey.length = keySize ∧ Sealed A s.masterKey dek w ∧ ver = s.currentVer := by
  have hk : s.masterKey.length = keySize := by
    by_contra hne
    unfold SoftKeyManager.wrap encrypt at hwrap
    rw [if_pos hne] at hwrap
    cases hwrap
  cases nonce with
  | error err =>
    unfold SoftKeyManager.wrap encrypt at hwrap
    rw [if_neg (not_not_intro hk)] at hwrap
    cases hwrap
  | ok n =>
    obtain ⟨out, hout, hsealed⟩ := hA.wrap_sealed hk n dek
    rw [hwrap] at hout
    cases hout
    exact ⟨hk, hsealed, rfl⟩

end Steps

/-! ## Runs -/

section Runs

variable (A : Aead) (kdf : Kdf) (key : {b : Bytes // b.length = keySize})

def managerAfter (calls : List KeyCall) : RotatingManager :=
  final (RotatingManager.step A kdf) (newSoftKeyManager key) calls

def stepsOf (calls : List KeyCall) : List KeyStep :=
  trace (RotatingManager.step A kdf) (newSoftKeyManager key) calls

/-- The steps of the calls `after` that follow the calls `before`. -/
def stepsSince (before after : List KeyCall) : List KeyStep :=
  trace (RotatingManager.step A kdf) (managerAfter A kdf key before) after

variable {A kdf key} {before after : List KeyCall} {nonce : Draw nonceSize} {dek w : Bytes}
  {ver : ℤ}

theorem managerAfter_append (before after : List KeyCall) :
    managerAfter A kdf key (before ++ after) =
      final (RotatingManager.step A kdf) (managerAfter A kdf key before) after :=
  final_append ..

theorem stepsOf_append (before after : List KeyCall) :
    stepsOf A kdf key (before ++ after) =
      stepsOf A kdf key before ++ stepsSince A kdf key before after :=
  trace_append ..

theorem masterKey_mem (before : List KeyCall) :
    (managerAfter A kdf key before).masterKey ∈
      key.1 :: derivedKeys (stepsOf A kdf key before) := by
  have hm := follows_final A kdf (newSoftKeyManager key) before
  rcases Nat.eq_zero_or_pos (rotations (stepsOf A kdf key before)) with hzero | hpos
  · exact List.mem_cons.mpr (Or.inl (hm.same hzero))
  · exact List.mem_cons_of_mem _ (hm.master hpos)

theorem masterKey_not_mem
    (hdistinct : (key.1 :: derivedKeys (stepsOf A kdf key (before ++ after))).Nodup) :
    (managerAfter A kdf key before).masterKey ∉
      derivedKeys (stepsSince A kdf key before after) := by
  rw [stepsOf_append, derivedKeys_append, ← List.cons_append, List.nodup_append] at hdistinct
  intro hmem
  exact hdistinct.2.2 _ (masterKey_mem before) _ hmem rfl

theorem managerAfter_wrap (before : List KeyCall) (nonce : Draw nonceSize) (dek : Bytes) :
    managerAfter A kdf key (before ++ [.wrap nonce dek]) = managerAfter A kdf key before := by
  rw [managerAfter_append]
  rfl

theorem unwrap_of_wrap (hA : A.Ideal)
    (hdistinct : (key.1 :: derivedKeys
      (stepsOf A kdf key (before ++ [.wrap nonce dek] ++ after))).Nodup)
    (hwrap : (managerAfter A kdf key before).wrap A nonce dek = .ok (w, ver)) :
    (managerAfter A kdf key (before ++ [.wrap nonce dek] ++ after)).unwrap A w =
      if rotations (stepsSince A kdf key (before ++ [.wrap nonce dek]) after) ≤ 1 then .ok dek
      else .error errDEKUnwrapFailed := by
  rw [← managerAfter_wrap before nonce dek] at hwrap
  obtain ⟨hk, hsealed, -⟩ := sealed_of_wrap hA hwrap
  rw [managerAfter_append]
  exact (follows_final A kdf _ after).unwrap_eq hA hk (masterKey_not_mem hdistinct) hsealed

theorem unwrapped_iff (hA : A.Ideal)
    (hdistinct : (key.1 :: derivedKeys
      (stepsOf A kdf key (before ++ [.wrap nonce dek] ++ after))).Nodup)
    (hwrap : (managerAfter A kdf key before).wrap A nonce dek = .ok (w, ver)) :
    ((managerAfter A kdf key (before ++ [.wrap nonce dek] ++ after)).step A kdf (.unwrap w)).1 =
        .unwrapped (.ok dek) ↔
      rotations (stepsSince A kdf key (before ++ [.wrap nonce dek]) after) ≤ 1 := by
  show KeyAnswer.unwrapped ((managerAfter A kdf key _).unwrap A w) = _ ↔ _
  rw [unwrap_of_wrap hA hdistinct hwrap]
  split_ifs with hle
  · exact iff_of_true rfl hle
  · exact iff_of_false (by simp) hle

/-- **The window of a rotation.** In every run of a manager whose keys are distinct, a key that was
wrapped is opened if and only if at most one rotation came after its `Wrap`, and `Unwrap` fails
otherwise. The version that `Wrap` returns counts the rotations before it. -/
theorem rotation_window (A : Aead) (hA : A.Ideal) (kdf : Kdf)
    (key : {b : Bytes // b.length = keySize}) (before after : List KeyCall)
    (nonce : Draw nonceSize) (dek w : Bytes) (ver : ℤ)
    (hdistinct : (key.1 :: derivedKeys
      (stepsOf A kdf key (before ++ [.wrap nonce dek] ++ after))).Nodup)
    (hwrap : ((managerAfter A kdf key before).step A kdf (.wrap nonce dek)).1 =
      .wrapped (.ok (w, ver))) :
    ver = 1 + rotations (stepsOf A kdf key before) ∧
    (((managerAfter A kdf key (before ++ [.wrap nonce dek] ++ after)).step A kdf (.unwrap w)).1 =
        .unwrapped (.ok dek) ↔
      rotations (stepsSince A kdf key (before ++ [.wrap nonce dek]) after) ≤ 1) ∧
    (¬ rotations (stepsSince A kdf key (before ++ [.wrap nonce dek]) after) ≤ 1 →
      ((managerAfter A kdf key (before ++ [.wrap nonce dek] ++ after)).step A kdf (.unwrap w)).1 =
        .unwrapped (.error errDEKUnwrapFailed)) := by
  have hok := KeyAnswer.wrapped.inj hwrap
  refine ⟨?_, unwrapped_iff hA hdistinct hok, ?_⟩
  · obtain ⟨-, -, hver⟩ := sealed_of_wrap hA hok
    exact hver.trans (follows_final A kdf (newSoftKeyManager key) before).version
  · intro hmany
    have hfails := unwrap_of_wrap hA hdistinct hok
    rw [if_neg hmany] at hfails
    exact congrArg KeyAnswer.unwrapped hfails

end Runs

namespace Sample

/-- A derivation that adds one to every octet. -/
def kdf : Kdf := ⟨fun ikm _ => .ok ikm, fun prk _ _ => .ok (prk.map (· + 1))⟩

def masterKey : {b : Bytes // b.length = keySize} := ⟨kek, rfl⟩

def nonce : Draw nonceSize := .ok ⟨List.replicate 12 2, rfl⟩

/-- What `Wrap` makes of the key of two octets. -/
def wrappedKey : Bytes := List.replicate 12 2 ++ [104, 105] ++ kek

end Sample

open Sample in
/-- Two rotations after a `Wrap`. -/
theorem rotation_window_two :
    ((managerAfter idealAead kdf masterKey []).step idealAead kdf
      (.wrap nonce [104, 105])).1 = .wrapped (.ok (wrappedKey, 1)) ∧
    ((managerAfter idealAead kdf masterKey
      ([] ++ [.wrap nonce [104, 105]] ++ [.rotate, .rotate])).step idealAead
        kdf
        (.unwrap wrappedKey)).1 = .unwrapped (.error errDEKUnwrapFailed) :=
  ⟨by decide, (rotation_window idealAead idealAead_ideal kdf masterKey
    [] [.rotate, .rotate] nonce [104, 105] wrappedKey 1 (by decide +kernel)
    (by decide)).2.2 (by decide)⟩

/-! ## The overlap -/

def day : ℤ := 86400000000000

/-- When the first of the calls that rotates is made. -/
def rotatedOut (calls : List (ℤ × KeyCall)) (h : List KeyStep) : Option ℤ :=
  ((calls.zip h).find? fun x => Rotates x.2).map fun x => x.1.1

/-- `now` is at most `overlap` days after the key was rotated out, if it was. -/
def InOverlap (overlap : ℤ) (out : Option ℤ) (now : ℤ) : Prop :=
  ∀ t, out = some t → now ≤ t + overlap * day

section Overlap

variable (A : Aead) (kdf : Kdf) (key : {b : Bytes // b.length = keySize})

/-- At `now`, after the calls `before` and then `after`, the master key of the end of `before` is
not rotated out or is so for at most the overlap of the manager. -/
def StillDue (before : List KeyCall) (after : List (ℤ × KeyCall)) (now : ℤ) : Prop :=
  InOverlap (managerAfter A kdf key (before ++ after.map Prod.snd)).kekOverlap
    (rotatedOut after (stepsSince A kdf key before (after.map Prod.snd))) now

end Overlap

/-- **The overlap.** In every timed run of a manager whose keys are distinct, a key that was wrapped
is opened at a moment of its overlap if and only if at most one of the calls between its `Wrap` and
this moment rotated. -/
theorem overlap_honoured_iff (A : Aead) (hA : A.Ideal) (kdf : Kdf)
    (key : {b : Bytes // b.length = keySize}) (before after : List (ℤ × KeyCall))
    (nonce : Draw nonceSize) (dek w : Bytes) (ver now : ℤ)
    (hdistinct : (key.1 :: derivedKeys (stepsOf A kdf key
      (before.map Prod.snd ++ [.wrap nonce dek] ++ after.map Prod.snd))).Nodup)
    (hwrap : ((managerAfter A kdf key (before.map Prod.snd)).step A kdf (.wrap nonce dek)).1 =
      .wrapped (.ok (w, ver))) :
    (StillDue A kdf key (before.map Prod.snd ++ [.wrap nonce dek]) after now →
      ((managerAfter A kdf key
        (before.map Prod.snd ++ [.wrap nonce dek] ++ after.map Prod.snd)).step A kdf
          (.unwrap w)).1 = .unwrapped (.ok dek)) ↔
    (StillDue A kdf key (before.map Prod.snd ++ [.wrap nonce dek]) after now →
      rotations (stepsSince A kdf key (before.map Prod.snd ++ [.wrap nonce dek])
        (after.map Prod.snd)) ≤ 1) := by
  refine imp_congr_right fun _ => ?_
  exact unwrapped_iff hA hdistinct (KeyAnswer.wrapped.inj hwrap)

namespace Sample

def rotatedOnce : List (ℤ × KeyCall) := [(day, .rotate)]

def rotatedTwice : List (ℤ × KeyCall) := [(day, .rotate), (2 * day, .rotate)]

end Sample

open Sample in
/-- One rotation leaves the whole overlap. -/
theorem overlap_honoured_once :
    StillDue idealAead kdf masterKey ([] ++ [.wrap nonce [104, 105]])
      rotatedOnce (31 * day) ∧
    ((managerAfter idealAead kdf masterKey
      ([] ++ [.wrap nonce [104, 105]] ++ rotatedOnce.map Prod.snd)).step
        idealAead kdf (.unwrap wrappedKey)).1 =
      .unwrapped (.ok [104, 105]) := by
  have hdue : StillDue idealAead kdf masterKey
      ([] ++ [.wrap nonce [104, 105]]) rotatedOnce (31 * day) := by
    intro t ht
    obtain rfl : day = t := Option.some.inj ht
    decide
  exact ⟨hdue, (overlap_honoured_iff idealAead idealAead_ideal kdf
    masterKey [] rotatedOnce nonce [104, 105] wrappedKey 1 (31 * day)
    (by decide) (by decide)).mpr (fun _ => by decide) hdue⟩

open Sample in
/-- Two rotations within two days: on the third day of an overlap of thirty, nothing opens the
key. -/
theorem overlap_lost_twice :
    (managerAfter idealAead kdf masterKey
      ([] ++ [.wrap nonce [104, 105]] ++ rotatedTwice.map Prod.snd)).kekOverlap = 30 ∧
    StillDue idealAead kdf masterKey ([] ++ [.wrap nonce [104, 105]])
      rotatedTwice (3 * day) ∧
    ((managerAfter idealAead kdf masterKey []).step idealAead kdf
      (.wrap nonce [104, 105])).1 = .wrapped (.ok (wrappedKey, 1)) ∧
    ((managerAfter idealAead kdf masterKey
      ([] ++ [.wrap nonce [104, 105]] ++ rotatedTwice.map Prod.snd)).step
        idealAead kdf (.unwrap wrappedKey)).1 =
      .unwrapped (.error errDEKUnwrapFailed) := by
  refine ⟨rfl, ?_, by decide, by decide +kernel⟩
  intro t ht
  obtain rfl : day = t := Option.some.inj ht
  decide

end NssAAF.Crypto
