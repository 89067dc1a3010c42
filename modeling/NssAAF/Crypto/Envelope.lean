import NssAAF.Crypto.Aead
import Mathlib.Data.Int.Basic

/-!
# Envelopes and wrapped keys

`internal/crypto/encrypt.go`, `envelope.go` and the `SoftKeyManager` of `kms.go`. An envelope holds
a payload under a fresh data key, and the data key under a key-encryption key. The manager wraps
data keys under its master key, and a rotation keeps the key before it.

Four functions write or cut the same byte string on their own: the nonce, the ciphertext and the
tag. `Sealed` says what the string is. What the writers make is sealed, and every reader opens what
is sealed, so that they interoperate (`wrapped_keys_interoperate`).
-/

namespace NssAAF.Crypto

/-- `n` bytes of the random source, if it does not fail. -/
abbrev Draw (n : ℕ) : Type := Except String {b : Bytes // b.length = n}

def randomBytes {n : ℕ} (draw : Draw n) : Except String Bytes :=
  (draw.map Subtype.val).mapError ("RandomBytes: " ++ ·)

def generateDEK (draw : Draw keySize) : Except String Bytes := randomBytes draw

structure EncryptedData where
  ciphertext : Bytes
  nonce : Bytes
  tag : Bytes
  deriving DecidableEq

structure Envelope where
  ciphertext : Bytes
  encryptedDEK : Bytes
  nonce : Bytes
  dataTag : Bytes
  dekTag : Bytes
  kekVersion : ℤ
  deriving DecidableEq

/-- A manager with the key of the last rotation, if there was one. -/
structure SoftKeyManager where
  masterKey : Bytes
  currentVer : ℤ
  previousKey : Option Bytes
  deriving DecidableEq

def errEnvelopeMalformed : String := "envelope: malformed encrypted DEK"
def errDEKUnwrapFailed : String := "envelope: DEK unwrap failed (wrong KEK?)"

section Code

variable (A : Aead)

/-- `Encrypt`. No caller passes additional data. -/
def encrypt (nonce : Draw nonceSize) (plaintext key : Bytes) : Except String EncryptedData :=
  if key.length ≠ keySize then .error "Encrypt: key must be 32 bytes for AES-256"
  else
    match nonce with
    | .error err => .error ("Encrypt: failed to generate nonce: " ++ err)
    | .ok ⟨n, _⟩ =>
      let sealed := A.gcmSeal key n plaintext
      let ctLen := sealed.length - overhead
      .ok ⟨sealed.take ctLen, n, sealed.drop ctLen⟩

def decrypt (ed : EncryptedData) (key : Bytes) : Except String Bytes :=
  if key.length ≠ keySize then .error "Decrypt: key must be 32 bytes for AES-256"
  else if ed.nonce.length ≠ nonceSize then .error "Decrypt: nonce must be 12 bytes"
  else if ed.tag.length ≠ overhead then .error "Decrypt: tag must be 16 bytes"
  else
    match A.gcmOpen key ed.nonce (ed.ciphertext ++ ed.tag) with
    | none => .error "cipher: message authentication failed"
    | some plaintext => .ok plaintext

/-- A data key is drawn, and a nonce for each of the two encryptions. -/
def envelopeEncrypt (dek : Draw keySize) (dekNonce nonce : Draw nonceSize) (plaintext kek : Bytes)
    (kekVersion : ℤ) : Except String Envelope := do
  let dek ← generateDEK dek
  let dekEnc ← encrypt A dekNonce dek kek
  let dataEnc ← encrypt A nonce plaintext dek
  pure ⟨dataEnc.ciphertext, dekEnc.nonce ++ dekEnc.ciphertext ++ dekEnc.tag, dataEnc.nonce,
    dataEnc.tag, dekEnc.tag, kekVersion⟩

def envelopeDecrypt (env : Envelope) (kek : Bytes) : Except String Bytes :=
  if env.encryptedDEK.length < 28 then
    .error ("envelope: EncryptedDEK too short: " ++ toString env.encryptedDEK.length ++ " bytes")
  else
    let dekNonce := env.encryptedDEK.take 12
    let dekRemainder := env.encryptedDEK.drop 12
    let dekTag := dekRemainder.drop (dekRemainder.length - 16)
    let dekCiphertext := dekRemainder.take (dekRemainder.length - 16)
    match decrypt A ⟨dekCiphertext, dekNonce, dekTag⟩ kek with
    | .error _ => .error errDEKUnwrapFailed
    | .ok dek => decrypt A ⟨env.ciphertext, env.nonce, env.dataTag⟩ dek

def envelopeDecryptMulti (env : Envelope) (currentKEK : Bytes) (previousKEK : Option Bytes) :
    Except String Bytes :=
  match envelopeDecrypt A env currentKEK with
  | .ok pt => .ok pt
  | .error err =>
    match previousKEK with
    | none => .error err
    | some previousKEK => envelopeDecrypt A env previousKEK

namespace SoftKeyManager

variable (m : SoftKeyManager)

def wrap (nonce : Draw nonceSize) (dek : Bytes) : Except String (Bytes × ℤ) :=
  (encrypt A nonce dek m.masterKey).map fun enc =>
    (enc.nonce ++ enc.ciphertext ++ enc.tag, m.currentVer)

def unwrapWithKey (wrappedDEK key : Bytes) : Except String Bytes :=
  if wrappedDEK.length < 28 then .error errEnvelopeMalformed
  else
    let nonce := wrappedDEK.take 12
    let tag := wrappedDEK.drop (wrappedDEK.length - 16)
    let ct := (wrappedDEK.take (wrappedDEK.length - 16)).drop 12
    decrypt A ⟨ct, nonce, tag⟩ key

def unwrap (wrappedDEK : Bytes) : Except String Bytes :=
  match unwrapWithKey A wrappedDEK m.masterKey with
  | .ok dek => .ok dek
  | .error _ =>
    match m.previousKey with
    | none => .error errDEKUnwrapFailed
    | some key =>
      match unwrapWithKey A wrappedDEK key with
      | .ok dek => .ok dek
      | .error _ => .error errDEKUnwrapFailed

/-- `Rotate`, with the key that is derived from the master key. -/
def rotate (derived : Except String Bytes) : Except String SoftKeyManager :=
  derived.map fun newKey => ⟨newKey, m.currentVer + 1, some m.masterKey⟩

end SoftKeyManager

end Code

/-! ## The format -/

/-- `w` is a nonce and what the cipher makes of the plaintext with it. -/
def Sealed (A : Aead) (key plaintext w : Bytes) : Prop :=
  ∃ nonce, nonce.length = nonceSize ∧ w = nonce ++ A.gcmSeal key nonce plaintext

/-- The same in three parts. -/
structure EncryptedData.Holds (A : Aead) (key plaintext : Bytes) (ed : EncryptedData) : Prop where
  nonce : ed.nonce.length = nonceSize
  tag : ed.tag.length = overhead
  text : ed.ciphertext ++ ed.tag = A.gcmSeal key ed.nonce plaintext

/-- A cipher that opens what it sealed under a key, and nothing of it under another one.

There are fewer tags of 16 bytes than keys, so no cipher is ideal with sealed texts that are longer
by just the tag. The length is therefore only bounded from below, which is all the code relies
on. -/
structure Aead.Ideal (A : Aead) : Prop where
  opens : ∀ key nonce plaintext, key.length = keySize → nonce.length = nonceSize →
    A.gcmOpen key nonce (A.gcmSeal key nonce plaintext) = some plaintext
  rejects : ∀ key key' nonce plaintext, key.length = keySize → key'.length = keySize →
    key' ≠ key → nonce.length = nonceSize →
    A.gcmOpen key' nonce (A.gcmSeal key nonce plaintext) = none
  length : ∀ key nonce plaintext, key.length = keySize →
    overhead ≤ (A.gcmSeal key nonce plaintext).length

variable {A : Aead} {key plaintext w : Bytes} {ed : EncryptedData}

theorem Aead.Ideal.length_of_sealed (hA : A.Ideal) (hk : key.length = keySize)
    (h : Sealed A key plaintext w) : nonceSize + overhead ≤ w.length := by
  obtain ⟨nonce, hn, rfl⟩ := h
  have := hA.length key nonce plaintext hk
  rw [List.length_append, hn]
  omega

theorem EncryptedData.Holds.sealed (h : ed.Holds A key plaintext) :
    Sealed A key plaintext (ed.nonce ++ ed.ciphertext ++ ed.tag) :=
  ⟨ed.nonce, h.nonce, by rw [List.append_assoc, h.text]⟩

theorem Aead.Ideal.holds_cut (hA : A.Ideal) (hk : key.length = keySize)
    (h : Sealed A key plaintext w) :
    EncryptedData.Holds A key plaintext
      ⟨(w.drop 12).take ((w.drop 12).length - 16), w.take 12,
        (w.drop 12).drop ((w.drop 12).length - 16)⟩ := by
  obtain ⟨nonce, hn, rfl⟩ := h
  have hlen := hA.length key nonce plaintext hk
  have htake : (nonce ++ A.gcmSeal key nonce plaintext).take 12 = nonce := List.take_left' hn
  have hdrop : (nonce ++ A.gcmSeal key nonce plaintext).drop 12 = A.gcmSeal key nonce plaintext :=
    List.drop_left' hn
  rw [htake, hdrop]
  refine ⟨hn, ?_, List.take_append_drop _ _⟩
  show (List.drop _ _).length = 16
  rw [List.length_drop]
  exact Nat.sub_sub_self hlen

theorem cut_eq (h : 28 ≤ w.length) :
    (⟨(w.take (w.length - 16)).drop 12, w.take 12, w.drop (w.length - 16)⟩ : EncryptedData) =
      ⟨(w.drop 12).take ((w.drop 12).length - 16), w.take 12,
        (w.drop 12).drop ((w.drop 12).length - 16)⟩ := by
  have hct : (w.take (w.length - 16)).drop 12 = (w.drop 12).take (w.length - 12 - 16) := by
    rw [List.drop_take, Nat.sub_right_comm]
  have htag : w.drop (w.length - 16) = (w.drop 12).drop (w.length - 12 - 16) := by
    have hsum : 12 + (w.length - 12 - 16) = w.length - 16 := by omega
    rw [List.drop_drop, hsum]
  rw [List.length_drop, hct, htag]

/-! ### What is written -/

theorem Aead.Ideal.encrypt_holds (hA : A.Ideal) (hk : key.length = keySize)
    (nonce : {b : Bytes // b.length = nonceSize}) (plaintext : Bytes) :
    ∃ ed, encrypt A (.ok nonce) plaintext key = .ok ed ∧ ed.Holds A key plaintext := by
  unfold encrypt
  rw [if_neg (not_not_intro hk)]
  refine ⟨_, rfl, nonce.2, ?_, List.take_append_drop _ _⟩
  rw [List.length_drop]
  exact Nat.sub_sub_self (hA.length key nonce.1 plaintext hk)

theorem Aead.Ideal.wrap_sealed (hA : A.Ideal) {m : SoftKeyManager}
    (hk : m.masterKey.length = keySize) (nonce : {b : Bytes // b.length = nonceSize})
    (dek : Bytes) :
    ∃ out, m.wrap A (.ok nonce) dek = .ok (out, m.currentVer) ∧ Sealed A m.masterKey dek out := by
  obtain ⟨ed, hed, hholds⟩ := hA.encrypt_holds hk nonce dek
  unfold SoftKeyManager.wrap
  rw [hed]
  exact ⟨_, rfl, hholds.sealed⟩

theorem encryptConcat_sealed (hk : key.length = keySize)
    (nonce : {b : Bytes // b.length = nonceSize}) (plaintext : Bytes) :
    ∃ c, encryptConcat A (.ok nonce.1) plaintext key = .ok c ∧ Sealed A key plaintext c := by
  unfold encryptConcat
  rw [if_neg (not_not_intro hk)]
  exact ⟨_, rfl, nonce.1, nonce.2, rfl⟩

/-- An envelope of `plaintext` under `kek`: the data key is sealed, and so is the payload under
it. -/
structure Envelope.Holds (A : Aead) (kek plaintext dek : Bytes) (env : Envelope) : Prop where
  dek_length : dek.length = keySize
  encryptedDEK : Sealed A kek dek env.encryptedDEK
  data : EncryptedData.Holds A dek plaintext ⟨env.ciphertext, env.nonce, env.dataTag⟩

theorem Aead.Ideal.envelopeEncrypt_holds (hA : A.Ideal) {kek : Bytes}
    (hk : kek.length = keySize) (dek : {b : Bytes // b.length = keySize})
    (dekNonce nonce : {b : Bytes // b.length = nonceSize}) (plaintext : Bytes) (kekVersion : ℤ) :
    ∃ env, envelopeEncrypt A (.ok dek) (.ok dekNonce) (.ok nonce) plaintext kek kekVersion =
        .ok env ∧ env.Holds A kek plaintext dek.1 := by
  obtain ⟨dekEnc, hdek, hdekHolds⟩ := hA.encrypt_holds hk dekNonce dek.1
  obtain ⟨dataEnc, hdata, hdataHolds⟩ := hA.encrypt_holds dek.2 nonce plaintext
  refine ⟨⟨dataEnc.ciphertext, dekEnc.nonce ++ dekEnc.ciphertext ++ dekEnc.tag, dataEnc.nonce,
    dataEnc.tag, dekEnc.tag, kekVersion⟩, ?_, dek.2, hdekHolds.sealed, hdataHolds⟩
  show (encrypt A (.ok dekNonce) dek.1 kek >>= fun dekEnc =>
    encrypt A (.ok nonce) plaintext dek.1 >>= fun dataEnc => _) = _
  rw [hdek]
  show (encrypt A (.ok nonce) plaintext dek.1 >>= fun dataEnc => _) = _
  rw [hdata]
  rfl

/-! ### What is read -/

theorem decrypt_eq (hk : key.length = keySize) (hn : ed.nonce.length = nonceSize)
    (ht : ed.tag.length = overhead) :
    decrypt A ed key =
      match A.gcmOpen key ed.nonce (ed.ciphertext ++ ed.tag) with
      | none => .error "cipher: message authentication failed"
      | some plaintext => .ok plaintext := by
  unfold decrypt
  rw [if_neg (not_not_intro hk), if_neg (not_not_intro hn), if_neg (not_not_intro ht)]

theorem Aead.Ideal.decrypt_of_holds (hA : A.Ideal) (hk : key.length = keySize)
    (h : ed.Holds A key plaintext) : decrypt A ed key = .ok plaintext := by
  rw [decrypt_eq hk h.nonce h.tag, h.text, hA.opens _ _ _ hk h.nonce]

theorem Aead.Ideal.decrypt_of_ne (hA : A.Ideal) (hk : key.length = keySize)
    (h : ed.Holds A key plaintext) {key' : Bytes} (hne : key' ≠ key) :
    ∃ err, decrypt A ed key' = .error err := by
  by_cases hk' : key'.length = keySize
  · rw [decrypt_eq hk' h.nonce h.tag, h.text, hA.rejects _ _ _ _ hk hk' hne h.nonce]
    exact ⟨_, rfl⟩
  · exact ⟨_, if_pos hk'⟩

theorem Aead.Ideal.decryptConcat_of_sealed (hA : A.Ideal) (hk : key.length = keySize)
    (h : Sealed A key plaintext w) : decryptConcat A w key = .ok plaintext := by
  have hlen := hA.length_of_sealed hk h
  obtain ⟨nonce, hn, rfl⟩ := h
  unfold decryptConcat
  rw [if_neg (not_not_intro hk), if_neg (Nat.not_lt.mpr hlen), List.take_left' hn,
    List.drop_left' hn, hA.opens _ _ _ hk hn]

theorem Aead.Ideal.unwrapWithKey_of_sealed (hA : A.Ideal) (hk : key.length = keySize)
    (h : Sealed A key plaintext w) (key' : Bytes) :
    ∃ ed, EncryptedData.Holds A key plaintext ed ∧
      SoftKeyManager.unwrapWithKey A w key' = decrypt A ed key' := by
  have hlen : 28 ≤ w.length := hA.length_of_sealed hk h
  refine ⟨_, hA.holds_cut hk h, ?_⟩
  unfold SoftKeyManager.unwrapWithKey
  rw [if_neg (Nat.not_lt.mpr hlen)]
  exact congrArg (decrypt A · key') (cut_eq hlen)

theorem Aead.Ideal.unwrap_of_sealed (hA : A.Ideal) (hk : key.length = keySize)
    (h : Sealed A key plaintext w) {m : SoftKeyManager}
    (hm : m.masterKey = key ∨ m.previousKey = some key) : m.unwrap A w = .ok plaintext := by
  obtain ⟨ed, hed, hcur⟩ := hA.unwrapWithKey_of_sealed hk h m.masterKey
  unfold SoftKeyManager.unwrap
  rw [hcur]
  by_cases hmaster : m.masterKey = key
  · rw [hmaster, hA.decrypt_of_holds hk hed]
  · obtain ⟨err, herr⟩ := hA.decrypt_of_ne hk hed hmaster
    obtain ⟨ed', hed', hprev⟩ := hA.unwrapWithKey_of_sealed hk h key
    rw [herr, hm.resolve_left hmaster]
    dsimp only
    rw [hprev, hA.decrypt_of_holds hk hed']

theorem Aead.Ideal.unwrap_of_ne (hA : A.Ideal) (hk : key.length = keySize)
    (h : Sealed A key plaintext w) {m : SoftKeyManager} (hmaster : m.masterKey ≠ key)
    (hprevious : m.previousKey ≠ some key) : m.unwrap A w = .error errDEKUnwrapFailed := by
  obtain ⟨ed, hed, hcur⟩ := hA.unwrapWithKey_of_sealed hk h m.masterKey
  obtain ⟨err, herr⟩ := hA.decrypt_of_ne hk hed hmaster
  unfold SoftKeyManager.unwrap
  rw [hcur, herr]
  dsimp only
  cases hprev : m.previousKey with
  | none => rfl
  | some key' =>
    have hne : key' ≠ key := fun heq => hprevious (by rw [hprev, heq])
    obtain ⟨ed', hed', hcur'⟩ := hA.unwrapWithKey_of_sealed hk h key'
    obtain ⟨err', herr'⟩ := hA.decrypt_of_ne hk hed' hne
    dsimp only
    rw [hcur', herr']

section Envelopes

variable {kek dek : Bytes} {env : Envelope}

theorem Aead.Ideal.envelopeDecrypt_eq (hA : A.Ideal) (hk : kek.length = keySize)
    (h : env.Holds A kek plaintext dek) (key : Bytes) :
    ∃ ed, EncryptedData.Holds A kek dek ed ∧
      envelopeDecrypt A env key =
        match decrypt A ed key with
        | .error _ => .error errDEKUnwrapFailed
        | .ok dek => decrypt A ⟨env.ciphertext, env.nonce, env.dataTag⟩ dek := by
  have hlen : 28 ≤ env.encryptedDEK.length := hA.length_of_sealed hk h.encryptedDEK
  refine ⟨_, hA.holds_cut hk h.encryptedDEK, ?_⟩
  unfold envelopeDecrypt
  rw [if_neg (Nat.not_lt.mpr hlen)]

theorem Aead.Ideal.envelopeDecrypt_of_holds (hA : A.Ideal) (hk : kek.length = keySize)
    (h : env.Holds A kek plaintext dek) : envelopeDecrypt A env kek = .ok plaintext := by
  obtain ⟨ed, hed, heq⟩ := hA.envelopeDecrypt_eq hk h kek
  rw [heq, hA.decrypt_of_holds hk hed]
  exact hA.decrypt_of_holds h.dek_length h.data

theorem Aead.Ideal.envelopeDecrypt_of_ne (hA : A.Ideal) (hk : kek.length = keySize)
    (h : env.Holds A kek plaintext dek) {key : Bytes} (hne : key ≠ kek) :
    envelopeDecrypt A env key = .error errDEKUnwrapFailed := by
  obtain ⟨ed, hed, heq⟩ := hA.envelopeDecrypt_eq hk h key
  obtain ⟨err, herr⟩ := hA.decrypt_of_ne hk hed hne
  rw [heq, herr]

theorem Aead.Ideal.envelopeDecrypt_ok_iff (hA : A.Ideal) (hk : kek.length = keySize)
    (h : env.Holds A kek plaintext dek) (key : Bytes) :
    (∃ p, envelopeDecrypt A env key = .ok p) ↔ key = kek := by
  by_cases hkey : key = kek
  · exact iff_of_true ⟨plaintext, hkey ▸ hA.envelopeDecrypt_of_holds hk h⟩ hkey
  · rw [hA.envelopeDecrypt_of_ne hk h hkey]
    exact iff_of_false Results.not_exists_ok hkey

theorem envelopeDecryptMulti_ok_iff (env : Envelope) (currentKEK : Bytes)
    (previousKEK : Option Bytes) :
    (∃ p, envelopeDecryptMulti A env currentKEK previousKEK = .ok p) ↔
      (∃ p, envelopeDecrypt A env currentKEK = .ok p) ∨
        ∃ key, previousKEK = some key ∧ ∃ p, envelopeDecrypt A env key = .ok p := by
  unfold envelopeDecryptMulti
  cases envelopeDecrypt A env currentKEK with
  | ok pt => exact iff_of_true ⟨pt, rfl⟩ (Or.inl ⟨pt, rfl⟩)
  | error err => cases previousKEK with
    | none => simp
    | some key => simp

end Envelopes

/-- What is sealed under `key` is opened by every manager with this key and by `DecryptConcat`. -/
def OpenedTo (A : Aead) (key plaintext w : Bytes) : Prop :=
  (∀ m : SoftKeyManager, m.masterKey = key ∨ m.previousKey = some key →
    m.unwrap A w = .ok plaintext) ∧ decryptConcat A w key = .ok plaintext

theorem Aead.Ideal.openedTo (hA : A.Ideal) (hk : key.length = keySize)
    (h : Sealed A key plaintext w) : OpenedTo A key plaintext w :=
  ⟨fun _ hm => hA.unwrap_of_sealed hk h hm, hA.decryptConcat_of_sealed hk h⟩

/-- **Envelopes and wrapped keys interoperate.** Under an ideal cipher, an envelope is opened with
its key and with no other, and an envelope's data key, a wrapped key and what `EncryptConcat` makes
are opened by `Unwrap` and `DecryptConcat` alike. -/
theorem wrapped_keys_interoperate (A : Aead) (hA : A.Ideal) (kek : Bytes)
    (hk : kek.length = keySize) (plaintext : Bytes)
    (nonce : {b : Bytes // b.length = nonceSize}) :
    (∀ (dek : {b : Bytes // b.length = keySize}) (dekNonce : {b : Bytes // b.length = nonceSize})
      (kekVersion : ℤ), ∃ env,
      envelopeEncrypt A (.ok dek) (.ok dekNonce) (.ok nonce) plaintext kek kekVersion = .ok env ∧
      envelopeDecrypt A env kek = .ok plaintext ∧
      OpenedTo A kek dek.1 env.encryptedDEK ∧
      ∀ currentKEK previousKEK,
        (∃ p, envelopeDecryptMulti A env currentKEK previousKEK = .ok p) ↔
          currentKEK = kek ∨ previousKEK = some kek) ∧
    (∀ m : SoftKeyManager, m.masterKey = kek → ∃ out,
      m.wrap A (.ok nonce) plaintext = .ok (out, m.currentVer) ∧ OpenedTo A kek plaintext out) ∧
    ∃ c, encryptConcat A (.ok nonce.1) plaintext kek = .ok c ∧ OpenedTo A kek plaintext c := by
  refine ⟨fun dek dekNonce kekVersion => ?_, fun m hm => ?_, ?_⟩
  · obtain ⟨env, henv, hholds⟩ :=
      hA.envelopeEncrypt_holds hk dek dekNonce nonce plaintext kekVersion
    refine ⟨env, henv, hA.envelopeDecrypt_of_holds hk hholds,
      hA.openedTo hk hholds.encryptedDEK, fun currentKEK previousKEK => ?_⟩
    rw [envelopeDecryptMulti_ok_iff]
    simp only [hA.envelopeDecrypt_ok_iff hk hholds]
    simp
  · subst hm
    obtain ⟨out, hout, hsealed⟩ := hA.wrap_sealed hk nonce plaintext
    exact ⟨out, hout, hA.openedTo hk hsealed⟩
  · obtain ⟨c, hc, hsealed⟩ := encryptConcat_sealed (A := A) hk nonce plaintext
    exact ⟨c, hc, hA.openedTo hk hsealed⟩

namespace Sample

/-- A cipher that appends the key. -/
def idealAead : Aead :=
  ⟨fun key _ plaintext => plaintext ++ key,
    fun key _ ciphertext =>
      if ciphertext.drop (ciphertext.length - keySize) = key then
        some (ciphertext.take (ciphertext.length - keySize))
      else none⟩

theorem idealAead_open {key key' : Bytes} (hk : key.length = keySize) (nonce plaintext : Bytes) :
    idealAead.gcmOpen key' nonce (idealAead.gcmSeal key nonce plaintext) =
      if key = key' then some plaintext else none := by
  have hcut : (plaintext ++ key).length - keySize = plaintext.length := by
    rw [List.length_append, hk, Nat.add_sub_cancel]
  unfold idealAead
  dsimp only
  rw [hcut, List.drop_left, List.take_left]

theorem idealAead_ideal : idealAead.Ideal where
  opens key nonce plaintext hk _ := by rw [idealAead_open hk, if_pos rfl]
  rejects key key' nonce plaintext hk _ hne _ := by rw [idealAead_open hk, if_neg (Ne.symm hne)]
  length key nonce plaintext hk := by
    show overhead ≤ (plaintext ++ key).length
    rw [List.length_append, hk]
    exact Nat.le_trans (by decide) (Nat.le_add_left keySize plaintext.length)

def kek : Bytes := List.replicate 32 1

end Sample

theorem Sample.interoperate :
    ∃ env, envelopeEncrypt Sample.idealAead (.ok ⟨List.replicate 32 7, rfl⟩)
        (.ok ⟨List.replicate 12 2, rfl⟩) (.ok ⟨List.replicate 12 3, rfl⟩) [104, 105] Sample.kek 1 =
        .ok env ∧ envelopeDecrypt Sample.idealAead env Sample.kek = .ok [104, 105] := by
  obtain ⟨env, henv, hdec, -⟩ := (wrapped_keys_interoperate Sample.idealAead Sample.idealAead_ideal
    Sample.kek rfl [104, 105] ⟨List.replicate 12 3, rfl⟩).1 ⟨List.replicate 32 7, rfl⟩
    ⟨List.replicate 12 2, rfl⟩ 1
  exact ⟨env, henv, hdec⟩

end NssAAF.Crypto
