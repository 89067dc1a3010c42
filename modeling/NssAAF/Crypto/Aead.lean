import NssAAF.Lib.Bytes
import NssAAF.Lib.Results
import NssAAF.Lib.Sha256

/-!
# Encryption at rest

`EncryptConcat` and `DecryptConcat` of `internal/crypto/aead.go`: a ciphertext is the nonce followed
by what the cipher makes of the plaintext. The cipher (AES-256 in Galois/Counter mode, of the
standard library) is a parameter. The nonce comes from the random source, which may fail.

Encryption fails for want of a key or of a nonce, whatever the plaintext is
(`encryptConcat_ok_iff`). What was encrypted is decrypted again by a sound cipher
(`decryptConcat_encryptConcat`).
-/

namespace NssAAF.Crypto

/-- A cipher: `gcmSeal key nonce plaintext`, and `gcmOpen` that fails on what was not sealed so. -/
structure Aead where
  gcmSeal : Bytes → Bytes → Bytes → Bytes
  gcmOpen : Bytes → Bytes → Bytes → Option Bytes

def keySize : ℕ := 32
def nonceSize : ℕ := 12
def overhead : ℕ := 16

def errKeyWrongLength : String := "crypto: key must be 32 bytes for AES-256"
def errDecryptFailed : String := "crypto: decryption failed"

def fromPassphrase (passphrase : Bytes) : Bytes := Sha256.sum256 passphrase

/-- Under this key the cipher opens what it sealed, and a sealed plaintext is longer by the tag. -/
structure Aead.Sound (A : Aead) (key : Bytes) : Prop where
  opens : ∀ nonce plaintext, nonce.length = nonceSize →
    A.gcmOpen key nonce (A.gcmSeal key nonce plaintext) = some plaintext
  length : ∀ nonce plaintext, (A.gcmSeal key nonce plaintext).length = plaintext.length + overhead

variable (A : Aead)

def encryptConcat (nonce : Except String Bytes) (plaintext key : Bytes) : Except String Bytes :=
  if key.length ≠ keySize then .error errKeyWrongLength
  else nonce.map fun n => n ++ A.gcmSeal key n plaintext

def decryptConcat (ciphertext key : Bytes) : Except String Bytes :=
  if key.length ≠ keySize then .error errKeyWrongLength
  else if ciphertext.length < nonceSize + overhead then .error errDecryptFailed
  else
    match A.gcmOpen key (ciphertext.take nonceSize) (ciphertext.drop nonceSize) with
    | none => .error errDecryptFailed
    | some plaintext => .ok plaintext

variable {A}

theorem encryptConcat_ok_iff {nonce : Except String Bytes} {plaintext key : Bytes} :
    (∃ c, encryptConcat A nonce plaintext key = .ok c) ↔
      key.length = keySize ∧ ∃ n, nonce = .ok n := by
  unfold encryptConcat
  by_cases hk : key.length = keySize
  · rw [if_neg (not_not_intro hk), Results.exists_map_ok, and_iff_right hk]
  · rw [if_pos hk]
    exact iff_of_false Results.not_exists_ok fun h => hk h.1

theorem decryptConcat_encryptConcat {nonce plaintext key c : Bytes} (hA : A.Sound key)
    (hn : nonce.length = nonceSize) (h : encryptConcat A (.ok nonce) plaintext key = .ok c) :
    decryptConcat A c key = .ok plaintext := by
  unfold encryptConcat at h
  split_ifs at h with hk
  cases h
  have hlen := hA.length nonce plaintext
  have hshort : ¬ (nonce ++ A.gcmSeal key nonce plaintext).length < nonceSize + overhead := by
    rw [List.length_append, hn, hlen]
    omega
  unfold decryptConcat
  rw [if_neg hk, if_neg hshort, List.take_left' hn, List.drop_left' hn, hA.opens _ _ hn]

namespace Sample

/-- A cipher that keeps the plaintext and appends the front of the key as the tag. -/
def aead : Aead :=
  ⟨fun key _ plaintext => plaintext ++ key.take overhead,
    fun key _ ciphertext =>
      if ciphertext.drop (ciphertext.length - overhead) = key.take overhead then
        some (ciphertext.take (ciphertext.length - overhead))
      else none⟩

theorem aead_sound {key : Bytes} (hk : key.length = keySize) : aead.Sound key := by
  have htag : (key.take overhead).length = overhead := by
    rw [List.length_take, hk]
    rfl
  have hlength : ∀ nonce plaintext,
      (aead.gcmSeal key nonce plaintext).length = plaintext.length + overhead := by
    intro nonce plaintext
    rw [← htag]
    exact List.length_append
  refine ⟨fun nonce plaintext _ => ?_, hlength⟩
  have hcut : (aead.gcmSeal key nonce plaintext).length - overhead = plaintext.length := by
    rw [hlength, Nat.add_sub_cancel]
  unfold aead at hcut ⊢
  dsimp only at hcut ⊢
  rw [hcut, List.drop_left, List.take_left, if_pos rfl]

end Sample

end NssAAF.Crypto
