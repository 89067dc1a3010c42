import NssAAF.Storage.AaaConfig

/-!
# An AAA configuration written and read back

`Upsert` encrypts the shared secret of a configuration under a passphrase and writes it as base64,
and the column can be decrypted again (`stored_secret`). But it does so only if there is a
passphrase: without one it writes an empty secret. And `GetByID` reads the column and drops it, so
that the configuration it returns has no secret, with which `decryptSecret` could do nothing.

`round_trip_iff` says for which configurations the round trip works: those without a secret.
-/

namespace NssAAF.Storage

def decryptSecret (A : Crypto.Aead) (ciphertext passphrase : Bytes) : Except String Bytes :=
  Crypto.decryptConcat A ciphertext (Crypto.fromPassphrase passphrase)

/-- `WHERE id = $1 AND enabled = TRUE`. -/
def ConfigTable.getByID (t : ConfigTable) (fault : Option String) (id : String) :
    Except ConfigError AAAConfig :=
  match fault with
  | some err => .error (.failed err)
  | none =>
    match t.find? fun r => r.id = id ∧ r.enabled with
    | none => .error .configNotFound
    | some r => .ok (scanConfig r)

/-- A UUID as the database writes it. -/
def isUUID (id : String) : Bool :=
  id.toList.length == 36 && id.toList.zipIdx.all fun (c, i) =>
    if i ∈ [8, 13, 18, 23] then c == '-' else c.isDigit || ('a' ≤ c && c ≤ 'f')

theorem ne_empty_of_isUUID {id : String} (h : isUUID id = true) : id ≠ "" := by
  rintro rfl
  exact absurd h (by decide)

/-- With the passphrase the secret can be had from what is given back for it: the secret itself, its
ciphertext, or the text of the ciphertext. -/
def Recovers (A : Crypto.Aead) (passphrase given secret : Bytes) : Prop :=
  given = secret ∨ decryptSecret A given passphrase = .ok secret ∨
    ∃ enc, Base64.decodeString given.text = some enc ∧ decryptSecret A enc passphrase = .ok secret

/-- The two configurations agree in everything but the secret and the times. -/
structure AAAConfig.SameFields (c c' : AAAConfig) : Prop extends c.SameServer c' where
  id : c'.id = c.id
  proxyPort : c'.aaaProxyPort = c.aaaProxyPort

/-- The configuration is found under its identifier with all its fields, its secret can be had from
it, and a secret that is not empty is neither stored nor returned as empty. -/
def RoundTrips (A : Crypto.Aead) (passphrase : Bytes) (c : AAAConfig) (t : ConfigTable) : Prop :=
  ∃ c', t.getByID none c.id = .ok c' ∧ Recovers A passphrase c'.sharedSecret c.sharedSecret ∧
    c.SameFields c' ∧
    (c.sharedSecret ≠ [] → c'.sharedSecret ≠ [] ∧ ∀ r ∈ t, r.sharedSecret ≠ "")

section RoundTrip

variable {A : Crypto.Aead} {e : Upserting} {c : AAAConfig} {t : ConfigTable}

theorem upsert_empty (hid : c.id ≠ "") (h : ConfigTable.upsert [] A e c = .ok t) :
    ∃ secret, secretB64 A e c.sharedSecret = .ok secret ∧
      t = [c.row c.id secret e.now e.now] := by
  obtain ⟨secret, hsecret, h⟩ := Results.of_bind_ok h
  refine ⟨secret, hsecret, ?_⟩
  rw [if_neg hid] at h
  cases hf : e.fault with
  | some err =>
    rw [hf] at h
    cases h
  | none =>
    rw [hf] at h
    rcases (insertOnConflict_ok h).2 with ⟨-, hselect, -⟩ | ⟨-, ht⟩
    · exact absurd rfl hselect
    · exact ht

theorem stored_secret (hA : A.Sound (Crypto.fromPassphrase e.passphrase)) {nonce secret : Bytes}
    (hnonce : e.nonce = .ok nonce) (hn : nonce.length = Crypto.nonceSize) (hsecret : secret ≠ [])
    (hpass : e.passphrase ≠ []) {column : String} (h : secretB64 A e secret = .ok column) :
    ∃ enc, Base64.decodeString column = some enc ∧
      decryptSecret A enc e.passphrase = .ok secret := by
  unfold secretB64 at h
  rw [if_pos ⟨List.length_pos_iff.mpr hsecret, List.length_pos_iff.mpr hpass⟩,
    Results.mapError_eq_ok_iff] at h
  obtain ⟨enc, henc, rfl⟩ := Results.of_map_ok h
  refine ⟨enc, Base64.decodeString_encodeToString enc, ?_⟩
  unfold encryptSecret at henc
  rw [hnonce] at henc
  exact Crypto.decryptConcat_encryptConcat hA hn henc

theorem getByID_row (henabled : c.enabled = true) (secret : String) (createdAt updatedAt : ℤ) :
    ConfigTable.getByID [c.row c.id secret createdAt updatedAt] none c.id =
      .ok (scanConfig (c.row c.id secret createdAt updatedAt)) := by
  unfold ConfigTable.getByID
  rw [List.find?_cons_of_pos (by simp [AAAConfig.row, henabled])]

theorem sameFields_scanConfig (hport : 0 ≤ c.aaaProxyPort) (secret : String)
    (createdAt updatedAt : ℤ) :
    c.SameFields (scanConfig (c.row c.id secret createdAt updatedAt)) := by
  have hsame : c.SameServer (scanConfig (c.row c.id secret createdAt updatedAt)) :=
    Holds.scanConfig ⟨c.id, secret, createdAt, updatedAt, rfl⟩
  exact ⟨hsame, rfl, hsame.aaaProxyPort.trans (Int.max_eq_right hport)⟩

/-- **The round trip.** A configuration that is upserted into the empty table is read back, with the
secret that it was given, exactly if it was given none. -/
theorem round_trip_iff (A : Crypto.Aead) (e : Upserting) (c : AAAConfig) (t : ConfigTable)
    (henabled : c.enabled = true) (hid : isUUID c.id = true) (hport : 0 ≤ c.aaaProxyPort)
    (h : ConfigTable.upsert [] A e c = .ok t) :
    RoundTrips A e.passphrase c t ↔ c.sharedSecret = [] := by
  obtain ⟨secret, -, rfl⟩ := upsert_empty (ne_empty_of_isUUID hid) h
  have hget := getByID_row henabled secret e.now e.now
  constructor
  · rintro ⟨c', hc', -, -, hkept⟩
    rw [hget, Except.ok.injEq] at hc'
    by_contra hne
    exact (hkept hne).1 (by rw [← hc']; rfl)
  · intro hnil
    refine ⟨_, hget, Or.inl (by rw [hnil]; rfl), sameFields_scanConfig hport _ _ _, ?_⟩
    intro hne
    exact absurd hnil hne

end RoundTrip

namespace Sample

def exactWith (sharedSecret : Bytes) : AAAConfig :=
  { config with
    id := "6f9619ff-8b86-4011-b42d-00cf4fc964ff"
    snssaiSD := "000001"
    sharedSecret := sharedSecret }

def exactTable (sharedSecret : Bytes) (secret : String) : ConfigTable :=
  [(exactWith sharedSecret).row (exactWith sharedSecret).id secret 1780000000 1780000000]

end Sample

open Sample Crypto.Sample in
/-- A configuration without a secret is read back. -/
theorem round_trip_without_secret :
    ConfigTable.upsert [] aead (upserting "") (exactWith []) =
      .ok (exactTable [] "") ∧
    RoundTrips aead passphrase (exactWith [])
      (exactTable [] "") := by
  have hupsert : ConfigTable.upsert [] aead (upserting "")
      (exactWith []) = .ok (exactTable [] "") := by rfl
  exact ⟨hupsert, (round_trip_iff _ (upserting "") _ _ rfl (by decide) (by decide)
    hupsert).mpr rfl⟩

open Sample Crypto.Sample in
/-- The secret of a configuration is stored but not returned, and without a passphrase it is not
even stored. -/
theorem secret_not_returned :
    ConfigTable.upsert [] aead (upserting "") (exactWith [1, 2, 3]) =
      .ok (exactTable [1, 2, 3] secret) ∧
    (exactTable [1, 2, 3] secret).getByID none
      "6f9619ff-8b86-4011-b42d-00cf4fc964ff" =
        .ok { exactWith [] with createdAt := 1780000000, updatedAt := 1780000000 } ∧
    ConfigTable.upsert [] aead { upserting "" with passphrase := [] }
      (exactWith [1, 2, 3]) = .ok (exactTable [1, 2, 3] "") ∧
    ¬ RoundTrips aead passphrase (exactWith [1, 2, 3])
      (exactTable [1, 2, 3] secret) := by
  have hget : (exactTable [1, 2, 3] secret).getByID none
      "6f9619ff-8b86-4011-b42d-00cf4fc964ff" =
      .ok { exactWith [] with createdAt := 1780000000, updatedAt := 1780000000 } := by rfl
  refine ⟨by rfl, hget, by rfl, ?_⟩
  rintro ⟨c', hc', -, -, hkept⟩
  rw [show (exactWith [1, 2, 3]).id = "6f9619ff-8b86-4011-b42d-00cf4fc964ff" from rfl, hget,
    Except.ok.injEq] at hc'
  exact (hkept (by decide)).1 (by rw [← hc']; rfl)

end NssAAF.Storage
