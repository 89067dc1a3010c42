import NssAAF.Crypto.Aead
import NssAAF.Lib.Table
import NssAAF.Lib.Base64
import NssAAF.Lib.Hex
import NssAAF.Lib.Sha256
import Mathlib.Data.Int.Basic

/-!
# The table of slice authentication sessions

The repository of `internal/storage/postgres/nssaa_repo.go` over the table `slice_auth_sessions`.
A session is loaded as a whole and saved as a whole: `save` updates the row of the session, and
inserts one if the update affects none. The identity of the subscriber and the EAP payload are
stored encrypted. What comes from the random source is an argument, as are the clock and the
failures of the database.

`statusOf_save` says what an accepted save does to the statuses.
-/

namespace NssAAF.Storage

/-- A clock reading, in nanoseconds since the year 1970. -/
abbrev Time : Type := ℤ

def second : Time := 1000000000

/-- The first instant of the year 1, which the code takes for a time that was never set. -/
def zeroTime : Time := -62135596800 * second

/-- A time as the code reads it from a column. -/
def readTime (t : Time) : Option Time := if t = zeroTime then none else some t

/-- The texts of the statuses that the code names. -/
def namedStatuses : List String :=
  ["NOT_EXECUTED", "PENDING", "EAP_SUCCESS", "EAP_FAILURE", "CONFIRMED", "AUTHORIZED", "REVOKED"]

/-- The status of a session. The first four are the constants of `internal/types`, the next three
are written by the handlers, and the column takes any other text. -/
inductive NssaaStatus
  | notExecuted
  | pending
  | eapSuccess
  | eapFailure
  | confirmed
  | authorized
  | revoked
  | other (text : String) (unnamed : text ∉ namedStatuses)
  deriving DecidableEq

def NssaaStatus.string : NssaaStatus → String
  | .notExecuted => "NOT_EXECUTED"
  | .pending => "PENDING"
  | .eapSuccess => "EAP_SUCCESS"
  | .eapFailure => "EAP_FAILURE"
  | .confirmed => "CONFIRMED"
  | .authorized => "AUTHORIZED"
  | .revoked => "REVOKED"
  | .other text _ => text

/-- A slice authentication session. A time that was never set is `none`. -/
structure NssaaSession where
  authCtxID : String
  gpsi : String
  snssaiSST : UInt8
  snssaiSD : String
  amfInstance : String
  reauthURI : String
  revocURI : String
  eapPayload : Bytes
  status : NssaaStatus
  callbackOwner : String
  hasAIWContext : Bool
  createdAt : Option Time
  updatedAt : Option Time
  expiresAt : Option Time
  deriving DecidableEq

/-- The columns that the repository reads and writes. In the table `gpsi` and `eapSessionState`
hold ciphertexts. -/
structure NssaaRow where
  authCtxID : String
  gpsi : String
  snssaiSST : UInt8
  snssaiSD : String
  amfInstanceID : String
  amfIP : Option String
  amfRegion : String
  aaaConfigID : Option String
  eapSessionState : Bytes
  nssaaStatus : NssaaStatus
  authResult : String
  eapRounds : ℤ
  maxEAPRounds : ℤ
  eapLastNonce : String
  failureReason : String
  failureCause : String
  reauthNotifURI : String
  revocNotifURI : String
  callbackOwner : String
  hasAIWContext : Bool
  createdAt : Time
  updatedAt : Time
  expiresAt : Time
  completedAt : Option Time
  terminatedAt : Option Time
  deriving DecidableEq

/-- A stored row: the columns above and the two that are written but not read back. -/
structure StoredRow extends NssaaRow where
  gpsiHash : String
  supi : String
  deriving DecidableEq

abbrev NssaaTable : Type := List StoredRow

/-! ## Encryption -/

/-- The encryption under the key of the repository. -/
structure Encryptor where
  aead : Crypto.Aead
  key : Bytes

namespace Encryptor

variable (enc : Encryptor)

def encrypt (nonce : Except String Bytes) (plaintext : Bytes) : Except String Bytes :=
  Crypto.encryptConcat enc.aead nonce plaintext enc.key

def decrypt (ciphertext : Bytes) : Except String Bytes :=
  Crypto.decryptConcat enc.aead ciphertext enc.key

def encryptField (nonce : Except String Bytes) (plaintext : String) : Except String String :=
  if plaintext = "" then .ok ""
  else (enc.encrypt nonce (Bytes.ofString plaintext)).map Base64.encodeToString

def decryptField (encoded : String) : Except String String :=
  if encoded = "" then .ok ""
  else
    match Base64.decodeString encoded with
    | none => .error "illegal base64 data"
    | some ciphertext => (enc.decrypt ciphertext).map Bytes.text

variable {enc} {nonce : Except String Bytes}

theorem decrypt_encrypt {plaintext ciphertext : Bytes} (hA : enc.aead.Sound enc.key)
    (hn : ∀ n, nonce = .ok n → n.length = Crypto.nonceSize)
    (h : enc.encrypt nonce plaintext = .ok ciphertext) :
    enc.decrypt ciphertext = .ok plaintext := by
  obtain ⟨-, n, rfl⟩ := Crypto.encryptConcat_ok_iff.mp ⟨ciphertext, h⟩
  exact Crypto.decryptConcat_encryptConcat hA (hn n rfl) h

theorem ne_nil_of_decrypt {plaintext ciphertext : Bytes}
    (h : enc.decrypt ciphertext = .ok plaintext) : ciphertext ≠ [] := by
  rintro rfl
  unfold decrypt Crypto.decryptConcat at h
  split_ifs at h with hk hlen
  exact hlen (by decide)

theorem decryptField_encryptField {plaintext encoded : String} (hA : enc.aead.Sound enc.key)
    (hn : ∀ n, nonce = .ok n → n.length = Crypto.nonceSize)
    (h : enc.encryptField nonce plaintext = .ok encoded) :
    enc.decryptField encoded = .ok plaintext := by
  unfold encryptField at h
  split_ifs at h with hp
  · cases h
    rw [hp]
    rfl
  · cases hc : enc.encrypt nonce (Bytes.ofString plaintext) with
    | error err =>
      rw [hc] at h
      cases h
    | ok ciphertext =>
      rw [hc] at h
      cases h
      have hd := decrypt_encrypt hA hn hc
      -- the encoding is not empty, because it decodes to the ciphertext
      have hne : Base64.encodeToString ciphertext ≠ "" := by
        intro hempty
        have hdecode := Base64.decodeString_encodeToString ciphertext
        rw [hempty] at hdecode
        exact ne_nil_of_decrypt hd (Option.some.inj hdecode).symm
      unfold decryptField
      rw [if_neg hne, Base64.decodeString_encodeToString]
      dsimp only
      rw [hd]
      exact congrArg Except.ok (Bytes.text_ofString plaintext)

end Encryptor

def hashGPSI (gpsi : String) : String :=
  Hex.encodeToString ((Sha256.sum256 (Bytes.ofString gpsi)).take 16)

/-! ## Sessions and rows -/

/-- A row of the table in clear. What does not decrypt is read as empty. -/
def scanRow (enc : Encryptor) (r : StoredRow) : NssaaRow :=
  { r.toNssaaRow with
    gpsi := (enc.decryptField r.gpsi).toOption.getD ""
    eapSessionState :=
      if r.eapSessionState.length > 0 then (enc.decrypt r.eapSessionState).toOption.getD []
      else [] }

def rowToSession (r : NssaaRow) : NssaaSession where
  authCtxID := r.authCtxID
  gpsi := r.gpsi
  snssaiSST := r.snssaiSST
  snssaiSD := r.snssaiSD
  amfInstance := r.amfInstanceID
  reauthURI := r.reauthNotifURI
  revocURI := r.revocNotifURI
  eapPayload := r.eapSessionState
  status := r.nssaaStatus
  callbackOwner := r.callbackOwner
  hasAIWContext := r.hasAIWContext
  createdAt := readTime r.createdAt
  updatedAt := readTime r.updatedAt
  expiresAt := readTime r.expiresAt

def sessionToRow (now : Time) (s : NssaaSession) : NssaaRow where
  authCtxID := s.authCtxID
  gpsi := s.gpsi
  snssaiSST := s.snssaiSST
  snssaiSD := s.snssaiSD
  amfInstanceID := s.amfInstance
  amfIP := none
  amfRegion := ""
  aaaConfigID := none
  eapSessionState := s.eapPayload
  nssaaStatus := s.status
  authResult := ""
  eapRounds := 0
  maxEAPRounds := 0
  eapLastNonce := ""
  failureReason := ""
  failureCause := ""
  reauthNotifURI := s.reauthURI
  revocNotifURI := s.revocURI
  callbackOwner := s.callbackOwner
  hasAIWContext := s.hasAIWContext
  createdAt := s.createdAt.getD now
  updatedAt := s.updatedAt.getD now
  expiresAt := s.expiresAt.getD (now + 5 * 60 * second)
  completedAt := none
  terminatedAt := none

/-! ## The repository -/

/-- Why the repository has no session to give, or did not take one. -/
inductive StoreError
  | sessionNotFound
  | failed (msg : String)
  deriving DecidableEq

def StoreError.text : StoreError → String
  | .sessionNotFound => "session not found"
  | .failed msg => msg

/-- What the environment chooses for one statement: the nonces that the random source gives, and
whether the database refuses it. -/
structure Statement where
  stateNonce : Except String Bytes
  gpsiNonce : Except String Bytes
  fault : Option String

/-- The key and the nonces are there, and the database takes the statement. The identity is not
encrypted if it is empty. -/
structure Statement.Succeeds (enc : Encryptor) (gpsi : String) (st : Statement) : Prop where
  key : enc.key.length = Crypto.keySize
  stateNonce : ∃ n, st.stateNonce = .ok n
  gpsiNonce : gpsi ≠ "" → ∃ n, st.gpsiNonce = .ok n
  fault : st.fault = none

/-- The random source gives nonces of the right size. -/
structure Statement.Sized (st : Statement) : Prop where
  stateNonce : ∀ n, st.stateNonce = .ok n → n.length = Crypto.nonceSize
  gpsiNonce : ∀ n, st.gpsiNonce = .ok n → n.length = Crypto.nonceSize

structure Writing where
  now : Time
  update : Statement
  insert : Statement

/-- The row as it is written: the ciphertexts of the payload and of the identity, or which of the
two could not be made. -/
def encryptRow (enc : Encryptor) (st : Statement) (what : String) (r : NssaaRow) :
    Except String StoredRow :=
  match enc.encrypt st.stateNonce r.eapSessionState with
  | .error err => .error (what ++ ": encrypt state: " ++ err)
  | .ok stateCiphertext =>
    match enc.encryptField st.gpsiNonce r.gpsi with
    | .error err => .error (what ++ ": encrypt gpsi: " ++ err)
    | .ok encryptedGPSI =>
      .ok
        { r with
          gpsi := encryptedGPSI
          eapSessionState := stateCiphertext
          gpsiHash := hashGPSI r.gpsi
          supi := "" }

/-- The columns that an update sets. The identifier, the AMF, the creation time, the routing and
the round limit stay. -/
def StoredRow.set (old new : StoredRow) : StoredRow :=
  { old with
    gpsi := new.gpsi
    gpsiHash := new.gpsiHash
    snssaiSST := new.snssaiSST
    snssaiSD := new.snssaiSD
    eapSessionState := new.eapSessionState
    eapRounds := new.eapRounds
    eapLastNonce := new.eapLastNonce
    nssaaStatus := new.nssaaStatus
    authResult := new.authResult
    failureReason := new.failureReason
    failureCause := new.failureCause
    reauthNotifURI := new.reauthNotifURI
    revocNotifURI := new.revocNotifURI
    callbackOwner := new.callbackOwner
    hasAIWContext := new.hasAIWContext
    updatedAt := new.updatedAt
    expiresAt := new.expiresAt
    completedAt := new.completedAt
    terminatedAt := new.terminatedAt }

namespace NssaaTable

variable (enc : Encryptor) (t : NssaaTable)

def row (authCtxID : String) : Option StoredRow :=
  Table.select (fun r : StoredRow => r.authCtxID) authCtxID t

def statusOf (authCtxID : String) : Option NssaaStatus :=
  (t.row authCtxID).map fun r => r.nssaaStatus

def load (fault : Option String) (id : String) : Except StoreError NssaaSession :=
  match fault with
  | some err => .error (.failed ("nssaa load: " ++ err))
  | none =>
    match t.row id with
    | none => .error .sessionNotFound
    | some r => .ok (rowToSession (scanRow enc r))

def updateRow (st : Statement) (r : NssaaRow) : Except StoreError NssaaTable :=
  match encryptRow enc st "nssaa update" r with
  | .error err => .error (.failed err)
  | .ok new =>
    match st.fault with
    | some err => .error (.failed ("nssaa update: " ++ err))
    | none =>
      if Table.affected (fun r : StoredRow => r.authCtxID) r.authCtxID t = 0 then
        .error .sessionNotFound
      else .ok (Table.update (fun r : StoredRow => r.authCtxID) r.authCtxID (·.set new) t)

def createRow (st : Statement) (r : NssaaRow) : Except StoreError NssaaTable :=
  match encryptRow enc st "nssaa create" r with
  | .error err => .error (.failed err)
  | .ok new =>
    match st.fault with
    | some err => .error (.failed err)
    | none => .ok (t ++ [new])

def save (w : Writing) (s : NssaaSession) : Except StoreError NssaaTable :=
  let row := sessionToRow w.now s
  match t.updateRow enc w.update row with
  | .error .sessionNotFound => t.createRow enc w.insert row
  | result => result

end NssaaTable

/-! ## What a save leaves behind -/

@[simp] theorem StoredRow.set_authCtxID (old new : StoredRow) :
    (old.set new).authCtxID = old.authCtxID := rfl

@[simp] theorem StoredRow.set_nssaaStatus (old new : StoredRow) :
    (old.set new).nssaaStatus = new.nssaaStatus := rfl

theorem encryptRow_ok {enc : Encryptor} {st : Statement} {what : String} {r : NssaaRow}
    {new : StoredRow} (h : encryptRow enc st what r = .ok new) :
    enc.encrypt st.stateNonce r.eapSessionState = .ok new.eapSessionState ∧
      enc.encryptField st.gpsiNonce r.gpsi = .ok new.gpsi ∧
      new =
        { r with
          gpsi := new.gpsi
          eapSessionState := new.eapSessionState
          gpsiHash := hashGPSI r.gpsi
          supi := "" } := by
  unfold encryptRow at h
  split at h
  · cases h
  · rename_i hstate
    split at h
    · cases h
    · rename_i hgpsi
      cases h
      exact ⟨hstate, hgpsi, rfl⟩

theorem encryptRow_authCtxID {enc : Encryptor} {st : Statement} {what : String} {r : NssaaRow}
    {new : StoredRow} (h : encryptRow enc st what r = .ok new) : new.authCtxID = r.authCtxID := by
  obtain ⟨-, -, hnew⟩ := encryptRow_ok h
  rw [hnew]

theorem encryptRow_nssaaStatus {enc : Encryptor} {st : Statement} {what : String} {r : NssaaRow}
    {new : StoredRow} (h : encryptRow enc st what r = .ok new) :
    new.nssaaStatus = r.nssaaStatus := by
  obtain ⟨-, -, hnew⟩ := encryptRow_ok h
  rw [hnew]

namespace NssaaTable

variable {enc : Encryptor} {t t' : NssaaTable} {w : Writing} {s : NssaaSession} {id : String}

theorem authCtxID_of_row {r : StoredRow} (h : t.row id = some r) : r.authCtxID = id := by
  have hk := Table.key_of_select h
  exact hk

theorem row_ne_none {st : NssaaStatus} (h : t.statusOf id = some st) : t.row id ≠ none := by
  intro hn
  unfold statusOf at h
  rw [hn] at h
  cases h

theorem load_ok {fault : Option String} (h : t.load enc fault id = .ok s) :
    ∃ r, t.row id = some r ∧ s = rowToSession (scanRow enc r) := by
  unfold load at h
  split at h
  · cases h
  · split at h
    · cases h
    · rename_i r hr
      cases h
      exact ⟨r, hr, rfl⟩

theorem authCtxID_of_load {fault : Option String} (h : t.load enc fault id = .ok s) :
    s.authCtxID = id := by
  obtain ⟨r, hr, rfl⟩ := load_ok h
  exact authCtxID_of_row hr

variable (enc t) in
theorem updateRow_cases (st : Statement) (r : NssaaRow) :
    (∃ msg, t.updateRow enc st r = .error (.failed msg)) ∨
      ∃ new : StoredRow, encryptRow enc st "nssaa update" r = .ok new ∧
        t.updateRow enc st r =
          if t.row r.authCtxID = none then .error .sessionNotFound
          else .ok (Table.update (fun r : StoredRow => r.authCtxID) r.authCtxID (·.set new) t) := by
  unfold updateRow
  cases he : encryptRow enc st "nssaa update" r with
  | error err => exact Or.inl ⟨err, rfl⟩
  | ok new =>
    cases hf : st.fault with
    | some err => exact Or.inl ⟨_, rfl⟩
    | none =>
      refine Or.inr ⟨new, rfl, ?_⟩
      by_cases hrow : t.row r.authCtxID = none
      · rw [if_pos hrow]
        exact if_pos (Table.affected_eq_zero.mpr hrow)
      · rw [if_neg hrow]
        exact if_neg fun h => hrow (Table.affected_eq_zero.mp h)

theorem updateRow_ok {st : Statement} {r : NssaaRow} (h : t.updateRow enc st r = .ok t') :
    ∃ new : StoredRow, encryptRow enc st "nssaa update" r = .ok new ∧ t.row r.authCtxID ≠ none ∧
      t' = Table.update (fun r : StoredRow => r.authCtxID) r.authCtxID (·.set new) t := by
  rcases updateRow_cases enc t st r with ⟨msg, hu⟩ | ⟨new, hnew, hu⟩
  · rw [hu] at h
    cases h
  · rw [hu] at h
    split_ifs at h with hrow
    cases h
    exact ⟨new, hnew, hrow, rfl⟩

theorem updateRow_sessionNotFound {st : Statement} {r : NssaaRow}
    (h : t.updateRow enc st r = .error .sessionNotFound) : t.row r.authCtxID = none := by
  rcases updateRow_cases enc t st r with ⟨msg, hu⟩ | ⟨new, -, hu⟩
  · rw [hu] at h
    cases h
  · by_contra hrow
    rw [hu, if_neg hrow] at h
    cases h

theorem createRow_ok {st : Statement} {r : NssaaRow} (h : t.createRow enc st r = .ok t') :
    ∃ new : StoredRow, encryptRow enc st "nssaa create" r = .ok new ∧ t' = t ++ [new] := by
  unfold createRow at h
  split at h
  · cases h
  · rename_i new he
    split at h
    · cases h
    · cases h
      exact ⟨new, he, rfl⟩

theorem save_ok (h : t.save enc w s = .ok t') :
    (∃ new, encryptRow enc w.update "nssaa update" (sessionToRow w.now s) = .ok new ∧
      t.row s.authCtxID ≠ none ∧
      t' = Table.update (fun r : StoredRow => r.authCtxID) s.authCtxID (·.set new) t) ∨
    (∃ new, encryptRow enc w.insert "nssaa create" (sessionToRow w.now s) = .ok new ∧
      t.row s.authCtxID = none ∧ t' = t ++ [new]) := by
  unfold save at h
  dsimp only at h
  split at h
  · rename_i hu
    obtain ⟨new, hnew, rfl⟩ := createRow_ok h
    exact Or.inr ⟨new, hnew, updateRow_sessionNotFound hu, rfl⟩
  · exact Or.inl (updateRow_ok h)

theorem row_save (h : t.save enc w s = .ok t') :
    (∃ r new, t.row s.authCtxID = some r ∧
      encryptRow enc w.update "nssaa update" (sessionToRow w.now s) = .ok new ∧
      t'.row s.authCtxID = some (r.set new)) ∨
    (∃ new, t.row s.authCtxID = none ∧
      encryptRow enc w.insert "nssaa create" (sessionToRow w.now s) = .ok new ∧
      t'.row s.authCtxID = some new) := by
  rcases save_ok h with ⟨new, hnew, hrow, rfl⟩ | ⟨new, hnew, hrow, rfl⟩
  · obtain ⟨r, hr⟩ := Option.ne_none_iff_exists'.mp hrow
    refine Or.inl ⟨r, new, hr, hnew, ?_⟩
    have hk := authCtxID_of_row hr
    unfold row at hr ⊢
    rw [Table.select_update fun r => r.set_authCtxID new, hr, Option.map_some, if_pos hk]
  · exact Or.inr ⟨new, hrow, hnew, Table.select_insert_self hrow (encryptRow_authCtxID hnew)⟩

theorem row_save_ne (h : t.save enc w s = .ok t') (hid : id ≠ s.authCtxID) :
    t'.row id = t.row id := by
  unfold row
  rcases save_ok h with ⟨new, hnew, hrow, rfl⟩ | ⟨new, hnew, hrow, rfl⟩
  · rw [Table.select_update fun r => r.set_authCtxID new]
    cases hr : Table.select (fun r : StoredRow => r.authCtxID) id t with
    | none => rfl
    | some r =>
      have hk : r.authCtxID = id := authCtxID_of_row hr
      rw [Option.map_some, if_neg (by rw [hk]; exact hid)]
  · apply Table.select_insert_ne
    rw [encryptRow_authCtxID hnew]
    exact hid.symm

theorem encryptField_ok_iff {nonce : Except String Bytes} {plaintext : String}
    (hk : enc.key.length = Crypto.keySize) :
    (∃ c, enc.encryptField nonce plaintext = .ok c) ↔ (plaintext ≠ "" → ∃ n, nonce = .ok n) := by
  unfold Encryptor.encryptField
  by_cases hp : plaintext = ""
  · rw [if_pos hp]
    exact iff_of_true ⟨_, rfl⟩ fun h => absurd hp h
  · have henc : (∃ c, enc.encrypt nonce (Bytes.ofString plaintext) = .ok c) ↔ _ :=
      Crypto.encryptConcat_ok_iff
    rw [if_neg hp, Results.exists_map_ok, henc, and_iff_right hk]
    exact (imp_iff_right hp).symm

theorem encryptRow_ok_iff {st : Statement} {what : String} {r : NssaaRow} :
    (∃ new, encryptRow enc st what r = .ok new) ↔ enc.key.length = Crypto.keySize ∧
      (∃ n, st.stateNonce = .ok n) ∧ (r.gpsi ≠ "" → ∃ n, st.gpsiNonce = .ok n) := by
  have hstate : (∃ c, enc.encrypt st.stateNonce r.eapSessionState = .ok c) ↔ _ :=
    Crypto.encryptConcat_ok_iff
  unfold encryptRow
  cases hs : enc.encrypt st.stateNonce r.eapSessionState with
  | error err =>
    rw [hs] at hstate
    exact iff_of_false Results.not_exists_ok fun h =>
      Results.not_exists_ok (hstate.mpr ⟨h.1, h.2.1⟩)
  | ok c =>
    obtain ⟨hk, hn⟩ := hstate.mp ⟨c, hs⟩
    have hgpsi : (∃ c, enc.encryptField st.gpsiNonce r.gpsi = .ok c) ↔ _ := encryptField_ok_iff hk
    cases hg : enc.encryptField st.gpsiNonce r.gpsi with
    | error err =>
      rw [hg] at hgpsi
      exact iff_of_false Results.not_exists_ok fun h =>
        Results.not_exists_ok (hgpsi.mpr h.2.2)
    | ok c' => exact iff_of_true ⟨_, rfl⟩ ⟨hk, hn, hgpsi.mp ⟨c', hg⟩⟩

theorem updateRow_ok_iff {st : Statement} {r : NssaaRow} (hrow : t.row r.authCtxID ≠ none) :
    (∃ t', t.updateRow enc st r = .ok t') ↔ st.Succeeds enc r.gpsi := by
  have hne : ¬ Table.affected (fun r : StoredRow => r.authCtxID) r.authCtxID t = 0 :=
    fun h => hrow (Table.affected_eq_zero.mp h)
  have henc : (∃ new, encryptRow enc st "nssaa update" r = .ok new) ↔ _ := encryptRow_ok_iff
  unfold updateRow
  cases he : encryptRow enc st "nssaa update" r with
  | error err =>
    rw [he] at henc
    exact iff_of_false Results.not_exists_ok fun h =>
      Results.not_exists_ok (henc.mpr ⟨h.key, h.stateNonce, h.gpsiNonce⟩)
  | ok new =>
    obtain ⟨hk, hs, hn⟩ := henc.mp ⟨new, he⟩
    cases hf : st.fault with
    | some err =>
      refine iff_of_false Results.not_exists_ok fun h => ?_
      rw [h.fault] at hf
      cases hf
    | none =>
      dsimp only
      rw [if_neg hne]
      exact iff_of_true ⟨_, rfl⟩ ⟨hk, hs, hn, hf⟩

theorem save_ok_iff (hrow : t.row s.authCtxID ≠ none) :
    (∃ t', t.save enc w s = .ok t') ↔ w.update.Succeeds enc s.gpsi := by
  have hupdate : (∃ t', t.updateRow enc w.update (sessionToRow w.now s) = .ok t') ↔
      w.update.Succeeds enc s.gpsi := updateRow_ok_iff hrow
  rw [← hupdate]
  unfold save
  dsimp only
  split
  · rename_i hu
    exact absurd (updateRow_sessionNotFound hu) hrow
  · exact Iff.rfl

/-- **An accepted save** leaves its session with the status it has, and every other session with
the status it had. -/
theorem statusOf_save (h : t.save enc w s = .ok t') (id : String) :
    t'.statusOf id = if id = s.authCtxID then some s.status else t.statusOf id := by
  unfold statusOf
  split
  · rename_i heq
    subst heq
    rcases row_save h with ⟨r, new, -, hnew, hrow⟩ | ⟨new, -, hnew, hrow⟩
    · rw [hrow, Option.map_some, StoredRow.set_nssaaStatus, encryptRow_nssaaStatus hnew]
      rfl
    · rw [hrow, Option.map_some, encryptRow_nssaaStatus hnew]
      rfl
  · rename_i hne
    rw [row_save_ne h hne]

variable (enc t w) in
/-- The table changes by the accepted save of the session that it took, or not at all. -/
inductive Takes : Option NssaaSession → NssaaTable → Prop
  | nothing : Takes none t
  | session {s : NssaaSession} {t' : NssaaTable} (saved : t.save enc w s = .ok t') :
      Takes (some s) t'

theorem Takes.statusOf_none (h : t.Takes enc w none t') (id : String) :
    t'.statusOf id = t.statusOf id := by
  cases h
  rfl

theorem Takes.statusOf_some (h : t.Takes enc w (some s) t') (id : String) :
    t'.statusOf id = if id = s.authCtxID then some s.status else t.statusOf id := by
  cases h with
  | session hs => exact statusOf_save hs id

end NssaaTable

namespace Sample

def enc : Encryptor := ⟨Crypto.Sample.aead, List.replicate 32 7⟩

theorem enc_sound : enc.aead.Sound enc.key := Crypto.Sample.aead_sound List.length_replicate

def nonce : Bytes := List.replicate 12 0

def statement : Statement := ⟨.ok nonce, .ok nonce, none⟩

theorem statement_sized : statement.Sized := by
  constructor <;>
  · rintro n h
    cases h
    exact List.length_replicate

def writing (now : Time) : Writing := ⟨now, statement, statement⟩

def session : NssaaSession where
  authCtxID := "ctx"
  gpsi := "msisdn-84901"
  snssaiSST := 1
  snssaiSD := "000001"
  amfInstance := "amf-1"
  reauthURI := "https://amf-1/reauth"
  revocURI := "https://amf-1/revoc"
  eapPayload := [2, 1, 0, 5, 1]
  status := .pending
  callbackOwner := "amf"
  hasAIWContext := false
  createdAt := some (1780000000 * second)
  updatedAt := some (1780000000 * second)
  expiresAt := some (1780000300 * second)

/-- The columns of that session in clear. -/
def plain : StoredRow :=
  { sessionToRow 0 session with gpsiHash := hashGPSI session.gpsi, supi := "" }

def row : StoredRow :=
  { plain with
    gpsi := Base64.encodeToString (nonce ++ (Bytes.ofString plain.gpsi ++ List.replicate 16 7))
    eapSessionState := nonce ++ (plain.eapSessionState ++ List.replicate 16 7) }

end Sample

end NssAAF.Storage
