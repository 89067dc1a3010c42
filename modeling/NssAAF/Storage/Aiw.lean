import NssAAF.Storage.Nssaa

/-!
# The table of AIW sessions

The repository of `internal/storage/postgres/aiw_repo.go` over the table `aiw_auth_sessions`. It
works as the one of the slice authentication sessions does, with one ciphertext more: the master
session key of a session that has one. A slice that is nil and one that is empty are not told
apart, and a column that is NULL is an empty one.

`AiwTable.read_save` says what stands in a row after an accepted save.
-/

namespace NssAAF.Storage

/-- An authentication session of the AUSF. A time that was never set is `none`. -/
structure AiwSession where
  authCtxID : String
  supi : String
  eapPayload : Bytes
  ttlsInner : Bytes
  msk : Bytes
  pvsInfo : Bytes
  ausfID : String
  supportedFeatures : String
  status : NssaaStatus
  authResult : String
  createdAt : Option Time
  updatedAt : Option Time
  expiresAt : Option Time
  completedAt : Option Time
  deriving DecidableEq

/-- The columns that the repository reads and writes. In the table `supi`, `eapSessionState` and
`msk` hold ciphertexts. -/
structure AiwRow where
  authCtxID : String
  supi : String
  ausfID : String
  aaaConfigID : Option String
  eapSessionState : Bytes
  nssaaStatus : NssaaStatus
  authResult : String
  eapRounds : ℤ
  maxEAPRounds : ℤ
  eapLastNonce : String
  msk : Bytes
  pvsInfo : Bytes
  ttlsInner : Bytes
  supportedFeatures : String
  failureReason : String
  failureCause : String
  createdAt : Time
  updatedAt : Time
  expiresAt : Time
  completedAt : Option Time
  deriving DecidableEq

/-- A stored row: the columns above and the hash, which is written but not read back. -/
structure StoredAiwRow extends AiwRow where
  supiHash : String
  deriving DecidableEq

abbrev AiwTable : Type := List StoredAiwRow

def hashSUPI (supi : String) : String :=
  Hex.encodeToString ((Sha256.sum256 (Bytes.ofString supi)).take 16)

/-- The octets of a column in clear. An empty column is no ciphertext. -/
def Encryptor.decryptColumn (enc : Encryptor) (column : Bytes) : Except String Bytes :=
  if column.length > 0 then enc.decrypt column else .ok []

/-- The column for octets. There is no ciphertext of nothing. -/
def Encryptor.encryptColumn (enc : Encryptor) (nonce : Except String Bytes) (plaintext : Bytes) :
    Except String Bytes :=
  if plaintext.length > 0 then enc.encrypt nonce plaintext else .ok []

namespace Aiw

/-! ## Sessions and rows -/

/-- A row of the table in clear. What does not decrypt is read as empty. -/
def scanRow (enc : Encryptor) (r : StoredAiwRow) : AiwRow :=
  { r.toAiwRow with
    supi := (enc.decryptField r.supi).toOption.getD ""
    eapSessionState := (enc.decryptColumn r.eapSessionState).toOption.getD []
    msk := (enc.decryptColumn r.msk).toOption.getD [] }

def rowToSession (r : AiwRow) : AiwSession where
  authCtxID := r.authCtxID
  supi := r.supi
  eapPayload := r.eapSessionState
  ttlsInner := r.ttlsInner
  msk := r.msk
  pvsInfo := r.pvsInfo
  ausfID := r.ausfID
  supportedFeatures := r.supportedFeatures
  status := r.nssaaStatus
  authResult := r.authResult
  createdAt := readTime r.createdAt
  updatedAt := readTime r.updatedAt
  expiresAt := readTime r.expiresAt
  completedAt := r.completedAt

def sessionToRow (now : Time) (s : AiwSession) : AiwRow where
  authCtxID := s.authCtxID
  supi := s.supi
  ausfID := s.ausfID
  aaaConfigID := none
  eapSessionState := s.eapPayload
  nssaaStatus := s.status
  authResult := s.authResult
  eapRounds := 0
  maxEAPRounds := 0
  eapLastNonce := ""
  msk := s.msk
  pvsInfo := s.pvsInfo
  ttlsInner := s.ttlsInner
  supportedFeatures := s.supportedFeatures
  failureReason := ""
  failureCause := ""
  createdAt := s.createdAt.getD now
  updatedAt := s.updatedAt.getD now
  expiresAt := s.expiresAt.getD (now + 24 * 60 * 60 * second)
  completedAt := s.completedAt

/-- What the environment chooses for one statement: the nonces that the random source gives, and
whether the database refuses it. -/
structure Statement where
  stateNonce : Except String Bytes
  supiNonce : Except String Bytes
  mskNonce : Except String Bytes
  fault : Option String

/-- The random source gives nonces of the right size. -/
structure Statement.Sized (st : Statement) : Prop where
  stateNonce : ∀ n, st.stateNonce = .ok n → n.length = Crypto.nonceSize
  supiNonce : ∀ n, st.supiNonce = .ok n → n.length = Crypto.nonceSize
  mskNonce : ∀ n, st.mskNonce = .ok n → n.length = Crypto.nonceSize

/-- What the environment chooses for a save. -/
structure Writing where
  now : Time
  update : Statement
  insert : Statement

/-- The row as it is written: its ciphertexts, or which of them could not be made. -/
def encryptRow (enc : Encryptor) (st : Statement) (what : String) (r : AiwRow) :
    Except String StoredAiwRow :=
  match enc.encrypt st.stateNonce r.eapSessionState with
  | .error err => .error (what ++ ": encrypt state: " ++ err)
  | .ok stateCiphertext =>
    match enc.encryptField st.supiNonce r.supi with
    | .error err => .error (what ++ ": encrypt supi: " ++ err)
    | .ok encryptedSUPI =>
      match enc.encryptColumn st.mskNonce r.msk with
      | .error err => .error (what ++ ": encrypt msk: " ++ err)
      | .ok mskCiphertext =>
        .ok
          { r with
            supi := encryptedSUPI
            eapSessionState := stateCiphertext
            msk := mskCiphertext
            supiHash := hashSUPI r.supi }

end Aiw

/-- The columns that an update sets. The identifier, the configuration, the round limit and the
creation time stay. -/
def StoredAiwRow.set (old new : StoredAiwRow) : StoredAiwRow :=
  { old with
    supi := new.supi
    supiHash := new.supiHash
    ausfID := new.ausfID
    eapSessionState := new.eapSessionState
    eapRounds := new.eapRounds
    eapLastNonce := new.eapLastNonce
    nssaaStatus := new.nssaaStatus
    authResult := new.authResult
    msk := new.msk
    pvsInfo := new.pvsInfo
    ttlsInner := new.ttlsInner
    supportedFeatures := new.supportedFeatures
    failureReason := new.failureReason
    failureCause := new.failureCause
    updatedAt := new.updatedAt
    expiresAt := new.expiresAt
    completedAt := new.completedAt }

namespace AiwTable

variable (enc : Encryptor) (t : AiwTable)

/-! ## The repository -/

def row (authCtxID : String) : Option StoredAiwRow :=
  Table.select (fun r : StoredAiwRow => r.authCtxID) authCtxID t

def load (fault : Option String) (id : String) : Except StoreError AiwSession :=
  match fault with
  | some err => .error (.failed ("aiw load: " ++ err))
  | none =>
    match t.row id with
    | none => .error .sessionNotFound
    | some r => .ok (Aiw.rowToSession (Aiw.scanRow enc r))

def updateRow (st : Aiw.Statement) (r : AiwRow) : Except StoreError AiwTable :=
  match Aiw.encryptRow enc st "aiw update" r with
  | .error err => .error (.failed err)
  | .ok new =>
    match st.fault with
    | some err => .error (.failed ("aiw update: " ++ err))
    | none =>
      if Table.affected (fun r : StoredAiwRow => r.authCtxID) r.authCtxID t = 0 then
        .error .sessionNotFound
      else .ok (Table.update (fun r : StoredAiwRow => r.authCtxID) r.authCtxID (·.set new) t)

/-- An insert does not write the completion time. -/
def createRow (st : Aiw.Statement) (r : AiwRow) : Except StoreError AiwTable :=
  match Aiw.encryptRow enc st "aiw create" r with
  | .error err => .error (.failed err)
  | .ok new =>
    match st.fault with
    | some err => .error (.failed ("aiw create: " ++ err))
    | none => .ok (t ++ [{ new with completedAt := none }])

def save (w : Aiw.Writing) (s : AiwSession) : Except StoreError AiwTable :=
  let row := Aiw.sessionToRow w.now s
  match t.updateRow enc w.update row with
  | .error .sessionNotFound => t.createRow enc w.insert row
  | result => result

end AiwTable

/-! ## What a save leaves behind -/

/-- The subscriber, the payload and the master session key of a row in clear. -/
def StoredAiwRow.subscriber (enc : Encryptor) (r : StoredAiwRow) : Except String String :=
  enc.decryptField r.supi

@[inherit_doc StoredAiwRow.subscriber]
def StoredAiwRow.payload (enc : Encryptor) (r : StoredAiwRow) : Except String Bytes :=
  enc.decryptColumn r.eapSessionState

@[inherit_doc StoredAiwRow.subscriber]
def StoredAiwRow.key (enc : Encryptor) (r : StoredAiwRow) : Except String Bytes :=
  enc.decryptColumn r.msk

section

variable {enc : Encryptor} {nonce : Except String Bytes} {plaintext column : Bytes}

theorem Encryptor.decryptColumn_of_decrypt (h : enc.decrypt column = .ok plaintext) :
    enc.decryptColumn column = .ok plaintext := by
  unfold decryptColumn
  rw [if_pos (List.length_pos_of_ne_nil (ne_nil_of_decrypt h)), h]

theorem Encryptor.decryptColumn_encryptColumn (hA : enc.aead.Sound enc.key)
    (hn : ∀ n, nonce = .ok n → n.length = Crypto.nonceSize)
    (h : enc.encryptColumn nonce plaintext = .ok column) :
    enc.decryptColumn column = .ok plaintext := by
  unfold encryptColumn at h
  split_ifs at h with hp
  · exact decryptColumn_of_decrypt (decrypt_encrypt hA hn h)
  · cases h
    rw [List.length_eq_zero_iff.mp (Nat.eq_zero_of_not_pos hp)]
    rfl

end

namespace AiwTable

variable {enc : Encryptor} {t t' : AiwTable} {w : Aiw.Writing} {s : AiwSession} {id : String}
  {r : StoredAiwRow}

theorem authCtxID_of_row (h : t.row id = some r) : r.authCtxID = id := by
  have hk := Table.key_of_select h
  exact hk

theorem load_ok {fault : Option String} (h : t.load enc fault id = .ok s) :
    ∃ r, t.row id = some r ∧ s = Aiw.rowToSession (Aiw.scanRow enc r) := by
  unfold load at h
  split at h
  · cases h
  · split at h
    · cases h
    · rename_i r hr
      cases h
      exact ⟨r, hr, rfl⟩

theorem read_encryptRow {st : Aiw.Statement} {what : String} {columns : AiwRow}
    {new : StoredAiwRow} (hA : enc.aead.Sound enc.key) (hst : st.Sized)
    (h : Aiw.encryptRow enc st what columns = .ok new) :
    new.subscriber enc = .ok columns.supi ∧ new.payload enc = .ok columns.eapSessionState ∧
      new.key enc = .ok columns.msk := by
  unfold Aiw.encryptRow at h
  split at h
  · cases h
  · rename_i hstate
    split at h
    · cases h
    · rename_i hsupi
      split at h
      · cases h
      · rename_i hmsk
        cases h
        exact ⟨Encryptor.decryptField_encryptField hA hst.supiNonce hsupi,
          Encryptor.decryptColumn_of_decrypt (Encryptor.decrypt_encrypt hA hst.stateNonce hstate),
          Encryptor.decryptColumn_encryptColumn hA hst.mskNonce hmsk⟩

variable (enc) in
theorem updateRow_of_row {st : Aiw.Statement} {columns : AiwRow}
    (hrow : t.row columns.authCtxID = some r) :
    (∃ msg, t.updateRow enc st columns = .error (.failed msg)) ∨
      ∃ new, Aiw.encryptRow enc st "aiw update" columns = .ok new ∧
        t.updateRow enc st columns =
          .ok (Table.update (fun r : StoredAiwRow => r.authCtxID) columns.authCtxID
            (·.set new) t) := by
  have hne : ¬ Table.affected (fun r : StoredAiwRow => r.authCtxID) columns.authCtxID t = 0 := by
    intro h
    have hnone : t.row columns.authCtxID = none := Table.affected_eq_zero.mp h
    rw [hrow] at hnone
    cases hnone
  unfold updateRow
  cases he : Aiw.encryptRow enc st "aiw update" columns with
  | error err => exact Or.inl ⟨err, rfl⟩
  | ok new =>
    cases hf : st.fault with
    | some err => exact Or.inl ⟨_, rfl⟩
    | none => exact Or.inr ⟨new, rfl, if_neg hne⟩

/-- **An accepted save** of a session that is on file leaves a row with its subscriber, its payload
and its key. -/
theorem read_save (hA : enc.aead.Sound enc.key) (hw : w.update.Sized)
    (h : t.save enc w s = .ok t') (hrow : t.row s.authCtxID = some r) :
    ∃ r', t'.row s.authCtxID = some r' ∧ r'.subscriber enc = .ok s.supi ∧
      r'.payload enc = .ok s.eapPayload ∧ r'.key enc = .ok s.msk := by
  have hcolumns : t.row (Aiw.sessionToRow w.now s).authCtxID = some r := hrow
  unfold save at h
  dsimp only at h
  rcases updateRow_of_row enc hcolumns with ⟨msg, hu⟩ | ⟨new, hnew, hu⟩
  · rw [hu] at h
    cases h
  · rw [hu] at h
    cases h
    have hk := authCtxID_of_row hrow
    refine ⟨r.set new, ?_, read_encryptRow hA hw hnew⟩
    unfold row at hrow ⊢
    have hset : ∀ r : StoredAiwRow, (r.set new).authCtxID = r.authCtxID := fun r => rfl
    rw [show (Aiw.sessionToRow w.now s).authCtxID = s.authCtxID from rfl, Table.select_update hset,
      hrow, Option.map_some, if_pos hk]

theorem authCtxID_encryptRow {st : Aiw.Statement} {what : String} {columns : AiwRow}
    {new : StoredAiwRow} (h : Aiw.encryptRow enc st what columns = .ok new) :
    new.authCtxID = columns.authCtxID := by
  unfold Aiw.encryptRow at h
  split at h
  · cases h
  · split at h
    · cases h
    · split at h <;> cases h
      rfl

theorem save_of_row_none (hrow : t.row s.authCtxID = none) (h : t.save enc w s = .ok t') :
    ∃ new, Aiw.encryptRow enc w.insert "aiw create" (Aiw.sessionToRow w.now s) = .ok new ∧
      t' = t ++ [{ new with completedAt := none }] := by
  have haffected : Table.affected (fun r : StoredAiwRow => r.authCtxID)
      (Aiw.sessionToRow w.now s).authCtxID t = 0 := Table.affected_eq_zero.mpr hrow
  unfold save at h
  dsimp only at h
  cases hu : t.updateRow enc w.update (Aiw.sessionToRow w.now s) with
  | ok t'' =>
    unfold updateRow at hu
    split at hu
    · cases hu
    · split at hu
      · cases hu
      · rw [if_pos haffected] at hu
        cases hu
  | error err =>
    rw [hu] at h
    cases err with
    | failed msg => cases h
    | sessionNotFound =>
      change t.createRow enc w.insert _ = .ok t' at h
      unfold createRow at h
      split at h
      · cases h
      · next new hnew =>
        split at h
        · cases h
        · cases h
          exact ⟨new, hnew, rfl⟩

/-- An accepted save, whether the session is on file or not. -/
theorem row_save (hA : enc.aead.Sound enc.key) (hu : w.update.Sized) (hi : w.insert.Sized)
    (h : t.save enc w s = .ok t') :
    (∃ r', t'.row s.authCtxID = some r' ∧ r'.subscriber enc = .ok s.supi ∧
      r'.payload enc = .ok s.eapPayload) ∧
    ∀ id ≠ s.authCtxID, t'.row id = t.row id := by
  cases hrow : t.row s.authCtxID with
  | some r =>
    obtain ⟨r', hr', hsub, hpay, -⟩ := read_save hA hu h hrow
    refine ⟨⟨r', hr', hsub, hpay⟩, fun id hne => ?_⟩
    have hcolumns : t.row (Aiw.sessionToRow w.now s).authCtxID = some r := hrow
    unfold save at h
    dsimp only at h
    rcases updateRow_of_row enc hcolumns with ⟨msg, hfail⟩ | ⟨new, -, hupdate⟩
    · rw [hfail] at h
      cases h
    · rw [hupdate] at h
      cases h
      have hset : ∀ r : StoredAiwRow, (r.set new).authCtxID = r.authCtxID := fun r => rfl
      exact Table.select_update_ne hset hne
  | none =>
    obtain ⟨new, hnew, rfl⟩ := save_of_row_none hrow h
    obtain ⟨hsub, hpay, -⟩ := read_encryptRow hA hi hnew
    have hkey : new.authCtxID = s.authCtxID := authCtxID_encryptRow hnew
    refine ⟨⟨_, Table.select_insert_self hrow hkey, hsub, hpay⟩, fun id hne => ?_⟩
    exact Table.select_insert_ne fun heq => hne (heq.symm.trans hkey)

end AiwTable

end NssAAF.Storage
