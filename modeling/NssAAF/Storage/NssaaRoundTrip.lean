import NssAAF.Storage.Nssaa

/-!
# Saving what was loaded, and loading what was saved

A session has fewer fields than its row, and an update sets fewer columns than an insert. So
neither of the two compositions is the identity. With a cipher that opens what it sealed,
`save_load_unchanged_iff` says for which rows a load followed by a save changes nothing, and
`load_save_same_iff` says when a load after a save gives the session back.
-/

namespace NssAAF.Storage

def StoredRow.subscriber (enc : Encryptor) (r : StoredRow) : Except String String :=
  enc.decryptField r.gpsi

def StoredRow.payload (enc : Encryptor) (r : StoredRow) : Except String Bytes :=
  if r.eapSessionState.length > 0 then enc.decrypt r.eapSessionState else .ok []

/-- The columns of a row with its ciphertexts decrypted, if they decrypt. -/
def StoredRow.decrypted (enc : Encryptor) (r : StoredRow) : Option StoredRow :=
  match enc.decryptField r.gpsi, r.payload enc with
  | .ok gpsi, .ok payload => some { r with gpsi := gpsi, eapSessionState := payload }
  | _, _ => none

variable {enc : Encryptor} {r plain new : StoredRow} {columns : NssaaRow} {st : Statement}

theorem StoredRow.payload_of_decrypt {payload : Bytes}
    (h : enc.decrypt r.eapSessionState = .ok payload) : r.payload enc = .ok payload := by
  have hlength : r.eapSessionState.length > 0 :=
    List.length_pos_of_ne_nil (Encryptor.ne_nil_of_decrypt h)
  unfold StoredRow.payload
  rw [if_pos hlength, h]

theorem StoredRow.decrypted_eq_some :
    r.decrypted enc = some plain ↔
      enc.decryptField r.gpsi = .ok plain.gpsi ∧ r.payload enc = .ok plain.eapSessionState ∧
        plain = { r with gpsi := plain.gpsi, eapSessionState := plain.eapSessionState } := by
  unfold StoredRow.decrypted
  constructor
  · intro h
    split at h
    · rename_i hgpsi hpayload
      cases h
      exact ⟨hgpsi, hpayload, rfl⟩
    · cases h
  · rintro ⟨hgpsi, hpayload, hplain⟩
    rw [hgpsi, hpayload]
    exact congrArg some hplain.symm

theorem scanRow_eq (enc : Encryptor) (r : StoredRow) :
    scanRow enc r =
      { r.toNssaaRow with
        gpsi := (enc.decryptField r.gpsi).toOption.getD ""
        eapSessionState := (r.payload enc).toOption.getD [] } := by
  unfold scanRow StoredRow.payload
  split <;> rfl

theorem scanRow_of_decrypted (h : r.decrypted enc = some plain) :
    scanRow enc r = plain.toNssaaRow := by
  obtain ⟨hgpsi, hpayload, hplain⟩ := StoredRow.decrypted_eq_some.mp h
  rw [scanRow_eq, hgpsi, hpayload, hplain]
  rfl

theorem decrypt_encryptRow {what : String} (hA : enc.aead.Sound enc.key) (hst : st.Sized)
    (h : encryptRow enc st what columns = .ok new) :
    enc.decryptField new.gpsi = .ok columns.gpsi ∧
      enc.decrypt new.eapSessionState = .ok columns.eapSessionState := by
  obtain ⟨hstate, hgpsi, -⟩ := encryptRow_ok h
  exact ⟨Encryptor.decryptField_encryptField hA hst.gpsiNonce hgpsi,
    Encryptor.decrypt_encrypt hA hst.stateNonce hstate⟩

theorem NssaaTable.read_save {t t' : NssaaTable} {w : Writing} {s : NssaaSession}
    (hA : enc.aead.Sound enc.key) (hst : w.update.Sized) (h : t.save enc w s = .ok t')
    (hrow : t.row s.authCtxID = some r) :
    ∃ r', t'.row s.authCtxID = some r' ∧ r'.subscriber enc = .ok s.gpsi ∧
      r'.payload enc = .ok s.eapPayload := by
  rcases row_save h with ⟨r, new, -, hnew, hrow'⟩ | ⟨new, hnone, -, -⟩
  · obtain ⟨hgpsi, hstate⟩ := decrypt_encryptRow hA hst hnew
    exact ⟨r.set new, hrow', hgpsi, StoredRow.payload_of_decrypt hstate⟩
  · rw [hrow] at hnone
    cases hnone

/-! ## A save after a load -/

/-- The columns that a save resets have their initial values already, the hash is that of the
identity, and a time that reads as never set is the default that the save puts there. -/
structure StoredRow.Settled (now : Time) (r : StoredRow) : Prop where
  eapRounds : r.eapRounds = 0
  eapLastNonce : r.eapLastNonce = ""
  authResult : r.authResult = ""
  failureReason : r.failureReason = ""
  failureCause : r.failureCause = ""
  completedAt : r.completedAt = none
  terminatedAt : r.terminatedAt = none
  gpsiHash : r.gpsiHash = hashGPSI r.gpsi
  updatedAt : r.updatedAt = zeroTime → now = zeroTime
  expiresAt : r.expiresAt = zeroTime → now + 5 * 60 * second = zeroTime

/-- The columns of a row after a load and a save at `now`. -/
def StoredRow.resaved (now : Time) (r : StoredRow) : StoredRow :=
  { r with
    gpsiHash := hashGPSI r.gpsi
    eapRounds := 0
    eapLastNonce := ""
    authResult := ""
    failureReason := ""
    failureCause := ""
    updatedAt := (readTime r.updatedAt).getD now
    expiresAt := (readTime r.expiresAt).getD (now + 5 * 60 * second)
    completedAt := none
    terminatedAt := none }

theorem getD_readTime_eq_self {t default : Time} :
    (readTime t).getD default = t ↔ (t = zeroTime → default = zeroTime) := by
  unfold readTime
  by_cases h : t = zeroTime
  · simp [h]
  · simp [h]

theorem StoredRow.resaved_eq_self {now : Time} : r.resaved now = r ↔ r.Settled now := by
  constructor
  · intro h
    refine ⟨?_, ?_, ?_, ?_, ?_, ?_, ?_, ?_, getD_readTime_eq_self.mp ?_,
      getD_readTime_eq_self.mp ?_⟩
    · exact (congrArg (·.eapRounds) h).symm
    · exact (congrArg (·.eapLastNonce) h).symm
    · exact (congrArg (·.authResult) h).symm
    · exact (congrArg (·.failureReason) h).symm
    · exact (congrArg (·.failureCause) h).symm
    · exact (congrArg (·.completedAt) h).symm
    · exact (congrArg (·.terminatedAt) h).symm
    · exact (congrArg (·.gpsiHash) h).symm
    · exact congrArg (·.updatedAt) h
    · exact congrArg (·.expiresAt) h
  · rintro ⟨hrounds, hnonce, hresult, hreason, hcause, hcompleted, hterminated, hhash, hupdated,
      hexpires⟩
    rw [← getD_readTime_eq_self] at hupdated hexpires
    obtain ⟨row, gpsiHash, supi⟩ := r
    cases row
    simp_all [StoredRow.resaved]

theorem decrypted_set_rowToSession {now : Time} (hA : enc.aead.Sound enc.key) (hst : st.Sized)
    (hplain : r.decrypted enc = some plain)
    (hnew : encryptRow enc st "nssaa update"
      (sessionToRow now (rowToSession (scanRow enc r))) = .ok new) :
    (r.set new).decrypted enc = some (plain.resaved now) := by
  obtain ⟨hgpsi, hstate⟩ := decrypt_encryptRow hA hst hnew
  obtain ⟨-, -, heq⟩ := encryptRow_ok hnew
  rw [scanRow_of_decrypted hplain] at hgpsi hstate heq
  obtain ⟨-, -, hr⟩ := StoredRow.decrypted_eq_some.mp hplain
  rw [StoredRow.decrypted_eq_some]
  refine ⟨hgpsi, StoredRow.payload_of_decrypt hstate, ?_⟩
  rw [heq, hr]
  rfl

/-- **A save of what was loaded** leaves the columns of the row, up to the ciphertexts, exactly if
what it resets was never set. -/
theorem save_load_unchanged_iff {t t' : NssaaTable} {w : Writing} {fault : Option String}
    {id : String} {s : NssaaSession} (hA : enc.aead.Sound enc.key) (hst : w.update.Sized)
    (hrow : t.row id = some r) (hplain : r.decrypted enc = some plain)
    (hload : t.load enc fault id = .ok s) (hsave : t.save enc w s = .ok t') :
    (t'.row id).bind (·.decrypted enc) = some plain ↔ plain.Settled w.now := by
  obtain ⟨r', hr', rfl⟩ := NssaaTable.load_ok hload
  obtain rfl : r' = r := Option.some.inj (hr'.symm.trans hrow)
  have hid : (rowToSession (scanRow enc r')).authCtxID = id := NssaaTable.authCtxID_of_row hrow
  rcases NssaaTable.row_save hsave with ⟨r, new, hr, hnew, hrow'⟩ | ⟨new, hr, -, -⟩
  · rw [hid] at hr hrow'
    obtain rfl : r = r' := Option.some.inj (hr.symm.trans hrow)
    rw [hrow', Option.bind_some, decrypted_set_rowToSession hA hst hplain hnew,
      Option.some.injEq, StoredRow.resaved_eq_self]
  · rw [hid, hrow] at hr
    cases hr

theorem Sample.row_decrypted : Sample.row.decrypted Sample.enc = some Sample.plain := by
  have hrow : encryptRow Sample.enc Sample.statement "nssaa update" Sample.plain.toNssaaRow =
      .ok Sample.row := rfl
  obtain ⟨hgpsi, hstate⟩ := decrypt_encryptRow Sample.enc_sound Sample.statement_sized hrow
  exact StoredRow.decrypted_eq_some.mpr ⟨hgpsi, StoredRow.payload_of_decrypt hstate, rfl⟩

theorem Sample.load_of_ciphertexts (r : StoredRow) (hid : r.authCtxID = "ctx")
    (hgpsi : r.gpsi = Sample.row.gpsi) (hstate : r.eapSessionState = Sample.row.eapSessionState) :
    NssaaTable.load Sample.enc [r] none "ctx" =
      .ok (rowToSession { r.toNssaaRow with
        gpsi := Sample.plain.gpsi, eapSessionState := Sample.plain.eapSessionState }) := by
  obtain ⟨hg, hs, -⟩ := StoredRow.decrypted_eq_some.mp Sample.row_decrypted
  have hpayload : r.payload Sample.enc = .ok Sample.plain.eapSessionState := by
    unfold StoredRow.payload at hs ⊢
    rw [hstate]
    exact hs
  have hrow : NssaaTable.row [r] "ctx" = some r := by simp [NssaaTable.row, Table.select, hid]
  rw [← hgpsi] at hg
  simp only [NssaaTable.load, hrow, scanRow_eq, hg, hpayload]
  rfl

namespace Sample

/-- The row of a session whose authentication has failed in the third round. -/
def failedRow : StoredRow :=
  { row with
    eapRounds := 3
    authResult := "EAP_FAILURE"
    failureCause := "TIMEOUT"
    completedAt := some (1780000010 * second) }

end Sample

/-- A row that only saves have written is left as it is. -/
theorem fresh_row_unchanged :
    Sample.plain.Settled 9 ∧
      ((NssaaTable.row [Sample.row] "ctx").bind (·.decrypted Sample.enc) = some Sample.plain ↔
        Sample.plain.Settled 9) := by
  have hload : NssaaTable.load Sample.enc [Sample.row] none "ctx" = .ok Sample.session :=
    Sample.load_of_ciphertexts _ rfl rfl rfl
  have hsave : NssaaTable.save Sample.enc [Sample.row] (Sample.writing 9) Sample.session =
      .ok [Sample.row] := rfl
  refine ⟨⟨rfl, rfl, rfl, rfl, rfl, rfl, rfl, rfl, by decide, by decide⟩, ?_⟩
  exact save_load_unchanged_iff Sample.enc_sound Sample.statement_sized rfl Sample.row_decrypted
    hload hsave

/-- The rounds, the result, the cause and the completion time are gone after a load and a save. -/
theorem failed_row_reset :
    (do
      let s ← NssaaTable.load Sample.enc [Sample.failedRow] none "ctx"
      NssaaTable.save Sample.enc [Sample.failedRow] (Sample.writing 9) s) =
        .ok [Sample.row] ∧
      Sample.row ≠ Sample.failedRow := by
  have hload : NssaaTable.load Sample.enc [Sample.failedRow] none "ctx" = .ok Sample.session :=
    Sample.load_of_ciphertexts _ rfl rfl rfl
  refine ⟨?_, fun heq => ?_⟩
  · rw [hload]
    rfl
  · have hrounds : Sample.row.eapRounds = Sample.failedRow.eapRounds := congrArg (·.eapRounds) heq
    exact absurd hrounds (by decide)

/-! ## A load after a save -/

/-- The fields of a session that a load after a save is to give back. -/
structure NssaaSession.SameAs (s s' : NssaaSession) : Prop where
  authCtxID : s'.authCtxID = s.authCtxID
  gpsi : s'.gpsi = s.gpsi
  snssaiSST : s'.snssaiSST = s.snssaiSST
  snssaiSD : s'.snssaiSD = s.snssaiSD
  amfInstance : s'.amfInstance = s.amfInstance
  reauthURI : s'.reauthURI = s.reauthURI
  revocURI : s'.revocURI = s.revocURI
  eapPayload : s'.eapPayload = s.eapPayload
  status : s'.status = s.status
  callbackOwner : s'.callbackOwner = s.callbackOwner
  hasAIWContext : s'.hasAIWContext = s.hasAIWContext
  expiresAt : s'.expiresAt = s.expiresAt

/-- A row in which the columns of a session are set is read as that session, if it has its
identifier and its AMF already. -/
theorem sameAs_set {old : StoredRow} {now expires : Time} {s : NssaaSession} {what : String}
    (hA : enc.aead.Sound enc.key) (hst : st.Sized) (hexpires : s.expiresAt = some expires)
    (hset : expires ≠ zeroTime) (hnew : encryptRow enc st what (sessionToRow now s) = .ok new)
    (hid : old.authCtxID = s.authCtxID) :
    s.SameAs (rowToSession (scanRow enc (old.set new))) ↔ old.amfInstanceID = s.amfInstance := by
  refine ⟨fun h => h.amfInstance, fun hamf => ?_⟩
  obtain ⟨hgpsi, hstate⟩ := decrypt_encryptRow hA hst hnew
  obtain ⟨-, -, heq⟩ := encryptRow_ok hnew
  have hpayload : (old.set new).payload enc = .ok s.eapPayload :=
    StoredRow.payload_of_decrypt hstate
  have hread : readTime new.expiresAt = s.expiresAt := by
    have hcolumn : new.expiresAt = expires := by
      rw [heq]
      simp [sessionToRow, hexpires]
    rw [hcolumn, hexpires, readTime, if_neg hset]
  rw [scanRow_eq, hpayload]
  constructor
  case authCtxID => exact hid
  case amfInstance => exact hamf
  case expiresAt => exact hread
  case eapPayload => rfl
  case gpsi =>
    show (enc.decryptField new.gpsi).toOption.getD "" = s.gpsi
    rw [hgpsi]
    rfl
  -- the other columns are those of the session
  all_goals
    rw [heq]
    rfl

/-- **A load after a save** gives the session back, apart from the times of creation and update,
exactly if there was no row of its context before, or one of the same AMF. -/
theorem load_save_same_iff {t t' : NssaaTable} {w : Writing} {s : NssaaSession} {expires : Time}
    (hA : enc.aead.Sound enc.key) (hupdate : w.update.Sized) (hinsert : w.insert.Sized)
    (hexpires : s.expiresAt = some expires) (hset : expires ≠ zeroTime)
    (hsave : t.save enc w s = .ok t') :
    ∃ s', t'.load enc none s.authCtxID = .ok s' ∧
      (s.SameAs s' ↔ ∀ r, t.row s.authCtxID = some r → r.amfInstanceID = s.amfInstance) := by
  unfold NssaaTable.load
  rcases NssaaTable.row_save hsave with ⟨r, new, hr, hnew, hrow⟩ | ⟨new, hr, hnew, hrow⟩
  · refine ⟨_, by rw [hrow], ?_⟩
    rw [sameAs_set hA hupdate hexpires hset hnew (NssaaTable.authCtxID_of_row hr), hr]
    simp
  · -- an insert sets all columns
    have hself : new.set new = new := rfl
    have hid : new.authCtxID = s.authCtxID := encryptRow_authCtxID hnew
    refine ⟨_, by rw [hrow], ?_⟩
    rw [← hself, sameAs_set hA hinsert hexpires hset hnew hid, hr]
    obtain ⟨-, -, heq⟩ := encryptRow_ok hnew
    rw [heq]
    simp [sessionToRow]

namespace Sample

/-- The same session, taken over by another AMF. -/
def movedSession : NssaaSession :=
  { session with
    amfInstance := "amf-2", reauthURI := "https://amf-2/reauth", revocURI := "https://amf-2/revoc" }

def movedRow : StoredRow :=
  { row with reauthNotifURI := "https://amf-2/reauth", revocNotifURI := "https://amf-2/revoc" }

end Sample

/-- A session that was not on file. -/
theorem new_session_given_back :
    NssaaTable.save Sample.enc [] (Sample.writing 9) Sample.session = .ok [Sample.row] ∧
      ∃ s', NssaaTable.load Sample.enc [Sample.row] none "ctx" = .ok s' ∧
        (Sample.session.SameAs s' ↔
          ∀ r, NssaaTable.row [] "ctx" = some r → r.amfInstanceID = "amf-1") := by
  have hsave : NssaaTable.save Sample.enc [] (Sample.writing 9) Sample.session =
      .ok [Sample.row] := rfl
  exact ⟨hsave, load_save_same_iff Sample.enc_sound Sample.statement_sized Sample.statement_sized
    rfl (by decide) hsave⟩

/-- The session that another AMF has taken over is loaded with the callbacks of the new AMF and
the name of the old one. -/
theorem moved_session_keeps_amf :
    (do
      let t ← NssaaTable.save Sample.enc [Sample.row] (Sample.writing 9) Sample.movedSession
      t.load Sample.enc none "ctx") = .ok { Sample.movedSession with amfInstance := "amf-1" } := by
  have hsave : NssaaTable.save Sample.enc [Sample.row] (Sample.writing 9) Sample.movedSession =
      .ok [Sample.movedRow] := rfl
  have hload : NssaaTable.load Sample.enc [Sample.movedRow] none "ctx" =
      .ok { Sample.movedSession with amfInstance := "amf-1" } :=
    Sample.load_of_ciphertexts _ rfl rfl rfl
  rw [hsave]
  exact hload

end NssAAF.Storage
