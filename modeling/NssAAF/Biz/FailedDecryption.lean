import NssAAF.Aiw.Handler
import NssAAF.Biz.ServerInitiated
import NssAAF.Storage.NssaaRoundTrip

/-!
# What becomes of a row that does not decrypt

The repositories read a ciphertext that does not decrypt as empty, and the flows that load a
session, change it and save it write back what was read. `NssaaFlows` and `AiwFlows` say flow by
flow what of a row on file is lost then, and `failed_decryption_erases` that this is so for every
row: a load fails only if the database does, and the subscriber, the payload or the key is erased
exactly if it did not decrypt and the flow neither compares nor replaces it.
-/

namespace NssAAF.Biz

open Storage

/-! ## Linking an AIW context -/

def linked (now : Time) (s : AiwSession) : AiwSession :=
  { s with
    completedAt := some now
    updatedAt := some now
    status := if s.status.string = "" then .pending else s.status }

def markAIWLinked (enc : Encryptor) (loadFault : Option String) (w : Aiw.Writing)
    (authCtxID : String) (t : AiwTable) : Except String AiwTable := do
  let s ← (t.load enc loadFault authCtxID).mapError fun err =>
    "load aiw session " ++ authCtxID ++ ": " ++ err.text
  (t.save enc w (linked w.now s)).mapError fun err =>
    "save aiw session " ++ authCtxID ++ ": " ++ err.text

/-! ## Erasing what is stored -/

def Fails {β : Type} (x : Except String β) : Prop := ∃ err, x = .error err

/-- A row held something, as `read` reads it or fails to, and then holds nothing. -/
def Erases {ρ β : Type} (read : ρ → Except String β) (nothing : β) (old new : ρ) : Prop :=
  read old ≠ .ok nothing ∧ read new = .ok nothing

section

variable {ρ β : Type} {read : ρ → Except String β} {nothing b : β} {old new : ρ}

instance [DecidableEq β] : Decidable (Erases read nothing old new) :=
  inferInstanceAs (Decidable (_ ∧ _))

theorem not_erases_self : ¬ Erases read nothing old old := fun h => h.1 h.2

theorem erases_iff (h : read new = .ok b) :
    Erases read nothing old new ↔ b = nothing ∧ read old ≠ .ok nothing := by
  unfold Erases
  rw [h, Except.ok.injEq, and_comm]

theorem erases_iff_fails (h : read new = .ok ((read old).toOption.getD nothing)) :
    Erases read nothing old new ↔ Fails (read old) := by
  rw [erases_iff h]
  cases hold : read old with
  | error err => exact iff_of_true ⟨rfl, nofun⟩ ⟨err, rfl⟩
  | ok b =>
    refine iff_of_false ?_ ?_
    · rintro ⟨hb, hne⟩
      exact hne (congrArg Except.ok hb)
    · rintro ⟨err, herr⟩
      cases herr

end

/-! ## Slice authentication sessions -/

/-- What the flows make of the row `r` of a slice authentication context. A load fails only if the
database does. Marking the session loses what did not decrypt. A change of authorization and a
confirmation bring their own payload. -/
structure NssaaFlows (enc : Encryptor) (t : NssaaTable) (id : String) (r : StoredRow) : Prop where
  load : ∀ fault, (∃ err, t.load enc fault id = .error err) ↔ ∃ err, fault = some err
  mark : ∀ sw, sw = markReauthPending ∨ sw = markRevoked → ∀ fault w t', w.update.Sized →
    sw.write enc fault w id t = .ok t' → ∃ r', t'.row id = some r' ∧
      (Erases (StoredRow.subscriber enc) "" r r' ↔ Fails (r.subscriber enc)) ∧
      (Erases (StoredRow.payload enc) [] r r' ↔ Fails (r.payload enc))
  coa : ∀ payload fault w t', w.update.Sized →
    (applyCoA payload).write enc fault w id t = .ok t' → ∃ r', t'.row id = some r' ∧
      (Erases (StoredRow.subscriber enc) "" r r' ↔ Fails (r.subscriber enc)) ∧
      (Erases (StoredRow.payload enc) [] r r' ↔ payload = [] ∧ r.payload enc ≠ .ok [])
  confirm : ∀ (h : Nssaa.Handler) fault w req o, w.update.Sized →
    h.confirmSliceAuthentication enc fault w req id t = o → ∃ r', o.table.row id = some r' ∧
      ¬ Erases (StoredRow.subscriber enc) "" r r' ∧
      (Erases (StoredRow.payload enc) [] r r' ↔
        (∃ s, o.saved = some s ∧ s.eapPayload = []) ∧ r.payload enc ≠ .ok [])

section

variable {enc : Encryptor} {t t' : NssaaTable} {id : String} {r : StoredRow} {w : Writing}
  {fault : Option String} {s : NssaaSession}

theorem of_load (hrow : t.row id = some r) (hload : t.load enc fault id = .ok s) :
    s.authCtxID = id ∧ s.gpsi = (r.subscriber enc).toOption.getD "" ∧
      s.eapPayload = (r.payload enc).toOption.getD [] := by
  obtain ⟨r', hr', rfl⟩ := NssaaTable.load_ok hload
  obtain rfl : r' = r := Option.some.inj (hr'.symm.trans hrow)
  rw [scanRow_eq]
  exact ⟨NssaaTable.authCtxID_of_row hrow, rfl, rfl⟩

theorem read_write {sw : StateWrite} (hA : enc.aead.Sound enc.key) (hw : w.update.Sized)
    (hrow : t.row id = some r) (h : sw.write enc fault w id t = .ok t') :
    ∃ s r', s.eapPayload = (r.payload enc).toOption.getD [] ∧ t'.row id = some r' ∧
      r'.subscriber enc = .ok ((r.subscriber enc).toOption.getD "") ∧
      r'.payload enc = .ok (sw.change w.now s).eapPayload := by
  obtain ⟨s, hload, hsave⟩ := Results.of_bind_ok h
  obtain ⟨rfl, hgpsi, hpayload⟩ := of_load hrow (Results.mapError_eq_ok_iff.mp hload)
  rw [← sw.change_authCtxID w.now s] at hrow
  obtain ⟨r', hr', hsub, hpay⟩ :=
    NssaaTable.read_save hA hw (Results.mapError_eq_ok_iff.mp hsave) hrow
  rw [sw.change_authCtxID] at hr'
  rw [sw.change_gpsi, hgpsi] at hsub
  exact ⟨s, r', hpayload, hr', hsub, hpay⟩

theorem nssaaFlows (hA : enc.aead.Sound enc.key) (hrow : t.row id = some r) :
    NssaaFlows enc t id r where
  load fault := by
    unfold NssaaTable.load
    cases fault with
    | some err => exact iff_of_true ⟨_, rfl⟩ ⟨err, rfl⟩
    | none =>
      rw [hrow]
      exact iff_of_false nofun nofun
  mark sw hsw fault w t' hw h := by
    obtain ⟨s, r', hpayload, hr', hsub, hpay⟩ := read_write hA hw hrow h
    -- neither of the two changes the payload
    have hkept : (sw.change w.now s).eapPayload = s.eapPayload := by
      rcases hsw with rfl | rfl <;> rfl
    rw [hkept, hpayload] at hpay
    exact ⟨r', hr', erases_iff_fails hsub, erases_iff_fails hpay⟩
  coa payload fault w t' hw h := by
    obtain ⟨s, r', -, hr', hsub, hpay⟩ := read_write hA hw hrow h
    exact ⟨r', hr', erases_iff_fails hsub, erases_iff hpay⟩
  confirm h fault w req o hw ho := by
    subst ho
    rcases Nssaa.Handler.confirm_cases h enc w req id t fault with
      ⟨hsaved, htable⟩ | ⟨s, body, eapPayload, t', hload, hgpsi, hsave, hsaved, htable⟩
    · rw [hsaved, htable]
      refine ⟨r, hrow, not_erases_self, iff_of_false not_erases_self ?_⟩
      rintro ⟨⟨s, hs, -⟩, -⟩
      cases hs
    · rw [hsaved, htable]
      obtain ⟨rfl, -, -⟩ := of_load hrow hload
      obtain ⟨r', hr', hsub, hpay⟩ := NssaaTable.read_save hA hw hsave hrow
      refine ⟨r', hr', ?_, ?_⟩
      · rw [erases_iff hsub]
        exact fun herased => hgpsi herased.1
      · rw [erases_iff hpay]
        simp

end

/-! ## AIW sessions -/

/-- What the flows make of the row `r` of an AIW context. Linking it loses what did not decrypt. A
confirmation brings its own message, and loses only the key. -/
structure AiwFlows (enc : Encryptor) (t : AiwTable) (id : String) (r : StoredAiwRow) : Prop where
  load : ∀ fault, (∃ err, t.load enc fault id = .error err) ↔ ∃ err, fault = some err
  link : ∀ fault w t', w.update.Sized → markAIWLinked enc fault w id t = .ok t' →
    ∃ r', t'.row id = some r' ∧
      (Erases (StoredAiwRow.subscriber enc) "" r r' ↔ Fails (r.subscriber enc)) ∧
      (Erases (StoredAiwRow.payload enc) [] r r' ↔ Fails (r.payload enc)) ∧
      (Erases (StoredAiwRow.key enc) [] r r' ↔ Fails (r.key enc))
  confirm : ∀ (h : NssAAF.Aiw.Handler) fault w req o, w.update.Sized →
    h.confirmAuthentication enc fault w req id t = o → ∃ r', o.table.row id = some r' ∧
      ¬ Erases (StoredAiwRow.subscriber enc) "" r r' ∧
      ¬ Erases (StoredAiwRow.payload enc) [] r r' ∧
      (Erases (StoredAiwRow.key enc) [] r r' ↔ o.saved ≠ none ∧ Fails (r.key enc))

section

variable {enc : Encryptor} {t t' : AiwTable} {id : String} {r : StoredAiwRow} {w : Aiw.Writing}
  {fault : Option String} {s : AiwSession}

theorem of_aiw_load (hrow : t.row id = some r) (hload : t.load enc fault id = .ok s) :
    s.authCtxID = id ∧ s.supi = (r.subscriber enc).toOption.getD "" ∧
      s.eapPayload = (r.payload enc).toOption.getD [] ∧
      s.msk = (r.key enc).toOption.getD [] := by
  obtain ⟨r', hr', rfl⟩ := AiwTable.load_ok hload
  obtain rfl : r' = r := Option.some.inj (hr'.symm.trans hrow)
  exact ⟨AiwTable.authCtxID_of_row hrow, rfl, rfl, rfl⟩

theorem aiwFlows (hA : enc.aead.Sound enc.key) (hrow : t.row id = some r) :
    AiwFlows enc t id r where
  load fault := by
    unfold AiwTable.load
    cases fault with
    | some err => exact iff_of_true ⟨_, rfl⟩ ⟨err, rfl⟩
    | none =>
      rw [hrow]
      exact iff_of_false nofun nofun
  link fault w t' hw h := by
    obtain ⟨s, hload, hsave⟩ := Results.of_bind_ok h
    obtain ⟨rfl, hsupi, hpayload, hmsk⟩ := of_aiw_load hrow (Results.mapError_eq_ok_iff.mp hload)
    obtain ⟨r', hr', hsub, hpay, hkey⟩ :=
      AiwTable.read_save hA hw (Results.mapError_eq_ok_iff.mp hsave) hrow
    exact ⟨r', hr', erases_iff_fails (hsupi ▸ hsub), erases_iff_fails (hpayload ▸ hpay),
      erases_iff_fails (hmsk ▸ hkey)⟩
  confirm h fault w req o hw ho := by
    subst ho
    rcases NssAAF.Aiw.Handler.confirm_cases h enc fault w req id t with
      ⟨-, hsaved, htable⟩ |
      ⟨body, s, eapPayload, t', -, -, hload, heq, hsupi, hmessage, hsave, -, hsaved, htable⟩
    · rw [hsaved, htable]
      exact ⟨r, hrow, not_erases_self, not_erases_self,
        iff_of_false not_erases_self fun herased => herased.1 rfl⟩
    · rw [hsaved, htable]
      obtain ⟨rfl, -, -, hmsk⟩ := of_aiw_load hrow hload
      obtain ⟨r', hr', hsub, hpay, hkey⟩ := AiwTable.read_save hA hw hsave hrow
      refine ⟨r', hr', ?_, ?_, ?_⟩
      · rw [erases_iff hsub]
        exact fun herased => hsupi (heq.trans herased.1)
      · rw [erases_iff hpay]
        exact fun herased => hmessage herased.1
      · rw [erases_iff_fails (hmsk ▸ hkey)]
        exact (and_iff_right (Option.some_ne_none _)).symm

end

/-- **What does not decrypt** makes no load fail, and is erased by the flows that write back what
was loaded. With a cipher that opens what it sealed, they erase nothing else. -/
theorem failed_decryption_erases {enc : Encryptor} (hA : enc.aead.Sound enc.key) :
    (∀ t id r, NssaaTable.row t id = some r → NssaaFlows enc t id r) ∧
      ∀ t id r, AiwTable.row t id = some r → AiwFlows enc t id r :=
  ⟨fun _ _ _ hrow => nssaaFlows hA hrow, fun _ _ _ hrow => aiwFlows hA hrow⟩

namespace Sample

open Storage.Sample in
def aiwStatement : Aiw.Statement :=
  ⟨.ok nonce, .ok nonce, .ok nonce, none⟩

def aiwWriting (now : Time) : Aiw.Writing := ⟨now, aiwStatement, aiwStatement⟩

/-- A ciphertext under a key that the repository no longer has. -/
def foreign (plaintext : Bytes) : Bytes :=
  Storage.Sample.nonce ++ (plaintext ++ List.replicate 16 9)

def foreignRow : StoredRow :=
  { Storage.Sample.row with
    gpsi := Base64.encodeToString (foreign (Bytes.ofString "msisdn-84901"))
    eapSessionState := foreign [2, 1, 0, 5, 1] }

def aiwSession : AiwSession where
  authCtxID := "aiw"
  supi := "imsi-208930000000003"
  eapPayload := [2, 1, 0, 5, 1]
  ttlsInner := []
  msk := List.replicate 64 5
  pvsInfo := []
  ausfID := "ausf-1"
  supportedFeatures := ""
  status := .eapSuccess
  authResult := "EAP_SUCCESS"
  createdAt := some (1780000000 * second)
  updatedAt := some (1780000000 * second)
  expiresAt := some (1780086400 * second)
  completedAt := none

def foreignAiwRow : StoredAiwRow :=
  { Aiw.sessionToRow 0 aiwSession with
    supi := Base64.encodeToString (foreign (Bytes.ofString aiwSession.supi))
    eapSessionState := foreign aiwSession.eapPayload
    msk := foreign aiwSession.msk
    supiHash := hashSUPI aiwSession.supi }

end Sample

open Sample Storage.Sample in
theorem foreign_rows_flows :
    enc.aead.Sound enc.key ∧
      NssaaFlows enc [foreignRow] "ctx" foreignRow ∧
      AiwFlows enc [foreignAiwRow] "aiw" foreignAiwRow :=
  ⟨enc_sound,
    (failed_decryption_erases enc_sound).1 _ _ _ rfl,
    (failed_decryption_erases enc_sound).2 _ _ _ rfl⟩

open Sample Storage.Sample in
/-- Rows that were written under another key load without an error. A revocation erases the
subscriber and the payload of the one, and the linking erases those of the other and its key. -/
theorem foreign_rows_erased :
    (NssaaTable.load enc [foreignRow] none "ctx").isOk = true ∧
      (∃ r' ∈ (markRevoked.write enc none (writing 9) "ctx"
          [foreignRow]).toOption.bind (NssaaTable.row · "ctx"),
        Erases (StoredRow.subscriber enc) "" foreignRow r' ∧
          Erases (StoredRow.payload enc) [] foreignRow r') ∧
      (AiwTable.load enc [foreignAiwRow] none "aiw").isOk = true ∧
      ∃ r' ∈ (markAIWLinked enc none (aiwWriting 9) "aiw"
          [foreignAiwRow]).toOption.bind (AiwTable.row · "aiw"),
        Erases (StoredAiwRow.subscriber enc) "" foreignAiwRow r' ∧
          Erases (StoredAiwRow.payload enc) [] foreignAiwRow r' ∧
          Erases (StoredAiwRow.key enc) [] foreignAiwRow r' := by
  decide +kernel

end NssAAF.Biz
