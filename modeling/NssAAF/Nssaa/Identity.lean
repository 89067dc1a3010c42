import NssAAF.Nssaa.SnssaiKey
import NssAAF.Diameter.Snssai

/-!
# When two slices are the same

There are three answers: the methods `Key` and `Equal` of `internal/types/snssai.go`, and the check
of a confirmation in `internal/api/nssaa/handler.go`, which compares the slice of the request with
the one that is stored for the context. `Key` writes the differentiator in upper case, the others
compare it as it is.

* `Originates.snssaiOf_eq`: the stored slice is the one that the context was created with.
* `snssai_identity_iff`: for which slices the three agree.
-/

namespace NssAAF.Nssaa

open Api Storage

/-! ## The methods -/

structure ValidationError where
  httpStatus : ℕ
  field : String
  reason : String
  cause : String
  deriving DecidableEq

namespace Snssai

variable (s other : Snssai)

/-- The type is an octet, so that only the differentiator can be wrong. -/
def validate : Except ValidationError Unit :=
  if s.sst.toNat > 255 then
    .error ⟨400, "snssai.sst", "SST must be in range 0-255 (TS 29.571 §5.4.4.60)",
      "INVALID_SNSSAI_SST"⟩
  else if s.sd ≠ "" ∧ !sdMatches s.sd then
    .error ⟨400, "snssai.sd", "SD must be exactly 6 hexadecimal characters (TS 29.571 §5.4.4.60)",
      "INVALID_SNSSAI_SD"⟩
  else .ok ()

/-- The differentiator of a key: digits in upper case, or a star if there is none. -/
def keySD : List Char := (if s.sd = "" then ['*'] else s.sd.toList).map Char.toUpper

def key : String := toString s.sst.toNat ++ ":" ++ String.ofList s.keySD

def equal : Bool := s.sst == other.sst && s.sd == other.sd

variable {s other}

theorem equal_iff : s.equal other = true ↔ s = other := by
  obtain ⟨sst, sd⟩ := s
  obtain ⟨sst', sd'⟩ := other
  simp [equal]

theorem validate_eq_ok_iff : s.validate = .ok () ↔ s.sd = "" ∨ sdMatches s.sd = true := by
  have hsst : ¬ s.sst.toNat > 255 := Nat.not_lt.mpr (Nat.le_of_lt_succ s.sst.toNat_lt)
  unfold validate
  rw [if_neg hsst]
  by_cases hsd : s.sd = ""
  · simp [hsd]
  · by_cases hm : sdMatches s.sd = true <;> simp [hsd, hm]

theorem key_eq_key_iff : s.key = other.key ↔ s.sst = other.sst ∧ s.keySD = other.keySD := by
  constructor
  · intro h
    have hread : ∀ a : Snssai, Scan.uint isSpace 256 a.key.toList =
        some (a.sst.toNat, ':' :: a.keySD) := by
      intro a
      unfold key
      rw [key_toList, String.toList_ofList]
      exact Scan.uint_toString (fun c hc => (IsKeyChar.of_isDigit hc).isSpace_eq_false)
        a.sst.toNat_lt rfl a.keySD
    have hboth := hread s
    rw [h, hread other, Option.some.injEq, Prod.mk.injEq, List.cons.injEq] at hboth
    exact ⟨(UInt8.toNat_inj.mp hboth.1).symm, hboth.2.2.symm⟩
  · rintro ⟨hsst, hsd⟩
    unfold key
    rw [hsst, hsd]

theorem decodeString_of_validate (h : s.validate = .ok ()) :
    s.sd = "" ∨ s.sd ≠ "" ∧ ∃ octets, Hex.decode s.sd.toList = some octets ∧ octets.length = 3 := by
  by_cases hsd : s.sd = ""
  · exact Or.inl hsd
  · obtain ⟨x, y, z, h⟩ := Diameter.sdMatches_iff.mp
      ((validate_eq_ok_iff.mp h).resolve_left hsd)
    exact Or.inr ⟨hsd, [x, y, z], h, rfl⟩

theorem keySD_of_ne (h : s.sd ≠ "") : s.keySD = s.sd.toList.map Char.toUpper := by
  unfold keySD
  rw [if_neg h]

theorem keySD_of_eq (h : s.sd = "") : s.keySD = ['*'] := by
  unfold keySD
  rw [if_pos h]
  rfl

theorem keySD_ne_of_eq (hs : s.sd = "") {octets : Bytes} (hne : other.sd ≠ "")
    (ho : Hex.decode other.sd.toList = some octets) (hlen : octets.length = 3) :
    s.keySD ≠ other.keySD ∧ Hex.decodeString s.sd ≠ Hex.decodeString other.sd := by
  constructor
  · intro h
    have hlength := congrArg List.length h
    obtain ⟨hsix, -⟩ := Hex.decode_isSome_iff.mp ⟨octets, ho, hlen⟩
    rw [keySD_of_eq hs, keySD_of_ne hne, List.length_map, hsix] at hlength
    exact absurd hlength (by decide)
  · intro h
    rw [hs] at h
    have hnil : octets = [] := Option.some.inj (ho.symm.trans h.symm)
    rw [hnil] at hlen
    exact absurd hlen (by decide)

theorem keySD_eq_keySD_iff (hs : s.validate = .ok ()) (ho : other.validate = .ok ()) :
    s.keySD = other.keySD ↔ Hex.decodeString s.sd = Hex.decodeString other.sd := by
  rcases decodeString_of_validate hs with hs | ⟨hsne, x, hs, hslen⟩ <;>
    rcases decodeString_of_validate ho with ho | ⟨hone, y, ho, holen⟩
  · rw [keySD_of_eq hs, keySD_of_eq ho, hs, ho]
    exact iff_of_true rfl rfl
  · obtain ⟨hkey, hnumber⟩ := keySD_ne_of_eq hs hone ho holen
    exact iff_of_false hkey hnumber
  · obtain ⟨hkey, hnumber⟩ := keySD_ne_of_eq ho hsne hs hslen
    exact iff_of_false hkey.symm hnumber.symm
  · obtain ⟨-, hdigits⟩ := Hex.decode_isSome_iff.mp ⟨y, ho, holen⟩
    rw [keySD_of_ne hsne, keySD_of_ne hone]
    exact (Hex.decode_eq_decode_iff hs hdigits).symm

end Snssai

/-! ## The slice of a context -/

def snssaiOf (t : NssaaTable) (authCtxID : String) : Option Snssai :=
  (t.row authCtxID).map fun r => ⟨r.snssaiSST, r.snssaiSD⟩

section Stored

variable {enc : Encryptor} {w : Writing} {t t' : NssaaTable} {s : NssaaSession} {id : String}

theorem snssaiOf_save (h : t.save enc w s = .ok t') (id : String) :
    snssaiOf t' id =
      if id = s.authCtxID then some ⟨s.snssaiSST, s.snssaiSD⟩ else snssaiOf t id := by
  unfold snssaiOf
  by_cases hid : id = s.authCtxID
  · subst hid
    rw [if_pos rfl]
    rcases NssaaTable.row_save h with ⟨r, new, -, hnew, hrow⟩ | ⟨new, -, hnew, hrow⟩ <;>
      obtain ⟨-, -, heq⟩ := encryptRow_ok hnew <;> rw [hrow, heq] <;> rfl
  · rw [if_neg hid, NssaaTable.row_save_ne h hid]

theorem snssaiOf_of_load {fault : Option String} (h : t.load enc fault id = .ok s) :
    snssaiOf t id = some ⟨s.snssaiSST, s.snssaiSD⟩ := by
  obtain ⟨r, hr, rfl⟩ := NssaaTable.load_ok h
  unfold snssaiOf
  rw [hr]
  rfl

variable {h : Handler}

theorem snssaiOf_confirm (loadFault : Option String) (r : Request SliceAuthConfirmationData)
    (authCtxId : String) :
    snssaiOf (h.confirmSliceAuthentication enc loadFault w r authCtxId t).table id =
      snssaiOf t id := by
  rcases h.confirm_cases enc w r authCtxId t loadFault with
    ⟨-, htable⟩ | ⟨s, body, eapPayload, t', hload, -, hsave, -, htable⟩
  · rw [htable]
  · rw [htable, snssaiOf_save hsave]
    show (if id = s.authCtxID then some ⟨s.snssaiSST, s.snssaiSD⟩ else snssaiOf t id) = _
    rw [NssaaTable.authCtxID_of_load hload]
    split
    · rename_i heq
      rw [heq, snssaiOf_of_load hload]
    · rfl

theorem snssaiOf_create (authCtxID : String) (r : Request SliceAuthInfo) :
    snssaiOf (h.createSliceAuthenticationContext enc w authCtxID r t).table id =
      match (h.createSliceAuthenticationContext enc w authCtxID r t).saved with
      | none => snssaiOf t id
      | some s => if id = s.authCtxID then some ⟨s.snssaiSST, s.snssaiSD⟩ else snssaiOf t id := by
  have htakes : t.Takes enc w (h.createSliceAuthenticationContext enc w authCtxID r t).saved
      (h.createSliceAuthenticationContext enc w authCtxID r t).table := h.create_takes
  generalize (h.createSliceAuthenticationContext enc w authCtxID r t).saved = saved at htakes
  generalize (h.createSliceAuthenticationContext enc w authCtxID r t).table = table at htakes
  cases htakes with
  | nothing => rfl
  | session hs => exact snssaiOf_save hs id

end Stored

/-- The tables that calls of the handler leave after a POST has created the context `id` for the
slice `a`. No other POST has the same identifier. -/
inductive Originates (h : Handler) (enc : Encryptor) (a : Snssai) (id : String) : NssaaTable → Prop
  | created {w : Writing} {r : Request SliceAuthInfo} {t : NssaaTable} {info : SliceAuthInfo}
      {eapPayload : Bytes} (hcheck : h.checkCreate r = .ok (info, eapPayload))
      (hsnssai : info.snssai = a)
      (hsaved : (h.createSliceAuthenticationContext enc w id r t).saved ≠ none) :
      Originates h enc a id (h.createSliceAuthenticationContext enc w id r t).table
  | create {t : NssaaTable} (ht : Originates h enc a id t) (w : Writing) {authCtxID : String}
      (hid : authCtxID ≠ id) (r : Request SliceAuthInfo) :
      Originates h enc a id (h.createSliceAuthenticationContext enc w authCtxID r t).table
  | confirm {t : NssaaTable} (ht : Originates h enc a id t) (loadFault : Option String)
      (w : Writing) (r : Request SliceAuthConfirmationData) (authCtxId : String) :
      Originates h enc a id (h.confirmSliceAuthentication enc loadFault w r authCtxId t).table

theorem Handler.saved_of_create {h : Handler} {enc : Encryptor} {w : Writing} {id : String}
    {r : Request SliceAuthInfo} {t : NssaaTable} {s : NssaaSession}
    (hs : (h.createSliceAuthenticationContext enc w id r t).saved = some s) :
    ∃ info eapPayload, h.checkCreate r = .ok (info, eapPayload) ∧
      s = newNssaaSession w.now id info eapPayload := by
  unfold createSliceAuthenticationContext at hs
  split at hs
  · cases hs
  · rename_i info eapPayload hcheck
    dsimp only at hs
    split at hs
    · cases hs
    · cases hs
      exact ⟨info, eapPayload, hcheck, rfl⟩

/-- **The stored slice** is the one that the context was created with, whatever was called since. -/
theorem Originates.snssaiOf_eq {h : Handler} {enc : Encryptor} {a : Snssai} {id : String}
    {t : NssaaTable} (ht : Originates h enc a id t) : snssaiOf t id = some a := by
  induction ht with
  | @created w r t info eapPayload hcheck hsnssai hsaved =>
    rw [snssaiOf_create]
    cases hs : (h.createSliceAuthenticationContext enc w id r t).saved with
    | none => exact absurd hs hsaved
    | some s =>
      obtain ⟨info', eapPayload', hcheck', rfl⟩ := Handler.saved_of_create hs
      obtain ⟨rfl, rfl⟩ := Prod.mk.inj (Except.ok.inj (hcheck.symm.trans hcheck'))
      rw [← hsnssai]
      exact if_pos rfl
  | @create t ht w authCtxID hid r ih =>
    rw [snssaiOf_create]
    cases hs : (h.createSliceAuthenticationContext enc w authCtxID r t).saved with
    | none => exact ih
    | some s =>
      obtain ⟨info, eapPayload, -, rfl⟩ := Handler.saved_of_create hs
      exact (if_neg (Ne.symm hid)).trans ih
  | confirm ht loadFault w r authCtxId ih => rw [snssaiOf_confirm, ih]

/-! ## The check of a confirmation -/

def snssaiMismatch : Response SliceAuthConfirmationResponse :=
  writeProblem (validationProblem "snssai" "S-NSSAI does not match the original session")

section Confirming

variable {h : Handler} {enc : Encryptor} {loadFault : Option String} {w : Writing}
  {r : Request SliceAuthConfirmationData} {authCtxId : String} {t : NssaaTable}
  {body : SliceAuthConfirmationData} {eapPayload : Bytes} {s : NssaaSession}

theorem Handler.confirm_response_ne_mismatch :
    (h.confirm enc w r authCtxId body eapPayload s t).response ≠ snssaiMismatch := by
  cases hs : t.save enc w (h.confirmed w.now authCtxId body eapPayload s) with
  | error err =>
    rw [confirm_of_error hs]
    exact fun hresponse => absurd (congrArg Response.status hresponse)
      (show ¬ (500 : ℕ) = 400 by decide)
  | ok t' =>
    rw [confirm_of_ok hs]
    exact fun hresponse => absurd (congrArg Response.status hresponse)
      (show ¬ (200 : ℕ) = 400 by decide)

theorem Handler.confirm_mismatch_iff (hcheck : h.checkConfirm r authCtxId = .ok (body, eapPayload))
    (hload : t.load enc loadFault authCtxId = .ok s) (hgpsi : body.gpsi = s.gpsi) :
    (h.confirmSliceAuthentication enc loadFault w r authCtxId t).response = snssaiMismatch ↔
      (⟨s.snssaiSST, s.snssaiSD⟩ : Snssai) ≠ body.snssai := by
  unfold confirmSliceAuthentication
  rw [hcheck]
  dsimp only
  rw [hload]
  unfold sessionToConfirm
  dsimp only
  rw [if_neg (not_not.mpr hgpsi)]
  by_cases hsame : (⟨s.snssaiSST, s.snssaiSD⟩ : Snssai) = body.snssai
  · have hequal : ¬ (s.snssaiSST ≠ body.snssai.sst ∨ s.snssaiSD ≠ body.snssai.sd) := by
      rw [← hsame]
      simp
    rw [if_neg hequal]
    exact iff_of_false confirm_response_ne_mismatch (not_not.mpr hsame)
  · have hdiffer : s.snssaiSST ≠ body.snssai.sst ∨ s.snssaiSD ≠ body.snssai.sd := by
      by_contra hno
      obtain ⟨hsst, hsd⟩ := not_or.mp hno
      exact hsame (by rw [not_not.mp hsst, not_not.mp hsd])
    rw [if_pos hdiffer]
    exact iff_of_true rfl hsame

end Confirming

/-- The three answers are one relation on `a` and `b`: `Equal` and `Key` agree, and a PUT of the
right subscriber with the slice `b`, for a context that was created with `a`, is not refused for its
slice exactly if the two are equal. -/
structure OneRelation (a b : Snssai) : Prop where
  key : a.equal b = true ↔ a.key = b.key
  confirm : ∀ (h : Handler) (enc : Encryptor) (id : String) (t : NssaaTable),
    Originates h enc a id t → ∀ loadFault w r body eapPayload s,
      h.checkConfirm r id = .ok (body, eapPayload) → body.snssai = b →
      t.load enc loadFault id = .ok s → body.gpsi = s.gpsi →
      ((h.confirmSliceAuthentication enc loadFault w r id t).response ≠ snssaiMismatch ↔
        a.equal b = true)

theorem Originates.confirm_iff {h : Handler} {enc : Encryptor} {a : Snssai} {id : String}
    {t : NssaaTable} (ht : Originates h enc a id t) {loadFault : Option String} {w : Writing}
    {r : Request SliceAuthConfirmationData} {body : SliceAuthConfirmationData} {eapPayload : Bytes}
    {s : NssaaSession} (hcheck : h.checkConfirm r id = .ok (body, eapPayload))
    (hload : t.load enc loadFault id = .ok s) (hgpsi : body.gpsi = s.gpsi) :
    (h.confirmSliceAuthentication enc loadFault w r id t).response ≠ snssaiMismatch ↔
      a.equal body.snssai = true := by
  have hstored : a = ⟨s.snssaiSST, s.snssaiSD⟩ :=
    Option.some.inj (ht.snssaiOf_eq.symm.trans (snssaiOf_of_load hload))
  rw [Ne, Handler.confirm_mismatch_iff hcheck hload hgpsi, not_not, Snssai.equal_iff, hstored]

/-- **One relation.** For valid slices the three agree, if and only if they are not two spellings of
one differentiator for the same type. -/
theorem snssai_identity_iff (a b : Snssai) (ha : a.validate = .ok ()) (hb : b.validate = .ok ()) :
    OneRelation a b ↔
      ¬ (a.sst = b.sst ∧ a.sd ≠ b.sd ∧ Hex.decodeString a.sd = Hex.decodeString b.sd) := by
  have hkey : a.key = b.key ↔
      a.sst = b.sst ∧ Hex.decodeString a.sd = Hex.decodeString b.sd := by
    rw [Snssai.key_eq_key_iff, Snssai.keySD_eq_keySD_iff ha hb]
  constructor
  · rintro ⟨hequal, -⟩ ⟨hsst, hsd, hnumber⟩
    have hsame := Snssai.equal_iff.mp (hequal.mpr (hkey.mpr ⟨hsst, hnumber⟩))
    exact hsd (congrArg Snssai.sd hsame)
  · intro hspelling
    refine ⟨?_, ?_⟩
    · rw [Snssai.equal_iff]
      constructor
      · intro hsame
        rw [hsame]
      · intro hkeys
        obtain ⟨hsst, hnumber⟩ := hkey.mp hkeys
        have hsd : a.sd = b.sd := not_not.mp fun hsd => hspelling ⟨hsst, hsd, hnumber⟩
        obtain ⟨sst, sd⟩ := a
        obtain ⟨sst', sd'⟩ := b
        dsimp only at hsst hsd
        rw [hsst, hsd]
    · rintro h enc id t ht loadFault w r body eapPayload s hcheck rfl hload hgpsi
      exact ht.confirm_iff hcheck hload hgpsi

theorem snssai_identity_of_types : OneRelation ⟨1, "00000A"⟩ ⟨2, "00000a"⟩ :=
  (snssai_identity_iff ⟨1, "00000A"⟩ ⟨2, "00000a"⟩ (by decide) (by decide)).mpr (by decide)

/-- The same slice in lower and in upper case has one key, and is not equal. -/
theorem snssai_identity_fails :
    (⟨1, "00000a"⟩ : Snssai).validate = .ok () ∧ (⟨1, "00000A"⟩ : Snssai).validate = .ok () ∧
      (⟨1, "00000a"⟩ : Snssai).key = "1:00000A" ∧ (⟨1, "00000A"⟩ : Snssai).key = "1:00000A" ∧
      (⟨1, "00000a"⟩ : Snssai).equal ⟨1, "00000A"⟩ = false ∧
      ¬ OneRelation ⟨1, "00000a"⟩ ⟨1, "00000A"⟩ := by
  refine ⟨by decide, by decide, by decide, by decide, by decide, fun h => ?_⟩
  exact absurd (h.key.mpr (by decide)) (by decide)

end NssAAF.Nssaa
