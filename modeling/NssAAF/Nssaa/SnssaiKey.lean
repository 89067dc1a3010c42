import NssAAF.Nssaa.Handler
import NssAAF.Lib.Scan
import NssAAF.Lib.Hex

/-!
# The slice in the key of an EAP session

The handler writes the slice of a context into the EAP session as `sst:sd`. Three functions read it
back: the method of the session, which scans for two words around a colon, and the functions of
`internal/storage/bridge.go` and `internal/diameter/aaa_router.go`, which split at a hyphen.

`snssai_key_agrees_iff` says for which slices all of them read what was written.
-/

namespace NssAAF

open Api
open Storage (Time)

/-- The scan of a text for two words around a colon. What was read before an error stays. -/
def scanWords (cs : List Char) : List Char × List Char :=
  match Scan.word isSpace cs with
  | none => ([], [])
  | some (first, rest) =>
    match (Scan.literal ':' rest).bind (Scan.word isSpace) with
    | none => (first, [])
    | some (second, _) => (first, second)

/-- The slice in the key, as the session itself reads it. -/
def Eap.Session.decodeSnssaiKey (s : Eap.Session) : UInt8 × String :=
  if s.snssaiKey = "" then (0, "")
  else
    let (sstStr, sdStr) := scanWords s.snssaiKey.toList
    let sst := if sstStr ≠ [] then ((Scan.uint isSpace 256 sstStr).map Prod.fst).getD 0 else 0
    (UInt8.ofNat sst, String.ofList sdStr)

/-- The slice in a key of the form `sst` or `sst-sd`. -/
def splitSnssaiKey (key : String) : UInt8 × String :=
  if key = "" then (0, "")
  else
    let (first, second) := Scan.cut '-' key.toList
    match Scan.parseUint 256 first with
    | none => (0, "")
    | some sst => (UInt8.ofNat sst, (second.map String.ofList).getD "")

def Storage.decodeSnssaiKey : String → UInt8 × String := splitSnssaiKey

def Diameter.decodeSnssaiKey : String → UInt8 × String := splitSnssaiKey

/-! ## Reading a key back -/

section Keys

variable {sst : UInt8} {sd : String} {c : Char}

/-- The characters of keys: digits, the colon and hexadecimal digits. -/
def IsKeyChar (c : Char) : Prop := 48 ≤ c.toNat ∧ c.toNat ≤ 102

theorem IsKeyChar.of_isDigit (h : c.isDigit = true) : IsKeyChar c := by
  rw [Char.isDigit_iff_toNat] at h
  exact ⟨h.1, Nat.le_trans h.2 (by decide)⟩

theorem IsKeyChar.of_isHexDigit (h : isHexDigit c = true) : IsKeyChar c := by
  unfold isHexDigit at h
  simp only [Bool.or_eq_true, Bool.and_eq_true, decide_eq_true_eq, Hex.le_iff_toNat_le,
    Char.reduceToNat] at h
  rcases h with (h | h) | h
  · exact .of_isDigit h
  · exact ⟨by omega, by omega⟩
  · exact ⟨by omega, by omega⟩

theorem IsKeyChar.isSpace_eq_false (h : IsKeyChar c) : isSpace c = false := by
  obtain ⟨h1, h2⟩ := h
  unfold isSpace
  simp only [Bool.or_eq_false_iff, Bool.and_eq_false_iff, decide_eq_false_iff_not,
    beq_eq_false_iff_ne]
  omega

theorem IsKeyChar.ne_hyphen (h : IsKeyChar c) : c ≠ '-' := by
  rintro rfl
  exact absurd h.1 (by decide)

theorem isKeyChar_of_mem_key (hsd : sd = "" ∨ sdMatches sd = true)
    (hc : c ∈ (toString sst.toNat ++ ":" ++ sd).toList) : IsKeyChar c := by
  rw [String.toList_append, String.toList_append, List.mem_append, List.mem_append] at hc
  rcases hc with (hc | hc) | hc
  · rw [Nat.toString_eq_repr, Nat.toList_repr] at hc
    exact .of_isDigit (Nat.isDigit_of_mem_toDigits (by decide) (by decide) hc)
  · rw [List.mem_singleton.mp hc]
    exact ⟨by decide, by decide⟩
  · rcases hsd with rfl | hsd
    · cases hc
    · rw [sdMatches, Bool.and_eq_true, List.all_eq_true] at hsd
      exact .of_isHexDigit (hsd.2 c hc)

theorem key_toList (sst : UInt8) (sd : String) :
    (toString sst.toNat ++ ":" ++ sd).toList = (toString sst.toNat).toList ++ ':' :: sd.toList := by
  rw [String.toList_append, String.toList_append, List.append_assoc]
  rfl

theorem key_toList_ne_nil (sst : UInt8) (sd : String) :
    (toString sst.toNat ++ ":" ++ sd).toList ≠ [] := by
  rw [key_toList]
  exact List.append_ne_nil_of_right_ne_nil _ (List.cons_ne_nil _ _)

theorem key_ne_empty (sst : UInt8) (sd : String) : toString sst.toNat ++ ":" ++ sd ≠ "" := by
  intro h
  exact key_toList_ne_nil sst sd (congrArg String.toList h)

theorem scanWords_of_all {cs : List Char} (hne : cs ≠ []) (h : ∀ c ∈ cs, isSpace c = false) :
    scanWords cs = (cs, []) := by
  unfold scanWords
  rw [Scan.word_of_all rfl hne h]
  rfl

/-- The session takes the whole key for its first word, and reads the slice type from it. The
differentiator is lost. -/
theorem decodeSnssaiKey_eapSession (now : Time) (authCtxID gpsi : String)
    (hsd : sd = "" ∨ sdMatches sd = true) :
    (Nssaa.eapSession now authCtxID gpsi sst sd).decodeSnssaiKey = (sst, "") := by
  have hscan : scanWords (toString sst.toNat ++ ":" ++ sd).toList =
      ((toString sst.toNat ++ ":" ++ sd).toList, []) :=
    scanWords_of_all (key_toList_ne_nil sst sd)
      fun c hc => (isKeyChar_of_mem_key hsd hc).isSpace_eq_false
  have huint : Scan.uint isSpace 256 (toString sst.toNat ++ ":" ++ sd).toList =
      some (sst.toNat, ':' :: sd.toList) := by
    rw [key_toList]
    exact Scan.uint_toString (fun c hc => (IsKeyChar.of_isDigit hc).isSpace_eq_false)
      sst.toNat_lt rfl sd.toList
  unfold Eap.Session.decodeSnssaiKey
  rw [show (Nssaa.eapSession now authCtxID gpsi sst sd).snssaiKey =
    toString sst.toNat ++ ":" ++ sd from rfl, if_neg (key_ne_empty sst sd), hscan]
  dsimp only
  rw [if_pos (key_toList_ne_nil sst sd), huint]
  show (UInt8.ofNat sst.toNat, "") = (sst, "")
  rw [UInt8.ofNat_toNat]

/-- The key has no hyphen, and it is no number. -/
theorem splitSnssaiKey_key (hsd : sd = "" ∨ sdMatches sd = true) :
    splitSnssaiKey (toString sst.toNat ++ ":" ++ sd) = (0, "") := by
  have hcut : Scan.cut '-' (toString sst.toNat ++ ":" ++ sd).toList =
      ((toString sst.toNat ++ ":" ++ sd).toList, none) :=
    Scan.cut_of_not_mem fun hc => (isKeyChar_of_mem_key hsd hc).ne_hyphen rfl
  have hparse : Scan.parseUint 256 (toString sst.toNat ++ ":" ++ sd).toList = none := by
    refine Scan.parseUint_eq_none (c := ':') ?_ rfl
    rw [key_toList]
    exact List.mem_append_right _ (List.mem_cons_self ..)
  unfold splitSnssaiKey
  rw [if_neg (key_ne_empty sst sd), hcut]
  dsimp only
  rw [hparse]

end Keys

/-- **One key, three readers.** The key that the handler writes for a slice is read back as that
slice by all readers exactly if there is no slice. -/
theorem snssai_key_agrees_iff (now : Time) (authCtxID gpsi : String) (sst : UInt8) (sd : String)
    (hsd : sd = "" ∨ sdMatches sd = true) :
    ((Nssaa.eapSession now authCtxID gpsi sst sd).decodeSnssaiKey = (sst, sd) ∧
        Storage.decodeSnssaiKey (Nssaa.eapSession now authCtxID gpsi sst sd).snssaiKey =
          (sst, sd) ∧
        Diameter.decodeSnssaiKey (Nssaa.eapSession now authCtxID gpsi sst sd).snssaiKey =
          (sst, sd)) ↔
      sst = 0 ∧ sd = "" := by
  have hsplit : splitSnssaiKey (Nssaa.eapSession now authCtxID gpsi sst sd).snssaiKey = (0, "") :=
    splitSnssaiKey_key hsd
  unfold Storage.decodeSnssaiKey Diameter.decodeSnssaiKey
  rw [decodeSnssaiKey_eapSession now authCtxID gpsi hsd, hsplit]
  simp only [Prod.mk.injEq]
  constructor
  · rintro ⟨-, ⟨hsst, hsd⟩, -⟩
    exact ⟨hsst.symm, hsd.symm⟩
  · rintro ⟨rfl, rfl⟩
    exact ⟨⟨trivial, rfl⟩, ⟨rfl, rfl⟩, rfl, rfl⟩

theorem snssai_key_of_no_slice :
    (Nssaa.eapSession 0 "ctx" "msisdn-1" 0 "").decodeSnssaiKey = (0, "") ∧
      Storage.decodeSnssaiKey (Nssaa.eapSession 0 "ctx" "msisdn-1" 0 "").snssaiKey = (0, "") ∧
      Diameter.decodeSnssaiKey (Nssaa.eapSession 0 "ctx" "msisdn-1" 0 "").snssaiKey = (0, "") :=
  (snssai_key_agrees_iff 0 "ctx" "msisdn-1" 0 "" (Or.inl rfl)).mpr ⟨rfl, rfl⟩

/-- The key of the slice 1/000001 is read as 1 without a differentiator, and twice as no slice. -/
theorem snssai_key_of_slice_one :
    (Nssaa.eapSession 0 "ctx" "msisdn-1" 1 "000001").snssaiKey = "1:000001" ∧
      (Nssaa.eapSession 0 "ctx" "msisdn-1" 1 "000001").decodeSnssaiKey = (1, "") ∧
      Storage.decodeSnssaiKey "1:000001" = (0, "") ∧
      Diameter.decodeSnssaiKey "1:000001" = (0, "") := by
  decide +kernel

end NssAAF
