import NssAAF.Lib.Slice
import NssAAF.Radius.Area

/-!
# Editing the Message-Authenticator

`ZeroMessageAuthenticator`, `AddMessageAuthenticator` and `RemoveMessageAuthenticator` of
`internal/radius/message_auth.go` with every access to a slice checked: `none` is an index out of
bounds. The search looks only at the first two octets of an attribute, so that the value of what it
finds can lie beyond the end of the packet.

* `zeroMessageAuthenticator_checked`, `addMessageAuthenticator_checked`: the checked functions are
  the functions of the other modules.
* `message_authenticator_editing_iff`: for which packets the editing is safe and exact.
-/

namespace NssAAF.Radius

/-! ## With checked access -/

namespace Checked

def findMessageAuthenticatorFrom (packet : Bytes) : ℕ → ℕ → Option (Option ℕ)
  | 0, _ => some none
  | fuel + 1, offset =>
    if offset + 1 < packet.length then do
      let attrType ← packet[offset]?
      let attrLen ← packet[offset + 1]?
      if attrLen.toNat < 2 then some none
      else if attrType = attrMessageAuthenticator then some (some offset)
      else findMessageAuthenticatorFrom packet fuel (offset + attrLen.toNat)
    else some none

def findMessageAuthenticator (packet : Bytes) : Option (Option ℕ) :=
  findMessageAuthenticatorFrom packet packet.length 20

def zeroMessageAuthenticator (packet : Bytes) : Option Bytes := do
  match ← findMessageAuthenticator packet with
  | none => some packet
  | some offset => Bytes.fillWithin 0 16 (offset + 2) packet

def addMessageAuthenticator (packet secret : Bytes) : Option Bytes := do
  match ← findMessageAuthenticator packet with
  | some offset =>
    let result ← Bytes.fill 0 16 (offset + 2) packet
    result.copyTo (offset + 2) (offset + 18) (Md5.hmac secret result)
  | none =>
    let newAttr ← Bytes.make 18
    let newAttr ← newAttr.write 0 attrMessageAuthenticator
    let newAttr ← newAttr.write 1 18
    let newAttr ← newAttr.copyTo 2 newAttr.length (Md5.hmac secret packet)
    some (packet ++ newAttr)

def removeMessageAuthenticator (packet : Bytes) : Option Bytes := do
  match ← findMessageAuthenticator packet with
  | none => some packet
  | some offset =>
    let attrLen ← packet[offset + 1]?
    let result ← Bytes.make ((packet.length : ℤ) - attrLen.toNat)
    let result ← result.copyTo 0 offset (← packet.cut 0 offset)
    result.copyTo offset result.length (← packet.cut (offset + attrLen.toNat) packet.length)

end Checked

section Checks

variable {packet : Bytes} {offset : ℕ}

theorem findMessageAuthenticatorFrom_checked (packet : Bytes) (fuel offset : ℕ) :
    Checked.findMessageAuthenticatorFrom packet fuel offset =
      some (findMessageAuthenticatorFrom packet fuel offset) := by
  induction fuel generalizing offset with
  | zero => rfl
  | succ fuel ih =>
    unfold Checked.findMessageAuthenticatorFrom findMessageAuthenticatorFrom
    by_cases hroom : offset + 1 < packet.length
    · rw [if_pos hroom, if_pos hroom, List.getElem?_eq_getElem (by omega),
        List.getElem?_eq_getElem hroom, List.getD_eq_getElem _ _ (by omega),
        List.getD_eq_getElem _ _ hroom]
      show (if _ then _ else if _ then _ else _) = _
      rw [ih]
      dsimp only
      split_ifs <;> rfl
    · rw [if_neg hroom, if_neg hroom]

theorem findMessageAuthenticator_checked (packet : Bytes) :
    Checked.findMessageAuthenticator packet = some (findMessageAuthenticator packet) :=
  findMessageAuthenticatorFrom_checked packet packet.length 20

theorem of_findMessageAuthenticatorFrom {fuel pos : ℕ}
    (h : findMessageAuthenticatorFrom packet fuel pos = some offset) :
    pos ≤ offset ∧ offset + 1 < packet.length ∧
      packet.getD offset 0 = attrMessageAuthenticator ∧
      2 ≤ (packet.getD (offset + 1) 0).toNat := by
  induction fuel generalizing pos with
  | zero => cases h
  | succ fuel ih =>
    unfold findMessageAuthenticatorFrom at h
    dsimp only at h
    split_ifs at h with hroom hshort htype
    · obtain rfl := Option.some.inj h
      exact ⟨Nat.le_refl _, hroom, htype, by omega⟩
    · obtain ⟨hle, hrest⟩ := ih h
      exact ⟨by omega, hrest⟩

theorem zeroMessageAuthenticator_checked (packet : Bytes) :
    Checked.zeroMessageAuthenticator packet = some (zeroMessageAuthenticator packet) := by
  unfold Checked.zeroMessageAuthenticator zeroMessageAuthenticator
  rw [findMessageAuthenticator_checked]
  cases findMessageAuthenticator packet with
  | none => rfl
  | some offset => exact Bytes.fillWithin_eq 0 16 (offset + 2) packet

theorem addMessageAuthenticator_checked (packet secret : Bytes) :
    Checked.addMessageAuthenticator packet secret = addMessageAuthenticator packet secret := by
  unfold Checked.addMessageAuthenticator addMessageAuthenticator
  rw [findMessageAuthenticator_checked]
  cases findMessageAuthenticator packet with
  | none =>
    have hcopy : Bytes.copyTo (attrMessageAuthenticator :: 18 :: zeroAuthenticator) 2 18
        (Md5.hmac secret packet) =
          some (attrMessageAuthenticator :: 18 :: Md5.hmac secret packet) := by
      rw [Bytes.copyTo_eq (by decide) (by decide) (Md5.length_hmac secret packet)]
      show some ([attrMessageAuthenticator, 18] ++ (Md5.hmac secret packet ++ [])) = _
      rw [List.append_nil]
      rfl
    show (Bytes.copyTo (attrMessageAuthenticator :: 18 :: zeroAuthenticator) 2 18
      (Md5.hmac secret packet)).bind (fun newAttr => some (packet ++ newAttr)) = _
    rw [hcopy]
    rfl
  | some offset =>
    show (Bytes.fill 0 16 (offset + 2) packet).bind (fun result =>
      result.copyTo (offset + 2) (offset + 18) (Md5.hmac secret result)) = _
    dsimp only
    by_cases hroom : packet.length < offset + 18
    · rw [if_pos hroom, Bytes.fill_of_lt (by omega) (by omega)]
      rfl
    · have hlen : (packet.copyAt (offset + 2) zeroAuthenticator).length = packet.length :=
        Bytes.length_copyAt ..
      have hmac := Md5.length_hmac secret (packet.copyAt (offset + 2) zeroAuthenticator)
      rw [if_neg hroom, Bytes.fill_of_le (by omega)]
      change Bytes.copyTo (packet.copyAt (offset + 2) zeroAuthenticator) _ _
        (Md5.hmac secret (packet.copyAt (offset + 2) zeroAuthenticator)) = _
      generalize packet.copyAt (offset + 2) zeroAuthenticator = result at hlen hmac ⊢
      rw [Bytes.copyTo_eq (by omega) (by omega) (by omega), Bytes.copyAt_eq (by omega), hmac]

theorem splice_eq {attrLen : ℕ} (hroom : offset ≤ packet.length) :
    ((Bytes.make ((packet.length : ℤ) - attrLen)).bind fun result =>
      (packet.cut 0 offset).bind fun front => (result.copyTo 0 offset front).bind fun result =>
        (packet.cut (offset + attrLen) packet.length).bind fun back =>
          result.copyTo offset result.length back) =
      if offset + attrLen ≤ packet.length then
        some (packet.take offset ++ packet.drop (offset + attrLen))
      else none := by
  have hlenfront : (packet.take offset).length = offset := List.length_take_of_le hroom
  rw [Bytes.cut_zero hroom]
  by_cases hle : offset + attrLen ≤ packet.length
  · have hsize : (List.replicate (packet.length - attrLen) (0 : UInt8)).length =
        (packet.take offset).length + (packet.drop (offset + attrLen)).length := by
      rw [List.length_replicate, hlenfront, List.length_drop]
      omega
    have hjoin := Bytes.copyTo_copyTo hsize
    rw [hlenfront] at hjoin
    rw [if_pos hle, Bytes.make_sub (by omega), Bytes.cut_length hle]
    exact hjoin
  · have hshort := Bytes.make_bind_copyTo_of_lt (i := packet.length) (n := attrLen)
      (Nat.lt_of_not_le hle) 0 (packet.take offset)
    rw [if_neg hle]
    simp only [Option.bind_some]
    rw [← Option.bind_assoc, hshort]
    rfl

theorem removeMessageAuthenticator_of_find (h : findMessageAuthenticator packet = some offset) :
    Checked.removeMessageAuthenticator packet =
      if offset + (packet.getD (offset + 1) 0).toNat ≤ packet.length then
        some (packet.take offset ++ packet.drop (offset + (packet.getD (offset + 1) 0).toNat))
      else none := by
  obtain ⟨-, hroom, -, -⟩ := of_findMessageAuthenticatorFrom h
  have hget : packet[offset + 1]? = some (packet.getD (offset + 1) 0) := by
    rw [List.getElem?_eq_getElem hroom, List.getD_eq_getElem _ _ hroom]
  unfold Checked.removeMessageAuthenticator
  rw [findMessageAuthenticator_checked, h]
  show packet[offset + 1]?.bind _ = _
  rw [hget]
  exact splice_eq (by omega)

theorem removeMessageAuthenticator_of_none (h : findMessageAuthenticator packet = none) :
    Checked.removeMessageAuthenticator packet = some packet := by
  unfold Checked.removeMessageAuthenticator
  rw [findMessageAuthenticator_checked, h]
  rfl

theorem exists_addMessageAuthenticator_iff (packet secret : Bytes) :
    (∃ result, Checked.addMessageAuthenticator packet secret = some result) ↔
      ∀ offset, findMessageAuthenticator packet = some offset → offset + 18 ≤ packet.length := by
  rw [addMessageAuthenticator_checked]
  unfold addMessageAuthenticator
  cases findMessageAuthenticator packet with
  | none => exact iff_of_true ⟨_, rfl⟩ nofun
  | some offset =>
    dsimp only
    by_cases hroom : packet.length < offset + 18
    · rw [if_pos hroom]
      exact iff_of_false nofun fun h => Nat.not_lt_of_le (h offset rfl) hroom
    · rw [if_neg hroom]
      refine iff_of_true ⟨_, rfl⟩ fun offset' hoffset => ?_
      obtain rfl := Option.some.inj hoffset
      exact Nat.le_of_not_lt hroom

theorem exists_removeMessageAuthenticator_iff (packet : Bytes) :
    (∃ result, Checked.removeMessageAuthenticator packet = some result) ↔
      ∀ offset, findMessageAuthenticator packet = some offset →
        offset + (packet.getD (offset + 1) 0).toNat ≤ packet.length := by
  cases hfind : findMessageAuthenticator packet with
  | none => exact iff_of_true ⟨_, removeMessageAuthenticator_of_none hfind⟩ nofun
  | some offset =>
    rw [removeMessageAuthenticator_of_find hfind]
    by_cases hle : offset + (packet.getD (offset + 1) 0).toNat ≤ packet.length
    · rw [if_pos hle]
      refine iff_of_true ⟨_, rfl⟩ fun offset' hoffset => ?_
      obtain rfl := Option.some.inj hoffset
      exact hle
    · rw [if_neg hle]
      exact iff_of_false nofun fun h => hle (h offset rfl)

end Checks

/-! ## What is removed -/

def headerLength (packet : Bytes) : ℕ := (Bytes.uint16 (packet.getD 2 0) (packet.getD 3 0)).toNat

/-- `result` is `packet` without its first Message-Authenticator, and its header announces as many
octets less as there are. -/
structure RemovesExactly (packet : Bytes) (attrs : List Attribute) (result : Bytes) : Prop where
  header : (result.drop 4).take 16 = (packet.drop 4).take 16
  attributes : decodeAttributes (result.drop 20) =
    .ok (attrs.eraseP Attribute.isMessageAuthenticator)
  length : headerLength result + packet.length = headerLength packet + result.length

/-- What is asked of the editing of a packet. -/
structure EditsSafely (packet : Bytes) : Prop where
  zero : ∃ result, Checked.zeroMessageAuthenticator packet = some result
  add : ∀ secret, ∃ result, Checked.addMessageAuthenticator packet secret = some result
  remove : ∃ result, Checked.removeMessageAuthenticator packet = some result
  exact : ∀ attrs result, 20 ≤ packet.length → decodeAttributes (packet.drop 20) = .ok attrs →
    Checked.removeMessageAuthenticator packet = some result → RemovesExactly packet attrs result

section Removing

variable {packet value : Bytes} {attrs before after : List Attribute} {offset : ℕ}

/-- Of attributes that decode, the first Message-Authenticator is cut out. The header stays, the
length in it included. -/
theorem removeMessageAuthenticator_of_cutAt (hlen : 20 ≤ packet.length)
    (hdec : decodeAttributes (packet.drop 20) = .ok attrs)
    (hcut : CutAt attrs before ⟨attrMessageAuthenticator, value⟩ after) :
    Checked.removeMessageAuthenticator packet =
      some (packet.take 20 ++ encodeAttributes (before ++ after)) := by
  obtain ⟨hpacket, hheader, hfit⟩ := packet_eq_of_decodes hlen hdec
  have hfind := findMessageAuthenticator_of_cutAt hlen hdec hcut
  obtain ⟨rfl, hno⟩ := hcut
  obtain ⟨hdata, -⟩ := decodeAttributes_eq_ok_iff.mp hdec
  rw [encodeAttributes_append] at hdata
  have hrest : packet.drop (20 + (encodeAttributes before).length) =
      encodeAttributes (⟨attrMessageAuthenticator, value⟩ :: after) ++ [] := by
    rw [List.append_nil]
    exact Bytes.drop_add_of_drop_eq hdata.symm
  obtain ⟨-, hlength, hroom, -, hnext⟩ := readsAt_of_drop_eq
    (hfit ⟨attrMessageAuthenticator, value⟩ (List.mem_append_right _ List.mem_cons_self)) hrest
  dsimp only at hlength hroom hnext
  have hfront : packet.take (20 + (encodeAttributes before).length) =
      packet.take 20 ++ encodeAttributes before := by
    rw [List.take_add, ← hdata, List.take_left]
  rw [removeMessageAuthenticator_of_find hfind, hlength, if_pos hroom, hnext, hfront,
    List.append_nil, encodeAttributes_append, List.append_assoc]

/-- Everything is exact but the length in the header. -/
theorem not_removesExactly_of_cutAt (hlen : 20 ≤ packet.length)
    (hdec : decodeAttributes (packet.drop 20) = .ok attrs)
    (hcut : CutAt attrs before ⟨attrMessageAuthenticator, value⟩ after) :
    ¬ RemovesExactly packet attrs (packet.take 20 ++ encodeAttributes (before ++ after)) := by
  obtain ⟨hpacket, hheader, -⟩ := packet_eq_of_decodes hlen hdec
  obtain ⟨rfl, -⟩ := hcut
  intro h
  have hsame : headerLength (packet.take 20 ++ encodeAttributes (before ++ after)) =
      headerLength packet := by
    conv_rhs => rw [hpacket]
    unfold headerLength
    rw [List.getD_append _ _ _ _ (by omega), List.getD_append _ _ _ _ (by omega),
      List.getD_append _ _ _ _ (by omega), List.getD_append _ _ _ _ (by omega)]
  have hlength := h.length
  rw [hsame, Nat.add_left_cancel_iff] at hlength
  have hshort := congrArg List.length hpacket
  rw [hlength] at hshort
  simp only [encodeAttributes_append, encodeAttributes_cons, List.length_append,
    List.length_cons] at hshort
  omega

theorem removesExactly_of_no_authenticator (hlen : 20 ≤ packet.length)
    (hdec : decodeAttributes (packet.drop 20) = .ok attrs)
    (hfind : findMessageAuthenticator packet = none) : RemovesExactly packet attrs packet := by
  have hno : ∀ attr ∈ attrs, attr.type ≠ attrMessageAuthenticator := by
    rcases exists_cutAt attrMessageAuthenticator attrs with hno | ⟨before, value, after, hcut⟩
    · exact hno
    · rw [findMessageAuthenticator_of_cutAt hlen hdec hcut] at hfind
      cases hfind
  have herase : attrs.eraseP Attribute.isMessageAuthenticator = attrs :=
    List.eraseP_of_forall_not fun attr hattr h => hno attr hattr (beq_iff_eq.mp h)
  refine ⟨rfl, ?_, rfl⟩
  rw [herase]
  exact hdec

/-- The removal is exact only where there is nothing to remove. -/
theorem removesExactly_iff (packet : Bytes) :
    (∀ attrs result, 20 ≤ packet.length → decodeAttributes (packet.drop 20) = .ok attrs →
        Checked.removeMessageAuthenticator packet = some result →
        RemovesExactly packet attrs result) ↔
      ∀ offset, findMessageAuthenticator packet = some offset →
        ∀ attrs, decodeAttributes (packet.drop 20) ≠ .ok attrs := by
  constructor
  · intro hexact offset hfind attrs hdec
    obtain ⟨hoffset, hroom, -, -⟩ := of_findMessageAuthenticatorFrom hfind
    have hlen : 20 ≤ packet.length := by omega
    rcases exists_cutAt attrMessageAuthenticator attrs with hno | ⟨before, value, after, hcut⟩
    · rw [findMessageAuthenticator_of_none hlen hdec hno] at hfind
      cases hfind
    · exact not_removesExactly_of_cutAt hlen hdec hcut
        (hexact attrs _ hlen hdec (removeMessageAuthenticator_of_cutAt hlen hdec hcut))
  · intro h attrs result hlen hdec hresult
    cases hfind : findMessageAuthenticator packet with
    | none =>
      rw [removeMessageAuthenticator_of_none hfind] at hresult
      obtain rfl := Option.some.inj hresult
      exact removesExactly_of_no_authenticator hlen hdec hfind
    | some offset => exact absurd hdec (h offset hfind attrs)

end Removing

/-- **Editing.** The three functions stay within the packet and the removal is exact, if and only if
no Message-Authenticator is found, or one is found whose value and announced length lie in the
packet while the attributes do not decode. -/
theorem message_authenticator_editing_iff (packet : Bytes) :
    EditsSafely packet ↔ ∀ offset, findMessageAuthenticator packet = some offset →
      offset + 18 ≤ packet.length ∧
        offset + (packet.getD (offset + 1) 0).toNat ≤ packet.length ∧
        ∀ attrs, decodeAttributes (packet.drop 20) ≠ .ok attrs := by
  have hsafe : EditsSafely packet ↔
      (∀ secret, ∃ result, Checked.addMessageAuthenticator packet secret = some result) ∧
      (∃ result, Checked.removeMessageAuthenticator packet = some result) ∧
      ∀ attrs result, 20 ≤ packet.length → decodeAttributes (packet.drop 20) = .ok attrs →
        Checked.removeMessageAuthenticator packet = some result →
        RemovesExactly packet attrs result :=
    ⟨fun h => ⟨h.add, h.remove, h.exact⟩, fun ⟨hadd, hremove, hexact⟩ =>
      ⟨⟨_, zeroMessageAuthenticator_checked packet⟩, hadd, hremove, hexact⟩⟩
  rw [hsafe, exists_removeMessageAuthenticator_iff, removesExactly_iff]
  simp only [exists_addMessageAuthenticator_iff, forall_const]
  exact ⟨fun ⟨hadd, hremove, hexact⟩ offset hfind =>
      ⟨hadd offset hfind, hremove offset hfind, hexact offset hfind⟩,
    fun h => ⟨fun offset hfind => (h offset hfind).1, fun offset hfind => (h offset hfind).2.1,
      fun offset hfind => (h offset hfind).2.2⟩⟩

namespace Sample

/-- A packet that ends after the first two octets of its Message-Authenticator. -/
def truncatedRequest : Bytes := [43, 9, 0, 22] ++ List.replicate 16 5 ++ [80, 18]

end Sample

open Sample in
/-- In a truncated packet adding and removing go beyond its end, and a packet from which the
Message-Authenticator was removed announces the octets that it had. -/
theorem message_authenticator_editing_fails :
    Checked.addMessageAuthenticator truncatedRequest secret = none ∧
      Checked.removeMessageAuthenticator truncatedRequest = none ∧
      ¬ EditsSafely truncatedRequest ∧
      Checked.removeMessageAuthenticator
          ([1, 9, 0, 38] ++ List.replicate 16 5 ++ [80, 18] ++ zeroAuthenticator) =
        some ([1, 9, 0, 38] ++ List.replicate 16 5) ∧
      ¬ EditsSafely ([1, 9, 0, 38] ++ List.replicate 16 5 ++ [80, 18] ++ zeroAuthenticator) := by
  have hadd : Checked.addMessageAuthenticator truncatedRequest secret = none := by
    decide +kernel
  have hremove : Checked.removeMessageAuthenticator
      ([1, 9, 0, 38] ++ List.replicate 16 5 ++ [80, 18] ++ zeroAuthenticator) =
        some ([1, 9, 0, 38] ++ List.replicate 16 5) := by
    decide
  refine ⟨hadd, by decide, fun h => ?_, hremove, fun h => ?_⟩
  · obtain ⟨result, hresult⟩ := h.add secret
    rw [hadd] at hresult
    cases hresult
  · have hlength := (h.exact [⟨attrMessageAuthenticator, zeroAuthenticator⟩] _ (by decide)
      (by decide) hremove).length
    exact absurd hlength (by decide)

end NssAAF.Radius
