import NssAAF.Storage.Nssaa
import Mathlib.Data.List.Forall2

/-!
# The session repository

`Repository` in `internal/storage/postgres/session.go` reads the table `slice_auth_sessions`. A row
is read by a list of columns and a list of variables for them. A column that can be NULL and is read
into a text makes the whole row fail, and so does a list of another length.

* `expiry_exact_iff`: when `ExpireStale` ends the sessions that are not finished, and only those.
* `list_agrees_with_get_iff`: when `List` gives what `GetByAuthCtxID` gives.
-/

namespace NssAAF.Storage

def NssaaStatus.isTerminal (s : NssaaStatus) : Bool := s == .eapSuccess || s == .eapFailure

namespace Postgres

/-- A row of the table. A column that can be NULL is optional. -/
structure SessionRow where
  authCtxID : String
  gpsi : String
  gpsiHash : Option String
  supi : Option String
  snssaiSST : UInt8
  snssaiSD : Option String
  amfInstanceID : Option String
  amfIP : Option String
  amfRegion : Option String
  reauthNotifURI : Option String
  revocNotifURI : Option String
  aaaConfigID : Option String
  eapSessionState : Bytes
  eapRounds : ℤ
  maxEAPRounds : ℤ
  eapLastNonce : Option String
  nssaaStatus : NssaaStatus
  authResult : Option NssaaStatus
  failureReason : Option String
  failureCause : Option String
  createdAt : Time
  updatedAt : Time
  expiresAt : Time
  completedAt : Option Time
  terminatedAt : Option Time
  deriving DecidableEq

abbrev SessionTable : Type := List SessionRow

/-! ## Expiry -/

/-- The condition `nssaa_status IN ('PENDING', 'NOT_EXECUTED')`. -/
def SessionRow.unfinished (r : SessionRow) : Bool := r.nssaaStatus ∈ [.pending, .notExecuted]

/-- How many sessions are not finished, or why the statement failed. -/
def countPending (fault : Option String) (t : SessionTable) : Except String ℕ :=
  match fault with
  | some err => .error ("count pending: " ++ err)
  | none => .ok (t.countP SessionRow.unfinished)

/-- The rows that `ExpireStale` selects at `now`. -/
def SessionRow.selected (now : Time) (r : SessionRow) : Bool := r.expiresAt < now && !r.unfinished

/-- The columns that `ExpireStale` sets. -/
def SessionRow.expired (now : Time) (r : SessionRow) : SessionRow :=
  { r with
    nssaaStatus := .eapFailure
    authResult := some .eapFailure
    terminatedAt := some now
    failureReason := some "Session expired" }

/-- Marks the rows that it selects as failed. The answer is how many there are. -/
def expireStale (fault : Option String) (now : Time) (t : SessionTable) :
    Except String ℕ × SessionTable :=
  match fault with
  | some err => (.error ("session expire: " ++ err), t)
  | none =>
    (.ok (Table.affected (SessionRow.selected now) true t),
      Table.update (SessionRow.selected now) true (SessionRow.expired now) t)

/-- A row is as it should be after the expiry at `now`: it has failed if it was past its time and
not finished, and is unchanged otherwise. -/
def ExpiredRight (now : Time) (r r' : SessionRow) : Prop :=
  if r.expiresAt < now ∧ r.unfinished = true then r'.nssaaStatus = .eapFailure else r' = r

/-- `now'` comes right after `now`: no session runs out in between. -/
def RightAfter (t : SessionTable) (now now' : Time) : Prop :=
  now ≤ now' ∧ ∀ r ∈ t, r.expiresAt < now' → r.expiresAt < now

/-- What is asked of the expiry of a table. -/
structure ExpiresExactly (t : SessionTable) (now : Time) : Prop where
  rows : List.Forall₂ (ExpiredRight now) t (expireStale none now t).2
  again : ∀ now', RightAfter t now now' →
    expireStale none now' (expireStale none now t).2 = (.ok 0, (expireStale none now t).2)

section Expiry

variable {t : SessionTable} {now now' : Time} {r : SessionRow}

theorem selected_of_not_lt (h : ¬ r.expiresAt < now) : r.selected now = false := by
  unfold SessionRow.selected
  rw [decide_eq_false h, Bool.false_and]

theorem expireStale_of_no_stale (h : ∀ r ∈ t, ¬ r.expiresAt < now) :
    expireStale none now t = (.ok 0, t) := by
  have hnone : ∀ r ∈ t, ¬ r.selected now = true := by
    intro r hr
    rw [selected_of_not_lt (h r hr)]
    exact Bool.false_ne_true
  have hcount : Table.affected (SessionRow.selected now) true t = 0 := by
    unfold Table.affected
    rw [List.countP_eq_zero]
    simpa using hnone
  have hrows : Table.update (SessionRow.selected now) true (SessionRow.expired now) t = t := by
    unfold Table.update
    conv_rhs => rw [← List.map_id t]
    refine List.map_congr_left fun r hr => ?_
    exact if_neg (hnone r hr)
  unfold expireStale
  dsimp only
  rw [hcount, hrows]

theorem unfinished_of_selected (h : r.selected now = true) : r.unfinished = false := by
  unfold SessionRow.selected at h
  rw [Bool.and_eq_true, Bool.not_eq_true'] at h
  exact h.2

/-- The sessions that `CountPending` counts stay the same: none of them is ended. -/
theorem countPending_expireStale (now : Time) (t : SessionTable) :
    countPending none (expireStale none now t).2 = countPending none t := by
  show Except.ok (List.countP _ (List.map _ t)) = .ok (List.countP _ t)
  rw [List.countP_map]
  refine congrArg Except.ok (List.countP_congr fun r _ => ?_)
  show (if r.selected now = true then r.expired now else r).unfinished = true ↔ _
  by_cases hselected : r.selected now = true
  · rw [if_pos hselected, unfinished_of_selected hselected]
    rfl
  · rw [if_neg hselected]

theorem selected_expired (h : r.selected now = true) : (r.expired now).selected now = true := by
  unfold SessionRow.selected at h ⊢
  rw [Bool.and_eq_true] at h ⊢
  exact ⟨h.1, rfl⟩

theorem status_of_unfinished (h : r.unfinished = true) : r.nssaaStatus ≠ .eapFailure := by
  intro hst
  unfold SessionRow.unfinished at h
  rw [hst] at h
  exact absurd h (by decide)

theorem not_expiredRight_of_unfinished (hr : r ∈ t) (hlt : r.expiresAt < now)
    (hunfinished : r.unfinished = true) :
    ¬ List.Forall₂ (ExpiredRight now) t (expireStale none now t).2 := by
  intro hrows
  have hrow := List.forall₂_same.mp (List.forall₂_map_right_iff.mp hrows) r hr
  have hselected : ¬ r.selected now = true := by
    unfold SessionRow.selected
    rw [hunfinished, Bool.not_true, Bool.and_false]
    exact Bool.false_ne_true
  rw [if_neg hselected] at hrow
  unfold ExpiredRight at hrow
  rw [if_pos ⟨hlt, hunfinished⟩] at hrow
  exact status_of_unfinished hunfinished hrow

theorem affected_again_ne_zero (hr : r ∈ t) (hselected : r.selected now = true) :
    (expireStale none now (expireStale none now t).2).1 ≠ .ok 0 := by
  have hmem : r.expired now ∈ (expireStale none now t).2 :=
    List.mem_map.mpr ⟨r, hr, if_pos hselected⟩
  intro hzero
  have hcount := List.countP_eq_zero.mp (Except.ok.inj hzero) _ hmem
  exact hcount (decide_eq_true (selected_expired hselected))

end Expiry

/-- **Expiry.** The expiry of a table is exact if and only if no session is past its time. -/
theorem expiry_exact_iff (t : SessionTable) (now : Time) :
    ExpiresExactly t now ↔ ∀ r ∈ t, ¬ r.expiresAt < now := by
  constructor
  · rintro ⟨hrows, hagain⟩ r hr hlt
    cases hunfinished : r.unfinished with
    | true => exact not_expiredRight_of_unfinished hr hlt hunfinished hrows
    | false =>
      have hselected : r.selected now = true := by
        unfold SessionRow.selected
        rw [decide_eq_true hlt, hunfinished]
        rfl
      refine affected_again_ne_zero hr hselected ?_
      rw [hagain now ⟨Int.le_refl now, fun _ _ h => h⟩]
  · intro h
    have hstay := expireStale_of_no_stale h
    refine ⟨?_, fun now' hafter => ?_⟩
    · rw [hstay]
      refine List.forall₂_same.mpr fun r hr => ?_
      exact (if_neg fun hstale => h r hr hstale.1).mpr rfl
    · rw [hstay]
      exact expireStale_of_no_stale fun r hr hlt => h r hr (hafter.2 r hr hlt)

namespace Sample

def sessionRow (authCtxID : String) (status : NssaaStatus) : SessionRow where
  authCtxID := authCtxID
  gpsi := ""
  gpsiHash := some (hashGPSI "msisdn-1")
  supi := some ""
  snssaiSST := 1
  snssaiSD := some ""
  amfInstanceID := some "amf-1"
  amfIP := none
  amfRegion := some ""
  reauthNotifURI := some ""
  revocNotifURI := some ""
  aaaConfigID := none
  eapSessionState := []
  eapRounds := 0
  maxEAPRounds := 20
  eapLastNonce := some ""
  nssaaStatus := status
  authResult := some status
  failureReason := some ""
  failureCause := some ""
  createdAt := 0
  updatedAt := 0
  expiresAt := 1
  completedAt := none
  terminatedAt := none

end Sample

/-- A session that has succeeded is marked as failed by each call, and one that is pending stays so
for ever. -/
theorem expiry_fails_finished :
    (expireStale none 2 [Sample.sessionRow "a" .eapSuccess, Sample.sessionRow "b" .pending]).1 =
        .ok 1 ∧
      (expireStale none 2 [Sample.sessionRow "a" .eapSuccess,
        Sample.sessionRow "b" .pending]).2.map SessionRow.nssaaStatus = [.eapFailure, .pending] ∧
      (expireStale none 2 (expireStale none 2 [Sample.sessionRow "a" .eapSuccess,
        Sample.sessionRow "b" .pending]).2).1 = .ok 1 ∧
      ¬ ExpiresExactly [Sample.sessionRow "a" .eapSuccess, Sample.sessionRow "b" .pending] 2 := by
  refine ⟨by decide, by decide, by decide, fun h => ?_⟩
  exact not_expiredRight_of_unfinished (r := Sample.sessionRow "b" .pending) (by simp) (by decide)
    (by decide) h.rows

/-! ## Reading a row -/

inductive Column
  | authCtxID | gpsi | gpsiHash | supi | snssaiSST | snssaiSD
  | amfInstanceID | amfIP | amfRegion
  | reauthNotifURI | revocNotifURI
  | aaaConfigID | eapSessionState
  | eapRounds | maxEAPRounds | eapLastNonce
  | nssaaStatus | authResult
  | failureReason | failureCause
  | createdAt | updatedAt | expiresAt
  | completedAt | terminatedAt
  deriving DecidableEq

inductive Value
  | null
  | text (s : String)
  | status (st : NssaaStatus)
  | int (n : ℤ)
  | bytes (b : Bytes)
  | time (t : Time)
  deriving DecidableEq

def Value.ofText : Option String → Value
  | none => .null
  | some s => .text s

def Value.ofTime : Option Time → Value
  | none => .null
  | some t => .time t

def SessionRow.value (r : SessionRow) : Column → Value
  | .authCtxID => .text r.authCtxID
  | .gpsi => .text r.gpsi
  | .gpsiHash => .ofText r.gpsiHash
  | .supi => .ofText r.supi
  | .snssaiSST => .int r.snssaiSST.toNat
  | .snssaiSD => .ofText r.snssaiSD
  | .amfInstanceID => .ofText r.amfInstanceID
  | .amfIP => .ofText r.amfIP
  | .amfRegion => .ofText r.amfRegion
  | .reauthNotifURI => .ofText r.reauthNotifURI
  | .revocNotifURI => .ofText r.revocNotifURI
  | .aaaConfigID => .ofText r.aaaConfigID
  | .eapSessionState => .bytes r.eapSessionState
  | .eapRounds => .int r.eapRounds
  | .maxEAPRounds => .int r.maxEAPRounds
  | .eapLastNonce => .ofText r.eapLastNonce
  | .nssaaStatus => .status r.nssaaStatus
  | .authResult => (r.authResult.map Value.status).getD .null
  | .failureReason => .ofText r.failureReason
  | .failureCause => .ofText r.failureCause
  | .createdAt => .time r.createdAt
  | .updatedAt => .time r.updatedAt
  | .expiresAt => .time r.expiresAt
  | .completedAt => .ofTime r.completedAt
  | .terminatedAt => .ofTime r.terminatedAt

/-- The columns that `GetByAuthCtxID` selects. -/
def getColumns : List Column :=
  [.authCtxID, .gpsi, .gpsiHash, .supi, .snssaiSST, .snssaiSD,
    .amfInstanceID, .amfIP, .amfRegion,
    .reauthNotifURI, .revocNotifURI,
    .aaaConfigID, .eapSessionState,
    .eapRounds, .maxEAPRounds, .eapLastNonce,
    .nssaaStatus, .authResult,
    .failureReason, .failureCause,
    .createdAt, .updatedAt, .expiresAt,
    .completedAt, .terminatedAt]

/-- The columns that `List` selects. -/
def listColumns : List Column :=
  [.authCtxID, .gpsi, .supi, .snssaiSST, .snssaiSD,
    .amfInstanceID, .amfIP, .amfRegion,
    .reauthNotifURI, .revocNotifURI,
    .aaaConfigID, .eapSessionState,
    .eapRounds, .maxEAPRounds, .eapLastNonce,
    .nssaaStatus, .authResult,
    .failureReason, .failureCause,
    .createdAt, .updatedAt, .expiresAt,
    .completedAt, .terminatedAt]

/-- The variables that a row is scanned into. -/
structure Scanned where
  authCtxID : String
  rawGPSI : String
  rawGPSIHash : String
  rawSUPI : String
  snssaiSST : UInt8
  snssaiSD : String
  amfInstanceID : String
  amfIP : Option String
  amfRegion : String
  reauthNotifURI : String
  revocNotifURI : String
  aaaConfigID : Option String
  stateBytes : Bytes
  eapRounds : ℤ
  maxEAPRounds : ℤ
  eapLastNonce : String
  nssaaStatus : NssaaStatus
  authResult : NssaaStatus
  failureReason : String
  failureCause : String
  createdAt : Time
  updatedAt : Time
  expiresAt : Time
  completedAt : Option Time
  terminatedAt : Option Time

theorem empty_not_mem_namedStatuses : "" ∉ namedStatuses := by decide

def noStatus : NssaaStatus := .other "" empty_not_mem_namedStatuses

def Scanned.zero : Scanned :=
  ⟨"", "", "", "", 0, "", "", none, "", "", "", none, [], 0, 0, "", noStatus, noStatus, "", "",
    zeroTime, zeroTime, zeroTime, none, none⟩

/-- A variable that a value is scanned into, unless the value does not fit. -/
abbrev Target : Type := Value → Scanned → Option Scanned

def scanText (put : String → Scanned → Scanned) : Target
  | .text x, s => some (put x s)
  | _, _ => none

def scanOptional (put : Option String → Scanned → Scanned) : Target
  | .null, s => some (put none s)
  | .text x, s => some (put (some x) s)
  | _, _ => none

def scanStatus (put : NssaaStatus → Scanned → Scanned) : Target
  | .status x, s => some (put x s)
  | _, _ => none

def scanOctet (put : UInt8 → Scanned → Scanned) : Target
  | .int n, s => if 0 ≤ n ∧ n < 256 then some (put (UInt8.ofNat n.toNat) s) else none
  | _, _ => none

def scanInt (put : ℤ → Scanned → Scanned) : Target
  | .int n, s => some (put n s)
  | _, _ => none

def scanBytes (put : Bytes → Scanned → Scanned) : Target
  | .bytes b, s => some (put b s)
  | .null, s => some (put [] s)
  | _, _ => none

def scanTime (put : Time → Scanned → Scanned) : Target
  | .time t, s => some (put t s)
  | _, _ => none

def scanTimestamptz (put : Option Time → Scanned → Scanned) : Target
  | .null, s => some (put none s)
  | .time t, s => some (put (some t) s)
  | _, _ => none

def targets : List Target :=
  [scanText fun x s => { s with authCtxID := x },
    scanText fun x s => { s with rawGPSI := x },
    scanText fun x s => { s with rawGPSIHash := x },
    scanText fun x s => { s with rawSUPI := x },
    scanOctet fun x s => { s with snssaiSST := x },
    scanText fun x s => { s with snssaiSD := x },
    scanText fun x s => { s with amfInstanceID := x },
    scanOptional fun x s => { s with amfIP := x },
    scanText fun x s => { s with amfRegion := x },
    scanText fun x s => { s with reauthNotifURI := x },
    scanText fun x s => { s with revocNotifURI := x },
    scanOptional fun x s => { s with aaaConfigID := x },
    scanBytes fun x s => { s with stateBytes := x },
    scanInt fun x s => { s with eapRounds := x },
    scanInt fun x s => { s with maxEAPRounds := x },
    scanText fun x s => { s with eapLastNonce := x },
    scanStatus fun x s => { s with nssaaStatus := x },
    scanStatus fun x s => { s with authResult := x },
    scanText fun x s => { s with failureReason := x },
    scanText fun x s => { s with failureCause := x },
    scanTime fun x s => { s with createdAt := x },
    scanTime fun x s => { s with updatedAt := x },
    scanTime fun x s => { s with expiresAt := x },
    scanTimestamptz fun x s => { s with completedAt := x },
    scanTimestamptz fun x s => { s with terminatedAt := x }]

/-- Why a row was not scanned: there are more or fewer columns than variables, or the value at a
position does not fit. -/
inductive ScanError
  | count (columns targets : ℕ)
  | value (position : ℕ)
  deriving DecidableEq

/-- Scans the values one after the other. -/
def assign : ℕ → List Target → List Value → Scanned → Except ScanError Scanned
  | i, target :: rest, v :: vs, s =>
    match target v s with
    | none => .error (.value i)
    | some s => assign (i + 1) rest vs s
  | _, _, _, s => .ok s

def scan (values : List Value) : Except ScanError Scanned :=
  if values.length ≠ targets.length then .error (.count values.length targets.length)
  else assign 0 targets values .zero

structure Session where
  authCtxID : String
  gpsi : String
  supi : String
  snssaiSST : UInt8
  snssaiSD : String
  amfInstanceID : String
  amfIP : Option String
  amfRegion : String
  aaaConfigID : Option String
  eapSessionState : Bytes
  nssaaStatus : NssaaStatus
  authResult : NssaaStatus
  eapRounds : ℤ
  maxEAPRounds : ℤ
  eapLastNonce : String
  failureReason : String
  failureCause : String
  reauthNotifURI : String
  revocNotifURI : String
  createdAt : Time
  updatedAt : Time
  expiresAt : Time
  completedAt : Option Time
  terminatedAt : Option Time
  deriving DecidableEq

/-- The configuration that the code takes for none. -/
def uuidNil : String := "00000000-0000-0000-0000-000000000000"

/-- The session of a row. What does not decrypt is empty. -/
def Scanned.session (enc : Encryptor) (x : Scanned) : Session where
  authCtxID := x.authCtxID
  gpsi := (enc.decryptField x.rawGPSI).toOption.getD ""
  supi := (enc.decryptField x.rawSUPI).toOption.getD ""
  snssaiSST := x.snssaiSST
  snssaiSD := x.snssaiSD
  amfInstanceID := x.amfInstanceID
  amfIP := x.amfIP
  amfRegion := x.amfRegion
  aaaConfigID := x.aaaConfigID.filter (· ≠ uuidNil)
  eapSessionState :=
    if x.stateBytes.length > 0 then (enc.decrypt x.stateBytes).toOption.getD [] else []
  nssaaStatus := x.nssaaStatus
  authResult := x.authResult
  eapRounds := x.eapRounds
  maxEAPRounds := x.maxEAPRounds
  eapLastNonce := x.eapLastNonce
  failureReason := x.failureReason
  failureCause := x.failureCause
  reauthNotifURI := x.reauthNotifURI
  revocNotifURI := x.revocNotifURI
  createdAt := x.createdAt
  updatedAt := x.updatedAt
  expiresAt := x.expiresAt
  completedAt := x.completedAt
  terminatedAt := x.terminatedAt

def scanSession (enc : Encryptor) (values : List Value) : Except ScanError Session :=
  (scan values).map (Scanned.session enc)

def scanSessionFromRows (enc : Encryptor) (values : List Value) : Except ScanError Session :=
  (scan values).map (Scanned.session enc)

/-! ## Reading sessions -/

inductive SessionError
  | notFound
  | failed (what err : String)
  | scan (what : String) (err : ScanError)
  deriving DecidableEq

def getByAuthCtxID (enc : Encryptor) (fault : Option String) (authCtxID : String)
    (t : SessionTable) : Except SessionError Session :=
  match fault with
  | some err => .error (.failed "session get" err)
  | none =>
    match Table.select SessionRow.authCtxID authCtxID t with
    | none => .error .notFound
    | some r => (scanSession enc (getColumns.map r.value)).mapError (.scan "session get")

/-- The rows that `List` selects, newest first. -/
def selectNewest (gpsi : String) (t : SessionTable) : SessionTable :=
  (t.filter fun r => r.gpsiHash = some (hashGPSI gpsi)).mergeSort fun r r' =>
    r'.createdAt ≤ r.createdAt

def list (enc : Encryptor) (fault : Option String) (gpsi : String) (t : SessionTable) :
    Except SessionError (List Session) :=
  match fault with
  | some err => .error (.failed "session list" err)
  | none =>
    (selectNewest gpsi t).mapM fun r =>
      (scanSessionFromRows enc (listColumns.map r.value)).mapError (.scan "session list scan")

/-- `List` agrees with `GetByAuthCtxID`: it gives the sessions with the hash of the subscriber,
newest first, each as it is got by its identifier. -/
def ListsAsGot (enc : Encryptor) (gpsi : String) (t : SessionTable) : Prop :=
  ∃ sessions rows, list enc none gpsi t = .ok sessions ∧
    sessions.Pairwise (fun s s' => s'.createdAt ≤ s.createdAt) ∧
    rows.Perm (t.filter fun r => r.gpsiHash = some (hashGPSI gpsi)) ∧
    List.Forall₂ (fun r s => getByAuthCtxID enc none r.authCtxID t = .ok s) rows sessions

section Listing

variable {enc : Encryptor} {gpsi : String} {t : SessionTable}

/-- `List` selects one column less than it has variables for. -/
theorem scanSessionFromRows_listColumns (enc : Encryptor) (r : SessionRow) :
    scanSessionFromRows enc (listColumns.map r.value) = .error (.count 24 25) := rfl

theorem mem_selectNewest {r : SessionRow} :
    r ∈ selectNewest gpsi t ↔ r ∈ t ∧ r.gpsiHash = some (hashGPSI gpsi) := by
  unfold selectNewest
  rw [List.mem_mergeSort, List.mem_filter, decide_eq_true_iff]

theorem list_of_mem {r : SessionRow} (hr : r ∈ t) (hhash : r.gpsiHash = some (hashGPSI gpsi)) :
    list enc none gpsi t = .error (.scan "session list scan" (.count 24 25)) := by
  have hmem := mem_selectNewest.mpr ⟨hr, hhash⟩
  unfold list
  dsimp only
  cases hrows : selectNewest gpsi t with
  | nil =>
    rw [hrows] at hmem
    cases hmem
  | cons r rows =>
    rw [List.mapM_cons, scanSessionFromRows_listColumns]
    rfl

theorem list_of_not_mem (h : ∀ r ∈ t, r.gpsiHash ≠ some (hashGPSI gpsi)) :
    list enc none gpsi t = .ok [] := by
  have hnil : selectNewest gpsi t = [] := by
    refine List.eq_nil_iff_forall_not_mem.mpr fun r hr => ?_
    obtain ⟨hmem, hhash⟩ := mem_selectNewest.mp hr
    exact h r hmem hhash
  unfold list
  dsimp only
  rw [hnil]
  rfl

end Listing

/-- **List and Get.** `List` agrees with `GetByAuthCtxID` if and only if there is no session to
list. -/
theorem list_agrees_with_get_iff (enc : Encryptor) (gpsi : String) (t : SessionTable) :
    ListsAsGot enc gpsi t ↔ ∀ r ∈ t, r.gpsiHash ≠ some (hashGPSI gpsi) := by
  constructor
  · rintro ⟨sessions, rows, hlist, -, -, -⟩ r hr hhash
    rw [list_of_mem hr hhash] at hlist
    cases hlist
  · intro h
    have hfilter : t.filter (fun r => r.gpsiHash = some (hashGPSI gpsi)) = [] := by
      rw [List.filter_eq_nil_iff]
      intro r hr hhash
      exact h r hr (of_decide_eq_true hhash)
    refine ⟨[], [], list_of_not_mem h, List.Pairwise.nil, ?_, .nil⟩
    rw [hfilter]

/-- The session of a subscriber is got by its identifier and not listed. -/
theorem list_fails_where_get_succeeds :
    (getByAuthCtxID Sample.enc none "a" [Sample.sessionRow "a" .pending]).toOption.map
        Session.authCtxID = some "a" ∧
      list Sample.enc none "msisdn-1" [Sample.sessionRow "a" .pending] =
        .error (.scan "session list scan" (.count 24 25)) ∧
      ¬ ListsAsGot Sample.enc "msisdn-1" [Sample.sessionRow "a" .pending] := by
  have hlist : list Sample.enc none "msisdn-1" [Sample.sessionRow "a" .pending] =
      .error (.scan "session list scan" (.count 24 25)) :=
    list_of_mem List.mem_cons_self rfl
  refine ⟨by decide, hlist, ?_⟩
  rintro ⟨sessions, rows, hsessions, -⟩
  rw [hlist] at hsessions
  cases hsessions

end Postgres

end NssAAF.Storage
