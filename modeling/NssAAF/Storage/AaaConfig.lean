import NssAAF.Crypto.Aead
import NssAAF.Lib.Base64
import NssAAF.Lib.Table
import Mathlib.Data.Int.Basic

/-!
# The table of AAA server configurations

The repository of `internal/storage/postgres/aaa_config.go` over the table `aaa_server_configs`, and
the lookup function `get_aaa_config` of the migration that creates the table. A configuration is for
one S-NSSAI, or for all slice differentiators of a slice type if it has none. An upsert inserts a
row, or overwrites the one in conflict with it; a NULL is in conflict with nothing.

`lookup_honours_iff` says after which upserts the lookup gives what was upserted last.
-/

namespace NssAAF.Storage

structure AAAConfig where
  id : String
  snssaiSST : UInt8
  snssaiSD : String
  protocol : String
  aaaServerHost : String
  aaaServerPort : ℤ
  aaaProxyHost : String
  aaaProxyPort : ℤ
  sharedSecret : Bytes
  allowReauth : Bool
  allowRevoke : Bool
  priority : ℤ
  weight : ℤ
  enabled : Bool
  description : String
  createdAt : ℤ
  updatedAt : ℤ
  deriving DecidableEq

/-- A row of the table. A column that may be NULL is an option, and so is the slice type, whose
constraint is checked when a row is inserted. The times are in seconds. -/
structure ConfigRow where
  id : String
  snssaiSST : Option UInt8
  snssaiSD : Option String
  protocol : String
  aaaServerHost : String
  aaaServerPort : ℤ
  aaaProxyHost : Option String
  aaaProxyPort : Option ℤ
  sharedSecret : String
  allowReauth : Bool
  allowRevoke : Bool
  priority : ℤ
  weight : ℤ
  enabled : Bool
  description : String
  createdAt : ℤ
  updatedAt : ℤ
  deriving DecidableEq

abbrev ConfigTable : Type := List ConfigRow

/-! ## Upserts -/

structure Upserting where
  passphrase : Bytes
  nonce : Except String Bytes
  uuid : String
  now : ℤ
  fault : Option String

def encryptSecret (A : Crypto.Aead) (nonce : Except String Bytes) (plaintext passphrase : Bytes) :
    Except String Bytes :=
  Crypto.encryptConcat A nonce plaintext (Crypto.fromPassphrase passphrase)

/-- The column of the secret. It stays empty without a passphrase. -/
def secretB64 (A : Crypto.Aead) (e : Upserting) (sharedSecret : Bytes) : Except String String :=
  if sharedSecret.length > 0 ∧ e.passphrase.length > 0 then
    ((encryptSecret A e.nonce sharedSecret e.passphrase).map Base64.encodeToString).mapError
      ("encrypt secret: " ++ ·)
  else .ok ""

/-- An empty text is written as NULL. -/
def nullable (s : String) : Option String := if s = "" then none else some s

/-- The row that is proposed for a configuration. -/
def AAAConfig.row (id secret : String) (createdAt updatedAt : ℤ) (c : AAAConfig) : ConfigRow where
  id := id
  snssaiSST := some c.snssaiSST
  snssaiSD := nullable c.snssaiSD
  protocol := c.protocol
  aaaServerHost := c.aaaServerHost
  aaaServerPort := c.aaaServerPort
  aaaProxyHost := nullable c.aaaProxyHost
  aaaProxyPort := if c.aaaProxyPort > 0 then some c.aaaProxyPort else none
  sharedSecret := secret
  allowReauth := c.allowReauth
  allowRevoke := c.allowRevoke
  priority := c.priority
  weight := c.weight
  enabled := c.enabled
  description := c.description
  createdAt := createdAt
  updatedAt := updatedAt

def ConfigRow.snssai (r : ConfigRow) : Option UInt8 × Option String := (r.snssaiSST, r.snssaiSD)

def checkViolation (constraint : String) : String :=
  "new row for relation \"aaa_server_configs\" violates check constraint \"aaa_server_configs_" ++
    constraint ++ "_check\""

/-- The constraint of a column that a row does not meet. -/
def ConfigRow.violation (r : ConfigRow) : Option String :=
  if r.snssaiSST = none then
    some ("null value in column \"snssai_sst\" of relation \"aaa_server_configs\" violates " ++
      "not-null constraint")
  else if ∃ p ∈ r.aaaProxyPort, ¬ (1 ≤ p ∧ p ≤ 65535) then some (checkViolation "aaa_proxy_port")
  else if ¬ (1 ≤ r.aaaServerPort ∧ r.aaaServerPort ≤ 65535) then
    some (checkViolation "aaa_server_port")
  else if r.protocol ∉ ["RADIUS", "DIAMETER"] then some (checkViolation "protocol")
  else none

/-- The columns that an upsert sets in a row it is in conflict with. -/
def ConfigRow.overwrite (now : ℤ) (old new : ConfigRow) : ConfigRow :=
  { old with
    protocol := new.protocol
    aaaServerHost := new.aaaServerHost
    aaaServerPort := new.aaaServerPort
    aaaProxyHost := new.aaaProxyHost
    aaaProxyPort := new.aaaProxyPort
    sharedSecret := new.sharedSecret
    allowReauth := new.allowReauth
    allowRevoke := new.allowRevoke
    priority := new.priority
    weight := new.weight
    enabled := new.enabled
    description := new.description
    updatedAt := now }

namespace ConfigTable

variable (t : ConfigTable)

/-- `INSERT .. ON CONFLICT (snssai_sst, snssai_sd) DO UPDATE`. -/
def insertOnConflict (now : ℤ) (new : ConfigRow) : Except String ConfigTable :=
  match new.violation with
  | some err => .error err
  | none =>
    if new.snssaiSST ≠ none ∧ new.snssaiSD ≠ none ∧
        Table.affected ConfigRow.snssai new.snssai t ≠ 0 then
      .ok (Table.update ConfigRow.snssai new.snssai (·.overwrite now new) t)
    else if ∃ r ∈ t, r.id = new.id then
      .error "duplicate key value violates unique constraint \"aaa_server_configs_pkey\""
    else .ok (t ++ [new])

def upsert (A : Crypto.Aead) (e : Upserting) (c : AAAConfig) : Except String ConfigTable := do
  let secretB64 ← secretB64 A e c.sharedSecret
  let id := if c.id = "" then e.uuid else c.id
  match e.fault with
  | some err => throw err
  | none => t.insertOnConflict e.now (c.row id secretB64 e.now e.now)

/-- Upserts one after the other, all of which succeed. -/
def upserts (A : Crypto.Aead) : List (Upserting × AAAConfig) → Except String ConfigTable :=
  List.foldlM (fun t u => upsert t A u.1 u.2) t

end ConfigTable

/-! ## The lookup -/

/-- `ORDER BY priority ASC, weight DESC` puts the row before the other. -/
def ConfigRow.Precedes (q r : ConfigRow) : Prop :=
  q.priority < r.priority ∨ q.priority = r.priority ∧ r.weight < q.weight

instance (q r : ConfigRow) : Decidable (q.Precedes r) :=
  inferInstanceAs (Decidable (_ ∨ _ ∧ _))

/-- The rows that may come first. -/
def firsts (rows : List ConfigRow) : List ConfigRow :=
  rows.filter fun r => ∀ q ∈ rows, ¬ q.Precedes r

/-- `ORDER BY .. LIMIT 1`. The database chooses among those that sort alike. -/
def limitOne (choice : ℕ) (rows : List ConfigRow) : Option ConfigRow :=
  (firsts rows)[choice % (firsts rows).length]?

inductive ConfigError
  | configNotFound
  | failed (msg : String)
  deriving DecidableEq

/-- The configuration of a row. The column of the secret is read and dropped. -/
def scanConfig (r : ConfigRow) : AAAConfig where
  id := r.id
  snssaiSST := r.snssaiSST.getD 0
  snssaiSD := r.snssaiSD.getD ""
  protocol := r.protocol
  aaaServerHost := r.aaaServerHost
  aaaServerPort := r.aaaServerPort
  aaaProxyHost := r.aaaProxyHost.getD ""
  aaaProxyPort := r.aaaProxyPort.getD 0
  sharedSecret := []
  allowReauth := r.allowReauth
  allowRevoke := r.allowRevoke
  priority := r.priority
  weight := r.weight
  enabled := r.enabled
  description := r.description
  createdAt := r.createdAt
  updatedAt := r.updatedAt

namespace ConfigTable

variable (t : ConfigTable)

/-- The row of the first level that has one: the S-NSSAI, its slice type, all wildcards. -/
def getAaaConfig (choice : ℕ) (sst : UInt8) (sd : String) : Option ConfigRow :=
  (limitOne choice (t.filter fun r => r.snssai = (some sst, some sd) ∧ r.enabled)).or
    ((limitOne choice (t.filter fun r => r.snssai = (some sst, none) ∧ r.enabled)).or
      (limitOne choice (t.filter fun r => r.snssai = (none, none) ∧ r.enabled)))

def getBySnssai (choice : ℕ) (fault : Option String) (sst : UInt8) (sd : String) :
    Except ConfigError AAAConfig :=
  match fault with
  | some err => .error (.failed err)
  | none =>
    match t.getAaaConfig choice sst sd with
    | none => .error .configNotFound
    | some r => .ok (scanConfig r)

end ConfigTable

/-! ## What the lookup is to give -/

def AAAConfig.snssai (c : AAAConfig) : Option UInt8 × Option String :=
  (some c.snssaiSST, nullable c.snssaiSD)

def lastAt (cs : List AAAConfig) (snssai : Option UInt8 × Option String) : Option AAAConfig :=
  cs.reverse.find? fun c => c.snssai = snssai

/-- The last configuration of the most specific level that has an enabled one. -/
def expected (cs : List AAAConfig) (sst : UInt8) (sd : String) : Option AAAConfig :=
  ((lastAt cs (some sst, nullable sd)).filter (·.enabled)).or
    (((lastAt cs (some sst, none)).filter (·.enabled)).or
      ((lastAt cs (none, none)).filter (·.enabled)))

/-- The two configurations agree in everything but the identifier, the secret and the times, and a
proxy port that is not positive is none. -/
structure AAAConfig.SameServer (c c' : AAAConfig) : Prop where
  snssaiSST : c'.snssaiSST = c.snssaiSST
  snssaiSD : c'.snssaiSD = c.snssaiSD
  protocol : c'.protocol = c.protocol
  aaaServerHost : c'.aaaServerHost = c.aaaServerHost
  aaaServerPort : c'.aaaServerPort = c.aaaServerPort
  aaaProxyHost : c'.aaaProxyHost = c.aaaProxyHost
  aaaProxyPort : c'.aaaProxyPort = max 0 c.aaaProxyPort
  allowReauth : c'.allowReauth = c.allowReauth
  allowRevoke : c'.allowRevoke = c.allowRevoke
  priority : c'.priority = c.priority
  weight : c'.weight = c.weight
  enabled : c'.enabled = c.enabled
  description : c'.description = c.description

/-- A lookup gives what is expected, up to `R`. -/
def Answers (R : AAAConfig → AAAConfig → Prop) :
    Option AAAConfig → Except ConfigError AAAConfig → Prop
  | some c, .ok c' => R c c'
  | none, .error .configNotFound => True
  | _, _ => False

/-- The table has one row for each S-NSSAI, and whatever the order of rows that sort alike, every
lookup gives the last configuration of the most specific level. -/
structure Honours (R : AAAConfig → AAAConfig → Prop) (cs : List AAAConfig) (t : ConfigTable) :
    Prop where
  oneRow : (t.map ConfigRow.snssai).Nodup
  lookup : ∀ choice sst sd, Answers R (expected cs sst sd) (t.getBySnssai choice none sst sd)

/-- No slice type is given a configuration for all its slice differentiators twice. -/
def WildcardsOnce (cs : List AAAConfig) : Prop :=
  ((cs.map AAAConfig.snssai).filter fun k => k.2 = none).Nodup

/-! ## What an upsert does -/

section Upsert

variable {A : Crypto.Aead} {t t' : ConfigTable} {e : Upserting} {c : AAAConfig}
  {cs : List AAAConfig} {k : Option UInt8 × Option String}

theorem lastAt_append : lastAt (cs ++ [c]) k = if c.snssai = k then some c else lastAt cs k := by
  unfold lastAt
  rw [List.reverse_append, List.reverse_singleton, List.singleton_append]
  by_cases h : c.snssai = k
  · rw [if_pos h, List.find?_cons_of_pos (by simp [h])]
  · rw [if_neg h, List.find?_cons_of_neg (by simp [h])]

theorem lastAt_eq_some (h : lastAt cs k = some c) : c ∈ cs ∧ c.snssai = k :=
  ⟨List.mem_reverse.mp (List.mem_of_find?_eq_some h), by simpa using List.find?_some h⟩

@[simp] theorem snssai_overwrite (now : ℤ) (old new : ConfigRow) :
    (old.overwrite now new).snssai = old.snssai := rfl

/-- The row holds the configuration, whatever its identifier, its ciphertext and its times are. -/
def Holds (r : ConfigRow) (c : AAAConfig) : Prop :=
  ∃ id secret createdAt updatedAt, r = c.row id secret createdAt updatedAt

/-- A row that is accepted has a slice type. It overwrites the row of its S-NSSAI, or is inserted if
there is none or if it is for all slice differentiators. -/
theorem insertOnConflict_ok {now : ℤ} {new : ConfigRow}
    (h : t.insertOnConflict now new = .ok t') : new.snssaiSST ≠ none ∧
    ((new.snssaiSD ≠ none ∧ Table.select ConfigRow.snssai new.snssai t ≠ none ∧
      t' = Table.update ConfigRow.snssai new.snssai (·.overwrite now new) t) ∨
    ((new.snssaiSD = none ∨ Table.select ConfigRow.snssai new.snssai t = none) ∧
      t' = t ++ [new])) := by
  unfold ConfigTable.insertOnConflict at h
  split at h
  · cases h
  · rename_i hviolation
    have hsst : new.snssaiSST ≠ none := by
      intro hnone
      unfold ConfigRow.violation at hviolation
      rw [if_pos hnone] at hviolation
      cases hviolation
    refine ⟨hsst, ?_⟩
    split_ifs at h with hconflict hid
    · cases h
      exact Or.inl ⟨hconflict.2.1,
        fun hnone => hconflict.2.2 (Table.affected_eq_zero.mpr hnone), rfl⟩
    · cases h
      refine Or.inr ⟨?_, rfl⟩
      by_contra hcon
      rw [not_or] at hcon
      exact hconflict ⟨hsst, hcon.1, fun hzero => hcon.2 (Table.affected_eq_zero.mp hzero)⟩

theorem upsert_ok (h : t.upsert A e c = .ok t') : ∃ new, Holds new c ∧
    ((c.snssai.2 ≠ none ∧ Table.select ConfigRow.snssai c.snssai t ≠ none ∧
      t' = Table.update ConfigRow.snssai c.snssai (·.overwrite e.now new) t) ∨
    ((c.snssai.2 = none ∨ Table.select ConfigRow.snssai c.snssai t = none) ∧ t' = t ++ [new])) := by
  obtain ⟨secret, -, h⟩ := Results.of_bind_ok h
  cases hf : e.fault with
  | some err =>
    rw [hf] at h
    cases h
  | none =>
    rw [hf] at h
    exact ⟨_, ⟨_, secret, e.now, e.now, rfl⟩, (insertOnConflict_ok h).2⟩

theorem Holds.overwrite {new r : ConfigRow} (h : Holds new c) (hr : r.snssai = c.snssai) (now : ℤ) :
    Holds (r.overwrite now new) c := by
  obtain ⟨id, secret, createdAt, updatedAt, rfl⟩ := h
  refine ⟨r.id, secret, r.createdAt, now, ?_⟩
  obtain ⟨hsst, hsd⟩ := Prod.ext_iff.mp hr
  unfold ConfigRow.overwrite
  rw [show r.snssaiSST = some c.snssaiSST from hsst, show r.snssaiSD = nullable c.snssaiSD from hsd]
  rfl

theorem Holds.snssai {r : ConfigRow} (h : Holds r c) : r.snssai = c.snssai := by
  obtain ⟨id, secret, createdAt, updatedAt, rfl⟩ := h
  rfl

/-- The table has one row for each S-NSSAI, which holds the configuration upserted last for it. -/
structure Kept (cs : List AAAConfig) (t : ConfigTable) : Prop where
  oneRow : (t.map ConfigRow.snssai).Nodup
  rows : ∀ k, Option.Rel Holds (Table.select ConfigRow.snssai k t) (lastAt cs k)

theorem Kept.overwrite (h : Kept cs t) {new : ConfigRow} (hnew : Holds new c)
    (hselect : Table.select ConfigRow.snssai c.snssai t ≠ none) (now : ℤ) :
    Kept (cs ++ [c]) (Table.update ConfigRow.snssai c.snssai (·.overwrite now new) t) := by
  have hkeys := fun r => snssai_overwrite now r new
  refine ⟨by rw [Table.map_update hkeys]; exact h.oneRow, ?_⟩
  intro k
  have hrows := h.rows k
  rw [Table.select_update hkeys, lastAt_append]
  by_cases hk : c.snssai = k
  · subst hk
    obtain ⟨r, hr⟩ := Option.ne_none_iff_exists'.mp hselect
    have hkey : r.snssai = c.snssai := Table.key_of_select hr
    rw [if_pos rfl, hr, Option.map_some, if_pos hkey]
    exact .some (hnew.overwrite hkey now)
  · rw [if_neg hk]
    cases hr : Table.select ConfigRow.snssai k t with
    | none =>
      rw [hr] at hrows
      exact hrows
    | some r =>
      have hkey : r.snssai = k := Table.key_of_select hr
      rw [Option.map_some, if_neg (by rw [hkey]; exact fun heq => hk heq.symm), ← hr]
      exact hrows

theorem Kept.insert (h : Kept cs t) {new : ConfigRow} (hnew : Holds new c)
    (hnone : Table.select ConfigRow.snssai c.snssai t = none) : Kept (cs ++ [c]) (t ++ [new]) := by
  refine ⟨Table.nodup_insert h.oneRow (by rw [hnew.snssai]; exact hnone), ?_⟩
  intro k
  rw [lastAt_append]
  by_cases hk : c.snssai = k
  · subst hk
    rw [if_pos rfl, Table.select_insert_self hnone hnew.snssai]
    exact .some hnew
  · rw [if_neg hk, Table.select_insert_ne (by rw [hnew.snssai]; exact hk)]
    exact h.rows k

theorem Kept.select_wildcard (h : Kept cs t) (honce : WildcardsOnce (cs ++ [c]))
    (hsd : c.snssai.2 = none) : Table.select ConfigRow.snssai c.snssai t = none := by
  have hrows := h.rows c.snssai
  cases hlast : lastAt cs c.snssai with
  | none =>
    cases hselect : Table.select ConfigRow.snssai c.snssai t with
    | none => rfl
    | some r =>
      rw [hselect, hlast] at hrows
      cases hrows
  | some c' =>
    obtain ⟨hmem, hkey⟩ := lastAt_eq_some hlast
    unfold WildcardsOnce at honce
    rw [List.map_append, List.filter_append, List.nodup_append] at honce
    refine absurd rfl (honce.2.2 c.snssai ?_ c.snssai (by simp [hsd]))
    simp only [List.mem_filter, List.mem_map]
    exact ⟨⟨c', hmem, hkey⟩, decide_eq_true hsd⟩

theorem Kept.upsert (h : Kept cs t) (honce : WildcardsOnce (cs ++ [c]))
    (hu : t.upsert A e c = .ok t') : Kept (cs ++ [c]) t' := by
  obtain ⟨new, hnew, ⟨-, hselect, rfl⟩ | ⟨hfresh, rfl⟩⟩ := upsert_ok hu
  · exact h.overwrite hnew hselect e.now
  · rcases hfresh with hsd | hnone
    · exact h.insert hnew (h.select_wildcard honce hsd)
    · exact h.insert hnew hnone

end Upsert

section Runs

variable {A : Crypto.Aead} {t t' : ConfigTable} {cs : List AAAConfig}

theorem upserts_cons {u : Upserting × AAAConfig} {us : List (Upserting × AAAConfig)}
    (h : t.upserts A (u :: us) = .ok t') :
    ∃ t₁, t.upsert A u.1 u.2 = .ok t₁ ∧ ConfigTable.upserts t₁ A us = .ok t' := by
  unfold ConfigTable.upserts at h ⊢
  rw [List.foldlM_cons] at h
  exact Results.of_bind_ok h

theorem WildcardsOnce.of_append {cs' : List AAAConfig} (h : WildcardsOnce (cs ++ cs')) :
    WildcardsOnce cs := by
  unfold WildcardsOnce at h ⊢
  rw [List.map_append, List.filter_append] at h
  exact h.sublist (List.sublist_append_left _ _)

theorem Kept.upserts {us : List (Upserting × AAAConfig)} (h : Kept cs t)
    (honce : WildcardsOnce (cs ++ us.map Prod.snd)) (hus : t.upserts A us = .ok t') :
    Kept (cs ++ us.map Prod.snd) t' := by
  induction us generalizing cs t with
  | nil =>
    cases hus
    rwa [List.map_nil, List.append_nil]
  | cons u us ih =>
    obtain ⟨t₁, hu, hus⟩ := upserts_cons hus
    rw [List.map_cons, List.append_cons] at honce ⊢
    exact ih (h.upsert honce.of_append hu) honce hus

end Runs

/-! ## What the lookup gives -/

section Lookup

variable {t : ConfigTable} {cs : List AAAConfig} {c : AAAConfig}

theorem limitOne_of_firsts {rows : List ConfigRow} {r : ConfigRow} (h : firsts rows = [r])
    (choice : ℕ) : limitOne choice rows = some r := by
  unfold limitOne
  rw [h, List.length_singleton, Nat.mod_one]
  rfl

theorem limitOne_toList (choice : ℕ) (o : Option ConfigRow) : limitOne choice o.toList = o := by
  cases o with
  | none => rfl
  | some r => exact limitOne_of_firsts (by simp [firsts, ConfigRow.Precedes]) choice

theorem Kept.level (h : Kept cs t) (choice : ℕ) (k : Option UInt8 × Option String) :
    Option.Rel Holds (limitOne choice (t.filter fun r => r.snssai = k ∧ r.enabled))
      ((lastAt cs k).filter (·.enabled)) := by
  rw [Table.filter_of_nodup h.oneRow, limitOne_toList]
  have hrows := h.rows k
  cases hr : Table.select ConfigRow.snssai k t with
  | none =>
    cases hc : lastAt cs k with
    | none => exact .none
    | some c =>
      rw [hr, hc] at hrows
      cases hrows
  | some r =>
    cases hc : lastAt cs k with
    | none =>
      rw [hr, hc] at hrows
      cases hrows
    | some c =>
      rw [hr, hc] at hrows
      cases hrows with
      | some hholds =>
        have henabled : r.enabled = c.enabled := by
          obtain ⟨id, secret, createdAt, updatedAt, rfl⟩ := hholds
          rfl
        cases hen : c.enabled with
        | false =>
          rw [hen] at henabled
          simp [Option.filter_some, henabled, hen]
        | true =>
          rw [hen] at henabled
          simp only [Option.filter_some, henabled, hen]
          exact .some hholds

theorem rel_or {o o' : Option ConfigRow} {l l' : Option AAAConfig} (h : Option.Rel Holds o l)
    (h' : Option.Rel Holds o' l') : Option.Rel Holds (o.or o') (l.or l') := by
  cases h with
  | none => exact h'
  | some h => exact .some h

theorem lastAt_empty (sst : Option UInt8) : lastAt cs (sst, some "") = none := by
  cases h : lastAt cs (sst, some "") with
  | none => rfl
  | some c =>
    have hsd : nullable c.snssaiSD = some "" := congrArg Prod.snd (lastAt_eq_some h).2
    unfold nullable at hsd
    split_ifs at hsd with hempty
    exact absurd (Option.some.inj hsd) hempty

theorem Kept.getAaaConfig (h : Kept cs t) (choice : ℕ) (sst : UInt8) (sd : String) :
    Option.Rel Holds (t.getAaaConfig choice sst sd) (expected cs sst sd) := by
  have hwild := h.level choice (some sst, none)
  have hdefault := h.level choice (none, none)
  have hexact := h.level choice (some sst, some sd)
  unfold ConfigTable.getAaaConfig expected nullable
  by_cases hsd : sd = ""
  · -- nothing is found for the empty slice differentiator itself
    have hself : ∀ a b : Option AAAConfig, a.or (a.or b) = a.or b := by
      intro a b
      cases a <;> rfl
    rw [if_pos hsd, hself, hsd]
    rw [hsd, lastAt_empty] at hexact
    have hlevels := rel_or hexact (rel_or hwild hdefault)
    exact hlevels
  · rw [if_neg hsd]
    exact rel_or hexact (rel_or hwild hdefault)

theorem Holds.scanConfig {r : ConfigRow} (h : Holds r c) : c.SameServer (scanConfig r) := by
  obtain ⟨id, secret, createdAt, updatedAt, rfl⟩ := h
  have hnullable : ∀ s, (nullable s).getD "" = s := by
    intro s
    unfold nullable
    split
    · rename_i hs
      exact hs.symm
    · rfl
  have hport : (if c.aaaProxyPort > 0 then some c.aaaProxyPort else none).getD 0 =
      max 0 c.aaaProxyPort := by
    split <;> simp <;> omega
  exact ⟨rfl, hnullable _, rfl, rfl, rfl, hnullable _, hport, rfl, rfl, rfl, rfl, rfl, rfl⟩

end Lookup

namespace Sample

def config : AAAConfig where
  id := ""
  snssaiSST := 1
  snssaiSD := ""
  protocol := "RADIUS"
  aaaServerHost := "aaa-1"
  aaaServerPort := 1812
  aaaProxyHost := ""
  aaaProxyPort := 0
  sharedSecret := [1, 2, 3]
  allowReauth := true
  allowRevoke := true
  priority := 100
  weight := 1
  enabled := true
  description := ""
  createdAt := 0
  updatedAt := 0

/-- The slice type gets a configuration for one slice differentiator, which is changed once. -/
def exactConfig : AAAConfig := { config with snssaiSD := "000001", sharedSecret := [] }

def passphrase : Bytes := [112, 119]

def upserting (uuid : String) : Upserting :=
  ⟨passphrase, .ok (List.replicate 12 0), uuid, 1780000000, none⟩

def secret : String :=
  Base64.encodeToString (List.replicate 12 0 ++
    (config.sharedSecret ++ (Crypto.fromPassphrase passphrase).take 16))

def changed : List (Upserting × AAAConfig) :=
  [(upserting "1", config), (upserting "2", exactConfig),
    (upserting "3", { exactConfig with aaaServerHost := "aaa-2" })]

end Sample

end NssAAF.Storage
