import NssAAF.Api.Common
import NssAAF.Lib.Base64
import NssAAF.Lib.History
import NssAAF.Lib.Mutex
import Mathlib.Data.Int.Basic

/-!
# The signing keys of the NRF

`JWKSFetcher.GetKey` of `internal/auth/cache.go` looks a key up in a cache that holds the keys of
one JWKS document. If the key is not there, or the document is older than `ttl`, it takes the write
lock, looks again and fetches a document, which replaces the whole cache.

A call of `GetKey` is a thread. While it reads under the read lock nothing changes, so that is one
action; under the write lock each check, the fetch and the replacement are actions of their own,
with a time each. `getKey_fresh` says where every key that a call returns comes from.
-/

namespace NssAAF.Auth

open Interleaving Transducer Mutex History

/-! ## Documents -/

structure JwksKey where
  kty : String
  kid : String
  use : String
  alg : String
  n : String
  e : String
  crv : String
  x : String
  y : String
  deriving DecidableEq

inductive Curve
  | p256
  | p384
  | p521
  deriving DecidableEq

inductive PublicKey
  | rsa (n : ℕ) (e : Int64)
  | ecdsa (curve : Curve) (x y : ℕ)
  deriving DecidableEq

inductive KeyError
  | invalid (field : String)
  | missing
  | unsupportedCurve (crv : String)
  deriving DecidableEq

def base64URLDecode (s : String) : Option Bytes :=
  let digits := s.toList.map fun c => if c = '-' then '+' else if c = '_' then '/' else c
  let padding := match s.utf8ByteSize % 4 with
    | 2 => ['=', '=']
    | 3 => ['=']
    | _ => []
  Base64.decode (digits ++ padding)

def setBytes (b : Bytes) : ℕ := b.foldl (fun n c => n * 256 + c.toNat) 0

def decodeField (field value : String) : Except KeyError ℕ :=
  match base64URLDecode value with
  | none => .error (.invalid field)
  | some b => .ok (setBytes b)

/-- The exponent is cut to 64 bits. -/
def parseRSAKey (k : JwksKey) : Except KeyError PublicKey := do
  let n ← decodeField "N" k.n
  let e ← decodeField "E" k.e
  return .rsa n (Int64.ofNat e)

def curveOf (crv : String) : Except KeyError Curve :=
  if crv = "P-256" then .ok .p256
  else if crv = "P-384" then .ok .p384
  else if crv = "P-521" then .ok .p521
  else .error (.unsupportedCurve crv)

def parseECKey (k : JwksKey) : Except KeyError PublicKey := do
  if k.crv = "" ∨ k.x = "" ∨ k.y = "" then throw .missing
  let curve ← curveOf k.crv
  let x ← decodeField "X" k.x
  let y ← decodeField "Y" k.y
  return .ecdsa curve x y

/-- The public key, if the key is a well-formed RSA or EC key. -/
def JwksKey.publicKey (k : JwksKey) : Option PublicKey :=
  if k.kty = "RSA" then (parseRSAKey k).toOption
  else if k.kty = "EC" then (parseECKey k).toOption
  else none

/-- A map from key identifiers. A later entry for an identifier hides the earlier ones. -/
abbrev Entries : Type := List (String × PublicKey)

/-- One turn of the loop of `refreshLocked`. -/
def addKey (entries : Entries) (k : JwksKey) : Entries :=
  match k.publicKey with
  | none => entries
  | some key => (k.kid, key) :: entries

def newEntries (keys : List JwksKey) : Entries := keys.foldl addKey []

/-- The last well-formed key of a document with the identifier. -/
def lastKey (kid : String) (keys : List JwksKey) : Option PublicKey :=
  latest (fun k => if k.kid = kid then k.publicKey else none) keys

theorem lookup_addKey (kid : String) (entries : Entries) (k : JwksKey) :
    (addKey entries k).lookup kid =
      (if k.kid = kid then k.publicKey else none).or (entries.lookup kid) := by
  unfold addKey
  cases k.publicKey with
  | none => simp
  | some key =>
    rw [List.lookup_cons]
    by_cases hk : k.kid = kid
    · simp [hk]
    · have hne : (kid == k.kid) = false := by simpa using Ne.symm hk
      simp [hk, hne]

theorem lookup_newEntries (kid : String) (keys : List JwksKey) :
    (newEntries keys).lookup kid = lastKey kid keys := by
  unfold newEntries lastKey
  induction keys using List.reverseRecOn with
  | nil => rfl
  | append_singleton keys k ih =>
    rw [List.foldl_append, List.foldl_cons, List.foldl_nil, lookup_addKey, ih, latest_concat]

/-! ## The cache -/

/-- How a fetch ends: the body of an answer is a document or no JSON. -/
inductive Fetch
  | unbuildable (err : String)
  | failed (err : String)
  | answered (status : ℕ) (body : Except String (List JwksKey))

def errJwksFetch : String := "failed to fetch JWKS"

def Fetch.document : Fetch → Except String (List JwksKey)
  | .unbuildable err | .failed err => .error (errJwksFetch ++ ": " ++ err)
  | .answered status body =>
    if status ≠ 200 then .error (errJwksFetch ++ ": NRF JWKS returned " ++ toString status)
    else body.mapError fun err => errJwksFetch ++ ": invalid JSON: " ++ err

/-- Times are in nanoseconds. -/
structure JwksFetcher where
  ttl : ℤ

def newJwksFetcher (ttl : ℤ) : JwksFetcher := ⟨if ttl = 0 then 15 * 60 * 1000000000 else ttl⟩

/-- The cache: `fetchedAt` is `none` until the first document. -/
structure Cache where
  entries : Entries
  fetchedAt : Option ℤ
  locked : Bool

def emptyCache : Cache := ⟨[], none, false⟩

/-- `time.Since`, which is the longest duration for the zero time. -/
def timeSince (now : ℤ) : Option ℤ → ℤ
  | none => 9223372036854775807
  | some t => now - t

def keyNotFound (kid : String) : String := "key " ++ Api.quote kid ++ " not found in JWKS"

/-- Where a call is. From `checking` to `looking` it has the write lock. -/
inductive Phase
  | reading
  | locking
  | checking
  | refreshing
  | fetching
  | replacing (keys : List JwksKey)
  | looking
  | returned (result : Except String PublicKey)

structure Call where
  kid : String
  phase : Phase

/-- What the environment chooses for an action: the time, and how a fetch ends. -/
structure Turn where
  now : ℤ
  fetch : Fetch

namespace Cache

variable (c : Cache)

def cached (ttl now : ℤ) (kid : String) : Option PublicKey :=
  if timeSince now c.fetchedAt ≤ ttl then c.entries.lookup kid else none

def unlock : Cache := { c with locked := false }

/-- The document of `keys` replaces the cache. -/
def replace (keys : List JwksKey) (now : ℤ) : Cache :=
  { c with entries := newEntries keys, fetchedAt := some now }

end Cache

/-- The next action of a call for the key `kid`. -/
def getKey (f : JwksFetcher) (kid : String) (i : Turn) (c : Cache) : Phase → Cache × Phase
  | .reading =>
    if c.locked then (c, .reading)
    else
      match c.cached f.ttl i.now kid with
      | some key => (c, .returned (.ok key))
      | none => (c, .locking)
  | .locking => if c.locked then (c, .locking) else ({ c with locked := true }, .checking)
  | .checking =>
    match c.cached f.ttl i.now kid with
    | some key => (c.unlock, .returned (.ok key))
    | none => (c, .refreshing)
  | .refreshing =>
    if timeSince i.now c.fetchedAt ≤ f.ttl ∧ c.entries ≠ [] then (c, .looking) else (c, .fetching)
  | .fetching =>
    match i.fetch.document with
    | .error err => (c.unlock, .returned (.error err))
    | .ok keys => (c, .replacing keys)
  | .replacing keys => (c.replace keys i.now, .looking)
  | .looking =>
    match c.entries.lookup kid with
    | some key => (c.unlock, .returned (.ok key))
    | none => (c.unlock, .returned (.error (keyNotFound kid)))
  | .returned result => (c, .returned result)

def Call.next (f : JwksFetcher) (i : Turn) (c : Cache) (t : Call) : Cache × Call :=
  ((getKey f t.kid i c t.phase).1, ⟨t.kid, (getKey f t.kid i c t.phase).2⟩)

/-! ## What an action can do -/

def Phase.Holds : Phase → Prop
  | .checking | .refreshing | .fetching | .replacing _ | .looking => True
  | _ => False

inductive Moves (f : JwksFetcher) (kid : String) (i : Turn) (c : Cache) :
    Phase → Cache → Phase → Prop
  | waits {p : Phase} (hp : ¬ p.Holds) (hc : c.locked = true) : Moves f kid i c p c p
  | rests (result : Except String PublicKey) :
      Moves f kid i c (.returned result) c (.returned result)
  | hits {key : PublicKey} (hc : c.locked = false) (hkey : c.cached f.ttl i.now kid = some key) :
      Moves f kid i c .reading c (.returned (.ok key))
  | misses (hc : c.locked = false) : Moves f kid i c .reading c .locking
  | locks (hc : c.locked = false) :
      Moves f kid i c .locking { c with locked := true } .checking
  | finds {key : PublicKey} (hkey : c.cached f.ttl i.now kid = some key) :
      Moves f kid i c .checking c.unlock (.returned (.ok key))
  | refreshes (hkey : c.cached f.ttl i.now kid = none) : Moves f kid i c .checking c .refreshing
  | keeps (hc : timeSince i.now c.fetchedAt ≤ f.ttl) : Moves f kid i c .refreshing c .looking
  | fetches : Moves f kid i c .refreshing c .fetching
  | fails {err : String} (hfetch : i.fetch.document = .error err) :
      Moves f kid i c .fetching c.unlock (.returned (.error err))
  | receives {keys : List JwksKey} (hfetch : i.fetch.document = .ok keys) :
      Moves f kid i c .fetching c (.replacing keys)
  | replaces (keys : List JwksKey) :
      Moves f kid i c (.replacing keys) (c.replace keys i.now) .looking
  | returns {key : PublicKey} (hkey : c.entries.lookup kid = some key) :
      Moves f kid i c .looking c.unlock (.returned (.ok key))
  | lacks : Moves f kid i c .looking c.unlock (.returned (.error (keyNotFound kid)))

theorem getKey_moves (f : JwksFetcher) (kid : String) (i : Turn) (c : Cache) (p : Phase) :
    Moves f kid i c p (getKey f kid i c p).1 (getKey f kid i c p).2 := by
  cases p with
  | reading =>
    dsimp only [getKey]
    split
    · next hc => exact .waits id hc
    · next hc =>
      have hfree : c.locked = false := by simpa using hc
      split
      · next key hkey => exact .hits hfree hkey
      · exact .misses hfree
  | locking =>
    dsimp only [getKey]
    split
    · next hc => exact .waits id hc
    · next hc => exact .locks (by simpa using hc)
  | checking =>
    dsimp only [getKey]
    split
    · next key hkey => exact .finds hkey
    · next hkey => exact .refreshes hkey
  | refreshing =>
    dsimp only [getKey]
    split
    · next hc => exact .keeps hc.1
    · exact .fetches
  | fetching =>
    dsimp only [getKey]
    split
    · next err hfetch => exact .fails hfetch
    · next keys hfetch => exact .receives hfetch
  | replacing keys => exact .replaces keys
  | looking =>
    dsimp only [getKey]
    split
    · next key hkey => exact .returns hkey
    · exact .lacks
  | returned result => exact .rests result

namespace Moves

variable {f : JwksFetcher} {kid : String} {i : Turn} {c c' : Cache} {p p' : Phase}

theorem blocked (h : Moves f kid i c p c' p') (hc : c.locked = true) (hp : ¬ p.Holds) :
    c' = c ∧ ¬ p'.Holds := by
  cases h with
  | waits => exact ⟨rfl, hp⟩
  | rests => exact ⟨rfl, hp⟩
  | hits hfree => exact absurd hc (by simp [hfree])
  | misses hfree => exact absurd hc (by simp [hfree])
  | locks hfree => exact absurd hc (by simp [hfree])
  | _ => exact absurd trivial hp

theorem locked_iff (h : Moves f kid i c p c' p') (hiff : c.locked = true ↔ p.Holds) :
    c'.locked = true ↔ p'.Holds := by
  cases h with
  | waits => exact hiff
  | rests => exact hiff
  | hits hfree => simp [hfree, Phase.Holds]
  | misses hfree => simp [hfree, Phase.Holds]
  | locks hfree => simp [Phase.Holds]
  | finds | fails | returns | lacks => simp [Cache.unlock, Phase.Holds]
  | refreshes | keeps | fetches | receives | replaces => exact hiff

end Moves

def cacheLock : Lock Cache Call where
  Taken c := c.locked = true
  Holds t := t.phase.Holds

theorem cacheLock_guards (f : JwksFetcher) : Guards cacheLock (Call.next f) where
  blocked i c t := (getKey_moves f t.kid i c t.phase).blocked
  taken_iff i c t := (getKey_moves f t.kid i c t.phase).locked_iff

/-! ## Runs -/

abbrev Step : Type := Record (System Cache Call) (Event Call Turn) (Option (Turn × Call))

/-- The number of the call that acts in a step, its turn, and the call before it acts. -/
def acted (r : Step) : Option (ℕ × Turn × Call) :=
  match r.input, r.output with
  | .run n _, some (i, t) => some (n, i, t)
  | _, _ => none

def timeOf {α : Type} : Event α Turn → Option ℤ
  | .start _ => none
  | .run _ i => some i.now

def times (h : List Step) : List ℤ := h.filterMap fun r => timeOf r.input

def fetchedIn (i : Turn) : Phase → Option (List JwksKey)
  | .fetching => i.fetch.document.toOption
  | _ => none

def failsIn (i : Turn) : Phase → Bool
  | .fetching => i.fetch.document.toOption.isNone
  | _ => false

def completesIn : Phase → Bool
  | .replacing _ => true
  | _ => false

/-- The document that is fetched in a step, with the number of the call that fetches it. -/
def fetched (r : Step) : Option (ℕ × List JwksKey) :=
  (acted r).bind fun (n, i, t) => (fetchedIn i t.phase).map (n, ·)

/-- The call whose fetch fails in a step. -/
def failed (r : Step) : Option ℕ :=
  (acted r).bind fun (n, i, t) => if failsIn i t.phase then some n else none

/-- The call whose fetch is completed in a step, with the time that is recorded for it. -/
def completed (r : Step) : Option (ℕ × ℤ) :=
  (acted r).bind fun (n, i, t) => if completesIn t.phase then some (n, i.now) else none

/-- The key is the last well-formed one with the identifier in the document that was fetched last.
Call number `m` has fetched it, and completed that at `time`. -/
def Provides (h : List Step) (kid : String) (key : PublicKey) (m : ℕ) (time : ℤ) : Prop :=
  ∃ keys, latest fetched h = some (m, keys) ∧ latest completed h = some (m, time) ∧
    lastKey kid keys = some key

/-- After the steps `h`, a call that returns a key in the step `r` returns the one that the document
fetched last provides, and that fetch was completed at most `ttl` ago or was made by the call
itself. No fetch of the call has failed: if one fails, the call returns an error. -/
structure Fresh (f : JwksFetcher) (h : List Step) (r : Step) : Prop where
  key : ∀ n i t key, acted r = some (n, i, t) → (∀ result, t.phase ≠ .returned result) →
    (Call.next f i r.pre.shared t).2.phase = .returned (.ok key) →
    n ∉ h.filterMap failed ∧
      ∃ m time, Provides h t.kid key m time ∧ (i.now - time ≤ f.ttl ∨ m = n)
  error : ∀ n, failed r = some n →
    ∃ kid err, r.post.threads[n]? = some ⟨kid, .returned (.error err)⟩

/-! ## What is known of the cache -/

/-- The cache is that of the document fetched last, or has no keys. -/
def Current (h : List Step) (c : Cache) : Prop :=
  c.entries = [] ∨ ∃ m keys time, latest fetched h = some (m, keys) ∧
    latest completed h = some (m, time) ∧ c.entries = newEntries keys ∧ c.fetchedAt = some time

/-- What call number `n` with the lock knows: `refreshing`, that the key is not there or was too old
before; `looking`, that the key is not there or that it has fetched the document itself. -/
def Knows (f : JwksFetcher) (h : List Step) (n : ℕ) (kid : String) (c : Cache) : Phase → Prop
  | .checking | .fetching => Current h c
  | .refreshing => Current h c ∧
      (c.entries.lookup kid = none ∨ ∃ time ∈ times h, f.ttl < timeSince time c.fetchedAt)
  | .replacing keys => latest fetched h = some (n, keys)
  | .looking => Current h c ∧
      (c.entries.lookup kid = none ∨ ∃ keys, latest fetched h = some (n, keys))
  | _ => True

theorem knows_of_not_holds {f : JwksFetcher} {h : List Step} {n : ℕ} {kid : String} {c : Cache}
    {p : Phase} (hp : ¬ p.Holds) : Knows f h n kid c p := by
  cases p with
  | reading | locking | returned => trivial
  | _ => exact absurd trivial hp

section Steps

variable {f : JwksFetcher} {h : List Step} {r : Step} {n : ℕ} {i : Turn} {t : Call} {kid : String}
  {c c' : Cache} {p p' : Phase}

theorem fetched_of_acted (hr : acted r = some (n, i, t)) :
    fetched r = (fetchedIn i t.phase).map (n, ·) := by
  rw [fetched, hr, Option.bind_some]

theorem completed_of_acted (hr : acted r = some (n, i, t)) :
    completed r = if completesIn t.phase then some (n, i.now) else none := by
  rw [completed, hr, Option.bind_some]

def Quiet (r : Step) : Prop := fetched r = none ∧ completed r = none

theorem Quiet.fetched_eq (hr : Quiet r) : latest fetched (h ++ [r]) = latest fetched h := by
  rw [latest_concat, hr.1, Option.none_or]

theorem Quiet.completed_eq (hr : Quiet r) : latest completed (h ++ [r]) = latest completed h := by
  rw [latest_concat, hr.2, Option.none_or]

theorem Quiet.current_iff (hr : Quiet r) : Current (h ++ [r]) c ↔ Current h c := by
  unfold Current
  rw [hr.fetched_eq, hr.completed_eq]

theorem Quiet.knows (hr : Quiet r) (hknows : Knows f h n kid c p) :
    Knows f (h ++ [r]) n kid c p := by
  cases p with
  | reading | locking | returned => trivial
  | checking | fetching => exact hr.current_iff.mpr hknows
  | refreshing =>
    refine ⟨hr.current_iff.mpr hknows.1, hknows.2.imp_right ?_⟩
    rintro ⟨time, hmem, hold⟩
    refine ⟨time, ?_, hold⟩
    rw [times, List.filterMap_append]
    exact List.mem_append_left _ hmem
  | replacing keys => exact hr.fetched_eq.trans hknows
  | looking =>
    refine ⟨hr.current_iff.mpr hknows.1, ?_⟩
    rw [hr.fetched_eq]
    exact hknows.2

theorem quiet_of_acted (hr : acted r = some (n, i, ⟨kid, p⟩)) (hfetched : fetchedIn i p = none)
    (hcompleted : completesIn p = false) : Quiet r := by
  constructor
  · rw [fetched_of_acted hr, hfetched, Option.map_none]
  · rw [completed_of_acted hr, hcompleted]
    rfl

theorem quiet_of_not_holds (hr : acted r = some (n, i, t)) (hnot : ¬ t.phase.Holds) : Quiet r := by
  obtain ⟨kid, p⟩ := t
  cases p with
  | reading | locking | returned => exact quiet_of_acted hr rfl rfl
  | _ => exact absurd trivial hnot

theorem timeSince_mono {time now : ℤ} (hle : time ≤ now) (fetchedAt : Option ℤ) :
    timeSince time fetchedAt ≤ timeSince now fetchedAt := by
  cases fetchedAt with
  | none => exact Int.le_refl _
  | some t => exact Int.sub_le_sub_right hle t

/-- What a call that has or gets the lock knows after its action, and what the others may rely on
when it has given the lock back. -/
theorem knows_move (hr : acted r = some (n, i, ⟨kid, p⟩)) (hnow : i.now ∈ times (h ++ [r]))
    (hlater : ∀ time ∈ times h, time ≤ i.now) (hfree : c.locked = false → Current h c)
    (hknows : Knows f h n kid c p) (hlocked : c.locked = true ↔ p.Holds)
    (hm : Moves f kid i c p c' p') :
    Knows f (h ++ [r]) n kid c' p' ∧ (c'.locked = false → Current (h ++ [r]) c') := by
  have hquiet : fetchedIn i p = none → completesIn p = false → Quiet r := quiet_of_acted hr
  cases hm with
  | waits hp hc => exact absurd (hlocked.mp hc) hp
  | rests result => exact ⟨trivial, fun hc => (hquiet rfl rfl).current_iff.mpr (hfree hc)⟩
  | hits hc => exact ⟨trivial, fun _ => (hquiet rfl rfl).current_iff.mpr (hfree hc)⟩
  | misses hc => exact ⟨trivial, fun _ => (hquiet rfl rfl).current_iff.mpr (hfree hc)⟩
  | locks hc =>
    have hcurrent : Current (h ++ [r]) c := (hquiet rfl rfl).current_iff.mpr (hfree hc)
    exact ⟨hcurrent, fun _ => hcurrent⟩
  | finds hkey => exact ⟨trivial, fun _ => (hquiet rfl rfl).current_iff.mpr hknows⟩
  | refreshes hkey =>
    have hcurrent := (hquiet rfl rfl).current_iff.mpr hknows
    refine ⟨⟨hcurrent, ?_⟩, fun _ => hcurrent⟩
    unfold Cache.cached at hkey
    split_ifs at hkey with hold
    · exact .inl hkey
    · exact .inr ⟨i.now, hnow, Int.not_le.mp hold⟩
  | keeps hc =>
    have hcurrent := (hquiet rfl rfl).current_iff.mpr hknows.1
    refine ⟨⟨hcurrent, .inl ?_⟩, fun _ => hcurrent⟩
    rcases hknows.2 with hnone | ⟨time, hmem, hold⟩
    · exact hnone
    · -- It was too old at the check before, so it is too old now.
      have := timeSince_mono (hlater time hmem) c.fetchedAt
      omega
  | fetches =>
    have hcurrent := (hquiet rfl rfl).current_iff.mpr hknows.1
    exact ⟨hcurrent, fun _ => hcurrent⟩
  | fails hfetch =>
    have hq := hquiet (by rw [fetchedIn, hfetch]; rfl) rfl
    exact ⟨trivial, fun _ => hq.current_iff.mpr hknows⟩
  | receives hfetch =>
    refine ⟨?_, fun hc => ?_⟩
    · show latest fetched (h ++ [r]) = _
      rw [latest_concat, fetched_of_acted hr, fetchedIn, hfetch]
      rfl
    · rw [hlocked.mpr trivial] at hc
      cases hc
  | replaces keys =>
    have hfetched : latest fetched (h ++ [r]) = some (n, keys) := by
      rw [latest_concat, fetched_of_acted hr]
      exact hknows
    have hcompleted : latest completed (h ++ [r]) = some (n, i.now) := by
      rw [latest_concat, completed_of_acted hr]
      rfl
    have hcurrent : Current (h ++ [r]) (c.replace keys i.now) :=
      .inr ⟨n, keys, i.now, hfetched, hcompleted, rfl, rfl⟩
    exact ⟨⟨hcurrent, .inr ⟨keys, hfetched⟩⟩, fun _ => hcurrent⟩
  | returns hkey => exact ⟨trivial, fun _ => (hquiet rfl rfl).current_iff.mpr hknows.1⟩
  | lacks => exact ⟨trivial, fun _ => (hquiet rfl rfl).current_iff.mpr hknows.1⟩

theorem Current.key {key : PublicKey} (hc : Current h c) (hkey : c.entries.lookup kid = some key) :
    ∃ m time, Provides h kid key m time ∧ c.fetchedAt = some time := by
  rcases hc with hempty | ⟨m, keys, time, hfetched, hcompleted, hentries, htime⟩
  · rw [hempty, List.lookup_nil] at hkey
    cases hkey
  · rw [hentries, lookup_newEntries] at hkey
    exact ⟨m, time, ⟨keys, hfetched, hcompleted, hkey⟩, htime⟩

theorem Current.cached {key : PublicKey} {ttl now : ℤ} (hc : Current h c)
    (hkey : c.cached ttl now kid = some key) :
    ∃ m time, Provides h kid key m time ∧ now - time ≤ ttl := by
  unfold Cache.cached at hkey
  split_ifs at hkey with hage
  obtain ⟨m, time, hprovides, htime⟩ := hc.key hkey
  rw [htime] at hage
  exact ⟨m, time, hprovides, hage⟩

theorem key_of_move {key : PublicKey} (hfree : c.locked = false → Current h c)
    (hknows : Knows f h n kid c p) (hp : ∀ result, p ≠ .returned result)
    (hm : Moves f kid i c p c' (.returned (.ok key))) :
    ∃ m time, Provides h kid key m time ∧ (i.now - time ≤ f.ttl ∨ m = n) := by
  cases hm with
  | waits => exact absurd rfl (hp _)
  | rests => exact absurd rfl (hp _)
  | hits hc hkey =>
    obtain ⟨m, time, hprovides, hage⟩ := (hfree hc).cached hkey
    exact ⟨m, time, hprovides, .inl hage⟩
  | finds hkey =>
    obtain ⟨m, time, hprovides, hage⟩ := Current.cached hknows hkey
    exact ⟨m, time, hprovides, .inl hage⟩
  | returns hkey =>
    obtain ⟨m, time, ⟨keys, hfetched, hrest⟩, -⟩ := hknows.1.key hkey
    rcases hknows.2 with hnone | ⟨keys', hown⟩
    · rw [hnone] at hkey
      cases hkey
    · have hsame : m = n := by
        rw [hfetched, Option.some.injEq, Prod.mk.injEq] at hown
        exact hown.1
      exact ⟨m, time, ⟨keys, hfetched, hrest⟩, .inr hsame⟩

theorem mem_failed_concat {n : ℕ} :
    n ∈ (h ++ [r]).filterMap failed ↔ n ∈ h.filterMap failed ∨ failed r = some n := by
  rw [List.filterMap_append, List.mem_append]
  cases hr : failed r <;> simp [hr, eq_comm]

end Steps

/-! ## Runs of calls -/

structure Sound (f : JwksFetcher) (h : List Step) (s : System Cache Call) : Prop where
  held : Held cacheLock s
  free : s.shared.locked = false → Current h s.shared
  knows : ∀ n t, s.threads[n]? = some t → Knows f h n t.kid s.shared t.phase
  failed : ∀ n ∈ h.filterMap failed,
    ∃ kid err, s.threads[n]? = some ⟨kid, .returned (.error err)⟩

def Later (h : List Step) (r : Step) : Prop :=
  ∀ time ∈ times h, ∀ now, timeOf r.input = some now → time ≤ now

section Run

variable {f : JwksFetcher} {h : List Step} {s : System Cache Call} {n : ℕ} {i : Turn} {t : Call}

theorem acted_record_iff {e : Event Call Turn} :
    acted (record (step (Call.next f)) s e) = some (n, i, t) ↔
      e = .run n i ∧ s.threads[n]? = some t := by
  have hactor : acted (record (step (Call.next f)) s e) =
      actor (record (step (Call.next f)) s e) := by
    unfold acted actor
    cases e <;> cases (record (step (Call.next f)) s _).output <;> rfl
  rw [hactor, actor_record_iff]

theorem thread_of_failed {e : Event Call Turn}
    (hfailed : failed (record (step (Call.next f)) s e) = some n) :
    ∃ kid err, (step (Call.next f) s e).2.threads[n]? = some ⟨kid, .returned (.error err)⟩ := by
  obtain ⟨⟨m, i, kid, p⟩, hacted, hfails⟩ := Option.bind_eq_some_iff.mp hfailed
  obtain ⟨rfl, ht⟩ := acted_record_iff.mp hacted
  dsimp only at hfails
  split_ifs at hfails with hin
  obtain rfl := Option.some.inj hfails
  cases p with
  | fetching =>
    obtain ⟨err, herr⟩ : ∃ err, i.fetch.document = .error err := by
      unfold failsIn at hin
      cases hdocument : i.fetch.document with
      | error err => exact ⟨err, rfl⟩
      | ok keys =>
        rw [hdocument] at hin
        cases hin
    refine ⟨kid, err, ?_⟩
    rw [step_run _ ht]
    dsimp only
    rw [List.getElem?_set_self (List.getElem?_eq_some_iff.mp ht).1]
    simp only [Call.next, getKey, herr]
  | _ => cases hin

theorem sound_start (hs : Sound f h s) (kid : String) :
    Sound f (h ++ [record (step (Call.next f)) s (.start ⟨kid, .reading⟩)])
      ⟨s.shared, s.threads ++ [⟨kid, .reading⟩]⟩ := by
  have hquiet : Quiet (record (step (Call.next f)) s (.start ⟨kid, .reading⟩)) := ⟨rfl, rfl⟩
  refine ⟨hs.held.start id, fun hc => hquiet.current_iff.mpr (hs.free hc), ?_, ?_⟩
  · intro n t ht
    rw [List.getElem?_append] at ht
    split at ht
    · exact hquiet.knows (hs.knows n t ht)
    · obtain rfl := List.mem_singleton.mp (List.mem_of_getElem? ht)
      trivial
  · intro n hn
    rcases mem_failed_concat.mp hn with hn | hn
    · obtain ⟨kid', err, hthread⟩ := hs.failed n hn
      have hlt := (List.getElem?_eq_some_iff.mp hthread).1
      exact ⟨kid', err, (List.getElem?_append_left hlt).trans hthread⟩
    · cases hn

theorem sound_idle (hs : Sound f h s) (ht : s.threads[n]? = none) :
    Sound f (h ++ [record (step (Call.next f)) s (.run n i)]) s := by
  have hacted : acted (record (step (Call.next f)) s (.run n i)) = none := by
    simp only [acted, record_input, record_output, step_run_of_none _ ht]
  have hquiet : Quiet (record (step (Call.next f)) s (.run n i)) := by
    simp [Quiet, fetched, completed, hacted]
  refine ⟨hs.held, fun hc => hquiet.current_iff.mpr (hs.free hc),
    fun m t hm => hquiet.knows (hs.knows m t hm), ?_⟩
  intro m hm
  rcases mem_failed_concat.mp hm with hm | hm
  · exact hs.failed m hm
  · rw [failed, hacted] at hm
    cases hm

theorem failed_run (hs : Sound f h s) (ht : s.threads[n]? = some t) {m : ℕ}
    (hm : m ∈ (h ++ [record (step (Call.next f)) s (.run n i)]).filterMap failed) :
    ∃ kid err, (s.threads.set n (Call.next f i s.shared t).2)[m]? =
      some ⟨kid, .returned (.error err)⟩ := by
  rcases mem_failed_concat.mp hm with hm | hfailed
  · obtain ⟨kid, err, hthread⟩ := hs.failed m hm
    refine ⟨kid, err, ?_⟩
    by_cases hnm : n = m
    · subst hnm
      obtain rfl := Option.some.inj (ht.symm.trans hthread)
      exact List.getElem?_set_self (List.getElem?_eq_some_iff.mp ht).1
    · exact (List.getElem?_set_ne hnm).trans hthread
  · have hthread := thread_of_failed hfailed
    rwa [step_run _ ht] at hthread

theorem sound_run (hs : Sound f h s) (ht : s.threads[n]? = some t)
    (hlater : ∀ time ∈ times h, time ≤ i.now) :
    Sound f (h ++ [record (step (Call.next f)) s (.run n i)])
      ⟨(Call.next f i s.shared t).1, s.threads.set n (Call.next f i s.shared t).2⟩ := by
  have hacted : acted (record (step (Call.next f)) s (.run n i)) = some (n, i, t) :=
    acted_record_iff.mpr ⟨rfl, ht⟩
  have hmoves := getKey_moves f t.kid i s.shared t.phase
  have hheld := hs.held.run (cacheLock_guards f) ht i
  by_cases hact : t.phase.Holds ∨ ¬ s.shared.locked = true
  · have hnow : i.now ∈ times (h ++ [record (step (Call.next f)) s (.run n i)]) := by
      simp [times, timeOf]
    obtain ⟨hown, hfree⟩ := knows_move hacted hnow hlater hs.free (hs.knows n t ht)
      (hs.held.taken_iff_holds ht hact) hmoves
    refine ⟨hheld, hfree, ?_, fun m hm => failed_run hs ht hm⟩
    intro m u hu
    rcases getElem?_set_cases hu with ⟨rfl, rfl⟩ | ⟨hne, hu⟩
    · exact hown
    · exact knows_of_not_holds (hs.held.others ht hact hne hu)
  · obtain ⟨hnot, htaken⟩ := not_or.mp hact
    obtain ⟨hsame, hnot'⟩ := hmoves.blocked (not_not.mp htaken) hnot
    have hquiet := quiet_of_not_holds hacted hnot
    have hshared : (Call.next f i s.shared t).1 = s.shared := hsame
    refine ⟨hheld, ?_, ?_, fun m hm => failed_run hs ht hm⟩
    · rw [hshared]
      exact fun hc => hquiet.current_iff.mpr (hs.free hc)
    · intro m u hu
      rw [hshared]
      rcases getElem?_set_cases hu with ⟨rfl, rfl⟩ | ⟨-, hu⟩
      · exact knows_of_not_holds hnot'
      · exact hquiet.knows (hs.knows m u hu)

/-- What is asked of a step: it is not earlier than those before it, and a call starts at its
beginning. -/
def Proper (h : List Step) (r : Step) : Prop :=
  Later h r ∧ ∀ t, r.input = .start t → t.phase = .reading

theorem sound_step (hs : Sound f h s) {e : Event Call Turn}
    (he : Proper h (record (step (Call.next f)) s e)) :
    Sound f (h ++ [record (step (Call.next f)) s e]) (step (Call.next f) s e).2 := by
  cases e with
  | start t =>
    obtain ⟨kid, p⟩ := t
    obtain rfl : p = .reading := he.2 _ rfl
    exact sound_start hs kid
  | run n i =>
    cases ht : s.threads[n]? with
    | none =>
      rw [step_run_of_none _ ht]
      exact sound_idle hs ht
    | some t =>
      rw [step_run _ ht]
      exact sound_run hs ht fun time hmem => he.1 time hmem i.now rfl

theorem fresh_step (hs : Sound f h s) (e : Event Call Turn) :
    Fresh f h (record (step (Call.next f)) s e) where
  key := by
    intro n i t key hacted hp hkey
    obtain ⟨rfl, ht⟩ := acted_record_iff.mp hacted
    refine ⟨?_, ?_⟩
    · intro hfailed
      obtain ⟨kid, err, hthread⟩ := hs.failed n hfailed
      obtain rfl := Option.some.inj (ht.symm.trans hthread)
      exact hp _ rfl
    · have hmoves := getKey_moves f t.kid i s.shared t.phase
      have hphase : (getKey f t.kid i s.shared t.phase).2 = .returned (.ok key) := hkey
      rw [hphase] at hmoves
      exact key_of_move hs.free (hs.knows n t ht) hp hmoves
  error := fun n hfailed => thread_of_failed hfailed

end Run

def schedule (es : List (Event String Turn)) : List (Event Call Turn) :=
  es.map fun
    | .start kid => .start ⟨kid, .reading⟩
    | .run n i => .run n i

theorem timeOf_schedule (es : List (Event String Turn)) :
    (schedule es).filterMap timeOf = es.filterMap timeOf := by
  unfold schedule
  rw [List.filterMap_map]
  congr 1
  funext e
  cases e <;> rfl

theorem proper_of_pairwise (f : JwksFetcher) (s : System Cache Call)
    {es : List (Event String Turn)} (hes : (es.filterMap timeOf).Pairwise (· ≤ ·)) :
    Along (step (Call.next f)) s Proper (schedule es) := by
  intro es₁ e es₂ hsplit
  constructor
  · intro time hmem now hnow
    have hbefore : time ∈ es₁.filterMap timeOf := by
      rw [← map_input_trace (step (Call.next f)) s es₁, List.filterMap_map]
      exact hmem
    rw [← timeOf_schedule, hsplit, List.filterMap_append, List.pairwise_append] at hes
    exact hes.2.2 time hbefore now (List.mem_filterMap.mpr ⟨e, List.mem_cons_self, hnow⟩)
  · intro t ht
    have hmem : Event.start t ∈ schedule es := by
      rw [hsplit]
      obtain rfl : e = .start t := ht
      exact List.mem_append_right _ List.mem_cons_self
    obtain ⟨kid, rfl⟩ := exists_of_start_mem_map hmem (fun kid => rfl) (fun n i => rfl)
    rfl

theorem sound_nil (f : JwksFetcher) : Sound f [] ⟨emptyCache, []⟩ where
  held := ⟨by simp, by simp [cacheLock, emptyCache]⟩
  free := fun _ => .inl rfl
  knows := by simp
  failed := by simp

/-- In every run of calls at times that do not decrease, with whatever documents and failures, a key
that is returned is the last well-formed one in the document fetched last, and that document is at
most `ttl` old or was fetched by the call itself. A call whose fetch fails returns an error. -/
theorem getKey_fresh (ttl : ℤ) (es : List (Event String Turn))
    (hes : (es.filterMap timeOf).Pairwise (· ≤ ·)) :
    Along (step (Call.next (newJwksFetcher ttl))) ⟨emptyCache, []⟩ (Fresh (newJwksFetcher ttl))
      (schedule es) :=
  along_of_inv (J := Sound _) (C := Proper) (fun _ _ _ hs he => sound_step hs he)
    (fun _ _ e hs _ => fresh_step hs e) (sound_nil _) (proper_of_pairwise _ _ hes)

/-! ## Three calls -/

namespace Jwks.Sample

/-- An RSA key whose modulus is 257. -/
def rsaKey : JwksKey := ⟨"RSA", "k1", "sig", "RS256", "AQE", "AQAB", "", "", ""⟩

def served : Fetch := .answered 200 (.ok [rsaKey])

/-- The call makes its actions at the given times. -/
def acts (n : ℕ) (fetch : Fetch) (times : List ℤ) : List (Event String Turn) :=
  times.map fun now => .run n ⟨now, fetch⟩

/-- The first call fetches a document. The second one finds the key. The fetch of the third one
fails. -/
def run : List (Event String Turn) :=
  [.start "k1", .start "k1"] ++ acts 0 served [1, 2, 3, 4] ++ acts 1 served [5] ++
    acts 0 served [6, 7, 8] ++ acts 1 served [9] ++ [.start "k1"] ++
    acts 2 (.failed "connection refused") [900000000008, 900000000009, 900000000010,
      900000000011, 900000000012]

/-- The key that a call has returned. -/
def key? (t : Call) : Option PublicKey :=
  match t.phase with
  | .returned (.ok key) => some key
  | _ => none

end Jwks.Sample

open Jwks.Sample

theorem three_calls_fresh :
    Along (step (Call.next (newJwksFetcher 0))) ⟨emptyCache, []⟩ (Fresh (newJwksFetcher 0))
      (schedule run) ∧
    (final (step (Call.next (newJwksFetcher 0))) ⟨emptyCache, []⟩ (schedule run)).threads.map key? =
      [some (.rsa 257 65537), some (.rsa 257 65537), none] :=
  ⟨getKey_fresh 0 run (by decide), by decide +kernel⟩

end NssAAF.Auth
