import NssAAF.Lib.History
import NssAAF.Lib.Interleaving
import Mathlib.Data.Int.Basic

/-!
# Discovery of network functions

`DiscoverUDM` and `DiscoverAMF` of `internal/nrf/client.go` look their target up in one cache, whose
entries expire after `ttl`, and ask the NRF if there is no entry. They read the cache with
`allowStale`, so an entry that has expired is returned as any other, and the NRF is not asked.

A call is a thread: it reads the cache, compares the clock with the entry, or asks the NRF and
stores what it gets. `discovery_honours_ttl_iff` says in which steps the `ttl` is not honoured.
-/

namespace NssAAF.Nrf.Discovery

open Interleaving Transducer History

/-! ## Answers of the NRF -/

structure IpEndPoint where
  ipv4Address : String
  port : ℤ

/-- An instance in a discovery result: the endpoints of its services, by the names of these. -/
structure NfInstance where
  nfServices : List (String × List IpEndPoint)

structure Reply where
  status : ℕ
  body : String

/-- `json.Unmarshal` of a discovery result and of the `nfInstanceId` of an instance. -/
structure Decoders where
  discovery : String → Except String (List NfInstance)
  amf : String → Except String String

/-- What is looked for: a UDM, by `DiscoverUDM`, or an AMF, by `DiscoverAMF`. -/
inductive Target
  | udm (plmnID : String)
  | amf (amfID : String)

def okBody (nf : String) : Except String Reply → Except String String
  | .error err => .error ("nrf: discover " ++ nf ++ ": " ++ err)
  | .ok reply =>
    if reply.status ≠ 200 then
      .error ("nrf: discover " ++ nf ++ " status " ++ toString reply.status ++ ": " ++ reply.body)
    else .ok reply.body

def endpointURL (ep : IpEndPoint) : String :=
  "http://" ++ ep.ipv4Address ++ ":" ++ toString ep.port

/-- The first endpoint of the service `nudm-uem`. An instance without one is passed over. -/
def firstEndpoint (instances : List NfInstance) : Option String :=
  instances.findSome? fun inst =>
    ((inst.nfServices.lookup "nudm-uem").bind List.head?).map endpointURL

namespace Target

variable (d : Decoders)

def key : Target → String
  | .udm plmnID => "udm:uem:" ++ plmnID
  | .amf amfID => "amf:" ++ amfID

def path : Target → String
  | .udm _ => "/nnrf-disc/v1/nf-instances?target-nf-type=UDM&service-names=nudm-uem"
  | .amf amfID => "/nnrf-disc/v1/nf-instances/" ++ amfID

/-- What `DiscoverUDM` reads from an answer. -/
def readUDM (answer : Except String Reply) : Except String (List NfInstance) := do
  let body ← okBody "udm" answer
  (d.discovery body).mapError ("nrf: decode discovery: " ++ ·)

/-- What `DiscoverAMF` reads from an answer: the identifier of the instance. -/
def readAMF (answer : Except String Reply) : Except String String := do
  let body ← okBody "amf" answer
  (d.amf body).mapError ("nrf: decode amf: " ++ ·)

def endpoint (answer : Except String Reply) : Target → Except String String
  | .udm plmnID => do
    match firstEndpoint (← readUDM d answer) with
    | some endpoint => return endpoint
    | none => throw ("nrf: no UDM found for plmnId " ++ plmnID)
  | .amf _ => readAMF d answer

/-- The NRF is asked successfully. It may say that there is no UDM. -/
def Asked (answer : Except String Reply) : Target → Prop
  | .udm _ => ∃ instances, readUDM d answer = .ok instances
  | .amf _ => ∃ nfInstanceID, readAMF d answer = .ok nfInstanceID

end Target

/-! ## The cache -/

/-- Times are in nanoseconds. -/
structure CacheEntry where
  data : String
  expiresAt : ℤ

/-- A later entry for a key hides the earlier ones. -/
structure NRFDiscoveryCache where
  cache : List (String × CacheEntry)
  ttl : ℤ

def newDiscoveryCache (cacheTTL : ℤ) : NRFDiscoveryCache :=
  ⟨[], if cacheTTL = 0 then 5 * 60 * 1000000000 else cacheTTL⟩

/-- `Get`, once it has found the entry. -/
def CacheEntry.get (entry : CacheEntry) (now : ℤ) (allowStale : Bool) : Option String :=
  if now < entry.expiresAt then some entry.data
  else if allowStale then some entry.data
  else none

def NRFDiscoveryCache.set (c : NRFDiscoveryCache) (key data : String) (now : ℤ) :
    NRFDiscoveryCache :=
  { c with cache := (key, ⟨data, now + c.ttl⟩) :: c.cache }

/-! ## Calls -/

inductive Phase
  | reading
  | checking (entry : CacheEntry)
  | asking
  | storing (endpoint : String)
  | returned (result : Except String String)

structure Call where
  target : Target
  phase : Phase

/-- What the environment chooses for an action: the time, and what the NRF answers to a `GET` of a
path at that time. -/
structure Turn where
  now : ℤ
  nrf : String → Except String Reply

/-- The answer that the call gets, or would get, if it asks. -/
def Turn.answer (i : Turn) (target : Target) : Except String Reply := i.nrf target.path

def discover (d : Decoders) (target : Target) (i : Turn) (c : NRFDiscoveryCache) :
    Phase → NRFDiscoveryCache × Phase
  | .reading =>
    match c.cache.lookup target.key with
    | none => (c, .asking)
    | some entry => (c, .checking entry)
  | .checking entry =>
    match entry.get i.now true with
    | some endpoint => (c, .returned (.ok endpoint))
    | none => (c, .asking)
  | .asking =>
    match target.endpoint d (i.answer target) with
    | .error err => (c, .returned (.error err))
    | .ok endpoint => (c, .storing endpoint)
  | .storing endpoint => (c.set target.key endpoint i.now, .returned (.ok endpoint))
  | .returned result => (c, .returned result)

def Call.next (d : Decoders) (i : Turn) (c : NRFDiscoveryCache) (t : Call) :
    NRFDiscoveryCache × Call :=
  ((discover d t.target i c t.phase).1, ⟨t.target, (discover d t.target i c t.phase).2⟩)

def newCall (target : Target) : Call := ⟨target, .reading⟩

/-! ## What an action can do -/

theorem get_stale (entry : CacheEntry) (now : ℤ) : entry.get now true = some entry.data := by
  unfold CacheEntry.get
  simp

inductive Moves (d : Decoders) (target : Target) (i : Turn) (c : NRFDiscoveryCache) :
    Phase → NRFDiscoveryCache → Phase → Prop
  | misses (hentry : c.cache.lookup target.key = none) : Moves d target i c .reading c .asking
  | finds {entry : CacheEntry} (hentry : c.cache.lookup target.key = some entry) :
      Moves d target i c .reading c (.checking entry)
  | hits (entry : CacheEntry) :
      Moves d target i c (.checking entry) c (.returned (.ok entry.data))
  | fails {err : String} (hanswer : target.endpoint d (i.answer target) = .error err) :
      Moves d target i c .asking c (.returned (.error err))
  | receives {endpoint : String} (hanswer : target.endpoint d (i.answer target) = .ok endpoint) :
      Moves d target i c .asking c (.storing endpoint)
  | stores (endpoint : String) :
      Moves d target i c (.storing endpoint) (c.set target.key endpoint i.now)
        (.returned (.ok endpoint))
  | rests (result : Except String String) :
      Moves d target i c (.returned result) c (.returned result)

theorem discover_moves (d : Decoders) (target : Target) (i : Turn) (c : NRFDiscoveryCache)
    (p : Phase) :
    Moves d target i c p (discover d target i c p).1 (discover d target i c p).2 := by
  cases p with
  | reading =>
    dsimp only [discover]
    split
    · next hentry => exact .misses hentry
    · next entry hentry => exact .finds hentry
  | checking entry =>
    dsimp only [discover]
    rw [get_stale]
    exact .hits entry
  | asking =>
    dsimp only [discover]
    split
    · next err hanswer => exact .fails hanswer
    · next endpoint hanswer => exact .receives hanswer
  | storing endpoint => exact .stores endpoint
  | returned result => exact .rests result

theorem key_inj {target target' : Target} (h : target.key = target'.key) : target = target' := by
  have hlist := congrArg String.toList h
  cases target <;> cases target' <;> simp [Target.key] at hlist
  · exact congrArg Target.udm (String.toList_inj.mp hlist)
  · exact congrArg Target.amf (String.toList_inj.mp hlist)

/-! ## Runs -/

abbrev Step : Type := StepOf NRFDiscoveryCache Call Turn

def Answers (d : Decoders) (r : Step) (n : ℕ) (target : Target) (endpoint : String) : Prop :=
  ∃ i, actor r = some (n, i, ⟨target, .asking⟩) ∧
    target.endpoint d (i.answer target) = .ok endpoint

def Stores (r : Step) (n : ℕ) (target : Target) (endpoint : String) (time : ℤ) : Prop :=
  ∃ i, actor r = some (n, i, ⟨target, .storing endpoint⟩) ∧ i.now = time

/-- Call number `n` has obtained the endpoint from the NRF, and stored it at `time`. -/
structure Obtained (d : Decoders) (h : List Step) (n : ℕ) (target : Target) (endpoint : String)
    (time : ℤ) : Prop where
  answered : ∃ r ∈ h, Answers d r n target endpoint
  stored : ∃ r ∈ h, Stores r n target endpoint time

/-- What is asked of a call that returns an endpoint in the step `r`. If the NRF can be asked, the
endpoint was obtained at most `ttl` ago, or by the call itself. -/
structure Honours (d : Decoders) (ttl : ℤ) (h : List Step) (r : Step) (n : ℕ) (i : Turn) (t : Call)
    (endpoint : String) : Prop where
  recent : t.target.Asked d (i.answer t.target) →
    ∃ m time, Obtained d (h ++ [r]) m t.target endpoint time ∧ (i.now - time ≤ ttl ∨ m = n)
  expired : ∀ entry, t.phase = .checking entry → entry.expiresAt ≤ i.now →
    ¬ t.target.Asked d (i.answer t.target)

def HonoursTTL (d : Decoders) (ttl : ℤ) (h : List Step) (r : Step) : Prop :=
  ∀ n i t endpoint, actor r = some (n, i, t) → (∀ result, t.phase ≠ .returned result) →
    (Call.next d i r.pre.shared t).2.phase = .returned (.ok endpoint) →
    Honours d ttl h r n i t endpoint

/-- In this step a call has found an entry that has expired, and the NRF can be asked. -/
def FindsExpired (d : Decoders) (r : Step) : Prop :=
  ∃ n i target entry, actor r = some (n, i, ⟨target, .checking entry⟩) ∧
    entry.expiresAt ≤ i.now ∧ target.Asked d (i.answer target)

/-! ## Where the entries come from -/

/-- The entry was stored with what the NRF has answered, for the time of `ttl`. -/
def Backed (d : Decoders) (ttl : ℤ) (h : List Step) (target : Target) (entry : CacheEntry) : Prop :=
  ∃ m time, Obtained d h m target entry.data time ∧ entry.expiresAt = time + ttl

def CacheBacked (d : Decoders) (ttl : ℤ) (h : List Step) (c : NRFDiscoveryCache) : Prop :=
  c.ttl = ttl ∧ ∀ target entry, c.cache.lookup target.key = some entry → Backed d ttl h target entry

def CallBacked (d : Decoders) (ttl : ℤ) (h : List Step) (n : ℕ) (t : Call) : Prop :=
  match t.phase with
  | .checking entry => Backed d ttl h t.target entry
  | .storing endpoint => ∃ r ∈ h, Answers d r n t.target endpoint
  | _ => True

section Steps

variable {d : Decoders} {ttl : ℤ} {h : List Step} {r : Step} {n : ℕ} {i : Turn} {target : Target}
  {t : Call} {p : Phase} {c : NRFDiscoveryCache} {entry : CacheEntry}

theorem Obtained.concat {endpoint : String} {time : ℤ} (ho : Obtained d h n target endpoint time) :
    Obtained d (h ++ [r]) n target endpoint time :=
  ⟨exists_mem_concat ho.answered, exists_mem_concat ho.stored⟩

theorem Backed.concat (hb : Backed d ttl h target entry) :
    Backed d ttl (h ++ [r]) target entry := by
  obtain ⟨m, time, ho, hexpires⟩ := hb
  exact ⟨m, time, ho.concat, hexpires⟩

theorem CacheBacked.concat (hc : CacheBacked d ttl h c) : CacheBacked d ttl (h ++ [r]) c :=
  ⟨hc.1, fun target entry hentry => (hc.2 target entry hentry).concat⟩

theorem CallBacked.concat (ht : CallBacked d ttl h n t) : CallBacked d ttl (h ++ [r]) n t := by
  obtain ⟨target, p⟩ := t
  cases p with
  | checking entry => exact Backed.concat ht
  | storing endpoint => exact exists_mem_concat ht
  | _ => trivial

theorem obtained_of_stores {endpoint : String}
    (hr : actor r = some (n, i, ⟨target, .storing endpoint⟩))
    (ht : CallBacked d ttl h n ⟨target, .storing endpoint⟩) :
    Obtained d (h ++ [r]) n target endpoint i.now :=
  ⟨exists_mem_concat ht, r, List.mem_append_right _ (List.mem_singleton_self r), i, hr, rfl⟩

theorem backed_next (hr : actor r = some (n, i, t)) (hc : CacheBacked d ttl h c)
    (ht : CallBacked d ttl h n t) :
    CacheBacked d ttl (h ++ [r]) (t.next d i c).1 ∧
      CallBacked d ttl (h ++ [r]) n (t.next d i c).2 := by
  obtain ⟨target, p⟩ := t
  have hmoves := discover_moves d target i c p
  unfold Call.next
  dsimp only
  generalize (discover d target i c p).1 = c' at hmoves ⊢
  generalize (discover d target i c p).2 = p' at hmoves ⊢
  cases hmoves with
  | misses hentry => exact ⟨hc.concat, trivial⟩
  | finds hentry => exact ⟨hc.concat, (hc.2 target _ hentry).concat⟩
  | hits entry => exact ⟨hc.concat, trivial⟩
  | fails hanswer => exact ⟨hc.concat, trivial⟩
  | receives hanswer =>
    exact ⟨hc.concat, r, List.mem_append_right _ (List.mem_singleton_self r), i, hr, hanswer⟩
  | stores endpoint =>
    refine ⟨⟨hc.1, fun target' entry hentry => ?_⟩, trivial⟩
    unfold NRFDiscoveryCache.set at hentry
    rw [List.lookup_cons] at hentry
    by_cases hkey : target'.key = target.key
    · obtain rfl := key_inj hkey
      rw [beq_self_eq_true] at hentry
      cases hentry
      exact ⟨n, i.now, obtained_of_stores hr ht, by rw [hc.1]⟩
    · have hne : (target'.key == target.key) = false := by simpa using hkey
      rw [hne] at hentry
      exact (hc.2 target' entry hentry).concat
  | rests result => exact ⟨hc.concat, trivial⟩

theorem phase_of_returned (hactive : ∀ result, t.phase ≠ .returned result) {endpoint : String}
    (hreturned : (t.next d i c).2.phase = .returned (.ok endpoint)) :
    (∃ entry, t.phase = .checking entry ∧ entry.data = endpoint) ∨ t.phase = .storing endpoint := by
  obtain ⟨target, p⟩ := t
  have hmoves := discover_moves d target i c p
  rw [show (discover d target i c p).2 = .returned (.ok endpoint) from hreturned] at hmoves
  generalize (discover d target i c p).1 = c' at hmoves
  cases hmoves with
  | hits entry => exact Or.inl ⟨entry, rfl, rfl⟩
  | stores => exact Or.inr rfl
  | rests => exact absurd rfl (hactive _)

theorem Backed.recent (hb : Backed d ttl h target entry) {now : ℤ} (hnow : now < entry.expiresAt) :
    ∃ m time, Obtained d h m target entry.data time ∧ now - time ≤ ttl := by
  obtain ⟨m, time, ho, hexpires⟩ := hb
  exact ⟨m, time, ho, by omega⟩

theorem honoursTTL_iff (hcalls : ∀ n i t, actor r = some (n, i, t) → CallBacked d ttl h n t) :
    HonoursTTL d ttl h r ↔ ¬ FindsExpired d r := by
  constructor
  · rintro hhonours ⟨n, i, target, entry, hr, hexpired, hasked⟩
    have hreturned : (Call.next d i r.pre.shared ⟨target, .checking entry⟩).2.phase =
        .returned (.ok entry.data) := by
      simp only [Call.next, discover, get_stale]
    exact (hhonours n i _ entry.data hr (by simp) hreturned).expired entry rfl hexpired hasked
  · intro hfinds n i t endpoint hr hactive hreturned
    obtain ⟨target, p⟩ := t
    have hknown := hcalls n i _ hr
    rcases phase_of_returned hactive hreturned with ⟨entry, rfl, rfl⟩ | rfl
    · have hfresh : entry.expiresAt ≤ i.now → ¬ target.Asked d (i.answer target) :=
        fun hexpired hasked => hfinds ⟨n, i, target, entry, hr, hexpired, hasked⟩
      refine ⟨fun hasked => ?_, fun entry' hentry' => ?_⟩
      · have hnow : i.now < entry.expiresAt := Int.not_le.mp fun hexpired => hfresh hexpired hasked
        obtain ⟨m, time, ho, hage⟩ := Backed.recent hknown hnow
        exact ⟨m, time, ho.concat, Or.inl hage⟩
      · cases hentry'
        exact hfresh
    · exact ⟨fun _ => ⟨n, i.now, obtained_of_stores hr hknown, Or.inr rfl⟩, by simp⟩

end Steps

/-! ## Every run -/

/-- The calls that are started have done nothing yet. -/
def StartsNew (r : Step) : Prop := ∀ t, r.input = .start t → ∃ target, t = newCall target

theorem known_step {d : Decoders} {ttl : ℤ} {h : List Step} {s : System NRFDiscoveryCache Call}
    {e : Event Call Turn} (hs : Known (CacheBacked d ttl) (CallBacked d ttl) h s)
    (he : StartsNew (record (step (Call.next d)) s e)) :
    Known (CacheBacked d ttl) (CallBacked d ttl) (h ++ [record (step (Call.next d)) s e])
      (step (Call.next d) s e).2 := by
  refine hs.step (fun _ _ => CacheBacked.concat) (fun _ _ _ => CallBacked.concat) ?_ ?_
  · intro t hstart h n
    obtain ⟨target, rfl⟩ := he t hstart
    trivial
  · intro n i t hr ht
    exact backed_next hr hs.shared ht

/-- In every run of calls for UDMs and AMFs, every step honours the `ttl` if and only if it does not
find an entry that has expired while the NRF can be asked. -/
theorem discovery_honours_ttl_iff (d : Decoders) (cacheTTL : ℤ) (es : List (Event Target Turn)) :
    Along (step (Call.next d)) ⟨newDiscoveryCache cacheTTL, []⟩
      (fun h r => HonoursTTL d (newDiscoveryCache cacheTTL).ttl h r ↔ ¬ FindsExpired d r)
      (es.map (mapStart newCall)) := by
  refine along_of_inv (C := fun _ r => StartsNew r)
    (J := Known (CacheBacked d (newDiscoveryCache cacheTTL).ttl)
      (CallBacked d (newDiscoveryCache cacheTTL).ttl))
    (fun h s e hs he => known_step hs he) ?_ ?_ ?_
  · intro h s e hs _
    exact honoursTTL_iff fun n i t hr => hs.thread n t (actor_record_iff.mp hr).2
  · exact ⟨⟨rfl, by simp [newDiscoveryCache]⟩, by simp⟩
  · intro es₁ e es₂ hsplit t hstart
    have hmem : Event.start t ∈ es.map (mapStart newCall) := by
      rw [hsplit, ← show e = .start t from hstart]
      exact List.mem_append_right _ (List.mem_cons_self ..)
    exact exists_of_start_mem_map hmem (fun _ => rfl) fun _ _ => rfl

/-! ## A UDM that moves -/

namespace Moved

def document (address : String) : String :=
  "\x7b\"nfInstances\":[\x7b\"nfServices\":\x7b\"nudm-uem\":\x7b\"ipEndPoints\":" ++
    "[\x7b\"ipv4Address\":\"" ++ address ++ "\",\"port\":8080\x7d]\x7d\x7d\x7d]\x7d"

/-- The address in a body, which must be the document of one of two addresses. -/
def read (body : String) : Except String String :=
  match ["10.0.0.1", "10.0.0.2"].find? fun address => document address = body with
  | some address => .ok address
  | none => .error "unexpected end of JSON input"

def decoders : Decoders where
  discovery body := do return [⟨[("nudm-uem", [⟨← read body, 8080⟩])]⟩]
  -- The documents have no member `nfInstanceId`.
  amf body := do
    let _ ← read body
    return ""

/-- The UDM moves at time 100. -/
def nrf (now : ℤ) (_path : String) : Except String Reply :=
  .ok ⟨200, document (if now < 100 then "10.0.0.1" else "10.0.0.2")⟩

def acts (n : ℕ) (now : ℤ) : Event Target Turn := .run n ⟨now, nrf now⟩

/-- Until the second call compares the clock with the entry. -/
def before : List (Event Target Turn) :=
  [.start (.udm "00101"), acts 0 1, acts 0 2, acts 0 3, .start (.udm "00101"), acts 1 600000000000]

def run : List (Event Target Turn) := before ++ [acts 1 600000000000]

end Moved

open Moved

/-- Ten minutes after the first call, the second one gets the old endpoint. The NRF would have given
it the new one. -/
theorem expired_endpoint_returned :
    ((final (step (Call.next decoders)) ⟨newDiscoveryCache 0, []⟩
      (run.map (mapStart newCall))).threads[1]?.map Call.phase =
        some (.returned (.ok "http://10.0.0.1:8080"))) ∧
    (Target.udm "00101").endpoint decoders (nrf 600000000000 (Target.udm "00101").path) =
      .ok "http://10.0.0.2:8080" ∧
    ¬ Along (step (Call.next decoders)) ⟨newDiscoveryCache 0, []⟩
      (HonoursTTL decoders (newDiscoveryCache 0).ttl) (run.map (mapStart newCall)) := by
  refine ⟨rfl, rfl, fun hhonours => ?_⟩
  have hlast := hhonours (before.map (mapStart newCall)) (mapStart newCall (acts 1 600000000000))
    [] rfl
  have h := hlast 1 ⟨600000000000, nrf 600000000000⟩
    ⟨.udm "00101", .checking ⟨"http://10.0.0.1:8080", 300000000003⟩⟩ "http://10.0.0.1:8080" rfl
    (by simp) rfl
  exact h.expired _ rfl (by decide) ⟨_, rfl⟩

end NssAAF.Nrf.Discovery
