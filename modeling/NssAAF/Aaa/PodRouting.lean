import NssAAF.Aaa.PodRegistry
import NssAAF.Aaa.ServerInitiated
import NssAAF.Lib.History

/-!
# The pod that a server-initiated message is sent to

`getBizPodURL`, `selectTargetBizURL` and the loop of `forwardToBiz` in
`internal/aaa/gateway/gateway.go`, with the pods they send to. The pod is looked up under the
identifier in the correlation entry of the session, which `ForwardEAP` sets to the name of the host
it runs on.

`sent_home_iff` says when the message reaches the Biz pod that the session was forwarded for.
-/

namespace NssAAF.Aaa

open NssAAF.Biz Transducer

/-! ## The target of a try -/

/-- The URL of a pod, which is empty if the pod is not registered. `getFault` is the failure of
Redis. -/
def PodRegistry.getBizPodURL (reg : PodRegistry) (getFault : Option String) (podID : String) :
    Except String String :=
  if podID = "" then .ok ""
  else
    match getFault with
    | some err => .error err
    | none =>
      match reg.pods.lookup podID with
      | none => .ok ""
      | some (.error err) => .error err
      | some (.ok entry) => .ok entry.url

/-- What a try of `forwardToBiz` meets: the pods in Redis and its failures, the clock, and what
becomes of a request to a URL. -/
structure Try where
  registry : PodRegistry
  getFault : Option String
  scanFault : Option String
  now : UnixTime
  nanos : ℕ
  post : String → Attempt

namespace Try

variable (t : Try)

/-- The pod of the entry, if it is registered. -/
def directURL (podID : String) : Option String :=
  if podID = "" then none
  else
    match t.registry.getBizPodURL t.getFault podID with
    | .error _ => none
    | .ok url => if url = "" then none else some url

/-- The pod of the entry, any live pod, or else the URL of the configuration. -/
def selectTargetBizURL (bizServiceURL podID : String) : String :=
  match t.directURL podID with
  | some url => url
  | none =>
    match t.registry.pickRandomLiveBizURL t.now t.scanFault t.nanos with
    | .error _ => bizServiceURL
    | .ok url => if url = "" then bizServiceURL else url

def attempt (bizServiceURL podID : String) : Attempt :=
  t.post (t.selectTargetBizURL bizServiceURL podID)

/-- The pod is registered under its URL, and requests can be made to it. -/
structure Registered (podID url : String) : Prop where
  read : t.getFault = none
  entry : ∃ seen, t.registry.pods.lookup podID = some (.ok ⟨url, seen⟩)
  nonempty : url ≠ ""
  valid : t.post url ≠ .noTarget

variable {t}

theorem Registered.selectTargetBizURL {podID url : String} (h : t.Registered podID url)
    (hid : podID ≠ "") (bizServiceURL : String) :
    t.selectTargetBizURL bizServiceURL podID = url := by
  obtain ⟨seen, hentry⟩ := h.entry
  have hdirect : t.directURL podID = some url := by
    unfold directURL PodRegistry.getBizPodURL
    simp only [if_neg hid, h.read, hentry, if_neg h.nonempty]
  unfold Try.selectTargetBizURL
  rw [hdirect]

end Try

/-! ## The requests of a message -/

/-- The URLs that the loop sends requests to, by the tries that are left and the number of the next
one. -/
def postedTo (tries : ℕ → Try) (bizServiceURL podID : String) : ℕ → ℕ → List String
  | 0, _ => []
  | left + 1, attempt =>
    let url := (tries attempt).selectTargetBizURL bizServiceURL podID
    match (tries attempt).post url with
    | .noTarget => postedTo tries bizServiceURL podID left (attempt + 1)
    | .connectionError => url :: postedTo tries bizServiceURL podID left (attempt + 1)
    | .otherError | .reached _ => [url]

def targets (now : ℤ) (sessionID : String) (store : CorrStore) (bizServiceURL : String)
    (tries : ℕ → Try) : List String :=
  match getSessionCorr now sessionID store with
  | none => []
  | some entry => postedTo tries bizServiceURL entry.podID serverInitMaxRetries 0

theorem postedTo_eq {tries : ℕ → Try} {bizServiceURL podID url : String}
    (htarget : ∀ n, (tries n).selectTargetBizURL bizServiceURL podID = url)
    (hvalid : ∀ n, (tries n).post url ≠ .noTarget) {left : ℕ} (hleft : left ≠ 0) (attempt : ℕ) :
    postedTo tries bizServiceURL podID left attempt ≠ [] ∧
      ∀ u ∈ postedTo tries bizServiceURL podID left attempt, u = url := by
  induction left generalizing attempt with
  | zero => exact absurd rfl hleft
  | succ left ih =>
    unfold postedTo
    simp only [htarget]
    cases hpost : (tries attempt).post url with
    | noTarget => exact absurd hpost (hvalid attempt)
    | connectionError =>
      refine ⟨List.cons_ne_nil _ _, fun u hu => ?_⟩
      rcases List.mem_cons.mp hu with rfl | hu
      · rfl
      · cases left with
        | zero => cases hu
        | succ left => exact (ih (Nat.succ_ne_zero _) (attempt + 1)).2 u hu
    | otherError => exact ⟨List.cons_ne_nil _ _, fun u hu => List.mem_singleton.mp hu⟩
    | reached pod => exact ⟨List.cons_ne_nil _ _, fun u hu => List.mem_singleton.mp hu⟩

/-! ## The entry of a session -/

section Entries

variable (d : Deployment) (sessionID : String)

/-- A round in which the session is noted. -/
def Notes (r : Round) : Prop := r.corrFault = none ∧ (d.request r).sessionID = sessionID

instance (r : Round) : Decidable (Notes d sessionID r) :=
  inferInstanceAs (Decidable (_ ∧ _))

def lastNoted (rounds : List Round) : Option Round :=
  History.latest (fun r => if Notes d sessionID r then some r else none) rounds

def corrEntry (r : Round) : SessionCorrEntry :=
  ⟨(d.request r).authCtxID, (d.request r).gpsi, d.hostname, (d.request r).sst, (d.request r).sd,
    r.redisNow / Eap.second⟩

variable {d sessionID}

theorem step_of_notes {store : CorrStore} {r : Round} (h : Notes d sessionID r) :
    (d.step store r).2 (sessionCorrKey sessionID) =
      some (corrEntry d r, Lease.lastMillis r.redisNow defaultPayloadTTL) := by
  obtain ⟨hfault, rfl⟩ := h
  unfold Deployment.step
  rw [hfault]
  exact if_pos rfl

theorem step_of_not_notes {store : CorrStore} {r : Round} (h : ¬ Notes d sessionID r) :
    (d.step store r).2 (sessionCorrKey sessionID) = store (sessionCorrKey sessionID) := by
  unfold Deployment.step
  cases hfault : r.corrFault with
  | some err => rfl
  | none => exact if_neg fun hkey => h ⟨hfault, (sessionCorrKey_inj hkey).symm⟩

theorem final_eq_of_lastNoted {store : CorrStore} {rounds : List Round} {r : Round}
    (h : lastNoted d sessionID rounds = some r) :
    final d.step store rounds (sessionCorrKey sessionID) =
      some (corrEntry d r, Lease.lastMillis r.redisNow defaultPayloadTTL) := by
  induction rounds using List.reverseRecOn with
  | nil => cases h
  | append_singleton rounds r' ih =>
    unfold lastNoted at h ih
    rw [History.latest_concat] at h
    rw [final_append]
    by_cases hr : Notes d sessionID r'
    · rw [if_pos hr] at h
      cases h
      exact step_of_notes hr
    · rw [if_neg hr] at h
      exact (step_of_not_notes hr).trans (ih h)

theorem getSessionCorr_final (store : CorrStore) {rounds : List Round} {r : Round} (now : ℤ)
    (h : lastNoted d sessionID rounds = some r) :
    getSessionCorr now sessionID (final d.step store rounds) =
      if Lease.millis now ≤ Lease.lastMillis r.redisNow defaultPayloadTTL then
        some (corrEntry d r)
      else none := by
  unfold getSessionCorr
  rw [final_eq_of_lastNoted h]

end Entries

/-- The entry of the session names the pod, and as long as the pod is registered, a message of the
session is sent to it and to no other. -/
structure SentHome (podID : String) (now : ℤ) (sessionID : String) (store : CorrStore) : Prop where
  identifies : ∃ entry, getSessionCorr now sessionID store = some entry ∧ entry.podID = podID
  routed : ∀ bizServiceURL tries url, (∀ n, (tries n : Try).Registered podID url) →
    targets now sessionID store bizServiceURL tries ≠ [] ∧
      ∀ u ∈ targets now sessionID store bizServiceURL tries, u = url

namespace Sample

theorem namedIDs_nodup : ["", "biz-1"].Nodup := by simp

/-- A pod without an identifier beside another one. -/
def unnamed : Try where
  registry := ⟨[("", .ok ⟨"http://:8080", 990⟩), ("biz-1", .ok ⟨"http://biz-1:8080", 990⟩)],
    namedIDs_nodup⟩
  getFault := none
  scanFault := none
  now := time
  nanos := 1
  post := fun _ => .otherError

end Sample

theorem not_routed_of_empty {now : ℤ} {sessionID : String} {store : CorrStore} :
    ¬ SentHome "" now sessionID store := by
  intro h
  obtain ⟨entry, hentry, hid⟩ := h.identifies
  have hreg : Sample.unnamed.Registered "" "http://:8080" :=
    ⟨rfl, ⟨990, rfl⟩, by decide, by simp [Sample.unnamed]⟩
  have hall := (h.routed "" (fun _ => Sample.unnamed) "http://:8080" fun _ => hreg).2
  unfold targets at hall
  rw [hentry] at hall
  dsimp only at hall
  rw [hid] at hall
  exact absurd (hall "http://biz-1:8080" (by decide +kernel)) (by decide)

/-- **The pod of a session.** A message of a session that was forwarded through the gateway for the
Biz pod `podID` is sent to this pod just if the gateway runs on a host of that name, and at most ten
minutes after the session was last noted, both in the milliseconds of Redis. -/
theorem sent_home_iff (d : Deployment) (store : CorrStore) (rounds : List Round)
    (sessionID : String) (r : Round) (h : lastNoted d sessionID rounds = some r) (podID : String)
    (now : ℤ) :
    SentHome podID now sessionID (final d.step store rounds) ↔
      d.hostname = podID ∧ podID ≠ "" ∧
        Lease.millis now ≤ Lease.lastMillis r.redisNow defaultPayloadTTL := by
  have hcorr := getSessionCorr_final store now h
  constructor
  · intro hhome
    have hid : podID ≠ "" := by
      rintro rfl
      exact not_routed_of_empty hhome
    obtain ⟨entry, hentry, hpod⟩ := hhome.identifies
    rw [hcorr] at hentry
    split_ifs at hentry with hlive
    cases hentry
    exact ⟨hpod, hid, hlive⟩
  · rintro ⟨hpod, hid, hlive⟩
    rw [if_pos hlive] at hcorr
    refine ⟨⟨corrEntry d r, hcorr, hpod⟩, fun bizServiceURL tries url hreg => ?_⟩
    unfold targets
    rw [hcorr]
    have htarget : ∀ n, (tries n).selectTargetBizURL bizServiceURL d.hostname = url := by
      intro n
      rw [hpod]
      exact (hreg n).selectTargetBizURL hid bizServiceURL
    exact postedTo_eq htarget (fun n => (hreg n).valid) (Nat.succ_ne_zero 2) 0

namespace Sample

/-- Two live pods, of which the clock picks the first. -/
def twoPods : Try where
  registry := ⟨[("biz-1", .ok ⟨"http://biz-1:8080", 990⟩),
    ("biz-2", .ok ⟨"http://biz-2:8080", 990⟩)],
    podIDs_nodup⟩
  getFault := none
  scanFault := none
  now := time
  nanos := 0
  post := fun _ => .connectionError

/-- A gateway on a host with the name of a pod. -/
def homeGateway : Deployment := { Biz.Sample.deployment with hostname := "biz-2" }

end Sample

open Biz.Sample in
theorem sample_sent_home :
    SentHome "biz-2" 5 "nssAAF;1;ctx"
      (final Sample.homeGateway.step (fun _ => none) [round 2 1]) :=
  (sent_home_iff Sample.homeGateway (fun _ => none) [round 2 1] "nssAAF;1;ctx"
    (round 2 1) rfl "biz-2" 5).mpr ⟨rfl, by decide, by decide +kernel⟩

open Biz.Sample in
/-- The session was forwarded for the pod biz-2, which is registered. The entry names the host of
the gateway, and a message of the session goes to the other pod. -/
theorem sent_to_another_pod :
    let store := final deployment.step (fun _ => none) [round 2 1]
    (getSessionCorr 5 "nssAAF;1;ctx" store).map SessionCorrEntry.podID = some "aaa-gw-1" ∧
      Sample.twoPods.Registered "biz-2" "http://biz-2:8080" ∧
      targets 5 "nssAAF;1;ctx" store "http://biz:8080" (fun _ => Sample.twoPods) =
        ["http://biz-1:8080", "http://biz-1:8080", "http://biz-1:8080"] ∧
      ¬ SentHome "biz-2" 5 "nssAAF;1;ctx" store := by
  have hentry : (getSessionCorr 5 "nssAAF;1;ctx" (final deployment.step (fun _ => none)
      [round 2 1])).map SessionCorrEntry.podID = some "aaa-gw-1" := by
    decide +kernel
  refine ⟨hentry, ⟨rfl, ⟨990, rfl⟩, by decide, by simp [Sample.twoPods]⟩, by decide +kernel, ?_⟩
  intro h
  obtain ⟨entry, hcorr, hpod⟩ := h.identifies
  rw [hcorr, Option.map_some, hpod] at hentry
  exact absurd hentry (by decide)

end NssAAF.Aaa
