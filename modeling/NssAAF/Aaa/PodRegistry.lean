import NssAAF.Lib.Results
import Mathlib.Data.List.GetD
import Mathlib.Data.Set.Basic

/-!
# The pods of Biz

A Biz pod keeps an entry with its URL and the time of its last heartbeat in Redis. Both gateways
scan these entries for a pod to send to: the AAA gateway in `pickRandomLiveBizURL`
(`internal/aaa/gateway/gateway.go`), the HTTP gateway in `selectRandomLivePod`
(`internal/httpclient/biz_registry.go`).

They compare the age of an entry differently. `gateways_agree_iff` says when they can choose from
the same URLs, and never an empty one.
-/

namespace NssAAF.Aaa

structure BizPodEntry where
  url : String
  lastSeen : Int64
  deriving DecidableEq

/-- The entries of Redis by the identifiers of the pods, in the order of a scan. A value may not be
an entry. -/
structure PodRegistry where
  pods : List (String × Except String BizPodEntry)
  nodup : (pods.map Prod.fst).Nodup

abbrev UnixTime : Type := {t : Int64 // 0 ≤ t}

def bizPodEntryTTL : Int64 := 60

namespace PodRegistry

variable (reg : PodRegistry) (now : UnixTime)

/-- The URLs that the scan of the AAA gateway collects. -/
def livePods : List String :=
  let cutoff := now.1 - bizPodEntryTTL
  reg.pods.filterMap fun pod =>
    match pod.2 with
    | .error _ => none
    | .ok entry => if cutoff ≤ entry.lastSeen ∧ entry.url ≠ "" then some entry.url else none

/-- The choice of the AAA gateway, by a second reading of the clock. -/
def pickRandomLiveBizURL (scanFault : Option String) (nanos : ℕ) : Except String String :=
  match scanFault with
  | some err => .error err
  | none =>
    let livePods := reg.livePods now
    if livePods = [] then .ok "" else .ok (livePods.getD (nanos % livePods.length) "")

structure LivePod where
  podID : String
  url : String
  deriving DecidableEq

def getLivePods (scanFault : Option String) : Except String (List LivePod) :=
  match scanFault with
  | some err => .error err
  | none =>
    .ok (reg.pods.filterMap fun pod =>
      match pod.2 with
      | .error _ => none
      | .ok entry => if now.1 - entry.lastSeen < 60 then some ⟨pod.1, entry.url⟩ else none)

/-- The choice of the HTTP gateway, by a random number. -/
def selectRandomLivePod (scanFault : Option String) (rand : ℕ) : Except String String :=
  match reg.getLivePods now scanFault with
  | .error err => .error err
  | .ok pods =>
    if pods = [] then .error "no live pods"
    else .ok ((pods.map LivePod.url).getD (rand % pods.length) "")

/-! ## What can be chosen -/

def aaaChoices : Set String :=
  {url | reg.livePods now ≠ [] ∧ ∃ nanos, reg.pickRandomLiveBizURL now none nanos = .ok url}

def httpChoices : Set String :=
  {url | ∃ rand, reg.selectRandomLivePod now none rand = .ok url}

def entries : List BizPodEntry := reg.pods.filterMap fun pod => pod.2.toOption

def age (entry : BizPodEntry) : ℤ := now.1.toInt - entry.lastSeen.toInt

/-- An age for which the difference of the times is taken for a small one: it is less than a minute,
or it does not fit. -/
def TakenByHttp (entry : BizPodEntry) : Prop :=
  age now entry < 60 ∨ 9223372036854775808 ≤ age now entry

variable {reg now}

theorem exists_getD_mod_iff {urls : List String} (h : urls ≠ []) {url : String} :
    (∃ n : ℕ, urls.getD (n % urls.length) "" = url) ↔ url ∈ urls := by
  constructor
  · rintro ⟨n, rfl⟩
    have hlt : n % urls.length < urls.length := Nat.mod_lt _ (List.length_pos_iff.mpr h)
    rw [List.getD_eq_getElem _ _ hlt]
    exact List.getElem_mem hlt
  · intro hmem
    obtain ⟨n, hn, rfl⟩ := List.getElem_of_mem hmem
    exact ⟨n, by rw [Nat.mod_eq_of_lt hn, List.getD_eq_getElem _ _ hn]⟩

theorem mem_entries {entry : BizPodEntry} :
    entry ∈ reg.entries ↔ ∃ pod ∈ reg.pods, pod.2 = .ok entry := by
  unfold entries
  rw [List.mem_filterMap]
  refine exists_congr fun pod => and_congr_right fun _ => ?_
  cases pod.2 with
  | error err => simp [Except.toOption]
  | ok entry => simp [Except.toOption]

theorem cutoff_toInt : (now.1 - bizPodEntryTTL).toInt = now.1.toInt - 60 := by
  have hnow : (0 : ℤ) ≤ now.1.toInt := Int64.le_iff_toInt_le.mp now.2
  have hlt := Int64.toInt_lt now.1
  rw [Int64.toInt_sub]
  show (now.1.toInt - 60).bmod _ = _
  apply Int.bmod_eq_of_le
  · omega
  · omega

theorem cutoff_le_iff {entry : BizPodEntry} :
    now.1 - bizPodEntryTTL ≤ entry.lastSeen ↔ age now entry ≤ 60 := by
  rw [Int64.le_iff_toInt_le, cutoff_toInt]
  unfold age
  omega

/-- The HTTP gateway takes an entry for less than a minute, and again when the difference of the
times wraps around. -/
theorem sub_lt_iff {entry : BizPodEntry} :
    now.1 - entry.lastSeen < 60 ↔ TakenByHttp now entry := by
  have hnow : (0 : ℤ) ≤ now.1.toInt := Int64.le_iff_toInt_le.mp now.2
  have hnow' := Int64.toInt_lt now.1
  have hseen := Int64.le_toInt entry.lastSeen
  have hseen' := Int64.toInt_lt entry.lastSeen
  rw [Int64.lt_iff_toInt_lt, Int64.toInt_sub]
  show (now.1.toInt - entry.lastSeen.toInt).bmod _ < 60 ↔ _
  unfold TakenByHttp age
  by_cases h : now.1.toInt - entry.lastSeen.toInt < 9223372036854775808
  · rw [Int.bmod_eq_of_le (by omega) (by omega)]
    omega
  · rw [← Int.sub_bmod_right, Int.bmod_eq_of_le (by omega) (by omega)]
    omega

theorem mem_livePods {url : String} :
    url ∈ reg.livePods now ↔ ∃ entry ∈ reg.entries, age now entry ≤ 60 ∧ entry.url ≠ "" ∧
      entry.url = url := by
  unfold livePods
  rw [List.mem_filterMap]
  constructor
  · rintro ⟨pod, hpod, h⟩
    split at h
    · cases h
    · rename_i entry hentry
      split_ifs at h with hlive
      exact ⟨entry, mem_entries.mpr ⟨pod, hpod, hentry⟩, cutoff_le_iff.mp hlive.1, hlive.2,
        Option.some.inj h⟩
  · rintro ⟨entry, hmem, hage, hne, rfl⟩
    obtain ⟨pod, hpod, hentry⟩ := mem_entries.mp hmem
    refine ⟨pod, hpod, ?_⟩
    rw [hentry]
    exact if_pos ⟨cutoff_le_iff.mpr hage, hne⟩

theorem mem_getLivePods {pods : List LivePod} (h : reg.getLivePods now none = .ok pods)
    {url : String} :
    url ∈ pods.map LivePod.url ↔ ∃ entry ∈ reg.entries, TakenByHttp now entry ∧
      entry.url = url := by
  cases h
  rw [List.mem_map]
  constructor
  · rintro ⟨live, hlive, rfl⟩
    obtain ⟨pod, hpod, h⟩ := List.mem_filterMap.mp hlive
    split at h
    · cases h
    · rename_i entry hentry
      split_ifs at h with hage
      cases h
      exact ⟨entry, mem_entries.mpr ⟨pod, hpod, hentry⟩, sub_lt_iff.mp hage, rfl⟩
  · rintro ⟨entry, hmem, htaken, rfl⟩
    obtain ⟨pod, hpod, hentry⟩ := mem_entries.mp hmem
    refine ⟨⟨pod.1, entry.url⟩, List.mem_filterMap.mpr ⟨pod, hpod, ?_⟩, rfl⟩
    rw [hentry]
    exact if_pos (sub_lt_iff.mpr htaken)

theorem mem_aaaChoices {url : String} :
    url ∈ reg.aaaChoices now ↔ ∃ entry ∈ reg.entries, age now entry ≤ 60 ∧ entry.url ≠ "" ∧
      entry.url = url := by
  rw [← mem_livePods]
  unfold aaaChoices pickRandomLiveBizURL
  rw [Set.mem_ofPred_eq]
  by_cases hnil : reg.livePods now = []
  · simp [hnil]
  · simp only [if_neg hnil, Except.ok.injEq, exists_getD_mod_iff hnil]
    exact and_iff_right hnil

theorem mem_httpChoices {url : String} :
    url ∈ reg.httpChoices now ↔ ∃ entry ∈ reg.entries, TakenByHttp now entry ∧
      entry.url = url := by
  obtain ⟨pods, hpods⟩ : ∃ pods, reg.getLivePods now none = .ok pods := ⟨_, rfl⟩
  rw [← mem_getLivePods hpods]
  unfold httpChoices selectRandomLivePod
  rw [Set.mem_ofPred_eq, hpods]
  by_cases hnil : pods = []
  · simp [hnil]
  · have hne : pods.map LivePod.url ≠ [] := fun h => hnil (List.map_eq_nil_iff.mp h)
    simp only [if_neg hnil, Except.ok.injEq, ← exists_getD_mod_iff hne, List.length_map]

/-- Both gateways can choose the same URLs, and neither an empty one. -/
structure Agree (reg : PodRegistry) (now : UnixTime) : Prop where
  same : reg.aaaChoices now = reg.httpChoices now
  aaa_nonempty : "" ∉ reg.aaaChoices now
  http_nonempty : "" ∉ reg.httpChoices now

end PodRegistry

open PodRegistry in
/-- **The live pods.** The gateways agree exactly if no entry that the HTTP gateway takes has an
empty URL, the URL of an entry of just a minute is also that of one that the HTTP gateway takes, and
the URL of an entry whose age does not fit is also that of one that the AAA gateway takes. -/
theorem gateways_agree_iff (reg : PodRegistry) (now : UnixTime) :
    Agree reg now ↔
      (∀ entry ∈ reg.entries, TakenByHttp now entry → entry.url ≠ "") ∧
      (∀ entry ∈ reg.entries, age now entry = 60 → entry.url ≠ "" →
        ∃ other ∈ reg.entries, TakenByHttp now other ∧ other.url = entry.url) ∧
      (∀ entry ∈ reg.entries, 9223372036854775808 ≤ age now entry →
        ∃ other ∈ reg.entries, age now other ≤ 60 ∧ other.url = entry.url) := by
  constructor
  · rintro ⟨hsame, -, hhttp⟩
    refine ⟨fun entry hmem htaken hnil => ?_, fun entry hmem hage hne => ?_,
      fun entry hmem hage => ?_⟩
    · exact hhttp (mem_httpChoices.mpr ⟨entry, hmem, htaken, hnil⟩)
    · have hchoice := mem_aaaChoices.mpr ⟨entry, hmem, Int.le_of_eq hage, hne, rfl⟩
      rw [hsame] at hchoice
      exact mem_httpChoices.mp hchoice
    · have hchoice := mem_httpChoices.mpr ⟨entry, hmem, Or.inr hage, rfl⟩
      rw [← hsame] at hchoice
      obtain ⟨other, hother, hlive, -, hurl⟩ := mem_aaaChoices.mp hchoice
      exact ⟨other, hother, hlive, hurl⟩
  · rintro ⟨hne, hminute, hwrapped⟩
    refine ⟨Set.ext fun url => ?_, fun h => ?_, fun h => ?_⟩
    · rw [mem_aaaChoices, mem_httpChoices]
      constructor
      · rintro ⟨entry, hmem, hage, hnil, rfl⟩
        by_cases hlt : age now entry < 60
        · exact ⟨entry, hmem, Or.inl hlt, rfl⟩
        · exact hminute entry hmem (by omega) hnil
      · rintro ⟨entry, hmem, htaken, rfl⟩
        have hnil := hne entry hmem htaken
        rcases htaken with hage | hage
        · exact ⟨entry, hmem, by omega, hnil, rfl⟩
        · obtain ⟨other, hother, hlive, hurl⟩ := hwrapped entry hmem hage
          exact ⟨other, hother, hlive, hurl ▸ hnil, hurl⟩
    · obtain ⟨entry, -, -, hnil, hurl⟩ := mem_aaaChoices.mp h
      exact hnil hurl
    · obtain ⟨entry, hmem, htaken, hurl⟩ := mem_httpChoices.mp h
      exact hne entry hmem htaken hurl

namespace Sample

theorem podIDs_nodup : ["biz-1", "biz-2"].Nodup := by simp

theorem time_nonneg : (0 : Int64) ≤ 1000 := by decide

def time : UnixTime := ⟨1000, time_nonneg⟩

/-- Two pods, one with its last heartbeat a minute ago, and one without a URL. -/
def pods : PodRegistry :=
  ⟨[("biz-1", .ok ⟨"http://biz-1:8080", 940⟩), ("biz-2", .ok ⟨"", 990⟩)], podIDs_nodup⟩

end Sample

open Sample in
/-- The AAA gateway can only choose the first pod, and the HTTP gateway only the empty URL. -/
theorem gateways_disagree :
    (∀ nanos, pods.pickRandomLiveBizURL time none nanos = .ok "http://biz-1:8080") ∧
      (∀ rand, pods.selectRandomLivePod time none rand = .ok "") ∧
      ¬ PodRegistry.Agree pods time := by
  have haaa : ∀ nanos,
      pods.pickRandomLiveBizURL time none nanos = .ok "http://biz-1:8080" := by
    intro nanos
    have hlive : pods.livePods time = ["http://biz-1:8080"] := by decide +kernel
    unfold PodRegistry.pickRandomLiveBizURL
    simp [hlive, Nat.mod_one]
  have hhttp : ∀ rand, pods.selectRandomLivePod time none rand = .ok "" := by
    intro rand
    have hlive : pods.getLivePods time none = .ok [⟨"biz-2", ""⟩] := by
      decide +kernel
    unfold PodRegistry.selectRandomLivePod
    simp [hlive, Nat.mod_one]
  exact ⟨haaa, hhttp, fun h => h.http_nonempty ⟨0, hhttp 0⟩⟩

end NssAAF.Aaa
