import NssAAF.Lib.History
import Mathlib.Data.List.Perm.Subperm

/-!
# The rate limiter

`RateLimiter` of `internal/cache/redis/ratelimit.go`. A key of Redis holds a sorted set with one
member for each millisecond in which there was a call. A call drops the members that have left the
window, counts the rest, adds its own millisecond and sets the expiry of the key; the four commands
run as one. Times are in nanoseconds, scores in milliseconds.

Members are milliseconds, so calls within one millisecond are one member, and two calls less than
a window apart can be a whole window apart in milliseconds. `rate_limited` shows the limit for calls
to which neither happens.
-/

namespace NssAAF.Cache

open Transducer History

/-! ## Sorted sets -/

/-- A sorted set of Redis: members with their scores. The members are the decimal texts of integers
and are given as such. -/
abbrev ZSet : Type := List (ℤ × ℤ)

namespace ZSet

def remRangeByScore (lo hi : ℤ) (z : ZSet) : ZSet := z.filter fun e => ¬ (lo ≤ e.2 ∧ e.2 ≤ hi)

def card (z : ZSet) : ℕ := z.length

def add (score member : ℤ) (z : ZSet) : ZSet :=
  z.filter (fun e => e.1 ≠ member) ++ [(member, score)]

end ZSet

/-- A key with its expiry in milliseconds. -/
structure RateKey where
  zset : ZSet
  expireAt : Option ℤ
  deriving DecidableEq

/-- What a command finds at a key: nothing, once the key has expired. -/
def RateKey.live (k : RateKey) (nowMs : ℤ) : ZSet :=
  match k.expireAt with
  | none => k.zset
  | some t => if t < nowMs then [] else k.zset

/-! ## The limiter -/

def millisecond : ℤ := 1000000
def second : ℤ := 1000000000

structure RateLimiter where
  window : ℤ
  limit : ℤ
  deriving DecidableEq

def gpsiKey (gpsiHash : String) : String := "nssaa:ratelimit:gpsi:" ++ gpsiHash

def amfKey (amfID : String) : String := "nssaa:ratelimit:amf:" ++ amfID

structure RateCall where
  key : String
  now : ℤ
  deriving DecidableEq

def allowGPSI (gpsiHash : String) (now : ℤ) : RateCall := ⟨gpsiKey gpsiHash, now⟩

def allowAMF (amfID : String) (now : ℤ) : RateCall := ⟨amfKey amfID, now⟩

def RateCall.ms (call : RateCall) : ℤ := call.now / millisecond

abbrev RateStore : Type := String → RateKey

namespace RateLimiter

variable (r : RateLimiter) (store : RateStore) (call : RateCall)

/-- What is left of the set when the call has dropped the old members. -/
def kept : ZSet :=
  ((store call.key).live call.ms).remRangeByScore 0 (call.ms - r.window / millisecond)

/-- `Expire` takes whole seconds. -/
def expireSeconds : ℤ := (r.window + second) / second

/-- One call: whether it is allowed, and the store after it. -/
def allow : Bool × RateStore :=
  (decide (((r.kept store call).card : ℤ) < r.limit),
    fun key =>
      if key = call.key then
        ⟨(r.kept store call).add call.ms call.ms, some (call.ms + r.expireSeconds * 1000)⟩
      else store key)

end RateLimiter

def emptyStore : RateStore := fun _ => ⟨[], none⟩

/-! ## What is kept -/

abbrev RateStep : Type := Record RateStore RateCall Bool

def windowOf (w limit : ℤ) : RateLimiter := ⟨w * millisecond, limit⟩

theorem windowMs (w limit : ℤ) : (windowOf w limit).window / millisecond = w :=
  Int.mul_ediv_cancel w (by decide)

/-- A key outlives the window of the last call. -/
theorem lt_expireSeconds (w limit : ℤ) : w < (windowOf w limit).expireSeconds * 1000 := by
  show w < (w * 1000000 + 1000000000) / 1000000000 * 1000
  omega

theorem ms_mono {c d : RateCall} (h : c.now ≤ d.now) : c.ms ≤ d.ms :=
  Int.ediv_le_ediv (by decide) h

/-- Later calls of the key still find the millisecond of a call that is in their window. -/
def Keeps (w : ℤ) (key : String) (h : List RateStep) (store : RateStore) : Prop :=
  ∀ st ∈ h, st.input.key = key → ∀ call : RateCall, (∀ st ∈ h, st.input.now ≤ call.now) →
    call.ms - w < st.input.ms → (st.input.ms, st.input.ms) ∈ (store key).live call.ms

theorem mem_remRangeByScore {lo hi : ℤ} {z : ZSet} {e : ℤ × ℤ} (h : e ∈ z) (he : hi < e.2) :
    e ∈ z.remRangeByScore lo hi := by
  unfold ZSet.remRangeByScore
  rw [List.mem_filter, decide_eq_true_eq]
  exact ⟨h, fun hle => by omega⟩

theorem mem_add_self (m : ℤ) (z : ZSet) : (m, m) ∈ z.add m m :=
  List.mem_append_right _ (List.mem_singleton.mpr rfl)

theorem mem_add {m n : ℤ} {z : ZSet} (h : (n, n) ∈ z) : (n, n) ∈ z.add m m := by
  by_cases hn : n = m
  · rw [hn]
    exact mem_add_self m z
  · apply List.mem_append_left
    rw [List.mem_filter]
    exact ⟨h, by simpa using hn⟩

namespace Keeps

variable {w : ℤ} {key : String} {h : List RateStep} {store : RateStore} {call : RateCall}

theorem mem_kept (limit : ℤ) (hk : Keeps w key h store) (hcall : call.key = key)
    (hle : ∀ st ∈ h, st.input.now ≤ call.now) {st : RateStep} (hst : st ∈ h)
    (hkey : st.input.key = key) (hms : call.ms - w < st.input.ms) :
    (st.input.ms, st.input.ms) ∈ (windowOf w limit).kept store call := by
  unfold RateLimiter.kept
  rw [windowMs, hcall]
  exact mem_remRangeByScore (hk st hst hkey call hle hms) hms

theorem step (limit : ℤ) (hk : Keeps w key h store) (hle : ∀ st ∈ h, st.input.now ≤ call.now) :
    Keeps w key (h ++ [record (windowOf w limit).allow store call])
      ((windowOf w limit).allow store call).2 := by
  intro st hst hkey later hlater hms
  have hcall : call.ms ≤ later.ms :=
    ms_mono (hlater _ (List.mem_append_right _ (List.mem_singleton.mpr rfl)))
  have hold : ∀ st ∈ h, st.input.now ≤ later.now :=
    fun st hst => hlater st (List.mem_append_left _ hst)
  show _ ∈ RateKey.live (if key = call.key then _ else store key) later.ms
  by_cases hc : key = call.key
  · -- the key has not expired, since it outlives the window of the call
    have hbefore : st.input.ms ≤ call.ms := by
      rcases List.mem_append.mp hst with hst | hst
      · exact ms_mono (hle st hst)
      · rw [List.mem_singleton.mp hst]
        exact Int.le_refl _
    have hexpire := lt_expireSeconds w limit
    rw [if_pos hc]
    unfold RateKey.live
    dsimp only
    rw [if_neg (by omega)]
    rcases List.mem_append.mp hst with hst | hst
    · exact mem_add (mem_kept limit hk hc.symm hle hst hkey (by omega))
    · rw [List.mem_singleton.mp hst]
      exact mem_add_self _ _
  · rw [if_neg hc]
    rcases List.mem_append.mp hst with hst | hst
    · exact hk st hst hkey later hold hms
    · rw [List.mem_singleton.mp hst] at hkey
      exact absurd hkey.symm hc

end Keeps

/-- The calls come in the order of their times. -/
def InOrder (calls : List RateCall) : Prop := calls.Pairwise fun c d => c.now ≤ d.now

theorem InOrder.le_last {calls : List RateCall} {call : RateCall} (h : InOrder (calls ++ [call]))
    {c : RateCall} (hc : c ∈ calls) : c.now ≤ call.now :=
  (List.pairwise_append.mp h).2.2 c hc call (List.mem_singleton.mpr rfl)

theorem keeps_trace (w limit : ℤ) (key : String) {calls : List RateCall} (h : InOrder calls) :
    Keeps w key (trace (windowOf w limit).allow emptyStore calls)
      (final (windowOf w limit).allow emptyStore calls) := by
  induction calls using List.reverseRecOn with
  | nil => exact fun st hst => by simp at hst
  | append_singleton calls call ih =>
    rw [trace_append, final_append]
    refine Keeps.step limit (ih (List.pairwise_append.mp h).1) fun st hst => ?_
    exact h.le_last (input_mem_of_mem_trace hst)

/-! ## The limit -/

def AllowedWithin (key : String) (a b : ℤ) (st : RateStep) : Prop :=
  st.output = true ∧ st.input.key = key ∧ a ≤ st.input.now ∧ st.input.now ≤ b

instance (key : String) (a b : ℤ) : DecidablePred (AllowedWithin key a b) := fun st =>
  inferInstanceAs (Decidable (st.output = true ∧ st.input.key = key ∧ a ≤ st.input.now ∧
    st.input.now ≤ b))

def allowedIn (key : String) (a b : ℤ) (h : List RateStep) : ℕ :=
  h.countP fun st => AllowedWithin key a b st

theorem allowedIn_concat (key : String) (a b : ℤ) (h : List RateStep) (st : RateStep) :
    allowedIn key a b (h ++ [st]) =
      allowedIn key a b h + if AllowedWithin key a b st then 1 else 0 := by
  unfold allowedIn
  rw [List.countP_append, List.countP_singleton]
  simp only [decide_eq_true_eq]

/-- Two calls of a key less than `w` milliseconds apart are so in whole milliseconds. -/
def CloseInMs (w : ℤ) (key : String) (calls : List RateCall) : Prop :=
  calls.Pairwise fun c d => c.key = key → d.key = key → d.now - c.now < w * millisecond →
    d.ms - c.ms < w

/-- No two calls of a key are in one millisecond. -/
def DistinctMs (key : String) (calls : List RateCall) : Prop :=
  calls.Pairwise fun c d => c.key = key → d.key = key → c.ms ≠ d.ms

/-- The milliseconds of the calls of a key that were allowed from `a` to `b`. -/
def allowedMs (key : String) (a b : ℤ) (h : List RateStep) : List ℤ :=
  (h.filter fun st => AllowedWithin key a b st).map fun st => st.input.ms

theorem length_allowedMs (key : String) (a b : ℤ) (h : List RateStep) :
    (allowedMs key a b h).length = allowedIn key a b h := by
  unfold allowedMs allowedIn
  rw [List.length_map, List.countP_eq_length_filter]

theorem nodup_allowedMs {key : String} {calls : List RateCall} (hd : DistinctMs key calls)
    (r : RateLimiter) (a b : ℤ) :
    (allowedMs key a b (trace r.allow emptyStore calls)).Nodup := by
  have htrace : (trace r.allow emptyStore calls).Pairwise fun st st' =>
      st.input.key = key → st'.input.key = key → st.input.ms ≠ st'.input.ms := by
    rw [← map_input_trace r.allow emptyStore calls] at hd
    exact List.pairwise_map.mp hd
  unfold allowedMs
  apply List.pairwise_map.mpr
  rw [List.pairwise_filter]
  refine htrace.imp fun hne hst hst' => ?_
  exact hne (of_decide_eq_true hst).2.1 (of_decide_eq_true hst').2.1

theorem allowedMs_subset (limit : ℤ) {w a b : ℤ} {key : String} {calls : List RateCall}
    {call : RateCall} (horder : InOrder (calls ++ [call]))
    (hclose : CloseInMs w key (calls ++ [call])) (hcall : call.key = key) (hle : call.now ≤ b)
    (hab : b - a < w * millisecond) :
    allowedMs key a b (trace (windowOf w limit).allow emptyStore calls) ⊆
      ((windowOf w limit).kept (final (windowOf w limit).allow emptyStore calls) call).map
        Prod.fst := by
  intro m hm
  obtain ⟨st, hst, rfl⟩ := List.mem_map.mp hm
  obtain ⟨hmem, hst⟩ := List.mem_filter.mp hst
  obtain ⟨-, hkey, ha, -⟩ := of_decide_eq_true hst
  have hms := (List.pairwise_append.mp hclose).2.2 _ (input_mem_of_mem_trace hmem) call
    (List.mem_singleton.mpr rfl) hkey hcall (by omega)
  have hkeeps := keeps_trace w limit key (List.pairwise_append.mp horder).1
  have hkept := hkeeps.mem_kept limit hcall
    (fun st hst => horder.le_last (input_mem_of_mem_trace hst)) hmem hkey (by omega)
  exact List.mem_map_of_mem hkept

theorem allowedIn_lt {w limit a b : ℤ} {key : String} {calls : List RateCall} {call : RateCall}
    (horder : InOrder (calls ++ [call])) (hclose : CloseInMs w key (calls ++ [call]))
    (hms : limit = 1 ∨ DistinctMs key calls) (hab : b - a < w * millisecond)
    (hlast : AllowedWithin key a b (record (windowOf w limit).allow
      (final (windowOf w limit).allow emptyStore calls) call)) :
    (allowedIn key a b (trace (windowOf w limit).allow emptyStore calls) : ℤ) < limit := by
  obtain ⟨hallowed, hkey, -, hle⟩ := hlast
  have hcard : (((windowOf w limit).kept (final (windowOf w limit).allow emptyStore calls)
      call).length : ℤ) < limit := of_decide_eq_true hallowed
  have hsub := allowedMs_subset limit horder hclose hkey hle hab
  rw [← length_allowedMs]
  rcases hms with hone | hd
  · -- with a limit of one there are no members at all
    have hnil : (windowOf w limit).kept (final (windowOf w limit).allow emptyStore calls) call =
        [] := List.eq_nil_of_length_eq_zero (by omega)
    rw [hnil] at hsub
    rw [List.subset_nil.mp hsub]
    exact Int.lt_of_lt_of_le (by decide) (Int.le_of_eq hone.symm)
  · have hlen := (List.subperm_of_subset (nodup_allowedMs hd _ a b) hsub).length_le
    rw [List.length_map] at hlen
    omega

/-- **The limit.** Calls that come in order, of which no two of the key less than a window apart are
a window apart in whole milliseconds, and no two are in one millisecond unless the limit is one, are
allowed at most `limit` times in any interval shorter than the window. -/
theorem rate_limited {w limit : ℤ} (hlimit : 1 ≤ limit) (key : String) {calls : List RateCall}
    (horder : InOrder calls) (hclose : CloseInMs w key calls)
    (hms : limit = 1 ∨ DistinctMs key calls) {a b : ℤ} (hab : b - a < w * millisecond) :
    (allowedIn key a b (trace (windowOf w limit).allow emptyStore calls) : ℤ) ≤ limit := by
  induction calls using List.reverseRecOn with
  | nil => exact Int.le_trans (Int.le_of_lt (by decide : (0 : ℤ) < 1)) hlimit
  | append_singleton calls call ih =>
    have hms' := hms.imp_right fun hd : DistinctMs key (calls ++ [call]) =>
      (List.pairwise_append.mp hd).1
    have hrest := ih (List.pairwise_append.mp horder).1 (List.pairwise_append.mp hclose).1 hms'
    rw [trace_append, trace_cons, trace_nil, allowedIn_concat]
    split_ifs with hlast
    · have hlt := allowedIn_lt horder hclose hms' hab hlast
      push_cast
      omega
    · exact hrest

namespace Sample

/-- Three calls two milliseconds apart. -/
def spaced : List RateCall :=
  [allowAMF "amf-1" 0, allowAMF "amf-1" 2000000, allowAMF "amf-1" 4000000]

/-- Three calls in one millisecond. -/
def burst : List RateCall :=
  [allowAMF "amf-1" 0, allowAMF "amf-1" 10, allowAMF "amf-1" 20]

/-- Two calls less than a second apart that are a second apart in milliseconds. -/
def truncated : List RateCall := [allowAMF "amf-1" 999999, allowAMF "amf-1" 1000000000]

end Sample

open Sample in
theorem rate_limited_spaced :
    InOrder spaced ∧
      (allowedIn (amfKey "amf-1") 0 999999999
        (trace (windowOf 1000 2).allow emptyStore spaced) : ℤ) ≤ 2 := by
  have horder : InOrder spaced := by unfold InOrder spaced; decide
  refine ⟨horder, rate_limited (by decide) _ horder ?_ (Or.inr ?_) (by decide)⟩
  · unfold CloseInMs spaced; decide
  · unfold DistinctMs spaced; decide

open Sample in
/-- A burst within one millisecond is one member, and a member that is dropped because of the whole
milliseconds does not count either. -/
theorem limits_exceeded :
    InOrder burst ∧
      allowedIn (amfKey "amf-1") 0 20 (trace (windowOf 1000 2).allow emptyStore burst) = 3 ∧
      InOrder truncated ∧
      allowedIn (amfKey "amf-1") 999999 1000000000
        (trace (windowOf 1000 1).allow emptyStore truncated) = 2 := by
  unfold InOrder
  refine ⟨by decide, by decide, by decide, by decide⟩

end NssAAF.Cache
