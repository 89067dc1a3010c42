import NssAAF.Lib.Wrapping
import NssAAF.Resilience.Retry

/-!
# The waits between retries

`Do` of `internal/resilience/retry.go` with the length of its waits: after attempt `k` it waits
`BaseDelay * 2^k`, at most `MaxDelay`. Durations have 64 bits, and the product is cut to 64 bits
before it is compared with `MaxDelay`. A run keeps its calls and its waits; without them it is a run
of `retry` (`doWithBackoff_eq_retry`).

The loop itself is as it should be in every run (`loop_spec`). The waits are the intended ones just
while the product fits into 64 bits: the first one that does not is negative (`delay_overflow`).
-/

namespace NssAAF.Resilience

structure RetryConfig where
  maxAttempts : ℤ
  baseDelay : Int64
  maxDelay : Int64

def second : Int64 := 1000000000

def defaultRetryConfig : RetryConfig := ⟨defaultMaxAttempts, second, 4 * second⟩

/-- The configuration with which `Do` runs, and which `NewBizRegistry` keeps. -/
def RetryConfig.withDefaults (cfg : RetryConfig) : RetryConfig where
  maxAttempts := if cfg.maxAttempts = 0 then defaultRetryConfig.maxAttempts else cfg.maxAttempts
  baseDelay := if cfg.baseDelay = 0 then defaultRetryConfig.baseDelay else cfg.baseDelay
  maxDelay := if cfg.maxDelay = 0 then defaultRetryConfig.maxDelay else cfg.maxDelay

/-- The wait after an attempt. -/
def RetryConfig.delay (cfg : RetryConfig) (attempt : ℕ) : Int64 :=
  let delay := cfg.baseDelay * Int64.ofInt ((1 : ℤ) <<< attempt)
  if delay > cfg.maxDelay then cfg.maxDelay else delay

/-- A run of `Do`: what it returns, the state it leaves, the results of its calls and the waits it
began, in order. -/
structure Doing (σ : Type*) where
  result : Except String Unit
  state : σ
  calls : List (Except String Unit)
  waits : List Int64

/-- The run with a failed call and a wait before it. -/
def Doing.after {σ : Type*} (r : Doing σ) (err : String) (delay : Int64) : Doing σ :=
  { r with calls := .error err :: r.calls, waits := delay :: r.waits }

section Loop

variable {σ : Type*} (fn : σ → Except String Unit × σ) (done : ℕ → Option String)
  (cfg : RetryConfig)

/-- The loop of `Do` with `remaining` attempts to go, from number `attempt` on. -/
def loop : ℕ → ℕ → String → σ → Doing σ
  | 0, _, lastErr, s => ⟨.error (maxRetriesExceeded lastErr), s, [], []⟩
  | remaining + 1, attempt, _, s =>
    match fn s with
    | (.ok (), s) => ⟨.ok (), s, [.ok ()], []⟩
    | (.error err, s) =>
      if remaining = 0 then ⟨.error (maxRetriesExceeded err), s, [.error err], []⟩
      else
        match done attempt with
        | some ctxErr => ⟨.error ctxErr, s, [.error err], [cfg.delay attempt]⟩
        | none => (loop remaining (attempt + 1) err s).after err (cfg.delay attempt)

def doWithBackoff (s : σ) : Doing σ :=
  loop fn done cfg.withDefaults cfg.withDefaults.maxAttempts.toNat 0 "%!w(<nil>)" s

theorem loop_eq_attempts (remaining attempt : ℕ) (lastErr : String) (s : σ) :
    ((loop fn done cfg remaining attempt lastErr s).result,
      (loop fn done cfg remaining attempt lastErr s).state) =
      attempts fn done remaining attempt lastErr s ∧
    (loop fn done cfg remaining attempt lastErr s).calls.length =
      made fn done remaining attempt s := by
  induction remaining generalizing attempt lastErr s with
  | zero => exact ⟨rfl, rfl⟩
  | succ remaining ih =>
    unfold loop attempts made
    rcases fn s with ⟨err | _, s'⟩
    · dsimp only
      split_ifs with hlast
      · exact ⟨rfl, rfl⟩
      · rcases done attempt with _ | ctxErr
        · exact ⟨(ih _ err s').1, congrArg (· + 1) (ih _ err s').2⟩
        · exact ⟨rfl, rfl⟩
    · exact ⟨rfl, rfl⟩

/-- Without the lengths of the waits a run of `Do` is a run of `retry`. -/
theorem doWithBackoff_eq_retry (s : σ) :
    ((doWithBackoff fn done cfg s).result, (doWithBackoff fn done cfg s).state) =
      retry fn done cfg.maxAttempts s ∧
    (doWithBackoff fn done cfg s).calls.length = callsOfDo fn done cfg.maxAttempts s :=
  loop_eq_attempts fn done cfg.withDefaults _ _ _ _

/-- What holds of every run of the loop. -/
structure LoopSpec (remaining attempt : ℕ) (r : Doing σ) : Prop where
  calls_le : r.calls.length ≤ remaining
  ok_iff : r.result = .ok () ↔ .ok () ∈ r.calls
  last : ∀ k, r.calls[k]? = some (.ok ()) → r.calls.length ≤ k + 1
  between : r.calls.length ≤ r.waits.length + 1
  waits : ∀ k w, r.waits[k]? = some w → k + 1 < remaining ∧ w = cfg.delay (attempt + k)

variable {cfg}

theorem LoopSpec.after {remaining attempt : ℕ} {r : Doing σ} (err : String) (hpos : 0 < remaining)
    (h : LoopSpec cfg remaining (attempt + 1) r) :
    LoopSpec cfg (remaining + 1) attempt (r.after err (cfg.delay attempt)) where
  calls_le := Nat.succ_le_succ h.calls_le
  ok_iff := by
    show r.result = .ok () ↔ .ok () ∈ .error err :: r.calls
    simpa using h.ok_iff
  last k hk := by
    cases k with
    | zero => simp [Doing.after] at hk
    | succ k => exact Nat.succ_le_succ (h.last k (by simpa [Doing.after] using hk))
  between := Nat.succ_le_succ h.between
  waits k w hk := by
    cases k with
    | zero =>
      obtain rfl : cfg.delay attempt = w := by simpa [Doing.after] using hk
      exact ⟨by omega, rfl⟩
    | succ k =>
      have hw := h.waits k w (by simpa [Doing.after] using hk)
      exact ⟨by omega, by rw [hw.2, Nat.add_right_comm, Nat.add_assoc]⟩

variable (cfg)

theorem loop_spec (remaining attempt : ℕ) (lastErr : String) (s : σ) :
    LoopSpec cfg remaining attempt (loop fn done cfg remaining attempt lastErr s) := by
  induction remaining generalizing attempt lastErr s with
  | zero => constructor <;> simp [loop]
  | succ remaining ih =>
    unfold loop
    rcases fn s with ⟨err | _, s'⟩
    · dsimp only
      split_ifs with hlast
      · constructor <;> simp
      · have hpos := Nat.pos_of_ne_zero hlast
        rcases done attempt with _ | ctxErr
        · exact (ih _ _ _).after _ hpos
        · refine ⟨by simp, by simp, by simp, by simp, ?_⟩
          intro k w hk
          cases k with
          | zero => exact ⟨by omega, by simpa using hk.symm⟩
          | succ k => simp at hk
    · constructor <;> simp

end Loop

/-! ## The length of a wait -/

section Delay

variable {cfg : RetryConfig}

theorem delay_toInt (hbase : 0 < cfg.baseDelay) {attempt : ℕ}
    (hfits : cfg.baseDelay.toInt * 2 ^ attempt < 9223372036854775808) :
    (cfg.delay attempt).toInt = min (cfg.baseDelay.toInt * 2 ^ attempt) cfg.maxDelay.toInt := by
  have hpos : 0 < cfg.baseDelay.toInt := Int64.lt_iff_toInt_lt.mp hbase
  have hproduct := Wrapping.toInt_mul_shift_of_lt (Int.le_of_lt hpos) hfits
  unfold RetryConfig.delay
  dsimp only
  split_ifs with hgt
  · rw [gt_iff_lt, Int64.lt_iff_toInt_lt, hproduct] at hgt
    exact (min_eq_right (Int.le_of_lt hgt)).symm
  · rw [gt_iff_lt, Int64.lt_iff_toInt_lt, hproduct, not_lt] at hgt
    rw [hproduct, min_eq_left hgt]

theorem delay_overflow (hmax : 0 ≤ cfg.maxDelay) {attempt : ℕ}
    (hfits : cfg.baseDelay.toInt * 2 ^ attempt < 9223372036854775808)
    (hover : 9223372036854775808 ≤ cfg.baseDelay.toInt * 2 ^ (attempt + 1)) :
    (cfg.delay (attempt + 1)).toInt < 0 := by
  rw [pow_succ, ← mul_assoc] at hover
  have hproduct : (cfg.baseDelay * Int64.ofInt ((1 : ℤ) <<< (attempt + 1))).toInt < 0 := by
    rw [Wrapping.toInt_mul_shift, pow_succ, ← mul_assoc, Int.bmod_def]
    split_ifs <;> omega
  have hmax' : 0 ≤ cfg.maxDelay.toInt := Int64.le_iff_toInt_le.mp hmax
  unfold RetryConfig.delay
  dsimp only
  split_ifs with hgt
  · rw [gt_iff_lt, Int64.lt_iff_toInt_lt] at hgt
    omega
  · exact hproduct

theorem product_mono {base : ℤ} (hbase : 0 < base) {j k : ℕ} (h : j ≤ k) :
    base * 2 ^ j ≤ base * 2 ^ k :=
  Int.mul_le_mul_of_nonneg_left (pow_le_pow_right₀ (by decide) h) (Int.le_of_lt hbase)

theorem exists_first_overflow (base : Int64) {k : ℕ}
    (h : 9223372036854775808 ≤ base.toInt * 2 ^ k) :
    ∃ j < k, base.toInt * 2 ^ j < 9223372036854775808 ∧
      9223372036854775808 ≤ base.toInt * 2 ^ (j + 1) := by
  induction k with
  | zero =>
    have hlt := base.toInt_lt
    rw [pow_zero, mul_one] at h
    omega
  | succ k ih =>
    by_cases hk : base.toInt * 2 ^ k < 9223372036854775808
    · exact ⟨k, Nat.lt_succ_self k, hk, h⟩
    · obtain ⟨j, hj, hfits⟩ := ih (Int.not_lt.mp hk)
      exact ⟨j, Nat.lt_succ_of_lt hj, hfits⟩

end Delay

/-! ## The law of the loop -/

/-- What a run of `Do` should be: at most `MaxAttempts` calls, success just if a call succeeded, no
call after that one, a wait between two calls, and the waits those of exact arithmetic, positive and
nondecreasing. -/
structure LoopLaw {σ : Type*} (cfg : RetryConfig) (r : Doing σ) : Prop where
  calls_le : r.calls.length ≤ cfg.maxAttempts
  ok_iff : r.result = .ok () ↔ .ok () ∈ r.calls
  last : ∀ k, r.calls[k]? = some (.ok ()) → r.calls.length ≤ k + 1
  between : r.calls.length ≤ r.waits.length + 1
  wait : ∀ (k : ℕ) w, r.waits[k]? = some w →
    k < cfg.maxAttempts - 1 ∧ w.toInt = min (cfg.baseDelay.toInt * 2 ^ k) cfg.maxDelay.toInt
  wait_pos : ∀ w ∈ r.waits, 0 < w
  sorted : r.waits.Pairwise (· ≤ ·)

section Law

variable {cfg : RetryConfig} (hatt : 1 ≤ cfg.maxAttempts) (hbase : 0 < cfg.baseDelay)
  (hmax : cfg.baseDelay ≤ cfg.maxDelay)

include hatt hbase hmax

theorem withDefaults_eq_self : cfg.withDefaults = cfg := by
  rw [Int64.le_iff_toInt_le] at hmax
  have hbase' : 0 < cfg.baseDelay.toInt := Int64.lt_iff_toInt_lt.mp hbase
  have hb : cfg.baseDelay ≠ 0 := by
    intro h
    rw [h] at hbase'
    exact absurd hbase' (by decide)
  have hm : cfg.maxDelay ≠ 0 := by
    intro h
    rw [h] at hmax
    exact absurd (Int.lt_of_lt_of_le hbase' hmax) (by decide)
  have ha : cfg.maxAttempts ≠ 0 := by omega
  simp only [RetryConfig.withDefaults, if_neg ha, if_neg hb, if_neg hm]

theorem doWithBackoff_eq_loop {σ : Type*} (fn : σ → Except String Unit × σ)
    (done : ℕ → Option String) (s : σ) :
    doWithBackoff fn done cfg s = loop fn done cfg cfg.maxAttempts.toNat 0 "%!w(<nil>)" s := by
  rw [doWithBackoff, withDefaults_eq_self hatt hbase hmax]

omit hatt in
theorem delays_of_fits {ws : List Int64}
    (hws : ∀ k w, ws[k]? = some w → cfg.baseDelay.toInt * 2 ^ k < 9223372036854775808 ∧
      w = cfg.delay k) :
    (∀ w ∈ ws, 0 < w) ∧ ws.Pairwise (· ≤ ·) := by
  have hpos : 0 < cfg.baseDelay.toInt := Int64.lt_iff_toInt_lt.mp hbase
  have hmax' := Int64.le_iff_toInt_le.mp hmax
  constructor
  · intro w hw
    obtain ⟨k, hk⟩ := List.getElem?_of_mem hw
    obtain ⟨hfits, rfl⟩ := hws k w hk
    have hle := product_mono hpos (Nat.zero_le k)
    rw [pow_zero, mul_one] at hle
    rw [Int64.lt_iff_toInt_lt, delay_toInt hbase hfits]
    exact lt_min (Int.lt_of_lt_of_le hpos hle) (Int.lt_of_lt_of_le hpos hmax')
  · rw [List.pairwise_iff_getElem]
    intro i j hi hj hij
    obtain ⟨hfitsi, hwi⟩ := hws i _ (List.getElem?_eq_getElem hi)
    obtain ⟨hfitsj, hwj⟩ := hws j _ (List.getElem?_eq_getElem hj)
    rw [hwi, hwj, Int64.le_iff_toInt_le, delay_toInt hbase hfitsi, delay_toInt hbase hfitsj]
    exact min_le_min_right _ (product_mono hpos (Nat.le_of_lt hij))

theorem loopLaw_of_fits {σ : Type*} (fn : σ → Except String Unit × σ)
    (done : ℕ → Option String) (s : σ)
    (hfits : ∀ k : ℕ, k < cfg.maxAttempts - 1 →
      cfg.baseDelay.toInt * 2 ^ k < 9223372036854775808) :
    LoopLaw cfg (doWithBackoff fn done cfg s) := by
  rw [doWithBackoff_eq_loop hatt hbase hmax]
  have hspec := loop_spec fn done cfg cfg.maxAttempts.toNat 0 "%!w(<nil>)" s
  have hwaits : ∀ (k : ℕ) w,
      (loop fn done cfg cfg.maxAttempts.toNat 0 "%!w(<nil>)" s).waits[k]? = some w →
      k < cfg.maxAttempts - 1 ∧ w = cfg.delay k := by
    intro k w hk
    obtain ⟨hlt, hw⟩ := hspec.waits k w hk
    exact ⟨by omega, by rw [hw, Nat.zero_add]⟩
  have hdelays := delays_of_fits hbase hmax fun k w hk =>
    ⟨hfits k (hwaits k w hk).1, (hwaits k w hk).2⟩
  refine ⟨?_, hspec.ok_iff, hspec.last, hspec.between, ?_, hdelays.1, hdelays.2⟩
  · have hle := hspec.calls_le
    omega
  · intro k w hk
    obtain ⟨hlt, rfl⟩ := hwaits k w hk
    exact ⟨hlt, delay_toInt hbase (hfits k hlt)⟩

end Law

def failing (_ : Unit) : Except String Unit × Unit := (.error "unreachable", ())

theorem loop_failing_waits (cfg : RetryConfig) {remaining k : ℕ} (hk : k + 1 < remaining)
    (attempt : ℕ) (lastErr : String) :
    (loop failing (fun _ => none) cfg remaining attempt lastErr ()).waits[k]? =
      some (cfg.delay (attempt + k)) := by
  induction remaining generalizing attempt lastErr k with
  | zero => omega
  | succ remaining ih =>
    unfold loop failing
    dsimp only
    rw [if_neg (by omega)]
    cases k with
    | zero => rfl
    | succ k =>
      rw [← Nat.add_assoc, Nat.add_right_comm]
      exact ih (by omega) (attempt + 1) _

/-- Every run of `Do` obeys the law of the loop, for every function and context, exactly if there is
one attempt only or the product before the last attempt fits into 64 bits. -/
theorem doWithBackoff_loopLaw_iff (cfg : RetryConfig) (hatt : 1 ≤ cfg.maxAttempts)
    (hbase : 0 < cfg.baseDelay) (hmax : cfg.baseDelay ≤ cfg.maxDelay) :
    (∀ (σ : Type) (fn : σ → Except String Unit × σ) (done : ℕ → Option String) (s : σ),
      LoopLaw cfg (doWithBackoff fn done cfg s)) ↔
    cfg.maxAttempts = 1 ∨
      cfg.baseDelay.toInt * 2 ^ (cfg.maxAttempts - 2).toNat < 9223372036854775808 := by
  have hpos : 0 < cfg.baseDelay.toInt := Int64.lt_iff_toInt_lt.mp hbase
  constructor
  · intro hlaw
    by_contra hnot
    obtain ⟨hne, hover⟩ := not_or.mp hnot
    -- The first product that does not fit belongs to a wait, and that wait is negative.
    obtain ⟨j, hj, hfits, hfirst⟩ := exists_first_overflow cfg.baseDelay (Int.not_lt.mp hover)
    have hlt : j + 1 + 1 < cfg.maxAttempts.toNat := by omega
    have hwait := loop_failing_waits cfg hlt 0 "%!w(<nil>)"
    have hrun := hlaw Unit failing (fun _ => none) ()
    rw [doWithBackoff_eq_loop hatt hbase hmax] at hrun
    have hdelay := hrun.wait_pos _ (List.mem_of_getElem? hwait)
    have hmax' : 0 ≤ cfg.maxDelay := by
      rw [Int64.le_iff_toInt_le] at hmax ⊢
      exact Int.le_trans (Int.le_of_lt hpos) hmax
    have hneg := delay_overflow hmax' hfits hfirst
    rw [Nat.zero_add, Int64.lt_iff_toInt_lt] at hdelay
    exact absurd (Int.lt_trans hdelay hneg) (Int.lt_irrefl 0)
  · intro hcond σ fn done s
    refine loopLaw_of_fits hatt hbase hmax fn done s ?_
    intro k hk
    rcases hcond with hone | hfits
    · omega
    · exact Int.lt_of_le_of_lt (product_mono hpos (by omega)) hfits

/-- The default configuration obeys the law. -/
theorem defaultRetryConfig_loopLaw :
    LoopLaw defaultRetryConfig (doWithBackoff failing (fun _ => none) defaultRetryConfig ()) :=
  (doWithBackoff_loopLaw_iff defaultRetryConfig (by decide) (by decide) (by decide)).mpr
    (.inr (by decide)) Unit failing (fun _ => none) ()

def longRetry : RetryConfig := ⟨36, second, 4 * second⟩

/-- With 36 attempts and a base delay of a second, the wait after the 35th attempt is negative. -/
theorem long_retry_wait_negative :
    1 ≤ longRetry.maxAttempts ∧ 0 < longRetry.baseDelay ∧
      longRetry.baseDelay ≤ longRetry.maxDelay ∧
      longRetry.delay 33 = 4 * second ∧ longRetry.delay 34 = -1266874889709551616 ∧
      ¬ LoopLaw longRetry (doWithBackoff failing (fun _ => none) longRetry ()) := by
  have hwait : (doWithBackoff failing (fun _ => none) longRetry ()).waits[34]? =
      some (longRetry.delay 34) := by
    rw [doWithBackoff_eq_loop (by decide) (by decide) (by decide)]
    exact loop_failing_waits longRetry (by decide) 0 _
  refine ⟨by decide, by decide, by decide, by decide, by decide, ?_⟩
  intro hlaw
  exact absurd (hlaw.wait_pos _ (List.mem_of_getElem? hwait)) (by decide)

end NssAAF.Resilience
