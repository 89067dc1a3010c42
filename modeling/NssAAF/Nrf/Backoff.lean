import NssAAF.Lib.Wrapping

/-!
# The waits of `reRegisterLoop`

`exponentialBackoff` of `internal/nrf/heartbeat.go`. Its delay is `5 s * 2 ^ attempt` in 64 bits,
with five minutes in the place of every delay that is larger or not positive, and a jitter below a
fifth of it.

The base is `5 ^ 10 * 2 ^ 9` nanoseconds. From the attempt on at which the product can wrap, what is
left of it is a multiple of `2 ^ 40`, and no such number is positive and at most five minutes
(`backoffDelay_toInt`).
-/

namespace NssAAF.Nrf

def shiftedOne (n : ℕ) : Int64 := if n < 64 then Int64.ofInt ((1 : ℤ) <<< n) else 0

/-- `rand.Int63n(n)`, which panics if there is nothing below `n`. The source is `rand`. -/
def int63n (rand : Int64 → Int64) (n : Int64) : Except String Int64 :=
  if n ≤ 0 then .error "invalid argument to Int63n" else .ok (rand n)

/-- What `rand.Int63n` promises. -/
def Draws (rand : Int64 → Int64) : Prop := ∀ n, 0 < n → 0 ≤ rand n ∧ rand n < n

def baseDelay : Int64 := 5 * 1000000000

def maxDelay : Int64 := 5 * (60 * 1000000000)

def backoffDelay (attempt : Int64) : Int64 :=
  let delay := baseDelay * shiftedOne attempt.toUInt64.toNat
  if delay > maxDelay ∨ delay ≤ 0 then maxDelay else delay

def exponentialBackoff (rand : Int64 → Int64) (attempt : Int64) : Except String Int64 :=
  (int63n rand (backoffDelay attempt / 5)).map (backoffDelay attempt + ·)

/-- The delay that is meant: `min (5 s * 2 ^ attempt) (5 min)`, in nanoseconds. -/
def exactDelay (attempt : ℕ) : ℤ := min (5000000000 * 2 ^ attempt) 300000000000

theorem baseDelay_toInt : baseDelay.toInt = 5000000000 := by decide

theorem maxDelay_toInt : maxDelay.toInt = 300000000000 := by decide

/-- A shift by 64 or more leaves nothing, which is what a power of two is then in 64 bits. -/
theorem shiftedOne_eq (n : ℕ) : shiftedOne n = Int64.ofInt ((1 : ℤ) <<< n) := by
  unfold shiftedOne
  split_ifs with hn
  · rfl
  · obtain ⟨k, rfl⟩ := Nat.exists_eq_add_of_le (Nat.not_lt.mp hn)
    apply Int64.toInt_inj.mp
    rw [Int64.toInt_ofInt, Int.shiftLeft_eq, one_mul, pow_add]
    exact (Int.bmod_eq_zero_of_dvd (Int.dvd_mul_right _ _)).symm

theorem exactDelay_bounds (n : ℕ) : 5000000000 ≤ exactDelay n ∧ exactDelay n ≤ 300000000000 := by
  have hone : (1 : ℤ) ≤ 2 ^ n := one_le_pow₀ (by decide)
  unfold exactDelay
  omega

/-- The product is exact while it fits. Afterwards it is a multiple of `2 ^ 40`. -/
theorem product_cases (n : ℕ) :
    (baseDelay * shiftedOne n).toInt = 5000000000 * 2 ^ n ∨
      64 * 5000000000 ≤ (5000000000 * 2 ^ n : ℤ) ∧
        (1099511627776 : ℤ) ∣ (baseDelay * shiftedOne n).toInt := by
  rw [shiftedOne_eq]
  by_cases hn : n < 31
  · left
    have hle : (2 : ℤ) ^ n ≤ 2 ^ 30 := pow_le_pow_right₀ (by decide) (by omega)
    have hfits : baseDelay.toInt * 2 ^ n < 9223372036854775808 := by
      rw [baseDelay_toInt]
      omega
    rw [Wrapping.toInt_mul_shift_of_lt (by decide) hfits, baseDelay_toInt]
  · right
    obtain ⟨k, rfl⟩ := Nat.exists_eq_add_of_le (Nat.not_lt.mp hn)
    have hone : (1 : ℤ) ≤ 2 ^ k := one_le_pow₀ (by decide)
    have hpow : (2 : ℤ) ^ (31 + k) = 2147483648 * 2 ^ k := pow_add 2 31 k
    refine ⟨by omega, Wrapping.dvd_toInt_mul_shift _ (by decide) ?_⟩
    rw [baseDelay_toInt, hpow]
    omega

/-- **The cap.** Whatever the product wraps to, the delay is the one that is meant. -/
theorem backoffDelay_toInt (attempt : Int64) :
    (backoffDelay attempt).toInt = exactDelay attempt.toUInt64.toNat := by
  generalize hn : attempt.toUInt64.toNat = n
  have hcases := product_cases n
  unfold backoffDelay exactDelay
  dsimp only
  rw [hn]
  split_ifs with hcap
  · rw [gt_iff_lt, Int64.lt_iff_toInt_lt, Int64.le_iff_toInt_le, maxDelay_toInt] at hcap
    rw [maxDelay_toInt]
    have hone : (1 : ℤ) ≤ 2 ^ n := one_le_pow₀ (by decide)
    change _ ∨ _ ≤ 0 at hcap
    omega
  · rw [gt_iff_lt, Int64.lt_iff_toInt_lt, Int64.le_iff_toInt_le, maxDelay_toInt] at hcap
    change ¬ (_ ∨ _ ≤ 0) at hcap
    omega

theorem toUInt64_toNat {attempt : Int64} (h : 0 ≤ attempt) :
    attempt.toUInt64.toNat = attempt.toInt.toNat := by
  have hnonneg : 0 ≤ attempt.toInt := Int64.le_iff_toInt_le.mp h
  have hlt := attempt.toBitVec.isLt
  change 0 ≤ attempt.toBitVec.toInt at hnonneg
  show attempt.toBitVec.toNat = attempt.toBitVec.toInt.toNat
  rw [BitVec.toInt_eq_toNat_cond] at hnonneg ⊢
  split_ifs at hnonneg ⊢ <;> omega

theorem backoffDelay_div_toInt (attempt : Int64) :
    (backoffDelay attempt / 5).toInt = exactDelay attempt.toUInt64.toNat / 5 := by
  have hbounds := exactDelay_bounds attempt.toUInt64.toNat
  have hfive : (5 : Int64).toInt = 5 := by decide
  rw [Int64.toInt_div, backoffDelay_toInt, hfive, Int.tdiv_eq_ediv_of_nonneg (by omega)]
  exact Int.bmod_eq_of_le (by omega) (by omega)

/-- **The backoff.** It never panics, and it waits for at least the delay that is meant and for less
than a fifth more. -/
theorem exponentialBackoff_bounds (rand : Int64 → Int64) (hrand : Draws rand) (attempt : Int64)
    (hattempt : 0 ≤ attempt) :
    ∃ r, exponentialBackoff rand attempt = .ok r ∧
      exactDelay attempt.toInt.toNat ≤ r.toInt ∧
      r.toInt < exactDelay attempt.toInt.toNat + exactDelay attempt.toInt.toNat / 5 := by
  rw [← toUInt64_toNat hattempt]
  have hbounds := exactDelay_bounds attempt.toUInt64.toNat
  have hfifth := backoffDelay_div_toInt attempt
  have hpos : 0 < backoffDelay attempt / 5 := by
    rw [Int64.lt_iff_toInt_lt, hfifth]
    change 0 < _
    omega
  obtain ⟨hnonneg, hlt⟩ := hrand _ hpos
  rw [Int64.le_iff_toInt_le] at hnonneg
  change 0 ≤ _ at hnonneg
  rw [Int64.lt_iff_toInt_lt, hfifth] at hlt
  refine ⟨backoffDelay attempt + rand (backoffDelay attempt / 5), ?_, ?_⟩
  · unfold exponentialBackoff int63n
    rw [if_neg (Int64.not_le.mpr hpos)]
    rfl
  · have hsum : (backoffDelay attempt + rand (backoffDelay attempt / 5)).toInt =
        exactDelay attempt.toUInt64.toNat + (rand (backoffDelay attempt / 5)).toInt := by
      rw [Int64.toInt_add, backoffDelay_toInt]
      exact Int.bmod_eq_of_le (by omega) (by omega)
    omega

/-- At attempt 32 the product wraps to a positive number. -/
theorem exponentialBackoff_thirty_two : Draws (fun _ => 0) ∧
    ∃ r, exponentialBackoff (fun _ => 0) 32 = .ok r ∧
      exactDelay (32 : Int64).toInt.toNat ≤ r.toInt ∧
      r.toInt < exactDelay (32 : Int64).toInt.toNat + exactDelay (32 : Int64).toInt.toNat / 5 := by
  have hrand : Draws (fun _ => 0) := fun n hn => ⟨Int64.le_refl 0, hn⟩
  exact ⟨hrand, exponentialBackoff_bounds _ hrand 32 (by decide)⟩

end NssAAF.Nrf
