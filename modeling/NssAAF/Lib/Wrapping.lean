import Mathlib.Algebra.Order.Ring.Int

/-!
# Signed products that wrap

The product of a 64-bit number and a power of two, as the machine computes it. It differs from the
exact one by a multiple of `2 ^ 64` (`toInt_mul_shift`), so that it keeps every divisor of the exact
one that is a power of two of at most 64 bits (`dvd_toInt_mul_shift`).
-/

namespace Wrapping

/-- The product of a number and a power of two, as computed. -/
theorem toInt_mul_shift (x : Int64) (n : ℕ) :
    (x * Int64.ofInt ((1 : ℤ) <<< n)).toInt = (x.toInt * 2 ^ n).bmod 18446744073709551616 := by
  rw [Int64.toInt_mul, Int64.toInt_ofInt, Int.shiftLeft_eq, one_mul]
  exact Int.mul_bmod_bmod

theorem toInt_mul_shift_of_lt {x : Int64} {n : ℕ} (hx : 0 ≤ x.toInt)
    (hfits : x.toInt * 2 ^ n < 9223372036854775808) :
    (x * Int64.ofInt ((1 : ℤ) <<< n)).toInt = x.toInt * 2 ^ n := by
  have hnonneg : 0 ≤ x.toInt * 2 ^ n := Int.mul_nonneg hx (pow_nonneg (by decide) n)
  rw [toInt_mul_shift]
  exact Int.bmod_eq_of_le (by omega) (by omega)

theorem dvd_toInt_mul_shift {d : ℤ} (x : Int64) {n : ℕ} (hd : d ∣ 18446744073709551616)
    (hx : d ∣ x.toInt * 2 ^ n) : d ∣ (x * Int64.ofInt ((1 : ℤ) <<< n)).toInt := by
  have hmod : d ∣ x.toInt * 2 ^ n % 18446744073709551616 := by
    rw [Int.emod_def]
    exact Int.dvd_sub hx (Int.dvd_mul_of_dvd_left hd)
  rw [toInt_mul_shift, Int.bmod_def]
  split_ifs
  · exact hmod
  · exact Int.dvd_sub hmod hd

end Wrapping
