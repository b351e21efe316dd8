import AccessSync.Config.Retry
import Mathlib.Algebra.Group.Nat.Defs

/-!
# Waits over unbounded numbers

The factor and the product of a wait each stop at the largest word. Together they stop there once,
and the limit of the waits, a word itself, lies no higher: the wait is that of unbounded numbers.

* `toNat_capMul_powerOfTwo`: both steps together.
* `toNat_wait`: a wait is the initial one doubled each time, up to the limit.
* `waits_exact`: the steps stop, and the waits do not show it.
-/

namespace AccessSync.Retry

/-- The number of the largest word. -/
def largestWord : Nat := 2 ^ 64 - 1

theorem toNat_le_largestWord (a : UInt64) : a.toNat ≤ largestWord := Nat.le_sub_one_of_lt a.toNat_lt

/-! ## Steps that stop at the largest word -/

theorem toNat_capWord (n : Nat) : (capWord n).toNat = min n largestWord := by
  have hsize : UInt64.size = 2 ^ 64 := rfl
  unfold capWord largestWord
  split
  · rw [UInt64.toNat_ofNat_of_lt' (by omega)]
    omega
  · rw [UInt64.toNat_ofNat_of_lt' (by omega)]
    omega

theorem powerOfTwo_eq_capWord (exponent : UInt32) :
    powerOfTwo exponent = capWord (2 ^ exponent.toNat) := by
  have hsize : UInt64.size = 2 ^ 64 := rfl
  unfold powerOfTwo capWord
  by_cases h : exponent < 64
  · have hword : 2 ^ exponent.toNat < UInt64.size := by
      rw [hsize]
      exact Nat.pow_lt_pow_right (by omega) (UInt32.lt_iff_toNat_lt.1 h)
    rw [if_pos h, if_pos hword, Nat.one_shiftLeft]
  · have hword : ¬ 2 ^ exponent.toNat < UInt64.size := by
      rw [hsize, Nat.not_lt]
      exact Nat.pow_le_pow_right (by omega) (UInt32.le_iff_toNat_le.1 (UInt32.not_lt.1 h))
    rw [if_neg h, if_neg hword]

theorem toNat_powerOfTwo (exponent : UInt32) :
    (powerOfTwo exponent).toNat = min (2 ^ exponent.toNat) largestWord := by
  rw [powerOfTwo_eq_capWord, toNat_capWord]

theorem toNat_capMul (a b : UInt64) : (capMul a b).toNat = min (a.toNat * b.toNat) largestWord :=
  toNat_capWord _

/-- A factor that stops does not show in a product that stops as well: past the largest word, a
factor makes a product that is past it, too, unless the product is zero. -/
theorem min_mul_min (a b top : Nat) : min (a * min b top) top = min (a * b) top := by
  rcases Nat.eq_zero_or_pos a with rfl | ha
  · simp
  by_cases hb : b ≤ top
  · rw [Nat.min_eq_left hb]
  · have htop : top ≤ a * top := Nat.le_mul_of_pos_left top ha
    have hab : b ≤ a * b := Nat.le_mul_of_pos_left b ha
    rw [Nat.min_eq_right (by omega : top ≤ b)]
    omega

/-- **Both steps together** stop at the largest word once. -/
theorem toNat_capMul_powerOfTwo (a : UInt64) (exponent : UInt32) :
    (capMul a (powerOfTwo exponent)).toNat = min (a.toNat * 2 ^ exponent.toNat) largestWord := by
  rw [toNat_capMul, toNat_powerOfTwo, min_mul_min]

/-! ## Waits -/

theorem toNat_min (a b : UInt64) : (min a b).toNat = min a.toNat b.toNat := by
  show (if a ≤ b then a else b).toNat = _
  by_cases h : a ≤ b
  · rw [if_pos h, Nat.min_eq_left (UInt64.le_iff_toNat_le.1 h)]
  · rw [if_neg h, Nat.min_eq_right (UInt64.le_iff_toNat_le.1 (UInt64.le_of_lt (UInt64.not_le.1 h)))]

/-- **A wait is the initial one doubled each time**, up to the limit. The limit is a word, so it
hides what is cut off at the largest one. -/
theorem toNat_wait (r : Retry) (number : UInt32) :
    (r.wait number).toNat = min (r.initialWait.toNat * 2 ^ number.toNat) r.maxWait.toNat := by
  have hlimit := toNat_le_largestWord r.maxWait
  unfold wait
  rw [toNat_min, toNat_capMul_powerOfTwo]
  omega

theorem wait_le_wait (r : Retry) {number later : UInt32} (h : number ≤ later) :
    r.wait number ≤ r.wait later := by
  have hpow : 2 ^ number.toNat ≤ 2 ^ later.toNat :=
    Nat.pow_le_pow_right (by omega) (UInt32.le_iff_toNat_le.1 h)
  have hmul := Nat.mul_le_mul_left r.initialWait.toNat hpow
  rw [UInt64.le_iff_toNat_le, toNat_wait, toNat_wait]
  omega

/-- **Waits are exact.** The factor and the product stop at the largest word; the wait is that of
unbounded numbers all the same. It does not get shorter from one retry to the next and never goes
past the limit. -/
theorem waits_exact (r : Retry) (number : UInt32) :
    (powerOfTwo number).toNat = min (2 ^ number.toNat) (2 ^ 64 - 1) ∧
      (capMul r.initialWait (powerOfTwo number)).toNat =
        min (r.initialWait.toNat * (powerOfTwo number).toNat) (2 ^ 64 - 1) ∧
      (r.wait number).toNat = min (r.initialWait.toNat * 2 ^ number.toNat) r.maxWait.toNat ∧
      (∀ later, number ≤ later → r.wait number ≤ r.wait later) ∧
      r.wait number ≤ r.maxWait := by
  refine ⟨toNat_powerOfTwo number, toNat_capMul _ _, toNat_wait r number,
    fun _ h => wait_le_wait r h, ?_⟩
  rw [UInt64.le_iff_toNat_le, toNat_wait]
  exact Nat.min_le_right _ _

end AccessSync.Retry
