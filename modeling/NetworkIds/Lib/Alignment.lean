import Mathlib.Data.Nat.Bitwise

set_option autoImplicit false

-- Offsets that are rounded up to a multiple of an alignment.
namespace Alignment

def alignUp (off a : Nat) : Nat := (off + a - 1) / a * a

variable {off other a : Nat}

theorem align_up_one (off : Nat) : alignUp off 1 = off := by simp [alignUp]

theorem align_up_ge (off : Nat) (positive : 0 < a) : off ≤ alignUp off a := by
  have division := Nat.div_add_mod' (off + a - 1) a
  have remainder := Nat.mod_lt (off + a - 1) positive
  unfold alignUp
  omega

theorem align_up_mono (behind : off ≤ other) : alignUp off a ≤ alignUp other a :=
  Nat.mul_le_mul_right a (Nat.div_le_div_right (by omega))

theorem align_up_aligned (positive : 0 < a) (aligned : off % a = 0) : alignUp off a = off := by
  obtain ⟨count, rfl⟩ := Nat.dvd_of_mod_eq_zero aligned
  have shape : a * count + a - 1 = (a - 1) + a * count := by omega
  rw [alignUp, shape, Nat.add_mul_div_left _ _ positive, Nat.div_eq_of_lt (by omega), Nat.zero_add, Nat.mul_comm]

theorem mask_low_bits (x k width : Nat) (word : x < 2 ^ width) (inside : k ≤ width) :
    x &&& (2 ^ width - 1 - (2 ^ k - 1)) = x / 2 ^ k * 2 ^ k := by
  have low : 2 ^ k - 1 < 2 ^ width := by
    have powers := Nat.pow_le_pow_right (n := 2) (by decide) inside
    have positive := Nat.two_pow_pos k
    omega
  have mask : 2 ^ width - 1 - (2 ^ k - 1) = 2 ^ width - (2 ^ k - 1 + 1) := by omega
  apply Nat.eq_of_testBit_eq
  intro i
  rw [mask, Nat.testBit_and, Nat.testBit_two_pow_sub_succ low, Nat.testBit_two_pow_sub_one, Nat.testBit_mul_two_pow,
    Nat.testBit_div_two_pow]
  by_cases high : k ≤ i
  · have index : i - k + k = i := by omega
    by_cases beyond : i < width
    · simp [high, beyond, index]
    · have zero : x.testBit i = false :=
        Nat.testBit_lt_two_pow (Nat.lt_of_lt_of_le word (Nat.pow_le_pow_right (by decide) (by omega)))
      simp [high, beyond, index, zero]
  · simp [high, Nat.lt_of_not_le high]

end Alignment
