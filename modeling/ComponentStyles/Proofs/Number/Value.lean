import ComponentStyles.Number.Binary64
import Mathlib.Algebra.Order.Ring.Int
import Mathlib.Order.Monotone.Basic

/-!
# The values of binary64 numbers

Every finite number is a multiple of the least positive one, `2 ^ (-1074)`; its value is this multiple.
Numbers are compared by keys that are made of their bits. `comparisonKey_eq_iff`: two numbers have one
key exactly if they have one value, the two zeros included.

Proof. Magnitude bits and the multiples they stand for grow together (`multiple_strictMono`): a number
stays below the least number of the next exponent (`multiple_lt`, `le_multiple`).
-/

namespace ComponentStyles.Binary64

/-- The multiple of the least positive number that magnitude bits stand for. -/
def multiple (magnitude : Nat) : Nat :=
  if magnitude / unit = 0 then magnitude
  else (unit + magnitude % unit) * 2 ^ (magnitude / unit - 1)

/-- A finite number as a multiple of the least positive one. -/
def value (x : Binary64) : ℤ :=
  if x.isNegative then -(x.parts.1 * 2 ^ x.parts.2) else x.parts.1 * 2 ^ x.parts.2

theorem multiple_magnitude (x : Binary64) :
    multiple x.magnitude = x.parts.1 * 2 ^ x.parts.2 := by
  unfold multiple parts
  dsimp only
  split
  · rw [pow_zero, mul_one]
  · rfl

theorem multiple_lt (n : Nat) : multiple n < unit * 2 ^ (n / unit) := by
  have hunit : 0 < unit := by decide
  unfold multiple
  split
  · rename_i hfield
    rw [hfield, pow_zero, mul_one]
    exact (Nat.div_eq_zero_iff_lt hunit).mp hfield
  · rename_i hfield
    have hrest : n % unit < unit := Nat.mod_lt n hunit
    have hdouble : 2 ^ (n / unit) = 2 * 2 ^ (n / unit - 1) := by
      rw [← pow_succ', Nat.sub_add_cancel (Nat.pos_of_ne_zero hfield)]
    rw [hdouble, ← mul_assoc]
    exact Nat.mul_lt_mul_of_pos_right (by omega) (Nat.two_pow_pos _)

theorem le_multiple {n k : Nat} (h : k < n / unit) : unit * 2 ^ k ≤ multiple n := by
  have hpow : 2 ^ k ≤ 2 ^ (n / unit - 1) := Nat.pow_le_pow_right (by omega) (by omega)
  unfold multiple
  rw [if_neg (by omega)]
  exact Nat.mul_le_mul (by omega) hpow

theorem multiple_strictMono : StrictMono multiple := by
  intro m n hmn
  have hfields : m / unit ≤ n / unit := Nat.div_le_div_right hmn.le
  rcases hfields.lt_or_eq with hlt | heq
  · exact (multiple_lt m).trans_le (le_multiple hlt)
  · have hm := Nat.div_add_mod m unit
    have hn := Nat.div_add_mod n unit
    rw [heq] at hm
    unfold multiple
    rw [heq]
    split
    · exact hmn
    · exact Nat.mul_lt_mul_of_pos_right (by omega) (Nat.two_pow_pos _)

/-! ### Signs -/

theorem value_eq (x : Binary64) :
    x.value = if x.isNegative then -(multiple x.magnitude : ℤ) else multiple x.magnitude := by
  rw [multiple_magnitude, value]
  push_cast
  rfl

theorem toNat_bits (x : Binary64) :
    x.bits.toNat = (if x.isNegative then signBit else 0) + x.magnitude := by
  have hbits : x.bits.toNat < 2 * signBit := x.bits.toNat_lt
  unfold isNegative magnitude
  by_cases hsign : signBit ≤ x.bits.toNat
  · rw [if_pos (decide_eq_true hsign), Nat.mod_eq_sub_mod hsign, Nat.mod_eq_of_lt (by omega)]
    omega
  · rw [if_neg (by simpa using hsign), Nat.mod_eq_of_lt (by omega), Nat.zero_add]

theorem value_eq_zero_iff {x : Binary64} : x.value = 0 ↔ x.magnitude = 0 := by
  have hzero : multiple x.magnitude = 0 ↔ x.magnitude = 0 :=
    multiple_strictMono.injective.eq_iff' (by decide)
  rw [value_eq, ← hzero]
  split <;> omega

theorem comparisonKey_eq_zero_iff {x : Binary64} : x.comparisonKey = 0 ↔ x.magnitude = 0 := by
  unfold comparisonKey
  split
  · rename_i hzero
    exact iff_of_true rfl hzero
  · rename_i hpos
    refine iff_of_false (fun hbits => hpos ?_) hpos
    have hsum := x.toNat_bits
    rw [hbits, UInt64.toNat_zero] at hsum
    omega

theorem eq_of_value_eq {x y : Binary64} (hx : x.magnitude ≠ 0) (h : x.value = y.value) : x = y := by
  have hpos : 0 < multiple x.magnitude := by
    have := multiple_strictMono (Nat.pos_of_ne_zero hx)
    omega
  have hsign : x.isNegative = y.isNegative := by
    rw [value_eq, value_eq] at h
    cases hxs : x.isNegative <;> cases hys : y.isNegative <;> simp only [hxs, hys] at h ⊢ <;> grind
  have hmagnitude : x.magnitude = y.magnitude := by
    apply multiple_strictMono.injective
    rw [value_eq, value_eq, hsign] at h
    split at h <;> omega
  have hbits : x.bits = y.bits := by
    apply UInt64.toNat_inj.mp
    rw [toNat_bits x, toNat_bits y, hsign, hmagnitude]
  cases x
  cases y
  exact congrArg mk hbits

/-- Two numbers compare as equal exactly if they have one value. -/
theorem comparisonKey_eq_iff {x y : Binary64} :
    x.comparisonKey = y.comparisonKey ↔ x.value = y.value := by
  by_cases hx : x.magnitude = 0
  · rw [comparisonKey_eq_zero_iff.mpr hx, value_eq_zero_iff.mpr hx]
    constructor
    · intro h
      exact (value_eq_zero_iff.mpr (comparisonKey_eq_zero_iff.mp h.symm)).symm
    · intro h
      exact (comparisonKey_eq_zero_iff.mpr (value_eq_zero_iff.mp h.symm)).symm
  · constructor
    · intro h
      have hy : y.magnitude ≠ 0 := by
        rwa [ne_eq, ← comparisonKey_eq_zero_iff, ← h, comparisonKey_eq_zero_iff]
      unfold comparisonKey at h
      rw [if_neg hx, if_neg hy] at h
      unfold value isNegative parts magnitude
      rw [h]
    · intro h
      rw [eq_of_value_eq hx h]

end ComponentStyles.Binary64
