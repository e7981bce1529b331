import LintDispatch.Decimal.Binary64
import Mathlib.Algebra.Order.Field.Basic
import Mathlib.Data.Rat.Lemmas
import Mathlib.Tactic.FieldSimp
import Mathlib.Tactic.Linarith
import Mathlib.Tactic.Positivity

/-!
# The value of a double
A double stands for a rational number. The tests of a double decide what they say of that number:
`isInteger` whether it is an integer (`isInteger_iff`) and `ltNat` whether it lies below a natural
number (`ltNat_iff`).
-/

namespace LintDispatch.Binary64

/-- The number that a double stands for. -/
def value (x : Binary64) : ℚ :=
  (if x.negative then -1 else 1) * x.significand * 2 ^ x.exponent

theorem fraction_snd_pos (x : Binary64) : 0 < x.fraction.2 := by
  unfold fraction
  split
  · exact Nat.one_pos
  · exact Nat.two_pow_pos _

/-- The fraction is the number without its sign. -/
theorem value_eq_fraction (x : Binary64) :
    x.value = (if x.negative then -1 else 1) * ((x.fraction.1 : ℚ) / x.fraction.2) := by
  rw [value, mul_assoc]
  congr 1
  unfold fraction
  split
  case isTrue h =>
    obtain ⟨n, hn⟩ := Int.eq_ofNat_of_zero_le h
    rw [hn]
    simp
  case isFalse h =>
    obtain ⟨n, hn⟩ := Int.eq_ofNat_of_zero_le (a := -x.exponent) (by omega)
    rw [show x.exponent = -(n : Int) by omega]
    simp [div_eq_mul_inv]

theorem isInteger_iff (x : Binary64) : x.isInteger = true ↔ ∃ k : ℤ, x.value = k := by
  have hpos : (x.fraction.2 : ℚ) ≠ 0 := by
    exact_mod_cast Nat.ne_of_gt x.fraction_snd_pos
  have hdvd : x.isInteger = true ↔ x.fraction.2 ∣ x.fraction.1 := by
    rw [isInteger, beq_iff_eq, Nat.dvd_iff_mod_eq_zero]
  rw [hdvd, value_eq_fraction]
  constructor
  · rintro ⟨m, hm⟩
    rw [hm, Nat.cast_mul, mul_div_cancel_left₀ _ hpos]
    exact ⟨(if x.negative then -1 else 1) * m, by split <;> simp⟩
  · rintro ⟨k, hk⟩
    have hsign : |if x.negative then (-1 : ℚ) else 1| = 1 := by split <;> simp
    have habs : (x.fraction.1 : ℚ) / x.fraction.2 = (k.natAbs : ℚ) := by
      rw [Nat.cast_natAbs, Int.cast_abs, ← hk, abs_mul, hsign, one_mul, abs_of_nonneg]
      exact div_nonneg (Nat.cast_nonneg _) (Nat.cast_nonneg _)
    rw [div_eq_iff hpos] at habs
    exact ⟨k.natAbs, by exact_mod_cast habs.trans (mul_comm _ _)⟩

theorem ltNat_iff (x : Binary64) (n : Nat) : x.ltNat n = true ↔ x.value < n := by
  have hpos : (0 : ℚ) < x.fraction.2 := by exact_mod_cast x.fraction_snd_pos
  rw [value_eq_fraction]
  simp only [ltNat]
  split
  case isTrue =>
    rw [Bool.or_eq_true, decide_eq_true_iff, decide_eq_true_iff]
    have hzero : 0 < x.fraction.1 ↔ (0 : ℚ) < x.fraction.1 / x.fraction.2 := by
      rw [div_pos_iff_of_pos_right hpos, Nat.cast_pos]
    have hle : (0 : ℚ) ≤ x.fraction.1 / x.fraction.2 := by positivity
    rw [hzero]
    rcases Nat.eq_zero_or_pos n with rfl | hn
    · simp
    · have hn' : (0 : ℚ) < n := Nat.cast_pos.mpr hn
      exact iff_of_true (Or.inr hn) (by linarith)
  case isFalse =>
    rw [one_mul, div_lt_iff₀ hpos, decide_eq_true_iff]
    exact_mod_cast Iff.rfl

end LintDispatch.Binary64
