import Mathlib.Data.Int.Log
import Mathlib.Data.Rat.Floor
import ScriptValue.Proofs.Double.Quantity

set_option autoImplicit false

namespace ScriptValue

theorem halfEven_congr {a b c d : ℕ} (hb : 0 < b) (hd : 0 < d) (same : a * d = c * b) :
    halfEven a b = halfEven c d := by
  have quotient : a / b = c / d := by
    rw [← Nat.mul_div_mul_right a b hd, ← Nat.mul_div_mul_right c d hb, same, Nat.mul_comm b d]
  have remainder : a % b * d = c % d * b := by
    rw [← Nat.mul_mod_mul_right, ← Nat.mul_mod_mul_right, same, Nat.mul_comm b d]
  have below : 2 * (a % b) < b ↔ 2 * (c % d) < d := by
    rw [← Nat.mul_lt_mul_right hd, ← Nat.mul_lt_mul_right (b := 2 * (c % d)) hb, Nat.mul_assoc,
      remainder, Nat.mul_assoc, Nat.mul_comm b d]
  have above : b < 2 * (a % b) ↔ d < 2 * (c % d) := by
    rw [← Nat.mul_lt_mul_right hd, ← Nat.mul_lt_mul_right (b := d) hb, Nat.mul_assoc, remainder,
      Nat.mul_assoc, Nat.mul_comm b d]
  simp only [halfEven, quotient, below, above]

theorem halfEven_mul_self (q : ℕ) {den : ℕ} (positive : 0 < den) : halfEven (q * den) den = q := by
  simp [halfEven, positive]

theorem halfEven_eq_zero {num den : ℕ} (small : 2 * num < den) : halfEven num den = 0 := by
  have below : num < den := by omega
  simp [halfEven, Nat.div_eq_of_lt below, Nat.mod_eq_of_lt below, small]

theorem div_le_halfEven (num den : ℕ) : num / den ≤ halfEven num den := by
  simp only [halfEven]
  split
  · exact Nat.le_refl _
  · split <;> omega

theorem atLeastPow_iff {num den : ℕ} (positive : 0 < den) (k : ℤ) :
    atLeastPow num den k = true ↔ (2 : ℚ) ^ k ≤ (num : ℚ) / den := by
  have power := zpow_eq_div 2 (by decide) k
  push_cast at power
  rw [atLeastPow, decide_eq_true_eq, power, div_le_div_iff₀ (by positivity) (by positivity),
    Nat.mul_comm den]
  norm_cast

theorem log_eq_iff {q : ℚ} (positive : 0 < q) (k : ℤ) :
    Int.log 2 q = k ↔ (2 : ℚ) ^ k ≤ q ∧ q < 2 ^ (k + 1) := by
  constructor
  · rintro rfl
    exact ⟨by exact_mod_cast Int.zpow_log_le_self (by decide) positive,
      by exact_mod_cast Int.lt_zpow_succ_log_self (b := 2) (by decide) q⟩
  · rintro ⟨lower, upper⟩
    have atLeast := (Int.zpow_le_iff_le_log (b := 2) (by decide) positive).1
      (by exact_mod_cast lower)
    have below := (Int.lt_zpow_iff_log_lt (b := 2) (by decide) positive).1 (by exact_mod_cast upper)
    omega

theorem floorLog2_eq_log {num den : ℕ} (hn : 0 < num) (hd : 0 < den) :
    floorLog2 num den = Int.log 2 ((num : ℚ) / den) := by
  have numLower : (2 : ℚ) ^ num.log2 ≤ num := by exact_mod_cast Nat.log2_self_le hn.ne'
  have numUpper : (num : ℚ) < 2 ^ (num.log2 + 1) := by exact_mod_cast Nat.lt_log2_self
  have denLower : (2 : ℚ) ^ den.log2 ≤ den := by exact_mod_cast Nat.log2_self_le hd.ne'
  have denUpper : (den : ℚ) < 2 ^ (den.log2 + 1) := by exact_mod_cast Nat.lt_log2_self
  have positive : (0 : ℚ) < num / den := by positivity
  have power (a b : ℕ) : (2 : ℚ) ^ ((a : ℤ) - (b : ℤ)) = 2 ^ a / 2 ^ b :=
    zpow_natCast_sub_natCast₀ (by norm_num) a b
  symm
  simp only [floorLog2]
  split
  case isTrue h =>
    refine (log_eq_iff positive _).2 ⟨(atLeastPow_iff hd _).1 h, ?_⟩
    have exponent : (num.log2 : ℤ) - den.log2 + 1 = (num.log2 + 1 : ℕ) - (den.log2 : ℕ) := by
      push_cast; ring
    rw [exponent, power, div_lt_div_iff₀ (by positivity) (by positivity)]
    calc (num : ℚ) * 2 ^ den.log2 ≤ num * den := by gcongr
      _ < 2 ^ (num.log2 + 1) * den := by gcongr
  case isFalse h =>
    rw [atLeastPow_iff hd, not_le] at h
    refine (log_eq_iff positive _).2 ⟨?_, by simpa using h⟩
    have exponent : (num.log2 : ℤ) - den.log2 - 1 = (num.log2 : ℕ) - (den.log2 + 1 : ℕ) := by
      push_cast; ring
    rw [exponent, power, div_le_div_iff₀ (by positivity) (by positivity)]
    calc (2 : ℚ) ^ num.log2 * den ≤ num * den := by gcongr
      _ ≤ num * 2 ^ (den.log2 + 1) := by gcongr

namespace Double

@[simp] theorem nearestMagnitude_zero (den : ℕ) : nearestMagnitude 0 den = 0 := by
  simp [nearestMagnitude]

theorem nearestMagnitude_natural_ne_zero {n : ℕ} (positive : 0 < n) : nearestMagnitude n 1 ≠ 0 := by
  have exponent : -53 ≤ spacing n 1 := by
    have one : (1 : ℕ).log2 = 0 := by decide
    simp only [spacing, floorLog2, one]
    split <;> omega
  simp only [nearestMagnitude, positive.ne', if_false, infiniteMagnitude]
  omega

theorem nearestMagnitude_congr {a b c d : ℕ} (hb : 0 < b) (hd : 0 < d) (same : a * d = c * b) :
    nearestMagnitude a b = nearestMagnitude c d := by
  rcases Nat.eq_zero_or_pos a with rfl | ha
  · have zero : c = 0 := by
      rw [Nat.zero_mul] at same
      exact (Nat.mul_eq_zero.1 same.symm).resolve_right hb.ne'
    rw [zero, nearestMagnitude_zero, nearestMagnitude_zero]
  · have hc : 0 < c := by
      apply Nat.pos_of_mul_pos_right (b := b)
      rw [← same]
      exact Nat.mul_pos ha hd
    have fraction : (a : ℚ) / b = c / d := by
      rw [div_eq_div_iff (by positivity) (by positivity)]
      exact_mod_cast same
    have exponent : spacing a b = spacing c d := by
      rw [spacing, spacing, floorLog2_eq_log ha hb, floorLog2_eq_log hc hd, fraction]
    have scaled : a * 2 ^ (-spacing c d).toNat * (d * 2 ^ (spacing c d).toNat) =
        c * 2 ^ (-spacing c d).toNat * (b * 2 ^ (spacing c d).toNat) := by
      rw [Nat.mul_mul_mul_comm, same, Nat.mul_mul_mul_comm]
    simp only [nearestMagnitude, ha.ne', hc.ne', if_false, exponent]
    rw [halfEven_congr (by positivity) (by positivity) scaled]

-- The significand is below the next power of two, and has its leading bit unless the exponent is
-- the least one.
theorem spacing_eq {m : ℕ} {e : ℤ} {num den : ℕ} (hm : 0 < m) (hd : 0 < den)
    (fraction : (num : ℚ) / den = m * 2 ^ e) (short : m < 2 ^ 53) (least : -1074 ≤ e)
    (leading : e = -1074 ∨ 2 ^ 52 ≤ m) : spacing num den = e := by
  have positive : (0 : ℚ) < num / den := by rw [fraction]; positivity
  have hn : 0 < num := by
    rcases Nat.eq_zero_or_pos num with rfl | hn
    · simp at positive
    · exact hn
  have upper : Int.log 2 ((num : ℚ) / den) < 53 + e := by
    rw [← Int.lt_zpow_iff_log_lt (by decide) positive, fraction]
    push_cast
    rw [zpow_add₀ (by norm_num)]
    gcongr
    exact_mod_cast short
  rw [spacing, floorLog2_eq_log hn hd]
  rcases leading with rfl | leading
  · omega
  · have lower : 52 + e ≤ Int.log 2 ((num : ℚ) / den) := by
      rw [← Int.zpow_le_iff_le_log (by decide) positive, fraction]
      push_cast
      rw [zpow_add₀ (by norm_num)]
      gcongr
      exact_mod_cast leading
    omega

theorem nearestMagnitude_absolute {x : Double} (finite : x.isFinite = true) {num den : ℕ}
    (hd : 0 < den) (fraction : (num : ℚ) / den = x.absolute) :
    nearestMagnitude num den = x.magnitude := by
  by_cases zero : x.isZero = true
  · rw [(absolute_eq_zero_iff x).2 zero, div_eq_zero_iff] at fraction
    have nothing : num = 0 := by
      rcases fraction with h | h
      · exact_mod_cast h
      · exact absurd h (by positivity)
    rw [nothing, nearestMagnitude_zero]
    exact (beq_iff_eq.1 zero).symm
  · have hm : 0 < x.significand := Nat.pos_of_ne_zero fun h => zero ((isZero_iff_significand x).2 h)
    have exponent := spacing_eq hm hd fraction x.significand_lt x.exponent_ge x.leading_bit
    have hn : num ≠ 0 := by
      rintro rfl
      rw [absolute, Nat.cast_zero, zero_div] at fraction
      exact absurd fraction.symm (by positivity)
    have quotient : num * 2 ^ (-x.exponent).toNat =
        x.significand * (den * 2 ^ x.exponent.toNat) := by
      rw [absolute_eq_div, div_eq_div_iff (by positivity) (by positivity)] at fraction
      have whole : num * 2 ^ (-x.exponent).toNat = x.significand * 2 ^ x.exponent.toNat * den := by
        exact_mod_cast fraction
      rw [whole]
      ring
    simp only [nearestMagnitude, hn, if_false, exponent, quotient]
    rw [halfEven_mul_self _ (by positivity), ← magnitude_eq]
    exact Nat.min_eq_left (of_decide_eq_true finite).le

theorem nearestMagnitude_overflow {num den : ℕ} (hd : 0 < den)
    (large : (2 : ℚ) ^ (1024 : ℤ) ≤ num / den) : nearestMagnitude num den = infiniteMagnitude := by
  have positive : (0 : ℚ) < num / den := lt_of_lt_of_le (by positivity) large
  have hn : 0 < num := by
    rcases Nat.eq_zero_or_pos num with rfl | hn
    · simp at positive
    · exact hn
  have exponent := floorLog2_eq_log hn hd
  have lower := ((log_eq_iff positive _).1 exponent.symm).1
  have atLeast : 1024 ≤ floorLog2 num den := by
    rw [exponent, ← Int.zpow_le_iff_le_log (by decide) positive]
    exact_mod_cast large
  obtain ⟨k, hk⟩ : ∃ k : ℕ, spacing num den = k :=
    ⟨(spacing num den).toNat, by rw [spacing]; omega⟩
  have power : floorLog2 num den = (52 + k : ℕ) := by
    rw [spacing] at hk
    omega
  have quotient : 2 ^ 52 ≤ num / (den * 2 ^ k) := by
    rw [power, zpow_natCast, le_div_iff₀ (by positivity)] at lower
    rw [Nat.le_div_iff_mul_le (by positivity), Nat.mul_left_comm, ← Nat.pow_add, Nat.mul_comm]
    exact_mod_cast lower
  have rounded := Nat.le_trans quotient (div_le_halfEven num (den * 2 ^ k))
  have field : 972 ≤ k := by omega
  have shifted : ((k : ℤ) + 1074).toNat = k + 1074 := by omega
  have power52 : infiniteMagnitude ≤ (k + 1074) * 2 ^ 52 + halfEven num (den * 2 ^ k) := by
    simp only [infiniteMagnitude]
    omega
  simpa [nearestMagnitude, hn.ne', hk, shifted] using power52

theorem nearestMagnitude_underflow {num den : ℕ} (hd : 0 < den)
    (small : (num : ℚ) / den < (2 : ℚ) ^ (-1075 : ℤ)) : nearestMagnitude num den = 0 := by
  rcases Nat.eq_zero_or_pos num with rfl | hn
  · exact nearestMagnitude_zero den
  · have positive : (0 : ℚ) < num / den := by positivity
    have below : floorLog2 num den < -1075 := by
      rw [floorLog2_eq_log hn hd, ← Int.lt_zpow_iff_log_lt (by decide) positive]
      exact_mod_cast small
    have exponent : spacing num den = -1074 := by
      rw [spacing]
      omega
    have half : 2 * (num * 2 ^ 1074) < den := by
      have power : (2 : ℚ) ^ (-1075 : ℤ) = 1 / (2 * 2 ^ 1074) := by
        rw [show (-1075 : ℤ) = -((1074 + 1 : ℕ) : ℤ) from rfl, zpow_neg, zpow_natCast, pow_succ',
          one_div]
      rw [power, div_lt_div_iff₀ (by positivity) (by positivity), one_mul] at small
      rw [Nat.mul_left_comm]
      exact_mod_cast small
    have shift : (-(-1074 : ℤ)).toNat = 1074 := rfl
    have unshifted : (-1074 : ℤ).toNat = 0 := rfl
    simp only [nearestMagnitude, hn.ne', if_false, exponent, shift, unshifted, pow_zero, mul_one,
      halfEven_eq_zero half]
    rfl

theorem magnitude_inj {x y : Double} (hx : x.isFinite = true) (hy : y.isFinite = true)
    (same : x.absolute = y.absolute) : x.magnitude = y.magnitude := by
  have hd : 0 < 2 ^ (-x.exponent).toNat := by positivity
  rw [← nearestMagnitude_absolute hx hd x.absolute_eq_div.symm,
    nearestMagnitude_absolute hy hd (same ▸ x.absolute_eq_div.symm)]

end Double

end ScriptValue
