import Mathlib.Tactic.LinearCombination
import ScriptValue.Decimal.Shortest
import ScriptValue.Proofs.Double.Nearest

set_option autoImplicit false

namespace ScriptValue

namespace Decimal

def value (d : Decimal) : ℚ := d.coefficient * 10 ^ d.exponent

theorem denominator_pos (d : Decimal) : 0 < d.denominator := by
  unfold denominator
  positivity

theorem value_eq_div (d : Decimal) : (d.numerator : ℚ) / d.denominator = d.value := by
  have fraction := scaled_eq_div d.coefficient 10 (by decide) d.exponent
  rw [Nat.cast_ofNat] at fraction
  exact fraction.symm

theorem two_pow_le_ten_pow : 2 ^ 1024 ≤ 10 ^ 400 ∧ 2 ^ 1075 ≤ 10 ^ 400 := by decide +kernel

theorem overflow_of_value {d : Decimal} (large : (10 : ℚ) ^ (400 : ℤ) ≤ d.value) :
    Double.nearestMagnitude d.numerator d.denominator = Double.infiniteMagnitude := by
  apply Double.nearestMagnitude_overflow d.denominator_pos
  rw [value_eq_div]
  calc (2 : ℚ) ^ (1024 : ℤ) ≤ 10 ^ (400 : ℤ) := by exact_mod_cast two_pow_le_ten_pow.1
    _ ≤ d.value := large

theorem underflow_of_value {d : Decimal} (small : d.value < (10 : ℚ) ^ (-400 : ℤ)) :
    Double.nearestMagnitude d.numerator d.denominator = 0 := by
  apply Double.nearestMagnitude_underflow d.denominator_pos
  rw [value_eq_div]
  calc d.value < (10 : ℚ) ^ (-400 : ℤ) := small
    _ ≤ 2 ^ (-1075 : ℤ) := by
      rw [zpow_neg, zpow_neg, inv_le_inv₀ (by positivity) (by positivity)]
      exact_mod_cast two_pow_le_ten_pow.2

-- The two bounds agree with what rounding gives beyond them.
theorem nearestMagnitude_eq (d : Decimal) :
    d.nearestMagnitude = Double.nearestMagnitude d.numerator d.denominator := by
  unfold nearestMagnitude
  split
  case isTrue zero =>
    simp [numerator, zero]
  case isFalse nonzero =>
    have positive : (1 : ℚ) ≤ d.coefficient := by exact_mod_cast Nat.pos_of_ne_zero nonzero
    split
    case isTrue large =>
      symm
      apply overflow_of_value
      calc (10 : ℚ) ^ (400 : ℤ) ≤ 10 ^ d.exponent := zpow_le_zpow_right₀ (by norm_num) (by omega)
        _ ≤ d.value := le_mul_of_one_le_left (by positivity) positive
    split
    case isTrue small =>
      symm
      apply underflow_of_value
      have bits : (d.coefficient : ℚ) < 10 ^ (d.coefficient.log2 + 1) := by
        calc (d.coefficient : ℚ) < 2 ^ (d.coefficient.log2 + 1) := by
              exact_mod_cast Nat.lt_log2_self
          _ ≤ 10 ^ (d.coefficient.log2 + 1) := by gcongr; norm_num
      calc d.value < 10 ^ (d.coefficient.log2 + 1) * 10 ^ d.exponent := by
            unfold value
            gcongr
        _ = 10 ^ ((d.coefficient.log2 + 1 : ℕ) + d.exponent) := by
          rw [zpow_add₀ (by norm_num), zpow_natCast]
        _ ≤ 10 ^ (-400 : ℤ) := zpow_le_zpow_right₀ (by norm_num) (by push_cast; omega)
    rfl

theorem nearestMagnitude_congr {c d : Decimal} (same : c.value = d.value) :
    c.nearestMagnitude = d.nearestMagnitude := by
  rw [nearestMagnitude_eq, nearestMagnitude_eq]
  apply Double.nearestMagnitude_congr c.denominator_pos d.denominator_pos
  have hc := c.denominator_pos
  have hd := d.denominator_pos
  rw [← value_eq_div, ← value_eq_div, div_eq_div_iff (by positivity) (by positivity)] at same
  exact_mod_cast same

theorem nearest_congr (s : Bool) {c d : Decimal} (same : c.value = d.value) :
    nearest s c = nearest s d := by
  rw [nearest, nearest, nearestMagnitude_congr same]

theorem nearest_eq (negative : Bool) (d : Decimal) :
    nearest negative d = Double.nearest negative d.numerator d.denominator := by
  rw [nearest, nearestMagnitude_eq, Double.nearest]

theorem nearest_isNearest (negative : Bool) (d : Decimal) :
    (nearest negative d).IsNearest d.value := by
  have nearest := Double.nearest_isNearest negative d.numerator d.denominator_pos
  rwa [value_eq_div, ← nearest_eq] at nearest

theorem magnitude_nearest (negative : Bool) (d : Decimal) :
    (nearest negative d).magnitude = d.nearestMagnitude := by
  rw [nearest_eq, Double.magnitude_nearest, nearestMagnitude_eq]

theorem negative_nearest (negative : Bool) (d : Decimal) :
    (nearest negative d).negative = negative := by
  rw [nearest_eq, Double.negative_nearest]

theorem nearestMagnitude_mono {c d : Decimal} (less : c.value ≤ d.value) :
    c.nearestMagnitude ≤ d.nearestMagnitude := by
  have order := (nearest_isNearest false c).magnitude_le (nearest_isNearest false d) less
  rwa [magnitude_nearest, magnitude_nearest] at order

theorem value_ofBinary (m : ℕ) (e : ℤ) : (ofBinary m e).value = m * 2 ^ e := by
  unfold ofBinary value
  split
  case isTrue nonneg =>
    have exponent : e = (e.toNat : ℤ) := by omega
    conv_rhs => rw [exponent, zpow_natCast]
    simp
  case isFalse negative =>
    have exponent : e = -((-e).toNat : ℤ) := by omega
    have ten : (10 : ℚ) ^ e = 5 ^ e * 2 ^ e := by rw [← mul_zpow]; norm_num
    have five : (5 : ℚ) ^ (-e).toNat * 5 ^ e = 1 := by
      conv_lhs => rw [exponent]
      rw [neg_neg, Int.toNat_natCast, zpow_neg, zpow_natCast, mul_inv_cancel₀ (by positivity)]
    push_cast
    rw [ten]
    linear_combination (m : ℚ) * 2 ^ e * five

@[simp] theorem value_trim (d : Decimal) : d.trim.value = d.value := by
  fun_induction trim d with
  | case1 d h ih =>
    have whole : d.coefficient = d.coefficient / 10 * 10 := by omega
    rw [ih, value, value, zpow_add_one₀ (by norm_num)]
    conv_rhs => rw [whole]
    push_cast
    ring
  | case2 d h => rfl

-- Dropping digits is checked by reading back, and where nothing is dropped the decimal stays.
theorem dropDigits?_readsBack {tie : Tie} {magnitude n : ℕ} {d c : Decimal}
    (h : dropDigits? tie magnitude d n = some c) : c.nearestMagnitude = magnitude := by
  simp only [dropDigits?, readsBack] at h
  split at h <;> simp only [Option.some.injEq, reduceCtorEq] at h <;> subst h <;> simp_all
  split <;> assumption

theorem shorten_readsBack (tie : Tie) {magnitude : ℕ} {d : Decimal}
    (exact : d.nearestMagnitude = magnitude) (n : ℕ) :
    (d.shorten tie magnitude n).nearestMagnitude = magnitude := by
  induction n with
  | zero => exact exact
  | succ n ih =>
    rw [shorten]
    cases dropped : dropDigits? tie magnitude d (n + 1) with
    | none => exact ih
    | some c => exact dropDigits?_readsBack dropped

end Decimal

namespace Double

def expansion (x : Double) : Decimal := Decimal.ofBinary x.significand x.exponent

theorem value_expansion (x : Double) : x.expansion.value = x.absolute := by
  rw [expansion, Decimal.value_ofBinary, absolute]

theorem expansion_readsBack {x : Double} (finite : x.isFinite = true) :
    x.expansion.nearestMagnitude = x.magnitude := by
  rw [Decimal.nearestMagnitude_eq]
  apply nearestMagnitude_absolute finite (Decimal.denominator_pos _)
  rw [Decimal.value_eq_div, value_expansion]

theorem shortest_readsBack (tie : Tie) {x : Double} (finite : x.isFinite = true) :
    (x.shortest tie).nearestMagnitude = x.magnitude := by
  rw [shortest, Decimal.nearestMagnitude_congr (Decimal.value_trim _)]
  exact Decimal.shorten_readsBack tie (expansion_readsBack finite) _

end Double

end ScriptValue
