import ScriptValue.Double.Wrapping
import ScriptValue.Proofs.Double.Nearest
import ScriptValue.Proofs.Number.Exact

set_option autoImplicit false

namespace ScriptValue

namespace Double

theorem exponent_le {x : Double} (finite : x.isFinite = true) : x.exponent ≤ 971 := by
  rw [isFinite, decide_eq_true_eq, infiniteMagnitude] at finite
  rw [exponent]
  omega

theorem exists_absolute {k : ℕ} {e : ℤ} (short : k < 2 ^ 53) (least : -1074 ≤ e) (most : e ≤ 971) :
    ∃ y : Double, y.isFinite = true ∧ y.absolute = k * 2 ^ e := by
  rcases Nat.eq_zero_or_pos k with rfl | positive
  · exact ⟨zero, by decide, by simp [(absolute_eq_zero_iff zero).2 (by decide)]⟩
  -- The significand moves up until it has its leading bit or the exponent is the least one.
  have bits : k.log2 ≤ 52 := Nat.lt_succ_iff.1 ((Nat.log2_lt positive.ne').2 short)
  obtain ⟨j, inside, stop⟩ : ∃ j : ℕ, k.log2 + j ≤ 52 ∧ -1074 ≤ e - j ∧
      (e - j = -1074 ∨ k.log2 + j = 52) ∧ e - j ≤ 971 :=
    ⟨min (52 - k.log2) (e + 1074).toNat, by omega, by omega, by omega, by omega⟩
  have lower := Nat.mul_le_mul_right (2 ^ j) (Nat.log2_self_le positive.ne')
  have upper := Nat.mul_lt_mul_of_pos_right (Nat.lt_log2_self (n := k)) (Nat.two_pow_pos j)
  rw [← Nat.pow_add] at lower upper
  have bound : k * 2 ^ j < 2 ^ 53 :=
    upper.trans_le (Nat.pow_le_pow_right two_pos (by omega))
  have leading : e - j = -1074 ∨ 2 ^ 52 ≤ k * 2 ^ j := by
    refine stop.2.1.imp_right fun reached => ?_
    rwa [reached] at lower
  have below : (e - j + 1074).toNat * 2 ^ 52 + k * 2 ^ j < infiniteMagnitude := by
    rw [infiniteMagnitude]
    omega
  have size := magnitude_ofMagnitude false (m := (e - j + 1074).toNat * 2 ^ 52 + k * 2 ^ j)
    (below.trans (by decide))
  refine ⟨_, by rwa [isFinite, size, decide_eq_true_eq], ?_⟩
  rw [absolute_of_magnitude stop.1 leading bound.le size, Nat.cast_mul, Nat.cast_pow,
    Nat.cast_ofNat, mul_assoc, ← zpow_natCast, ← zpow_add₀ (by norm_num), add_sub_cancel]

theorem cast_signed (s : Bool) (n : ℕ) :
    ((signed s n : ℤ) : ℚ) = if s then -(n : ℚ) else n := by
  cases s <;> simp [signed]

section Nearest

variable (s : Bool) {num den : ℕ}

theorem quantity_nearest_exact {k : ℕ} {e : ℤ} (hd : 0 < den)
    (fraction : (num : ℚ) / den = k * 2 ^ e) (short : k < 2 ^ 53) (least : -1074 ≤ e)
    (most : e ≤ 971) :
    (nearest s num den).quantity = .finite (if s then -(num / den) else num / den) := by
  obtain ⟨y, finite, value⟩ := exists_absolute short least most
  have size : (nearest s num den).magnitude = y.magnitude := by
    rw [magnitude_nearest, nearestMagnitude_absolute finite hd (fraction.trans value.symm)]
  have bounded : (nearest s num den).isFinite = true := by rwa [isFinite, size]
  rw [quantity_of_isFinite bounded, absolute_congr size, value, ← fraction, negative_nearest]

theorem quantity_nearest_integer {n : ℕ} (hd : 0 < den) (fraction : (num : ℚ) / den = n)
    (short : n < 2 ^ 53) : (nearest s num den).quantity = .finite (signed s n : ℤ) := by
  have exact := quantity_nearest_exact s hd (e := 0) (fraction.trans (by simp)) short (by norm_num)
    (by norm_num)
  rw [exact, fraction, cast_signed]

end Nearest

theorem nearestScaled_fraction (m : ℕ) (e : ℤ) :
    ((m * 2 ^ e.toNat : ℕ) : ℚ) / (2 ^ (-e).toNat : ℕ) = m * 2 ^ e := by
  have fraction := scaled_eq_div m 2 (by decide) e
  rw [Nat.cast_ofNat] at fraction
  exact fraction.symm

theorem quantity_nearestScaled (s : Bool) {m n : ℕ} {e : ℤ} (whole : (m : ℚ) * 2 ^ e = n)
    (short : n < 2 ^ 53) : (nearestScaled s m e).quantity = .finite (signed s n : ℤ) :=
  quantity_nearest_integer s (Nat.two_pow_pos _) ((nearestScaled_fraction m e).trans whole) short

theorem quantity_trunc {x : Double} (finite : x.isFinite = true) :
    x.trunc.quantity = .finite (Parts.towardZero x.negative x.significand x.exponent : ℤ) := by
  have fits : ∃ (k : ℕ) (e : ℤ), k < 2 ^ 53 ∧ -1074 ≤ e ∧ e ≤ 971 ∧
      ((x.significand * 2 ^ x.exponent.toNat / 2 ^ (-x.exponent).toNat : ℕ) : ℚ) /
        ((1 : ℕ) : ℚ) = k * 2 ^ e := by
    rw [Nat.cast_one, div_one]
    rcases le_or_gt 0 x.exponent with nonneg | negative
    · have down : (-x.exponent).toNat = 0 := by omega
      have up : x.exponent = (x.exponent.toNat : ℤ) := by omega
      refine ⟨x.significand, x.exponent, x.significand_lt, x.exponent_ge, exponent_le finite, ?_⟩
      conv_rhs => rw [up, zpow_natCast]
      rw [down, pow_zero, Nat.div_one]
      push_cast
      rfl
    · have up : x.exponent.toNat = 0 := by omega
      refine ⟨x.significand / 2 ^ (-x.exponent).toNat, 0, ?_, by norm_num, by norm_num, ?_⟩
      · exact (Nat.div_le_self _ _).trans_lt x.significand_lt
      · rw [up, pow_zero, mul_one, zpow_zero, mul_one]
  obtain ⟨k, e, short, least, most, value⟩ := fits
  have exact := quantity_nearest_exact x.negative Nat.one_pos value short least most
  rw [Nat.cast_one, div_one] at exact
  rw [trunc, parts_of_isFinite finite]
  rwa [← cast_signed] at exact

theorem unscaled_eq (m : ℕ) {e k : ℤ} (below : k ≤ e) :
    (unscaled m e k : ℚ) * 2 ^ k = m * 2 ^ e := by
  have power : (2 : ℚ) ^ e = 2 ^ (e - k).toNat * 2 ^ k := by
    rw [← zpow_natCast, ← zpow_add₀ (by norm_num)]
    congr 1
    omega
  rw [unscaled, power]
  push_cast
  ring

section Integers

variable {x y : Double} {a b : ℤ}

theorem unscaled_of_quantity (h : x.quantity = .finite a) {k : ℤ} (below : k ≤ x.exponent) :
    (unscaled x.significand x.exponent k : ℚ) * 2 ^ k = a.natAbs ∧
      a = signed x.negative a.natAbs := by
  have size : x.absolute = a.natAbs := by
    rw [absolute_of_quantity h, Nat.cast_natAbs, Int.cast_abs]
  rw [unscaled_eq _ below]
  refine ⟨size, ?_⟩
  rw [quantity_of_isFinite (isFinite_of_quantity h), Quantity.finite.injEq, size,
    ← cast_signed] at h
  exact_mod_cast h.symm

theorem quantity_absolutely {q : ℚ} (h : x.quantity = .finite q) :
    x.absolutely.quantity = .finite |q| := by
  have finite := isFinite_of_quantity h
  have bounded : x.absolutely.isFinite = true := by rwa [isFinite, magnitude_absolutely]
  rw [quantity_of_isFinite bounded, negative_absolutely, absolute_congr x.magnitude_absolutely,
    absolute_of_quantity h]
  rfl

theorem quantity_add (hx : x.quantity = .finite a) (hy : y.quantity = .finite b)
    (short : (a + b).natAbs < 2 ^ 53) : (x.add y).quantity = .finite (a + b : ℤ) := by
  obtain ⟨left, signA⟩ := unscaled_of_quantity hx (min_le_left x.exponent y.exponent)
  obtain ⟨right, signB⟩ := unscaled_of_quantity hy (min_le_right x.exponent y.exponent)
  rw [add, parts_of_isFinite (isFinite_of_quantity hx), parts_of_isFinite (isFinite_of_quantity hy)]
  dsimp only
  generalize min x.exponent y.exponent = k at left right
  generalize unscaled x.significand x.exponent k = m at left
  generalize unscaled y.significand y.exponent k = n at right
  have scaled : ((signed x.negative m + signed y.negative n : ℤ) : ℚ) * 2 ^ k = (a + b : ℤ) := by
    conv_rhs => rw [signA, signB]
    rw [Int.cast_add, Int.cast_add, add_mul, cast_signed, cast_signed, cast_signed, cast_signed,
      ← left, ← right]
    split <;> split <;> ring
  generalize signed x.negative m + signed y.negative n = sum at scaled
  have positive : (0 : ℚ) < 2 ^ k := by positivity
  split
  case isTrue zero =>
    rw [zero, Int.cast_zero, zero_mul] at scaled
    rw [← scaled]
    exact quantity_of_isZero (by cases x.negative <;> cases y.negative <;> decide)
  case isFalse nonzero =>
    have size : (sum.natAbs : ℚ) * 2 ^ k = (a + b).natAbs := by
      rw [Nat.cast_natAbs, Nat.cast_natAbs, Int.cast_abs, Int.cast_abs, ← scaled, abs_mul,
        abs_of_pos positive]
    have sign : sum < 0 ↔ a + b < 0 := by
      rw [← Int.cast_lt_zero (R := ℚ), ← Int.cast_lt_zero (R := ℚ), ← scaled]
      exact (Rat.mul_neg_iff_of_pos_right positive).symm
    rw [quantity_nearestScaled _ size short]
    congr 2
    simp only [signed, sign, decide_eq_true_eq]
    split <;> omega

theorem signed_tmod (s : Bool) (m : ℕ) (b : ℤ) :
    (signed s m).tmod b = signed s (m % b.natAbs) := by
  have natural : (m : ℤ).tmod b = (m % b.natAbs : ℕ) := by
    rcases Int.natAbs_eq b with same | opposite
    · conv_lhs => rw [same]
      exact (Int.ofNat_tmod _ _).symm
    · conv_lhs => rw [opposite, Int.tmod_neg]
      exact (Int.ofNat_tmod _ _).symm
  cases s with
  | false => exact natural
  | true => simp only [signed, if_true, Int.neg_tmod, natural]

theorem scaled_mod {u : ℚ} (positive : 0 < u) {m n a b : ℕ} (left : (m : ℚ) * u = a)
    (right : (n : ℚ) * u = b) (nonzero : 0 < b) : ((m % n : ℕ) : ℚ) * u = (a % b : ℕ) := by
  have units : (m : ℚ) = n * (m / n : ℕ) + (m % n : ℕ) := by
    exact_mod_cast (Nat.div_add_mod m n).symm
  have split : (a : ℚ) = b * (m / n : ℕ) + (m % n : ℕ) * u := by
    rw [← left, ← right]
    conv_lhs => rw [units]
    ring
  have size : 0 < n := by
    rcases Nat.eq_zero_or_pos n with rfl | size
    · rw [Nat.cast_zero, zero_mul] at right
      exact absurd right (by positivity)
    · exact size
  have rest : 0 ≤ ((m % n : ℕ) : ℚ) * u := by positivity
  have below : ((m % n : ℕ) : ℚ) * u < b := by
    rw [← right]
    gcongr
    exact Nat.mod_lt m size
  obtain ⟨r, whole⟩ := Nat.exists_eq_add_of_le (m := b * (m / n)) (n := a) (by
    have bound : (b : ℚ) * (m / n : ℕ) ≤ a := by linarith
    exact_mod_cast bound)
  have value : ((m % n : ℕ) : ℚ) * u = r := by
    rw [whole] at split
    push_cast at split ⊢
    linarith
  have small : r < b := by
    rw [value] at below
    exact_mod_cast below
  rw [value, whole, Nat.mul_add_mod, Nat.mod_eq_of_lt small]

theorem quantity_rem (hx : x.quantity = .finite a) (hy : y.quantity = .finite b) (nonzero : b ≠ 0)
    (short : b.natAbs ≤ 2 ^ 53) : (x.rem y).quantity = .finite (a.tmod b) := by
  obtain ⟨left, signA⟩ := unscaled_of_quantity hx (min_le_left x.exponent y.exponent)
  obtain ⟨right, -⟩ := unscaled_of_quantity hy (min_le_right x.exponent y.exponent)
  have divisor : y.significand ≠ 0 := by
    intro zero
    rw [unscaled, zero, Nat.zero_mul, Nat.cast_zero, zero_mul] at right
    exact nonzero (Int.natAbs_eq_zero.1 (by exact_mod_cast right.symm))
  rw [rem, parts_of_isFinite (isFinite_of_quantity hx), parts_of_isFinite (isFinite_of_quantity hy)]
  dsimp only
  rw [if_neg divisor]
  generalize min x.exponent y.exponent = k at left right
  generalize unscaled x.significand x.exponent k = m at left
  generalize unscaled y.significand y.exponent k = n at right
  have size := scaled_mod (by positivity) left right (Int.natAbs_pos.2 nonzero)
  have small : a.natAbs % b.natAbs < 2 ^ 53 :=
    (Nat.mod_lt _ (Int.natAbs_pos.2 nonzero)).trans_le short
  rw [quantity_nearestScaled _ size small]
  conv_rhs => rw [signA, signed_tmod]

theorem rank_lt_iff {p q : ℚ} (hx : x.quantity = .finite p) (hy : y.quantity = .finite q) :
    x.rank < y.rank ↔ p < q := by
  rw [quantity_of_isFinite (isFinite_of_quantity hx), Quantity.finite.injEq] at hx
  rw [quantity_of_isFinite (isFinite_of_quantity hy), Quantity.finite.injEq] at hy
  have nonnegX := x.absolute_nonneg
  have nonnegY := y.absolute_nonneg
  have zeroX := x.absolute_eq_zero_iff
  have zeroY := y.absolute_eq_zero_iff
  rw [isZero, beq_iff_eq] at zeroX zeroY
  rw [← hx, ← hy, rank, rank, signed, signed]
  cases x.negative <;> cases y.negative
  case false.false => simp [absolute_lt_iff]
  case true.true => simp [absolute_lt_iff]
  case false.true =>
    simp only [Bool.false_eq_true, if_false, if_true]
    constructor
    · omega
    · intro less
      linarith
  case true.false =>
    simp only [Bool.false_eq_true, if_false, if_true]
    constructor
    · intro less
      by_contra large
      have none := zeroX.1 (by linarith)
      have nothing := zeroY.1 (by linarith)
      omega
    · intro less
      by_contra large
      have none := zeroX.2 (by omega)
      have nothing := zeroY.2 (by omega)
      linarith

theorem isNaN_of_quantity {q : ℚ} (h : x.quantity = .finite q) : x.isNaN = false :=
  not_isNaN_of_isFinite (isFinite_of_quantity h)

theorem below_iff {p q : ℚ} (hx : x.quantity = .finite p) (hy : y.quantity = .finite q) :
    x.below y = true ↔ p < q := by
  simp [below, isNaN_of_quantity hx, isNaN_of_quantity hy, rank_lt_iff hx hy]

theorem atMost_iff {p q : ℚ} (hx : x.quantity = .finite p) (hy : y.quantity = .finite q) :
    x.atMost y = true ↔ p ≤ q := by
  simp [atMost, isNaN_of_quantity hx, isNaN_of_quantity hy, ← not_lt, rank_lt_iff hy hx]

theorem quantity_zero : zero.quantity = .finite (0 : ℤ) := by
  rw [Int.cast_zero]
  exact quantity_of_isZero (by decide)

theorem quantity_remEuclid (hx : x.quantity = .finite a) (hy : y.quantity = .finite b)
    (nonzero : b ≠ 0) (short : b.natAbs ≤ 2 ^ 53) :
    (x.remEuclid y).quantity = .finite (a % b : ℤ) := by
  have remainder := quantity_rem hx hy nonzero short
  have order := below_iff remainder quantity_zero
  have moved := Int.emod_eq_tmod (a := a) (b := b)
  have lower := Int.emod_nonneg a nonzero
  have upper := Int.emod_lt_abs a nonzero
  rw [Int.abs_eq_natAbs] at upper
  rw [Int.cast_lt] at order
  simp only [remEuclid]
  split
  case isTrue negative =>
    rw [order] at negative
    have divisor : y.absolutely.quantity = .finite (b.natAbs : ℤ) := by
      rw [quantity_absolutely hy, ← Int.abs_eq_natAbs, Int.cast_abs]
    have sum : a.tmod b + b.natAbs = a % b := by
      split at moved <;> omega
    rw [quantity_add remainder divisor (by omega), sum]
  case isFalse nonneg =>
    rw [order] at nonneg
    have same : a.tmod b = a % b := by
      split at moved <;> omega
    rw [remainder, same]

theorem clipUnsigned_of_quantity {n : ℤ} (h : x.quantity = .finite n) (nonneg : 0 ≤ n)
    (bounded : n < 2 ^ 32) : x.parts.clipUnsigned = UInt32.ofNat n.toNat := by
  have whole := (integer?_eq_some_iff x n).2 h
  rw [integer?, parts_of_isFinite (isFinite_of_quantity h), Parts.integer?] at whole
  rw [parts_of_isFinite (isFinite_of_quantity h), Parts.clipUnsigned]
  split at whole
  case isTrue =>
    rw [Option.some.inj whole]
    congr 1
    omega
  case isFalse => cases whole

theorem quantity_modulus : modulus.quantity = .finite (2 ^ 32 : ℤ) := by
  decide +kernel

end Integers

theorem wrap_eq {x : Double} (finite : x.isFinite = true) :
    x.wrap = UInt32.ofInt (Parts.towardZero x.negative x.significand x.exponent) := by
  have whole := quantity_trunc finite
  generalize Parts.towardZero x.negative x.significand x.exponent = n at whole
  have modulus := quantity_modulus
  have wrapped : UInt32.ofInt n = UInt32.ofNat (n % 2 ^ 32).toNat := rfl
  simp only [wrap]
  split
  case isTrue inside =>
    rw [Bool.and_eq_true, atMost_iff quantity_zero whole, below_iff whole modulus,
      Int.cast_le] at inside
    have bounded : n < 2 ^ 32 := by exact_mod_cast inside.2
    rw [clipUnsigned_of_quantity whole inside.1 bounded, wrapped,
      Int.emod_eq_of_lt inside.1 bounded]
  case isFalse =>
    have remainder := quantity_remEuclid whole (b := 2 ^ 32) (by exact_mod_cast modulus) (by decide)
      (by decide)
    rw [wrapped]
    exact clipUnsigned_of_quantity remainder (Int.emod_nonneg _ (by decide))
      (Int.emod_lt_of_pos _ (by decide))

end Double

end ScriptValue
