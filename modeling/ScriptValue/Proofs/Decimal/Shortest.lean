import ScriptValue.Proofs.Decimal.Significant

set_option autoImplicit false

namespace ScriptValue

namespace Decimal

section Length

variable (d : Decimal)

theorem length_digits_pos : 0 < d.digits.length := Nat.length_toDigits_pos

theorem length_digits_le_iff {k : ℕ} (positive : 0 < k) :
    d.digits.length ≤ k ↔ d.coefficient < 10 ^ k :=
  Nat.length_toDigits_le_iff (by decide) positive

theorem coefficient_lt : d.coefficient < 10 ^ d.digits.length :=
  (d.length_digits_le_iff d.length_digits_pos).1 le_rfl

variable {d}

theorem le_coefficient (positive : 0 < d.coefficient) :
    10 ^ (d.digits.length - 1) ≤ d.coefficient := by
  rcases Nat.eq_zero_or_pos (d.digits.length - 1) with one | more
  · rw [one, pow_zero]
    exact positive
  · rw [← not_lt, ← d.length_digits_le_iff more]
    omega

theorem value_lt : d.value < 10 ^ d.point := by
  have bound : (d.coefficient : ℚ) < 10 ^ d.digits.length := by exact_mod_cast d.coefficient_lt
  calc d.value < 10 ^ d.digits.length * 10 ^ d.exponent := by
        unfold value
        gcongr
    _ = 10 ^ d.point := by rw [← zpow_natCast, ← zpow_add₀ (by norm_num), point]

theorem le_value (positive : 0 < d.coefficient) : 10 ^ (d.point - 1) ≤ d.value := by
  have size := d.length_digits_pos
  have bound : (10 : ℚ) ^ (d.digits.length - 1) ≤ d.coefficient := by
    exact_mod_cast le_coefficient positive
  calc (10 : ℚ) ^ (d.point - 1) = 10 ^ (d.digits.length - 1) * 10 ^ d.exponent := by
        rw [← zpow_natCast, ← zpow_add₀ (by norm_num), point]
        congr 1
        omega
    _ ≤ d.value := by
        unfold value
        gcongr

theorem length_trim_le {k : ℕ} (positive : 0 < k) (bound : d.coefficient ≤ 10 ^ k) :
    d.trim.digits.length ≤ k := by
  fun_induction trim d with
  | case1 d h ih => exact ih ((Nat.div_le_self _ _).trans bound)
  | case2 d h =>
    rw [length_digits_le_iff _ positive]
    -- A power of ten would have been trimmed.
    refine lt_of_le_of_ne bound fun whole => h ?_
    rw [whole]
    exact ⟨by positivity, Nat.mod_eq_zero_of_dvd (dvd_pow_self 10 positive.ne')⟩

theorem trim_mod (nonzero : d.trim.coefficient ≠ 0) : d.trim.coefficient % 10 ≠ 0 := by
  fun_induction trim d with
  | case1 d h ih => exact ih nonzero
  | case2 d h => exact fun divides => h ⟨nonzero, divides⟩

end Length

section Grid

variable {d : Decimal} (n : ℕ)

theorem value_above : (d.above n).value = (d.below n).value + 10 ^ (d.exponent + n) := by
  rw [value, value, above, below]
  push_cast
  ring

theorem value_eq_below :
    d.value = (d.below n).value + (d.coefficient % 10 ^ n : ℕ) * 10 ^ d.exponent := by
  have parts : (d.coefficient : ℚ) =
      (d.coefficient / 10 ^ n : ℕ) * 10 ^ n + (d.coefficient % 10 ^ n : ℕ) := by
    exact_mod_cast (Nat.div_add_mod' d.coefficient (10 ^ n)).symm
  rw [value, value, below, zpow_add₀ (by norm_num), zpow_natCast]
  conv_lhs => rw [parts]
  ring

theorem value_below_le : (d.below n).value ≤ d.value := by
  rw [value_eq_below (d := d) n]
  exact le_add_of_nonneg_right (by positivity)

theorem value_lt_above : d.value < (d.above n).value := by
  have remainder : ((d.coefficient % 10 ^ n : ℕ) : ℚ) < 10 ^ n := by
    exact_mod_cast Nat.mod_lt d.coefficient (by positivity)
  rw [value_above, value_eq_below (d := d) n, zpow_add₀ (by norm_num), zpow_natCast]
  have step : (0 : ℚ) < 10 ^ d.exponent := by positivity
  nlinarith

variable {n}

theorem grid {c : Decimal} (positive : 0 < d.coefficient)
    (short : c.digits.length + n ≤ d.digits.length) :
    c.value ≤ (d.below n).value ∨ (d.above n).value ≤ c.value := by
  have size := c.length_digits_pos
  rcases le_or_gt (d.exponent + n) c.exponent with coarse | fine
  · obtain ⟨k, exponent⟩ := Int.le.dest coarse
    have whole : c.value = (c.coefficient * 10 ^ k : ℕ) * 10 ^ (d.exponent + n) := by
      rw [value, ← exponent, zpow_add₀ (by norm_num) (d.exponent + n) k, zpow_natCast]
      push_cast
      ring
    rw [whole, value, value, below, above]
    rcases Nat.lt_or_ge (d.coefficient / 10 ^ n) (c.coefficient * 10 ^ k) with above | below
    · right
      gcongr
      exact above
    · left
      gcongr
  · left
    have leading : 10 ^ (d.digits.length - n - 1) ≤ d.coefficient / 10 ^ n := by
      rw [Nat.le_div_iff_mul_le (by positivity), ← Nat.pow_add]
      exact (Nat.pow_le_pow_right (by decide) (by omega)).trans (le_coefficient positive)
    calc c.value ≤ 10 ^ c.point := value_lt.le
      _ ≤ 10 ^ ((d.digits.length - n - 1 : ℕ) + (d.exponent + n)) :=
          zpow_le_zpow_right₀ (by norm_num) (by rw [point]; omega)
      _ = (10 ^ (d.digits.length - n - 1) : ℕ) * 10 ^ (d.exponent + n) := by
          rw [zpow_add₀ (by norm_num), zpow_natCast]
          push_cast
          rfl
      _ ≤ (d.below n).value := by
          rw [value, below]
          gcongr

end Grid

section ReadsBack

variable {magnitude : ℕ} {a b c d : Decimal}

theorem reads_between (first : a.nearestMagnitude = magnitude)
    (last : c.nearestMagnitude = magnitude) (lower : a.value ≤ b.value)
    (upper : b.value ≤ c.value) : b.nearestMagnitude = magnitude := by
  apply le_antisymm
  · rw [← last]
    exact nearestMagnitude_mono upper
  · rw [← first]
    exact nearestMagnitude_mono lower

variable (exact : d.nearestMagnitude = magnitude) (positive : 0 < d.coefficient)

include exact positive

theorem neighbour_reads {n : ℕ} (short : c.digits.length + n ≤ d.digits.length)
    (reads : c.nearestMagnitude = magnitude) :
    c.value ≤ (d.below n).value ∧ (d.below n).nearestMagnitude = magnitude ∨
      (d.above n).value ≤ c.value ∧ (d.above n).nearestMagnitude = magnitude := by
  rcases grid positive short with before | after
  · exact .inl ⟨before, reads_between reads exact before (value_below_le n)⟩
  · exact .inr ⟨after, reads_between exact reads (value_lt_above n).le after⟩

theorem dropDigits?_ne_none (tie : Tie) {n : ℕ} (short : c.digits.length + n ≤ d.digits.length)
    (reads : c.nearestMagnitude = magnitude) : dropDigits? tie magnitude d n ≠ none := by
  unfold dropDigits?
  rcases neighbour_reads exact positive short reads with ⟨-, reads⟩ | ⟨-, reads⟩
  · cases above : readsBack magnitude (d.above n) <;> simp [readsBack, reads]
  · cases below : readsBack magnitude (d.below n) <;> simp [readsBack, reads]

end ReadsBack

section Closest

variable {tie : Tie} {magnitude n : ℕ} {c d r : Decimal}

theorem abs_below_sub :
    |(d.below n).value - d.value| = (d.coefficient % 10 ^ n : ℕ) * 10 ^ d.exponent := by
  rw [value_eq_below (d := d) n, sub_add_cancel_left, abs_neg, abs_of_nonneg (by positivity)]

theorem abs_above_sub :
    |(d.above n).value - d.value| = (10 ^ n - (d.coefficient % 10 ^ n : ℕ)) * 10 ^ d.exponent := by
  rw [abs_of_pos (sub_pos.2 (value_lt_above n)), value_above, value_eq_below (d := d) n,
    zpow_add₀ (by norm_num), zpow_natCast]
  ring

theorem prefersAbove_closer (tie : Tie) (d : Decimal) (n : ℕ) :
    if prefersAbove tie d n then |(d.above n).value - d.value| ≤ |(d.below n).value - d.value|
    else |(d.below n).value - d.value| ≤ |(d.above n).value - d.value| := by
  rw [abs_below_sub, abs_above_sub]
  split
  case isTrue above =>
    have half : 10 ^ n ≤ 2 * (d.coefficient % 10 ^ n) := by
      simp only [prefersAbove] at above
      split at above
      case isTrue middle => exact middle.ge
      case isFalse => exact (of_decide_eq_true above).le
    have bound : (10 : ℚ) ^ n ≤ 2 * (d.coefficient % 10 ^ n : ℕ) := by exact_mod_cast half
    gcongr
    linarith
  case isFalse below =>
    have half : 2 * (d.coefficient % 10 ^ n) ≤ 10 ^ n := by
      simp only [prefersAbove] at below
      split at below
      case isTrue middle => exact middle.le
      case isFalse => simpa using below
    have bound : 2 * ((d.coefficient % 10 ^ n : ℕ) : ℚ) ≤ 10 ^ n := by exact_mod_cast half
    gcongr
    linarith

theorem dropDigits?_spec (dropped : dropDigits? tie magnitude d n = some r) :
    (r = d.below n ∨ r = d.above n) ∧
      ((d.below n).nearestMagnitude = magnitude →
        |r.value - d.value| ≤ |(d.below n).value - d.value|) ∧
      ((d.above n).nearestMagnitude = magnitude →
        |r.value - d.value| ≤ |(d.above n).value - d.value|) := by
  have preferred := prefersAbove_closer tie d n
  simp only [dropDigits?, readsBack] at dropped
  split at dropped <;> simp only [Option.some.injEq, reduceCtorEq] at dropped <;> subst dropped
  case h_1 =>
    split at preferred
    case isTrue above =>
      rw [if_pos above]
      exact ⟨.inr rfl, fun _ => preferred, fun _ => le_rfl⟩
    case isFalse below =>
      rw [if_neg below]
      exact ⟨.inl rfl, fun _ => le_rfl, fun _ => preferred⟩
  case h_2 above => exact ⟨.inl rfl, fun _ => le_rfl, fun reads => by simp [reads] at above⟩
  case h_3 below _ => exact ⟨.inr rfl, fun reads => by simp [reads] at below, fun _ => le_rfl⟩

theorem dropDigits?_closest (exact : d.nearestMagnitude = magnitude) (positive : 0 < d.coefficient)
    (dropped : dropDigits? tie magnitude d n = some r)
    (short : c.digits.length + n ≤ d.digits.length) (reads : c.nearestMagnitude = magnitude) :
    |r.value - d.value| ≤ |c.value - d.value| := by
  obtain ⟨-, below, above⟩ := dropDigits?_spec dropped
  rcases neighbour_reads exact positive short reads with ⟨before, back⟩ | ⟨after, back⟩
  · refine (below back).trans ?_
    have lower := value_below_le (d := d) n
    rw [abs_of_nonpos (by linarith), abs_of_nonpos (by linarith)]
    linarith
  · refine (above back).trans ?_
    have upper := value_lt_above (d := d) n
    rw [abs_of_pos (by linarith), abs_of_pos (by linarith)]
    linarith

end Closest

theorem shorten_spec (tie : Tie) (magnitude : ℕ) (d : Decimal) (most : ℕ) :
    ∃ n ≤ most, (∀ m, n < m → m ≤ most → dropDigits? tie magnitude d m = none) ∧
      (n = 0 ∧ d.shorten tie magnitude most = d ∨
        dropDigits? tie magnitude d n = some (d.shorten tie magnitude most)) := by
  induction most with
  | zero => exact ⟨0, le_rfl, by omega, .inl ⟨rfl, rfl⟩⟩
  | succ most ih =>
    rw [shorten]
    cases dropped : dropDigits? tie magnitude d (most + 1) with
    | some r => exact ⟨most + 1, le_rfl, by omega, .inr dropped⟩
    | none =>
      obtain ⟨n, bound, beyond, result⟩ := ih
      refine ⟨n, by omega, fun m above below => ?_, result⟩
      rcases Nat.lt_or_eq_of_le below with inside | rfl
      · exact beyond m above (by omega)
      · exact dropped

end Decimal

namespace Double

variable {x : Double}

theorem expansion_coefficient_pos (nonzero : x.isZero = false) : 0 < x.expansion.coefficient := by
  have significand : 0 < x.significand := by
    rw [Nat.pos_iff_ne_zero, ne_eq, ← isZero_iff_significand, nonzero]
    exact Bool.false_ne_true
  unfold expansion Decimal.ofBinary
  split <;> positivity

theorem shortest_absolutely (x : Double) (tie : Tie) :
    x.absolutely.shortest tie = x.shortest tie := by
  simp only [shortest, significand, exponent, magnitude_absolutely]

theorem coefficient_ne_zero_of_reads (nonzero : x.isZero = false) {d : Decimal}
    (reads : d.nearestMagnitude = x.magnitude) : d.coefficient ≠ 0 := by
  intro zero
  rw [Decimal.nearestMagnitude, if_pos zero] at reads
  rw [isZero, ← reads] at nonzero
  cases nonzero

variable (finite : x.isFinite = true) (nonzero : x.isZero = false) (tie : Tie)

include finite nonzero

theorem shortest_coefficient_ne_zero : (x.shortest tie).coefficient ≠ 0 :=
  coefficient_ne_zero_of_reads nonzero (shortest_readsBack tie finite)

theorem significant_shortest : Decimal.Significant (x.shortest tie).digits := by
  have coefficient := shortest_coefficient_ne_zero finite nonzero tie
  exact (Decimal.significant_toDigits_iff (Nat.pos_of_ne_zero coefficient)).2
    (Decimal.trim_mod coefficient)

theorem point_of_reads {d : Decimal} (reads : d.nearestMagnitude = x.magnitude) :
    -400 < d.point ∧ d.point ≤ 400 := by
  have coefficient := coefficient_ne_zero_of_reads nonzero reads
  rw [Decimal.nearestMagnitude_eq] at reads
  constructor
  · by_contra low
    have small : d.value < 10 ^ (-400 : ℤ) :=
      Decimal.value_lt.trans_le (zpow_le_zpow_right₀ (by norm_num) (by omega))
    rw [Decimal.underflow_of_value small] at reads
    rw [isZero, ← reads] at nonzero
    cases nonzero
  · by_contra high
    have large : (10 : ℚ) ^ (400 : ℤ) ≤ d.value :=
      (zpow_le_zpow_right₀ (by norm_num) (by omega)).trans
        (Decimal.le_value (Nat.pos_of_ne_zero coefficient))
    rw [Decimal.overflow_of_value large] at reads
    rw [isFinite, ← reads] at finite
    exact absurd finite (by simp)

theorem shortest_spec (c : Decimal) (reads : c.nearestMagnitude = x.magnitude) :
    (x.shortest tie).digits.length ≤ c.digits.length ∧
      (c.digits.length ≤ (x.shortest tie).digits.length →
        |(x.shortest tie).value - x.absolute| ≤ |c.value - x.absolute|) := by
  have exact := expansion_readsBack finite
  have positive := expansion_coefficient_pos nonzero
  obtain ⟨n, bound, beyond, result⟩ := Decimal.shorten_spec tie x.magnitude x.expansion
    (x.expansion.digits.length - 1)
  have found : x.shortest tie = (x.expansion.shorten tie x.magnitude
    (x.expansion.digits.length - 1)).trim := rfl
  rw [← value_expansion, found, Decimal.value_trim]
  generalize x.expansion.shorten tie x.magnitude (x.expansion.digits.length - 1) = r at result
  generalize x.expansion = d at *
  have long := d.length_digits_pos
  have least : d.digits.length ≤ c.digits.length + n := by
    by_contra fewer
    have size := c.length_digits_pos
    have short : c.digits.length + (d.digits.length - c.digits.length) ≤ d.digits.length := by omega
    exact Decimal.dropDigits?_ne_none exact positive tie short reads
      (beyond _ (by omega) (by omega))
  have size : r.trim.digits.length ≤ d.digits.length - n := by
    apply Decimal.length_trim_le (by omega)
    rcases result with ⟨rfl, rfl⟩ | dropped
    · exact r.coefficient_lt.le
    · have quotient : d.coefficient / 10 ^ n < 10 ^ (d.digits.length - n) := by
        rw [Nat.div_lt_iff_lt_mul (by positivity), ← Nat.pow_add, Nat.sub_add_cancel (by omega)]
        exact d.coefficient_lt
      rcases (Decimal.dropDigits?_spec dropped).1 with rfl | rfl
      · exact quotient.le
      · exact quotient
  refine ⟨by omega, fun short => ?_⟩
  rcases result with ⟨-, rfl⟩ | dropped
  · rw [sub_self, abs_zero]
    exact abs_nonneg _
  · exact Decimal.dropDigits?_closest exact positive dropped (by omega) reads

end Double

end ScriptValue
