import ScriptValue.Proofs.Double.Rounding

set_option autoImplicit false

namespace ScriptValue

theorem div_eq_quotient_add (num den : ℕ) (positive : 0 < den) :
    (num : ℚ) / den = (num / den : ℕ) + (num % den : ℕ) / den := by
  have whole : (num : ℚ) = den * (num / den : ℕ) + (num % den : ℕ) := by
    exact_mod_cast (Nat.div_add_mod num den).symm
  conv_lhs => rw [whole]
  field_simp

theorem halfEven_cases (num den : ℕ) :
    (halfEven num den = num / den ∧ 2 * (num % den) ≤ den) ∨
    (halfEven num den = num / den + 1 ∧ den ≤ 2 * (num % den)) := by
  unfold halfEven
  dsimp only
  split
  case isTrue below => exact .inl ⟨rfl, by omega⟩
  split
  case isTrue above => exact .inr ⟨rfl, by omega⟩
  case isFalse below above =>
    rcases Nat.mod_two_eq_zero_or_one (num / den) with even | odd
    · exact .inl ⟨by omega, by omega⟩
    · exact .inr ⟨by omega, by omega⟩

theorem halfEven_error (num : ℕ) {den : ℕ} (positive : 0 < den) :
    |(halfEven num den : ℚ) - num / den| ≤ 1 / 2 := by
  have size : (0 : ℚ) < den := by exact_mod_cast positive
  have remainder : ((num % den : ℕ) : ℚ) / den < 1 := by
    rw [div_lt_one size]
    exact_mod_cast Nat.mod_lt num positive
  have nonneg : (0 : ℚ) ≤ ((num % den : ℕ) : ℚ) / den := by positivity
  rw [div_eq_quotient_add num den positive, abs_le]
  rcases halfEven_cases num den with ⟨value, small⟩ | ⟨value, large⟩
  · have half : ((num % den : ℕ) : ℚ) / den ≤ 1 / 2 := by
      rw [div_le_div_iff₀ size two_pos]
      exact_mod_cast (by omega : num % den * 2 ≤ 1 * den)
    rw [value]
    constructor <;> linarith
  · have half : 1 / 2 ≤ ((num % den : ℕ) : ℚ) / den := by
      rw [div_le_div_iff₀ two_pos size]
      exact_mod_cast (by omega : 1 * den ≤ num % den * 2)
    rw [value]
    push_cast
    constructor <;> linarith

theorem halfEven_even (num : ℕ) {den : ℕ} (positive : 0 < den)
    (tie : |(halfEven num den : ℚ) - num / den| = 1 / 2) : halfEven num den % 2 = 0 := by
  have size : (0 : ℚ) < den := by exact_mod_cast positive
  have remainder : ((num % den : ℕ) : ℚ) / den < 1 := by
    rw [div_lt_one size]
    exact_mod_cast Nat.mod_lt num positive
  have nonneg : (0 : ℚ) ≤ ((num % den : ℕ) : ℚ) / den := by positivity
  have half : ((num % den : ℕ) : ℚ) / den = 1 / 2 := by
    rw [div_eq_quotient_add num den positive] at tie
    rcases halfEven_cases num den with ⟨value, _⟩ | ⟨value, _⟩
    · rw [value, sub_add_cancel_left, abs_neg, abs_of_nonneg nonneg] at tie
      exact tie
    · rw [value, Nat.cast_succ, add_sub_add_left_eq_sub, abs_of_pos (by linarith)] at tie
      linarith
  rw [div_eq_div_iff size.ne' two_ne_zero] at half
  have middle : num % den * 2 = 1 * den := by exact_mod_cast half
  unfold halfEven
  dsimp only
  rw [if_neg (by omega), if_neg (by omega)]
  omega

namespace Double

/-- What a double is to a fraction that rounds to it, apart from the sign. -/
structure IsNearest (x : Double) (q : ℚ) : Prop where
  number : x.isNaN = false
  closest (y : Double) : y.isNaN = false → |x.absolute - q| ≤ |y.absolute - q|
  even (y : Double) : y.isNaN = false → |y.absolute - q| = |x.absolute - q| →
    y.magnitude = x.magnitude ∨ x.magnitude % 2 = 0

theorem absolute_congr {x y : Double} (same : x.magnitude = y.magnitude) :
    x.absolute = y.absolute := by
  simp only [absolute, significand, exponent, same]

theorem IsNearest.congr {x y : Double} (same : x.magnitude = y.magnitude) {q : ℚ}
    (nearest : y.IsNearest q) : x.IsNearest q where
  number := by rw [isNaN, same, ← isNaN, nearest.number]
  closest z number := by
    rw [absolute_congr same]
    exact nearest.closest z number
  even z number := by
    rw [absolute_congr same, same]
    exact nearest.even z number

theorem absolute_lt {x y : Double} (less : x.magnitude < y.magnitude) :
    x.absolute < y.absolute := by
  have sizeX := x.magnitude_eq
  have sizeY := y.magnitude_eq
  have leastX := x.exponent_ge
  have leastY := y.exponent_ge
  have shortX := x.significand_lt
  have shortY := y.significand_lt
  rcases lt_trichotomy x.exponent y.exponent with below | same | above
  · have leading : 2 ^ 52 ≤ y.significand := y.leading_bit.resolve_left (by omega)
    calc x.absolute < 2 ^ 53 * 2 ^ x.exponent := by
          unfold absolute
          gcongr
          exact_mod_cast shortX
      _ = 2 ^ 52 * 2 ^ (x.exponent + 1) := by
          rw [zpow_add_one₀ (by norm_num)]
          ring
      _ ≤ 2 ^ 52 * 2 ^ y.exponent := by
          gcongr
          · norm_num
          · omega
      _ ≤ y.absolute := by
          unfold absolute
          gcongr
          exact_mod_cast leading
  · have significands : x.significand < y.significand := by
      rw [same] at sizeX
      omega
    unfold absolute
    rw [same]
    gcongr
  · have leading : 2 ^ 52 ≤ x.significand := x.leading_bit.resolve_left (by omega)
    omega

theorem absolute_lt_iff {x y : Double} :
    x.absolute < y.absolute ↔ x.magnitude < y.magnitude := by
  refine ⟨fun less => ?_, absolute_lt⟩
  have size : y.absolute = x.absolute ∨ y.absolute < x.absolute ∨ x.magnitude < y.magnitude := by
    rcases lt_trichotomy x.magnitude y.magnitude with below | same | above
    · exact .inr (.inr below)
    · exact .inl (absolute_congr same).symm
    · exact .inr (.inl (absolute_lt above))
  rcases size with same | above | below
  · exact absurd less (by rw [same]; exact lt_irrefl _)
  · exact absurd less above.asymm
  · exact below

theorem magnitude_eq_of_absolute {x y : Double} (same : x.absolute = y.absolute) :
    x.magnitude = y.magnitude := by
  have left : ¬x.magnitude < y.magnitude := by simp [← absolute_lt_iff, same]
  have right : ¬y.magnitude < x.magnitude := by simp [← absolute_lt_iff, same]
  omega

theorem absolute_of_magnitude {x : Double} {e : ℤ} {k : ℕ} (least : -1074 ≤ e)
    (leading : e = -1074 ∨ 2 ^ 52 ≤ k) (short : k ≤ 2 ^ 53)
    (size : x.magnitude = (e + 1074).toNat * 2 ^ 52 + k) : x.absolute = k * 2 ^ e := by
  rcases Nat.lt_or_eq_of_le short with below | rfl
  · have exponent : x.exponent = e := by
      simp only [exponent, size]
      omega
    have significand : x.significand = k := by
      simp only [significand, size]
      split <;> omega
    rw [absolute, exponent, significand]
  · have exponent : x.exponent = e + 1 := by
      simp only [exponent, size]
      omega
    have significand : x.significand = 2 ^ 52 := by
      simp only [significand, size]
      split <;> omega
    rw [absolute, exponent, significand, zpow_add_one₀ (by norm_num)]
    push_cast
    ring

-- Doubles lie on the grid of multiples of `2 ^ e`, or else below the range in which it is used.
theorem absolute_on_grid (y : Double) {e : ℤ} (least : -1074 ≤ e) :
    (∃ j : ℕ, y.absolute = j * 2 ^ e) ∨ -1074 < e ∧ y.absolute < 2 ^ 52 * 2 ^ e := by
  by_cases fine : e ≤ y.exponent
  · left
    refine ⟨y.significand * 2 ^ (y.exponent - e).toNat, ?_⟩
    have power : (2 : ℚ) ^ y.exponent = 2 ^ (y.exponent - e).toNat * 2 ^ e := by
      rw [← zpow_natCast, ← zpow_add₀ (by norm_num)]
      congr 1
      omega
    rw [absolute, power]
    push_cast
    ring
  · right
    have above := y.exponent_ge
    refine ⟨by omega, ?_⟩
    calc y.absolute < 2 ^ 53 * 2 ^ y.exponent := by
          unfold absolute
          gcongr
          exact_mod_cast y.significand_lt
      _ = 2 ^ 52 * 2 ^ (y.exponent + 1) := by
          rw [zpow_add_one₀ (by norm_num)]
          ring
      _ ≤ 2 ^ 52 * 2 ^ e := by
          gcongr
          · norm_num
          · omega

theorem one_le_distances {k j : ℕ} (r : ℚ) (apart : j ≠ k) :
    1 ≤ |(k : ℚ) - r| + |(j : ℚ) - r| := by
  have whole : (1 : ℤ) ≤ |(k : ℤ) - j| := Int.one_le_abs (by omega)
  have between := abs_sub_le (k : ℚ) r j
  have integral : (1 : ℚ) ≤ |(k : ℚ) - j| := by exact_mod_cast whole
  rw [abs_sub_comm r] at between
  linarith

theorem closest_on_grid {k : ℕ} {r : ℚ} (error : |(k : ℚ) - r| ≤ 1 / 2) (j : ℕ) :
    |(k : ℚ) - r| ≤ |(j : ℚ) - r| := by
  rcases eq_or_ne j k with rfl | apart
  · exact le_rfl
  · have distances := one_le_distances r apart
    linarith

theorem isNearest_of_grid {x : Double} {q : ℚ} {e : ℤ} {k : ℕ} (number : x.isNaN = false)
    (least : -1074 ≤ e) (value : x.absolute = k * 2 ^ e) (parity : x.magnitude % 2 = k % 2)
    (range : e = -1074 ∨ 2 ^ 52 ≤ q / 2 ^ e) (error : |(k : ℚ) - q / 2 ^ e| ≤ 1 / 2)
    (tie : |(k : ℚ) - q / 2 ^ e| = 1 / 2 → k % 2 = 0) : x.IsNearest q := by
  have step : (0 : ℚ) < 2 ^ e := by positivity
  have scaled (a : ℚ) : |a * 2 ^ e - q| = |a - q / 2 ^ e| * 2 ^ e := by
    rw [← abs_of_pos step, ← abs_mul, abs_of_pos step, sub_mul, div_mul_cancel₀ q step.ne']
  have far {y : Double} (large : -1074 < e) (below : y.absolute < 2 ^ 52 * 2 ^ e) :
      |x.absolute - q| < |y.absolute - q| := by
    have normal : (2 : ℚ) ^ 52 ≤ q / 2 ^ e := range.resolve_left large.ne'
    have bound := closest_on_grid error (2 ^ 52)
    have above : 2 ^ 52 * 2 ^ e ≤ q := (le_div_iff₀ step).1 normal
    rw [Nat.cast_pow, Nat.cast_ofNat] at bound
    rw [abs_of_nonpos (sub_nonpos.2 normal)] at bound
    have beneath : y.absolute - q < 0 := by linarith
    rw [value, scaled, abs_of_neg beneath]
    calc |(k : ℚ) - q / 2 ^ e| * 2 ^ e ≤ -(2 ^ 52 - q / 2 ^ e) * 2 ^ e := by gcongr
      _ = q - 2 ^ 52 * 2 ^ e := by
        rw [neg_sub, sub_mul, div_mul_cancel₀ q step.ne']
      _ < -(y.absolute - q) := by linarith
  refine ⟨number, fun y _ => ?_, fun y _ same => ?_⟩
  · rcases y.absolute_on_grid least with ⟨j, grid⟩ | ⟨large, below⟩
    · rw [value, grid, scaled, scaled]
      exact mul_le_mul_of_nonneg_right (closest_on_grid error j) step.le
    · exact (far large below).le
  · rcases y.absolute_on_grid least with ⟨j, grid⟩ | ⟨large, below⟩
    · rcases eq_or_ne j k with rfl | apart
      · exact .inl (magnitude_eq_of_absolute (grid.trans value.symm))
      · rw [value, grid, scaled, scaled, mul_left_inj' step.ne'] at same
        have distances := one_le_distances (q / 2 ^ e) apart
        exact .inr (parity.trans (tie (by linarith)))
    · exact absurd same (far large below).ne'

theorem isNearest_of_overflow {x : Double} {q : ℚ} (infinite : x.isInfinite = true)
    (large : (2 : ℚ) ^ (1024 : ℤ) ≤ q) : x.IsNearest q := by
  have size : x.magnitude = infiniteMagnitude := beq_iff_eq.1 infinite
  have value : x.absolute = (2 ^ 53 : ℕ) * 2 ^ (971 : ℤ) :=
    absolute_of_magnitude (by norm_num) (.inr (by norm_num)) le_rfl size
  have top : x.absolute ≤ q := by
    rw [value, Nat.cast_pow, Nat.cast_ofNat, ← zpow_natCast, ← zpow_add₀ (by norm_num)]
    exact large
  refine ⟨by simp [isNaN, size], fun y number => ?_, fun y _ _ => .inr ?_⟩
  · have below : y.absolute ≤ x.absolute := by
      rw [← not_lt, absolute_lt_iff, size]
      simpa [isNaN] using number
    rw [abs_of_nonpos (by linarith), abs_of_nonpos (by linarith)]
    linarith
  · rw [size]
    decide

-- The quotient by the spacing has 53 bits, except for the smallest fractions.
theorem quotient_range {num den : ℕ} (hn : 0 < num) (hd : 0 < den) :
    (num : ℚ) / den / 2 ^ spacing num den < 2 ^ 53 ∧
    (spacing num den = -1074 ∨ 2 ^ 52 ≤ (num : ℚ) / den / 2 ^ spacing num den) := by
  have positive : (0 : ℚ) < num / den := by positivity
  obtain ⟨lower, upper⟩ := (log_eq_iff positive _).1 (floorLog2_eq_log hn hd).symm
  have step : (0 : ℚ) < 2 ^ spacing num den := by positivity
  constructor
  · rw [div_lt_iff₀ step]
    calc (num : ℚ) / den < 2 ^ (floorLog2 num den + 1) := upper
      _ ≤ 2 ^ (53 + spacing num den) := zpow_le_zpow_right₀ (by norm_num) (by rw [spacing]; omega)
      _ = 2 ^ 53 * 2 ^ spacing num den := by
          rw [zpow_add₀ (by norm_num), zpow_ofNat]
  · rcases eq_or_ne (spacing num den) (-1074) with smallest | normal
    · exact .inl smallest
    · right
      have exponent : floorLog2 num den = 52 + spacing num den := by
        rw [spacing] at normal ⊢
        omega
      rw [le_div_iff₀ step]
      calc (2 : ℚ) ^ 52 * 2 ^ spacing num den = 2 ^ floorLog2 num den := by
            rw [exponent, zpow_add₀ (by norm_num), zpow_ofNat]
        _ ≤ num / den := lower

theorem nearest_isNearest (s : Bool) (num : ℕ) {den : ℕ} (hd : 0 < den) :
    (nearest s num den).IsNearest ((num : ℚ) / den) := by
  have number := isNaN_nearest s num den
  have size := magnitude_nearest s num den
  generalize nearest s num den = x at number size
  rcases Nat.eq_zero_or_pos num with rfl | hn
  · have zero : x.magnitude = 0 := by rw [size, nearestMagnitude_zero]
    have value : x.absolute = 0 := (absolute_eq_zero_iff x).2 (beq_iff_eq.2 zero)
    refine ⟨number, fun y _ => ?_, fun y _ _ => .inr (by rw [zero])⟩
    rw [value, Nat.cast_zero, zero_div, sub_zero, abs_zero]
    exact abs_nonneg _
  obtain ⟨upper, lower⟩ := quotient_range hn hd
  have least : -1074 ≤ spacing num den := by
    rw [spacing]
    omega
  simp only [nearestMagnitude, hn.ne', if_false] at size
  have scaled : 0 < den * 2 ^ (spacing num den).toNat := by positivity
  have error := halfEven_error (num * 2 ^ (-spacing num den).toNat) scaled
  have even := halfEven_even (num * 2 ^ (-spacing num den).toNat) scaled
  have fraction : ((num * 2 ^ (-spacing num den).toNat : ℕ) : ℚ) /
      (den * 2 ^ (spacing num den).toNat : ℕ) = (num : ℚ) / den / 2 ^ spacing num den := by
    have power := zpow_eq_div 2 (by decide) (spacing num den)
    push_cast at power ⊢
    rw [power]
    field_simp
  rw [fraction] at error even
  generalize halfEven _ _ = k at size error even
  have bounds := abs_le.1 error
  have short : k ≤ 2 ^ 53 := by
    have bound : (k : ℚ) < (2 ^ 53 + 1 : ℕ) := by
      push_cast
      linarith
    exact Nat.lt_succ_iff.1 (by exact_mod_cast bound)
  have leading : spacing num den = -1074 ∨ 2 ^ 52 ≤ k := by
    refine lower.imp_right fun normal => ?_
    have bound : ((2 ^ 52 - 1 : ℕ) : ℚ) < k := by
      push_cast
      linarith
    exact Nat.le_of_pred_lt (by exact_mod_cast bound)
  rcases le_or_gt (spacing num den) 971 with inside | beyond
  · have fits : (spacing num den + 1074).toNat * 2 ^ 52 + k ≤ infiniteMagnitude := by
      rw [infiniteMagnitude]
      omega
    rw [Nat.min_eq_left fits] at size
    have value := absolute_of_magnitude least leading short size
    exact isNearest_of_grid number least value (by omega) lower error even
  · have past : infiniteMagnitude ≤ (spacing num den + 1074).toNat * 2 ^ 52 + k := by
      rw [infiniteMagnitude]
      omega
    rw [Nat.min_eq_right past] at size
    apply isNearest_of_overflow (beq_iff_eq.2 size)
    have normal := lower.resolve_left (by omega)
    rw [le_div_iff₀ (by positivity)] at normal
    calc (2 : ℚ) ^ (1024 : ℤ) ≤ 2 ^ (52 + spacing num den) :=
          zpow_le_zpow_right₀ (by norm_num) (by omega)
      _ = 2 ^ 52 * 2 ^ spacing num den := by
          rw [zpow_add₀ (by norm_num), zpow_ofNat]
      _ ≤ num / den := normal

theorem IsNearest.magnitude_eq {x y : Double} {q : ℚ} (hx : x.IsNearest q) (hy : y.IsNearest q) :
    x.magnitude = y.magnitude := by
  wlog less : x.magnitude < y.magnitude generalizing x y
  · rcases Nat.lt_or_eq_of_le (Nat.le_of_not_lt less) with above | same
    · exact (this hy hx above).symm
    · exact same.symm
  have distance := le_antisymm (hx.closest y hy.number) (hy.closest x hx.number)
  have evenX := hx.even y hy.number distance.symm
  have evenY := hy.even x hx.number distance
  -- Of two different doubles that are both even, one in between is closer.
  have bounded : y.magnitude ≤ infiniteMagnitude := by simpa [isNaN] using hy.number
  have size : (ofMagnitude false (x.magnitude + 1)).magnitude = x.magnitude + 1 := by
    have := y.magnitude_lt
    exact magnitude_ofMagnitude false (by omega)
  generalize ofMagnitude false (x.magnitude + 1) = z at size
  have number : z.isNaN = false := by
    simp only [isNaN, size, decide_eq_false_iff_not]
    omega
  have after : x.absolute < z.absolute := absolute_lt (by omega)
  have before : z.absolute < y.absolute := absolute_lt (by omega)
  have closest := hx.closest z number
  have middle : y.absolute - q = q - x.absolute := by
    rcases abs_eq_abs.1 distance with same | opposite <;> linarith
  rw [abs_of_neg (by linarith : x.absolute - q < 0), le_abs] at closest
  rcases closest with above | below <;> linarith

theorem IsNearest.magnitude_le {x y : Double} {p q : ℚ} (hx : x.IsNearest p) (hy : y.IsNearest q)
    (le : p ≤ q) : x.magnitude ≤ y.magnitude := by
  by_contra less
  have order : y.absolute < x.absolute := absolute_lt (Nat.lt_of_not_le less)
  -- The middle of the two doubles is not above the first fraction and not below the second.
  have lower : x.absolute + y.absolute ≤ 2 * p := by
    by_contra middle
    have closest := hx.closest y hy.number
    rw [abs_of_pos (by linarith : 0 < x.absolute - p), le_abs] at closest
    rcases closest with above | below <;> linarith
  have upper : 2 * q ≤ x.absolute + y.absolute := by
    by_contra middle
    have closest := hy.closest x hx.number
    rw [abs_of_neg (by linarith : y.absolute - q < 0), le_abs] at closest
    rcases closest with above | below <;> linarith
  obtain rfl : p = q := by linarith
  exact less (hx.magnitude_eq hy).le

end Double

end ScriptValue
