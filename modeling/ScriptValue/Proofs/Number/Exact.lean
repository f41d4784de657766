import ScriptValue.Proofs.Double.Rounding

set_option autoImplicit false

namespace ScriptValue

namespace Double

theorem ext_magnitude {x y : Double} (sign : x.negative = y.negative)
    (size : x.magnitude = y.magnitude) : x = y := by
  rw [← ofMagnitude_negative_magnitude x, ← ofMagnitude_negative_magnitude y, sign, size]

theorem quantity_of_isZero {x : Double} (h : x.isZero = true) : x.quantity = .finite 0 := by
  have finite : x.isFinite = true := by
    rw [isFinite, decide_eq_true_eq, beq_iff_eq.1 h]
    decide
  simp [quantity_of_isFinite finite, (absolute_eq_zero_iff x).2 h]

theorem eq_or_isZero_of_quantity_eq {x y : Double} (hx : x.isFinite = true) (hy : y.isFinite = true)
    (same : x.quantity = y.quantity) : x = y ∨ x.isZero = true ∧ y.isZero = true := by
  rw [quantity_of_isFinite hx, quantity_of_isFinite hy, Quantity.finite.injEq] at same
  have nonnegX := x.absolute_nonneg
  have nonnegY := y.absolute_nonneg
  by_cases sign : x.negative = y.negative
  · left
    apply ext_magnitude sign
    apply magnitude_inj hx hy
    rw [sign] at same
    split at same <;> linarith
  · right
    have opposite : x.absolute = -y.absolute := by
      split at same <;> split at same
      case isTrue.isFalse => linarith
      case isFalse.isTrue => linarith
      all_goals simp_all
    exact ⟨(absolute_eq_zero_iff x).1 (by linarith), (absolute_eq_zero_iff y).1 (by linarith)⟩

theorem quantity_eq_iff (x y : Double) :
    x.quantity = y.quantity ↔
      x.isNaN = true ∧ y.isNaN = true ∨ x = y ∨ x.isZero = true ∧ y.isZero = true := by
  constructor
  · intro same
    rcases x.trichotomy with numX | boundX | finX <;> rcases y.trichotomy with numY | boundY | finY
    case inl.inl => exact .inl ⟨numX, numY⟩
    case inr.inl.inr.inl =>
      rw [quantity_of_isInfinite boundX, quantity_of_isInfinite boundY,
        Quantity.infinite.injEq] at same
      have size : x.magnitude = y.magnitude :=
        (beq_iff_eq.1 boundX).trans (beq_iff_eq.1 boundY).symm
      exact .inr (.inl (ext_magnitude same size))
    case inr.inr.inr.inr => exact .inr (eq_or_isZero_of_quantity_eq finX finY same)
    all_goals
      simp_all [quantity_of_isNaN, quantity_of_isInfinite, quantity_of_isFinite]
  · rintro (⟨hx, hy⟩ | rfl | ⟨hx, hy⟩)
    · rw [quantity_of_isNaN hx, quantity_of_isNaN hy]
    · rfl
    · rw [quantity_of_isZero hx, quantity_of_isZero hy]

theorem equals_iff_agree (x y : Double) :
    x.equals y = true ↔ x.quantity.Agree y.quantity := by
  have nanX := x.quantity_eq_nan_iff
  have nanY := y.quantity_eq_nan_iff
  rw [Quantity.Agree, quantity_eq_iff, ne_eq, nanX]
  constructor
  · intro h
    simp only [equals, Bool.and_eq_true, Bool.or_eq_true, Bool.not_eq_true', beq_iff_eq] at h
    exact ⟨.inr h.2, by simp [h.1.1]⟩
  · rintro ⟨same, number⟩
    have numberY : ¬y.isNaN = true := by
      rcases same with ⟨h, _⟩ | rfl | ⟨_, h⟩
      · exact absurd h number
      · exact number
      · rw [← nanY, quantity_of_isZero h]
        nofun
    rcases same with ⟨h, _⟩ | same
    · exact absurd h number
    · simpa [equals, number, numberY] using same

theorem signed_mul (s : Bool) (m n : ℕ) : signed s (m * n) = signed s m * n := by
  cases s <;> simp [signed]

theorem dvd_signed_iff (s : Bool) (b a : ℕ) : (b : ℤ) ∣ signed s a ↔ b ∣ a := by
  cases s <;> simp [signed, Int.natCast_dvd_natCast]

theorem signed_div_eq_iff (s : Bool) (a b : ℕ) (positive : 0 < b) (n : ℤ) :
    (a % b = 0 ∧ signed s (a / b) = n) ↔ (signed s a : ℚ) / b = n := by
  rw [div_eq_iff (by positivity)]
  constructor
  · rintro ⟨divides, rfl⟩
    have whole : a / b * b = a := Nat.div_mul_cancel (Nat.dvd_of_mod_eq_zero divides)
    conv_lhs => rw [← whole, signed_mul]
    push_cast
    rfl
  · intro h
    have whole : signed s a = n * b := by exact_mod_cast h
    obtain ⟨k, rfl⟩ : b ∣ a := (dvd_signed_iff s b a).1 (Dvd.intro_left n whole.symm)
    rw [Nat.mul_comm, signed_mul] at whole
    have cancelled : signed s k = n := Int.eq_of_mul_eq_mul_right (by positivity) whole
    simp [Nat.mul_div_cancel_left k positive, cancelled]

theorem signed_scaled_eq_div (s : Bool) (m : ℕ) (e : ℤ) :
    (signed s m : ℚ) * 2 ^ e =
      (signed s (m * 2 ^ e.toNat) : ℚ) / ((2 ^ (-e).toNat : ℕ) : ℚ) := by
  have power := zpow_eq_div 2 (by decide) e
  rw [Nat.cast_ofNat] at power
  rw [power, signed_mul]
  push_cast
  ring

theorem integer?_eq_some_iff (x : Double) (n : ℤ) :
    x.integer? = some n ↔ x.quantity = .finite n := by
  rw [integer?, quantity]
  cases x.parts with
  | nan => simp [Parts.integer?, Parts.quantity]
  | infinite s => simp [Parts.integer?, Parts.quantity]
  | finite s m e =>
    rw [Parts.quantity, Quantity.finite.injEq, signed_scaled_eq_div,
      ← signed_div_eq_iff s (m * 2 ^ e.toNat) (2 ^ (-e).toNat) (by positivity) n]
    simp only [Parts.integer?, Parts.towardZero]
    split <;> simp_all

theorem integer?_of_isNaN {x : Double} (h : x.isNaN = true) : x.integer? = none := by
  cases whole : x.integer? with
  | none => rfl
  | some n =>
    rw [integer?_eq_some_iff, quantity_of_isNaN h] at whole
    exact absurd whole nofun

end Double

namespace Quantity

theorem agree_finite_left (q : ℚ) (p : Quantity) : (finite q).Agree p ↔ p = .finite q := by
  simp [Agree, eq_comm]

theorem agree_finite_right (q : ℚ) (p : Quantity) : p.Agree (.finite q) ↔ p = .finite q := by
  constructor
  · exact And.left
  · rintro rfl
    exact ⟨rfl, nofun⟩

theorem eq_iff_agree (p q : Quantity) : p = q ↔ p = .nan ∧ q = .nan ∨ p.Agree q := by
  by_cases h : p = .nan <;> simp [Agree, h, eq_comm]

end Quantity

namespace Number

theorem quantity_eq_match (n : Number) :
    n.quantity = match n.integerOrDouble with
      | .inl k => .finite k
      | .inr x => x.quantity := by cases n <;> rfl

theorem equals_iff_agree (a b : Number) : a.equals b = true ↔ a.quantity.Agree b.quantity := by
  rw [equals, quantity_eq_match, quantity_eq_match]
  cases a.integerOrDouble <;> cases b.integerOrDouble
  case inl.inl => simp [Quantity.Agree]
  case inr.inr x y => exact Double.equals_iff_agree x y
  all_goals
    simp only [beq_iff_eq, Double.integer?_eq_some_iff, Quantity.agree_finite_left,
      Quantity.agree_finite_right]

theorem same_iff_quantity_eq (a b : Number) :
    a.same true b = true ↔ a.quantity = b.quantity := by
  rw [same, quantity_eq_match, quantity_eq_match]
  cases a.integerOrDouble <;> cases b.integerOrDouble
  case inl.inl => simp
  case inr.inr x y =>
    rw [Quantity.eq_iff_agree]
    simp [Double.quantity_eq_nan_iff, Double.equals_iff_agree]
  all_goals
    simp only [Bool.true_or, Bool.and_true, beq_iff_eq, Double.integer?_eq_some_iff]
    try exact eq_comm

end Number

end ScriptValue
