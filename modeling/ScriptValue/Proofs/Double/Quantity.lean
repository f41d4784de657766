import Mathlib.Algebra.Order.Field.Power
import Mathlib.Data.Rat.Cast.Order
import Mathlib.Tactic.FieldSimp
import Mathlib.Tactic.Linarith
import Mathlib.Tactic.Positivity
import Mathlib.Tactic.Ring
import ScriptValue.Number

set_option autoImplicit false

namespace ScriptValue

inductive Quantity where
  | nan
  | infinite (negative : Bool)
  | finite (q : ℚ)
  deriving DecidableEq

namespace Double

def Parts.quantity : Parts → Quantity
  | .nan => .nan
  | .infinite s => .infinite s
  | .finite s m e => .finite ((signed s m : ℚ) * 2 ^ e)

def quantity (x : Double) : Quantity := x.parts.quantity

def absolute (x : Double) : ℚ := x.significand * 2 ^ x.exponent

end Double

def Number.quantity : Number → Quantity
  | .integer n => .finite n.toInt
  | .bigInteger n => .finite n.toInt
  | .float x => x.quantity

def Quantity.Agree (p q : Quantity) : Prop := p = q ∧ p ≠ .nan

instance (p q : Quantity) : Decidable (p.Agree q) := inferInstanceAs (Decidable (_ ∧ _))

-- An integral power is a fraction of natural powers, one of which is 1.
theorem zpow_eq_div (b : ℕ) (positive : 0 < b) (e : ℤ) :
    (b : ℚ) ^ e = ((b ^ e.toNat : ℕ) : ℚ) / ((b ^ (-e).toNat : ℕ) : ℚ) := by
  have nonzero : (b : ℚ) ≠ 0 := by positivity
  have exponent : e = (e.toNat : ℤ) - ((-e).toNat : ℤ) := by omega
  conv_lhs => rw [exponent]
  rw [zpow_sub₀ nonzero, zpow_natCast, zpow_natCast]
  push_cast
  rfl

theorem scaled_eq_div (m b : ℕ) (positive : 0 < b) (e : ℤ) :
    (m : ℚ) * (b : ℚ) ^ e = ((m * b ^ e.toNat : ℕ) : ℚ) / ((b ^ (-e).toNat : ℕ) : ℚ) := by
  rw [zpow_eq_div b positive, Nat.cast_mul, mul_div_assoc]

namespace Double

theorem absolute_eq_div (x : Double) :
    x.absolute = ((x.significand * 2 ^ x.exponent.toNat : ℕ) : ℚ) /
      ((2 ^ (-x.exponent).toNat : ℕ) : ℚ) := by
  simpa [absolute] using scaled_eq_div x.significand 2 (by decide) x.exponent

theorem absolute_nonneg (x : Double) : 0 ≤ x.absolute := by
  unfold absolute
  positivity

def isFinite (x : Double) : Bool := x.magnitude < infiniteMagnitude

theorem trichotomy (x : Double) :
    x.isNaN = true ∨ x.isInfinite = true ∨ x.isFinite = true := by
  simp only [isNaN, isInfinite, isFinite, decide_eq_true_eq, beq_iff_eq]
  omega

theorem not_isNaN_of_isInfinite {x : Double} (h : x.isInfinite = true) : x.isNaN = false := by
  simp_all [isNaN, isInfinite]

theorem not_isNaN_of_isFinite {x : Double} (h : x.isFinite = true) : x.isNaN = false := by
  simp only [isFinite, isNaN, decide_eq_true_eq, decide_eq_false_iff_not] at h ⊢
  omega

theorem parts_of_isNaN {x : Double} (h : x.isNaN = true) : x.parts = .nan := if_pos h

theorem parts_of_isInfinite {x : Double} (h : x.isInfinite = true) :
    x.parts = .infinite x.negative := by
  simp [parts, not_isNaN_of_isInfinite h, h]

theorem quantity_of_isNaN {x : Double} (h : x.isNaN = true) : x.quantity = .nan := by
  rw [quantity, parts_of_isNaN h, Parts.quantity]

theorem quantity_of_isInfinite {x : Double} (h : x.isInfinite = true) :
    x.quantity = .infinite x.negative := by
  rw [quantity, parts_of_isInfinite h, Parts.quantity]

theorem parts_of_isFinite {x : Double} (h : x.isFinite = true) :
    x.parts = .finite x.negative x.significand x.exponent := by
  have bounded : x.isInfinite = false := by simp_all [isInfinite, isFinite]; omega
  simp [parts, not_isNaN_of_isFinite h, bounded]

theorem quantity_of_isFinite {x : Double} (h : x.isFinite = true) :
    x.quantity = .finite (if x.negative then -x.absolute else x.absolute) := by
  simp only [quantity, parts_of_isFinite h, Parts.quantity, absolute, signed, Quantity.finite.injEq]
  split <;> simp

theorem quantity_eq_nan_iff (x : Double) : x.quantity = .nan ↔ x.isNaN = true := by
  constructor
  · intro h
    rcases x.trichotomy with number | bounded | finite
    · exact number
    · simp [quantity_of_isInfinite bounded] at h
    · simp [quantity_of_isFinite finite] at h
  · exact quantity_of_isNaN

theorem isFinite_of_quantity {x : Double} {q : ℚ} (h : x.quantity = .finite q) :
    x.isFinite = true := by
  rcases x.trichotomy with number | bounded | finite
  · rw [quantity_of_isNaN number] at h
    exact absurd h nofun
  · rw [quantity_of_isInfinite bounded] at h
    exact absurd h nofun
  · exact finite

theorem absolute_of_quantity {x : Double} {q : ℚ} (h : x.quantity = .finite q) :
    x.absolute = |q| := by
  rw [quantity_of_isFinite (isFinite_of_quantity h), Quantity.finite.injEq] at h
  rw [← h]
  split
  · rw [abs_neg, abs_of_nonneg x.absolute_nonneg]
  · rw [abs_of_nonneg x.absolute_nonneg]

-- The stored exponent is the least one, or else the significand has its leading bit.
theorem significand_lt (x : Double) : x.significand < 2 ^ 53 := by
  simp only [significand]
  split <;> omega

theorem exponent_ge (x : Double) : -1074 ≤ x.exponent := by
  simp only [exponent]
  omega

theorem leading_bit (x : Double) : x.exponent = -1074 ∨ 2 ^ 52 ≤ x.significand := by
  simp only [significand, exponent]
  split <;> omega

theorem magnitude_eq (x : Double) :
    x.magnitude = (x.exponent + 1074).toNat * 2 ^ 52 + x.significand := by
  simp only [significand, exponent]
  split <;> omega

theorem isZero_iff_significand (x : Double) : x.isZero = true ↔ x.significand = 0 := by
  simp only [isZero, beq_iff_eq, significand]
  split <;> omega

theorem absolute_eq_zero_iff (x : Double) : x.absolute = 0 ↔ x.isZero = true := by
  rw [isZero_iff_significand, absolute, mul_eq_zero]
  constructor
  · rintro (h | h)
    · exact_mod_cast h
    · exact absurd h (by positivity)
  · intro h
    exact .inl (by exact_mod_cast h)

end Double

end ScriptValue
