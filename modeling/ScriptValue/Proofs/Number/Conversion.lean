import Mathlib.Data.Rat.Floor
import ScriptValue.Proofs.Double.Wrapping

set_option autoImplicit false

namespace ScriptValue

def truncation (q : ℚ) : ℤ := if 0 ≤ q then ⌊q⌋ else ⌈q⌉

@[simp] theorem truncation_intCast (n : ℤ) : truncation n = n := by
  simp [truncation]

theorem truncation_neg (q : ℚ) : truncation (-q) = -truncation q := by
  rcases lt_trichotomy q 0 with negative | rfl | positive
  · simp [truncation, negative.le, negative.not_ge, Int.floor_neg]
  · simp [truncation]
  · simp [truncation, positive.le, positive.not_ge, Int.ceil_neg]

theorem truncation_natCast_div (a b : ℕ) : truncation ((a : ℚ) / b) = (a / b : ℕ) := by
  have nonneg : (0 : ℚ) ≤ (a : ℚ) / b := by positivity
  rw [truncation, if_pos nonneg, Rat.floor_natCast_div_natCast]
  exact (Int.natCast_ediv a b).symm

theorem truncation_signed_div (s : Bool) (a b : ℕ) :
    truncation ((signed s a : ℚ) / b) = signed s (a / b) := by
  cases s with
  | false => simpa [signed] using truncation_natCast_div a b
  | true => simpa [signed, neg_div, truncation_neg] using truncation_natCast_div a b

theorem toUInt32_ofInt (n : ℤ) : (Int32.ofInt n).toUInt32 = UInt32.ofInt n := by
  apply UInt32.toNat_inj.1
  rw [Int32.ofInt, UInt32.ofInt, ← UInt32.toNat_toBitVec, BitVec.toNat_ofInt, UInt32.toNat_ofNat',
    Nat.mod_eq_of_lt]
  · rfl
  · omega

namespace Quantity

def convert {α : Type} (ofNaN : α) (ofInfinite : Bool → α) (ofInteger : ℤ → α) : Quantity → α
  | .nan => ofNaN
  | .infinite s => ofInfinite s
  | .finite q => ofInteger (truncation q)

def clip64 : Quantity → Int64 :=
  convert 0 (fun s => if s then Int64.minValue else Int64.maxValue) Int64.ofIntClamp

def wrapSigned : Quantity → Int32 :=
  convert 0 (fun s => if s then Int32.minValue else Int32.maxValue) Int32.ofInt

def wrapUnsigned : Quantity → UInt32 :=
  convert 0 (fun s => if s then 0 else -1) UInt32.ofInt

end Quantity

namespace Double

theorem towardZero_eq_truncation (s : Bool) (m : ℕ) (e : ℤ) :
    Parts.towardZero s m e = truncation ((signed s m : ℚ) * 2 ^ e) := by
  rw [signed_scaled_eq_div, truncation_signed_div, Parts.towardZero]

theorem convert_quantity {α : Type} {ofNaN : α} {ofInfinite : Bool → α} {ofInteger : ℤ → α}
    {conversion : Parts → α} (nan : conversion .nan = ofNaN)
    (infinite : ∀ s, conversion (.infinite s) = ofInfinite s)
    (finite : ∀ s m e, conversion (.finite s m e) = ofInteger (Parts.towardZero s m e))
    (x : Double) : conversion x.parts = x.quantity.convert ofNaN ofInfinite ofInteger := by
  rw [quantity]
  cases x.parts with
  | nan => exact nan
  | infinite s => exact infinite s
  | finite s m e =>
    rw [finite, towardZero_eq_truncation]
    rfl

theorem toInt64_eq_clip64 (x : Double) : x.toInt64 = x.quantity.clip64 :=
  convert_quantity rfl (fun _ => rfl) (fun _ _ _ => rfl) x

theorem wrap_of_quantity {x : Double} {q : ℚ} (h : x.quantity = .finite q) :
    x.wrap = UInt32.ofInt (truncation q) := by
  have finite := isFinite_of_quantity h
  rw [quantity, parts_of_isFinite finite, Parts.quantity, Quantity.finite.injEq] at h
  rw [wrap_eq finite, towardZero_eq_truncation, h]

theorem toUInt32_eq_wrapUnsigned (x : Double) : x.toUInt32 = x.quantity.wrapUnsigned := by
  rw [toUInt32, quantity]
  cases h : x.parts with
  | nan | infinite => rfl
  | finite s m e => exact wrap_of_quantity (by rw [quantity, h, Parts.quantity])

theorem toInt32_eq_wrapSigned (x : Double) : x.toInt32 = x.quantity.wrapSigned := by
  rw [toInt32, quantity]
  cases h : x.parts with
  | nan | infinite => rfl
  | finite s m e =>
    dsimp only
    rw [wrap_of_quantity (by rw [quantity, h, Parts.quantity]), ← toUInt32_ofInt,
      Int32.toInt32_toUInt32]
    rfl

theorem quantity_eq_zero_iff (x : Double) : x.quantity = .finite 0 ↔ x.isZero = true := by
  constructor
  · intro h
    rw [quantity_of_isFinite (isFinite_of_quantity h), Quantity.finite.injEq] at h
    rw [← absolute_eq_zero_iff]
    split at h <;> linarith
  · exact quantity_of_isZero

theorem ofInt_of_quantity {x : Double} {n : ℤ} (h : x.quantity = .finite n)
    (sign : x.negative = decide (n < 0)) : ofInt n = x := by
  have finite := isFinite_of_quantity h
  have size : ((n.natAbs : ℕ) : ℚ) / ((1 : ℕ) : ℚ) = x.absolute := by
    rw [Nat.cast_one, div_one, Nat.cast_natAbs, Int.cast_abs, absolute_of_quantity h]
  apply ext_magnitude
  · rw [ofInt, negative_nearest, sign]
  · rw [ofInt, magnitude_nearest, nearestMagnitude_absolute finite Nat.one_pos size]

theorem negative_of_quantity {x : Double} {n : ℤ} (h : x.quantity = .finite n)
    (positive : x.isNegativeZero = false) : x.negative = decide (n < 0) := by
  have finite := isFinite_of_quantity h
  rw [quantity_of_isFinite finite, Quantity.finite.injEq] at h
  have nonneg := x.absolute_nonneg
  cases sign : x.negative with
  | false =>
    have size : (0 : ℚ) ≤ n := by simpa [sign, ← h] using nonneg
    symm
    simpa using (by exact_mod_cast size : 0 ≤ n)
  | true =>
    have nonzero : x.absolute ≠ 0 := by
      rw [ne_eq, absolute_eq_zero_iff]
      simpa [isNegativeZero, sign] using positive
    have size : (n : ℚ) < 0 := by
      rw [← h, sign, if_pos rfl]
      exact neg_neg_of_pos (lt_of_le_of_ne nonneg nonzero.symm)
    symm
    simpa using (by exact_mod_cast size : n < 0)

-- Negative zero is the one integer that comes back as another double, with the same quantity.
theorem quantity_ofInt {x : Double} {n : ℤ} (h : x.quantity = .finite n) :
    (ofInt n).quantity = .finite n := by
  cases zero : x.isNegativeZero with
  | false => rw [ofInt_of_quantity h (negative_of_quantity h zero), h]
  | true =>
    simp only [isNegativeZero, Bool.and_eq_true] at zero
    obtain rfl : n = 0 := by simpa [quantity_of_isZero zero.1] using h.symm
    decide +kernel

end Double

namespace Number

theorem toInt64_eq_clip64 (n : Number) : n.toInt64 = n.quantity.clip64 := by
  cases n with
  | integer k | bigInteger k => simp [toInt64, quantity, Quantity.clip64, Quantity.convert]
  | float x => exact x.toInt64_eq_clip64

theorem toInt32_eq_wrapSigned (n : Number) : n.toInt32 = n.quantity.wrapSigned := by
  cases n with
  | integer k | bigInteger k => simp [toInt32, quantity, Quantity.wrapSigned, Quantity.convert]
  | float x => exact x.toInt32_eq_wrapSigned

theorem toUInt32_eq_wrapUnsigned (n : Number) : n.toUInt32 = n.quantity.wrapUnsigned := by
  cases n with
  | integer k | bigInteger k =>
    simp [toUInt32, quantity, Quantity.wrapUnsigned, Quantity.convert, ← toUInt32_ofInt]
  | float x => exact x.toUInt32_eq_wrapUnsigned

theorem truth_iff (n : Number) : n.truth = true ↔ n.quantity ≠ .finite 0 ∧ n.quantity ≠ .nan := by
  cases n with
  | integer k =>
    have zero : k = 0 ↔ k.toInt = 0 := Int32.toInt_inj.symm
    simp [truth, quantity, zero]
  | bigInteger k =>
    have zero : k = 0 ↔ k.toInt = 0 := Int64.toInt_inj.symm
    simp [truth, quantity, zero]
  | float x => simp [truth, quantity, Double.quantity_eq_zero_iff, Double.quantity_eq_nan_iff]

theorem toInt_ofInt_of_fits {n : ℤ} (fits : fitsInteger n = true) : (Int32.ofInt n).toInt = n := by
  simp only [fitsInteger, Bool.and_eq_true, decide_eq_true_eq] at fits
  exact Int32.toInt_ofInt_of_le fits.1 fits.2

@[simp] theorem toDouble_ofDouble (x : Double) : (ofDouble x).toDouble = x := by
  rw [ofDouble, Narrowing.ofDouble_eq]
  split
  case h_2 => rfl
  case h_1 n whole =>
    split
    case isFalse => rfl
    case isTrue h =>
      simp only [Bool.and_eq_true, Bool.not_eq_true'] at h
      rw [Double.integer?_eq_some_iff] at whole
      rw [toDouble, toInt_ofInt_of_fits h.1]
      exact Double.ofInt_of_quantity whole (Double.negative_of_quantity whole h.2)

@[simp] theorem quantity_ofDouble (x : Double) : (ofDouble x).quantity = x.quantity := by
  rw [ofDouble, Narrowing.ofDouble_eq]
  split
  case h_2 => rfl
  case h_1 n whole =>
    split
    case isFalse => rfl
    case isTrue h =>
      simp only [Bool.and_eq_true] at h
      rw [Double.integer?_eq_some_iff] at whole
      rw [quantity, toInt_ofInt_of_fits h.1, whole]

theorem toDouble_eq_match (n : Number) :
    n.toDouble = match n.integerOrDouble with
      | .inl k => .ofInt k
      | .inr x => x := by cases n <;> rfl

-- A large integer is rounded, but not where some double has its quantity.
theorem quantity_toDouble_congr {a b : Number} (same : a.quantity = b.quantity) :
    a.toDouble.quantity = b.toDouble.quantity := by
  rw [quantity_eq_match, quantity_eq_match] at same
  rw [toDouble_eq_match, toDouble_eq_match]
  cases left : a.integerOrDouble <;> cases right : b.integerOrDouble <;>
    simp only [left, right] at same ⊢
  case inl.inl m n =>
    obtain rfl : m = n := by simpa using same
    rfl
  case inl.inr n x => rw [Double.quantity_ofInt same.symm, same]
  case inr.inl x n => rw [Double.quantity_ofInt same, same]
  case inr.inr => exact same

theorem quantity_toDouble_eq_nan_iff (n : Number) :
    n.toDouble.quantity = .nan ↔ n.quantity = .nan := by
  cases n with
  | integer k | bigInteger k => simp [toDouble, quantity, Double.quantity_eq_nan_iff, Double.ofInt]
  | float x => rfl

end Number

end ScriptValue
