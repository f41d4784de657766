import ScriptValue.Proofs.Decimal.Shortest
import ScriptValue.Proofs.Numeral.Grammar

set_option autoImplicit false

namespace ScriptValue

def pointed (ds : List Char) (n : ℤ) : ℚ := (Nat.ofDigitChars 10 ds 0 : ℕ) * 10 ^ (n - ds.length)

def canonicalText (ds : List Char) (n : ℤ) : List Char :=
  let k : ℤ := ds.length
  if k ≤ n ∧ n ≤ 21 then ds ++ List.replicate (n - k).toNat '0'
  else if 0 < n ∧ n < k ∧ n ≤ 21 then ds.take n.toNat ++ '.' :: ds.drop n.toNat
  else if -6 < n ∧ n ≤ 0 then '0' :: '.' :: (List.replicate (-n).toNat '0' ++ ds)
  else
    ds.take 1 ++ (if 1 < k then '.' :: ds.drop 1 else []) ++
      'e' :: (if n - 1 < 0 then '-' else '+') :: Nat.toDigits 10 (n - 1).natAbs

example : canonicalText ['1'] 21 = "100000000000000000000".toList := by decide

example : canonicalText ['1'] 22 = "1e+21".toList := by decide

theorem write_number {ds : List Char} (nonempty : ds ≠ []) (n : ℤ) :
    Layout.number.write ds n = canonicalText ds n := by
  have size : 0 < ds.length := List.length_pos_of_ne_nil nonempty
  have least : Layout.number.least = -5 := rfl
  have greatest : Layout.number.greatest = 21 := rfl
  have plain : Layout.number.pointZero = false := rfl
  have plus : Layout.number.plus = true := rfl
  simp only [canonicalText]
  rw [Layout.write, least, greatest]
  split
  case isTrue inside =>
    rw [Layout.positional, plain, if_neg Bool.false_ne_true, List.append_nil]
    split
    case isTrue before => rw [if_neg (by omega), if_neg (by omega), if_pos (by omega)]
    split
    case isTrue after =>
      have zeros : n.toNat - ds.length = (n - ds.length).toNat := by omega
      rw [if_pos (by omega), zeros]
    case isFalse among => rw [if_neg (by omega), if_pos (by omega)]
  case isFalse outside =>
    have sign : Layout.number.exponentSign (n - 1) = [if n - 1 < 0 then '-' else '+'] := by
      rw [Layout.exponentSign, plus, if_pos rfl]
      split <;> rfl
    rw [if_neg (by omega), if_neg (by omega), if_neg (by omega), Layout.scientific, sign]
    have rest : (if ds.length ≤ 1 then [] else '.' :: ds.drop 1) =
        if (1 : ℤ) < ds.length then '.' :: ds.drop 1 else [] := by
      split <;> split <;> first | rfl | omega
    rw [rest]
    rfl

inductive Numeral.Denotes : List Char → ℚ → Prop
  | signed {sign body : List Char} {negative : Bool} {q : ℚ} (signs : Sign sign negative)
      (number : DecimalLiteral body q) : Denotes (sign ++ body) (if negative then -q else q)

theorem denotes_canonicalText {ds : List Char} (proper : Decimal.Significant ds) (n : ℤ)
    (negative : Bool) :
    Numeral.Denotes (Layout.sign negative ++ canonicalText ds n)
      (if negative then -pointed ds n else pointed ds n) := by
  have number : Numeral.DecimalLiteral (canonicalText ds n) (pointed ds n) := by
    rw [← write_number proper.nonempty, Numeral.decimalLiteral_iff]
    exact Numeral.readDecimal?_write Layout.number proper.digits proper.nonempty n
  cases negative with
  | false => exact .signed .bare number
  | true => exact .signed .minus number

namespace Decimal

theorem eq_of_value_eq {c d : Decimal} (hc : c.coefficient % 10 ≠ 0) (hd : d.coefficient % 10 ≠ 0)
    (same : c.value = d.value) : c = d := by
  wlog order : c.exponent ≤ d.exponent generalizing c d
  · exact (this hd hc same.symm (le_of_not_ge order)).symm
  obtain ⟨k, exponent⟩ := Int.le.dest order
  have coefficient : c.coefficient = d.coefficient * 10 ^ k := by
    rw [value, value, ← exponent, zpow_add₀ (by norm_num), zpow_natCast, mul_left_comm,
      mul_comm _ ((10 : ℚ) ^ c.exponent), mul_left_cancel_iff_of_pos (by positivity)] at same
    exact_mod_cast same
  rcases Nat.eq_zero_or_pos k with rfl | positive
  · cases c
    cases d
    simp_all
  · -- Otherwise ten divides the coefficient with the smaller exponent.
    rw [coefficient] at hc
    exact absurd (Nat.mod_eq_zero_of_dvd (Dvd.dvd.mul_left (dvd_pow_self 10 positive.ne') _)) hc

theorem exists_of_significant {ds : List Char} (proper : Significant ds) (n : ℤ) :
    ∃ d : Decimal, d.coefficient % 10 ≠ 0 ∧ d.digits = ds ∧ d.point = n ∧
      d.value = pointed ds n := by
  obtain ⟨positive, digits⟩ := proper.toDigits
  refine ⟨⟨Nat.ofDigitChars 10 ds 0, n - ds.length⟩, ?_, digits, ?_, rfl⟩
  · rwa [← significant_toDigits_iff positive, digits]
  · rw [point, Decimal.digits, digits]
    exact add_sub_cancel _ _

theorem value_eq_pointed (d : Decimal) : d.value = pointed d.digits d.point := by
  rw [value, pointed, digits, Nat.ofDigitChars_ten_toDigits, point, digits]
  congr 2
  omega

end Decimal

theorem eq_of_pointed_eq {ds es : List Char} (hd : Decimal.Significant ds)
    (he : Decimal.Significant es) {n m : ℤ} (same : pointed ds n = pointed es m) :
    ds = es ∧ n = m := by
  obtain ⟨c, hc, rfl, rfl, left⟩ := Decimal.exists_of_significant hd n
  obtain ⟨d, hd, rfl, rfl, right⟩ := Decimal.exists_of_significant he m
  obtain rfl := Decimal.eq_of_value_eq hc hd (left.trans (same.trans right.symm))
  exact ⟨rfl, rfl⟩

namespace Double

theorem isNearest_value_iff (x : Double) (d : Decimal) :
    x.IsNearest d.value ↔ d.nearestMagnitude = x.magnitude := by
  have nearest := Decimal.nearest_isNearest false d
  have size := Decimal.magnitude_nearest false d
  constructor
  · intro other
    rw [← size]
    exact nearest.magnitude_eq other
  · intro same
    exact .congr (same.symm.trans size.symm) nearest

/-- Digits and a point that round to a double, no more digits than are needed for that, and none of
as many digits closer to the double. -/
structure Spelling (x : Double) (ds : List Char) (n : ℤ) : Prop where
  significant : Decimal.Significant ds
  rounds : x.IsNearest (pointed ds n)
  shortest (es : List Char) (m : ℤ) : Decimal.Significant es → x.IsNearest (pointed es m) →
    ds.length ≤ es.length
  closest (es : List Char) (m : ℤ) : Decimal.Significant es → x.IsNearest (pointed es m) →
    es.length = ds.length → |pointed ds n - x.absolute| ≤ |pointed es m - x.absolute|

section Spelling

variable {x : Double}

theorem Spelling.unique {ds es : List Char} {n m : ℤ} (first : x.Spelling ds n)
    (other : x.Spelling es m) :
    es = ds ∧ m = n ∨ pointed es m - x.absolute = x.absolute - pointed ds n := by
  have length : es.length = ds.length := le_antisymm
    (other.shortest ds n first.significant first.rounds)
    (first.shortest es m other.significant other.rounds)
  have distance : |pointed es m - x.absolute| = |pointed ds n - x.absolute| := le_antisymm
    (other.closest ds n first.significant first.rounds length.symm)
    (first.closest es m other.significant other.rounds length)
  rcases abs_eq_abs.1 distance with same | opposite
  · exact .inl (eq_of_pointed_eq other.significant first.significant (by linarith))
  · exact .inr (by linarith)

theorem spelling_shortest (tie : Tie) (finite : x.isFinite = true) (nonzero : x.isZero = false) :
    x.Spelling (x.shortest tie).digits (x.shortest tie).point := by
  have competitor {es : List Char} (proper : Decimal.Significant es) {m : ℤ}
      (rounds : x.IsNearest (pointed es m)) :
      ∃ c : Decimal, c.digits = es ∧ c.value = pointed es m ∧ c.nearestMagnitude = x.magnitude := by
    obtain ⟨c, -, digits, -, value⟩ := Decimal.exists_of_significant proper m
    exact ⟨c, digits, value, (x.isNearest_value_iff c).1 (value ▸ rounds)⟩
  refine ⟨significant_shortest finite nonzero tie, ?_, ?_, ?_⟩
  · rw [← Decimal.value_eq_pointed, isNearest_value_iff]
    exact shortest_readsBack tie finite
  · intro es m proper rounds
    obtain ⟨c, rfl, -, reads⟩ := competitor proper rounds
    exact (shortest_spec finite nonzero tie c reads).1
  · intro es m proper rounds length
    obtain ⟨c, rfl, value, reads⟩ := competitor proper rounds
    rw [← Decimal.value_eq_pointed, ← value]
    exact (shortest_spec finite nonzero tie c reads).2 length.le

theorem of_quantity_ne_zero {q : ℚ} (h : x.quantity = .finite q) (nonzero : q ≠ 0) :
    x.isFinite = true ∧ x.isZero = false ∧ x.negative = decide (q < 0) ∧ x.absolute = |q| := by
  have finite := isFinite_of_quantity h
  have size := absolute_of_quantity h
  have positive : 0 < x.absolute := by rwa [size, abs_pos]
  refine ⟨finite, ?_, ?_, size⟩
  · rw [← Bool.not_eq_true, ← absolute_eq_zero_iff]
    exact positive.ne'
  · rw [quantity_of_isFinite finite, Quantity.finite.injEq] at h
    rw [← h]
    cases x.negative <;> simp [x.absolute_nonneg, positive]

end Spelling

theorem quantity_eq_iff_equals (x y : Double) :
    x.quantity = y.quantity ↔ x.equals y = true ∨ x.isNaN = true ∧ y.isNaN = true := by
  rw [Quantity.eq_iff_agree, equals_iff_agree, quantity_eq_nan_iff, quantity_eq_nan_iff, or_comm]

/-- A double without the payload of a NaN and the sign of a zero. -/
def canonical (x : Double) : Double :=
  if x.isNaN then nan else if x.isZero then zero else x

theorem quantity_canonical (x : Double) : x.canonical.quantity = x.quantity := by
  unfold canonical
  split
  case isTrue number => rw [quantity_of_isNaN number]; rfl
  split
  case isTrue zero => rw [quantity_of_isZero zero, quantity_of_isZero (by decide)]
  case isFalse => rfl

theorem canonical_ofInt (n : ℤ) : (ofInt n).canonical = ofInt n := by
  rw [canonical, if_neg (by simp [ofInt])]
  split
  case isTrue h =>
    have nothing : n.natAbs = 0 := by
      rw [isZero, ofInt, magnitude_nearest, beq_iff_eq] at h
      by_contra nonzero
      exact nearestMagnitude_natural_ne_zero (Nat.pos_of_ne_zero nonzero) h
    obtain rfl : n = 0 := Int.natAbs_eq_zero.1 nothing
    decide
  case isFalse => rfl

end Double

end ScriptValue
