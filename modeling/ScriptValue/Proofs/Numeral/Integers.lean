import ScriptValue.Proofs.Double.Wrapping
import ScriptValue.Proofs.Numeral.RoundTrip

set_option autoImplicit false

namespace ScriptValue

namespace Decimal

theorem exponent_le_trim (d : Decimal) : d.exponent ≤ d.trim.exponent := by
  fun_induction trim d with
  | case1 d h ih => exact (Int.le_add_one le_rfl).trans ih
  | case2 d h => exact le_rfl

theorem trim_natural {n : ℕ} (positive : 0 < n) :
    ∃ k j : ℕ, trim ⟨n, 0⟩ = ⟨k, j⟩ ∧ k * 10 ^ j = n ∧ k % 10 ≠ 0 := by
  have nonneg := exponent_le_trim ⟨n, 0⟩
  have value := value_trim ⟨n, 0⟩
  have divides := trim_mod (d := ⟨n, 0⟩)
  generalize trim ⟨n, 0⟩ = d at nonneg value divides
  obtain ⟨j, exponent⟩ := Int.eq_ofNat_of_zero_le nonneg
  have product : d.coefficient * 10 ^ j = n := by
    simp only [Decimal.value, exponent, zpow_natCast, zpow_zero, mul_one] at value
    exact_mod_cast value
  refine ⟨d.coefficient, j, ?_, product, divides fun zero => ?_⟩
  · rw [← exponent]
  · rw [zero, Nat.zero_mul] at product
    omega

theorem toDigits_mul_pow {k : ℕ} (positive : 0 < k) (j : ℕ) :
    Nat.toDigits 10 (k * 10 ^ j) = Nat.toDigits 10 k ++ List.replicate j '0' := by
  rw [toDigits_append (Numeral.digits_zeros j) positive, Nat.ofDigitChars_replicate_zero,
    Nat.mul_comm]

end Decimal

namespace Double

-- Doubles hold the even numbers below `2 ^ 54`, so each of them is read as itself.
theorem not_reads_of_even {x : Double} {n m j : ℕ} (size : x.absolute = n)
    (apart : m * 10 ^ (j + 1) ≠ n) (bound : m * 10 ^ (j + 1) < 2 ^ 54) :
    (⟨m, (j + 1 : ℕ)⟩ : Decimal).nearestMagnitude ≠ x.magnitude := by
  intro reads
  have even : m * 10 ^ (j + 1) = m * 5 * 10 ^ j * 2 := by ring
  obtain ⟨y, finite, whole⟩ := exists_absolute (k := m * 5 * 10 ^ j) (e := 1) (by omega)
    (by norm_num) (by norm_num)
  have same : y.absolute = (m * 10 ^ (j + 1) : ℕ) := by
    rw [whole, even, zpow_one]
    push_cast
    rfl
  have fraction : (⟨m, (j + 1 : ℕ)⟩ : Decimal).value = y.absolute := by
    rw [same, Decimal.value, zpow_natCast]
    push_cast
    rfl
  rw [← Decimal.value_eq_div] at fraction
  rw [Decimal.nearestMagnitude_eq,
    nearestMagnitude_absolute finite (Decimal.denominator_pos _) fraction] at reads
  rw [absolute_congr reads, size, Nat.cast_inj] at same
  exact apart same.symm

section Natural

variable {x : Double} {n : ℕ} (finite : x.isFinite = true) (size : x.absolute = n)
  (positive : 0 < n) (small : n ≤ 2 ^ 53)

include finite size

theorem reads_of_value {d : Decimal} (value : d.value = n) : d.nearestMagnitude = x.magnitude := by
  rw [Decimal.nearestMagnitude_eq]
  apply nearestMagnitude_absolute finite d.denominator_pos
  rw [Decimal.value_eq_div, value, size]

include positive small

-- Fewer digits would do only for a neighbour, and the neighbours are even numbers.
theorem length_le_of_reads {e : Decimal} (reads : e.nearestMagnitude = x.magnitude) :
    (Decimal.trim ⟨n, 0⟩).digits.length ≤ e.digits.length := by
  obtain ⟨k, j, trimmed, product, divides⟩ := Decimal.trim_natural positive
  have value : (⟨k, j⟩ : Decimal).value = n := by
    rw [← product, Decimal.value, zpow_natCast]
    push_cast
    rfl
  have exact := reads_of_value finite size value
  rw [trimmed]
  by_contra shorter
  have leading : 0 < k := by omega
  have short : e.digits.length + 1 ≤ (⟨k, j⟩ : Decimal).digits.length := by omega
  have long : 10 ≤ k := by
    have first := e.length_digits_pos
    calc 10 = 10 ^ 1 := rfl
      _ ≤ 10 ^ ((⟨k, j⟩ : Decimal).digits.length - 1) := Nat.pow_le_pow_right (by decide) (by omega)
      _ ≤ k := Decimal.le_coefficient (d := ⟨k, j⟩) leading
  have unit : 0 < 10 ^ j := by positivity
  rcases Decimal.neighbour_reads exact leading short reads with ⟨-, back⟩ | ⟨-, back⟩
  · have below : k / 10 * 10 ^ (j + 1) < n := by
      calc k / 10 * 10 ^ (j + 1) = k / 10 * 10 * 10 ^ j := by ring
        _ < k * 10 ^ j := Nat.mul_lt_mul_of_pos_right (by omega) unit
        _ = n := product
    exact not_reads_of_even size below.ne (by omega) (by simpa [Decimal.below] using back)
  · have above : n < (k / 10 + 1) * 10 ^ (j + 1) := by
      calc n = k * 10 ^ j := product.symm
        _ < (k / 10 * 10 + 10) * 10 ^ j := Nat.mul_lt_mul_of_pos_right (by omega) unit
        _ = (k / 10 + 1) * 10 ^ (j + 1) := by ring
    have near : (k / 10 + 1) * 10 ^ (j + 1) < 2 * n := by
      calc (k / 10 + 1) * 10 ^ (j + 1) = (k / 10 * 10 + 10) * 10 ^ j := by ring
        _ < 2 * k * 10 ^ j := Nat.mul_lt_mul_of_pos_right (by omega) unit
        _ = 2 * n := by rw [← product, Nat.mul_assoc]
    exact not_reads_of_even size above.ne' (by omega) (by simpa [Decimal.above] using back)

theorem Spelling.natural {ds : List Char} {p : ℤ} (spelling : x.Spelling ds p) :
    ds = (Decimal.trim ⟨n, 0⟩).digits ∧ p = (Decimal.trim ⟨n, 0⟩).point := by
  have value : (Decimal.trim ⟨n, 0⟩).value = n := by
    rw [Decimal.value_trim, Decimal.value, zpow_zero, mul_one]
  have proper : Decimal.Significant (Decimal.trim ⟨n, 0⟩).digits := by
    obtain ⟨k, j, trimmed, product, divides⟩ := Decimal.trim_natural positive
    have leading : 0 < k := by omega
    rw [trimmed]
    exact (Decimal.significant_toDigits_iff leading).2 divides
  have rounds : x.IsNearest (pointed (Decimal.trim ⟨n, 0⟩).digits (Decimal.trim ⟨n, 0⟩).point) := by
    rw [← Decimal.value_eq_pointed, isNearest_value_iff]
    exact reads_of_value finite size value
  have length : (Decimal.trim ⟨n, 0⟩).digits.length = ds.length := by
    obtain ⟨d, -, rfl, -, same⟩ := Decimal.exists_of_significant spelling.significant p
    apply le_antisymm _ (spelling.shortest _ _ proper rounds)
    apply length_le_of_reads finite size positive small
    rw [← isNearest_value_iff, same]
    exact spelling.rounds
  have closest := spelling.closest _ _ proper rounds length
  rw [← Decimal.value_eq_pointed, value, size, sub_self, abs_zero, abs_nonpos_iff,
    sub_eq_zero] at closest
  apply eq_of_pointed_eq spelling.significant proper
  rw [closest, ← Decimal.value_eq_pointed, value]

theorem Spelling.canonicalText_natural {ds : List Char} {p : ℤ} (spelling : x.Spelling ds p) :
    canonicalText ds p = Nat.toDigits 10 n := by
  obtain ⟨k, j, trimmed, product, divides⟩ := Decimal.trim_natural positive
  have written : Nat.toDigits 10 n = Nat.toDigits 10 k ++ List.replicate j '0' := by
    rw [← product, Decimal.toDigits_mul_pow (by omega)]
  have length : (Nat.toDigits 10 n).length = (Nat.toDigits 10 k).length + j := by
    rw [written, List.length_append, List.length_replicate]
  have short : (Nat.toDigits 10 n).length ≤ 16 := by
    rw [Nat.length_toDigits_le_iff (by decide) (by decide)]
    exact small.trans_lt (by decide)
  obtain ⟨rfl, rfl⟩ := spelling.natural finite size positive small
  have digits : (⟨k, j⟩ : Decimal).digits = Nat.toDigits 10 k := rfl
  have point : (⟨k, j⟩ : Decimal).point = (Nat.toDigits 10 k).length + j := rfl
  rw [trimmed, point, digits, canonicalText, if_pos (by omega), add_sub_cancel_left,
    Int.toNat_natCast, written]

end Natural

theorem quantity_ofInt_of_le {n : ℤ} (small : n.natAbs ≤ 2 ^ 53) :
    (ofInt n).quantity = .finite n := by
  obtain ⟨k, e, product, short, least, most⟩ : ∃ (k : ℕ) (e : ℤ),
      ((n.natAbs : ℕ) : ℚ) / ((1 : ℕ) : ℚ) = k * 2 ^ e ∧ k < 2 ^ 53 ∧ -1074 ≤ e ∧ e ≤ 971 := by
    rcases small.eq_or_lt with limit | inside
    · exact ⟨1, 53, by rw [limit]; norm_num, by norm_num, by norm_num, by norm_num⟩
    · exact ⟨n.natAbs, 0, by simp, inside, by norm_num, by norm_num⟩
  rw [ofInt, quantity_nearest_exact _ Nat.one_pos product short least most, Nat.cast_one, div_one,
    ← cast_signed]
  congr 2
  simp only [signed, decide_eq_true_eq]
  split <;> omega

end Double

theorem Formatting.text_of_integer {f : Formatting} (shortest : f.Shortest) {x : Double} {n : ℤ}
    (h : x.quantity = .finite n) (small : n.natAbs ≤ 2 ^ 53) :
    f.text x = String.ofList (integerText n) := by
  rcases eq_or_ne n 0 with rfl | nonzero
  · rw [text_of_isZero ((Double.quantity_eq_zero_iff x).1 (by simpa using h))]
    decide
  · have number : (n : ℚ) ≠ 0 := by exact_mod_cast nonzero
    obtain ⟨finite, zero, sign, size⟩ := Double.of_quantity_ne_zero h number
    have natural : x.absolute = (n.natAbs : ℕ) := by
      rw [size, Nat.cast_natAbs, Int.cast_abs]
    have negative : x.negative = decide (n < 0) := by
      rw [sign]
      simp
    obtain ⟨ds, p, renders, spelling⟩ := shortest x finite zero
    obtain ⟨es, m, proper, value, written⟩ := text_of_renders finite zero renders spelling.rounds
    obtain ⟨rfl, rfl⟩ := eq_of_pointed_eq proper spelling.significant value
    rw [← String.toList_inj, written, write_number proper.nonempty, String.toList_ofList,
      integerText, negative,
      spelling.canonicalText_natural finite natural (Int.natAbs_pos.2 nonzero) small]

/-- Up to `2 ^ 53` an integer has the same text as a wide integer, as a narrow one and as a double,
either zero included: its plain decimal numeral. -/
theorem Host.integer_texts_alike {σ : Type} (host : Host σ) (shortest : host.formatting.Shortest)
    (integers : host.formatting.ShowsIntegers) (w : World σ) {n : Int64}
    (small : n.toInt.natAbs ≤ 2 ^ 53) :
    ∃ text : String, Numeral.IntegerNumeral text.toList n.toInt ∧
      (host.toText (.bigInteger n)).runIn w = (.ok text, w) ∧
      (∃ x : Double, x.quantity = .finite n.toInt) ∧
      (∀ x : Double, x.quantity = .finite n.toInt →
        (host.toText (.float x)).runIn w = (.ok text, w)) ∧
      ∀ k : Int32, k.toInt = n.toInt → (host.toText (.integer k)).runIn w = (.ok text, w) := by
  refine ⟨String.ofList (integerText n.toInt), ?_, ?_, ?_, fun x h => ?_, fun k same => ?_⟩
  · rw [String.toList_ofList]
    exact Numeral.integerNumeral_integerText n.toInt
  · exact (host.runIn_toText_number w (.bigInteger n)).trans (by rw [integers.wide])
  · exact ⟨.ofInt n.toInt, Double.quantity_ofInt_of_le small⟩
  · have text := Formatting.text_of_integer shortest h small
    exact (host.runIn_toText_number w (.float x)).trans (by rw [Formatting.numberText, text])
  · exact (host.runIn_toText_number w (.integer k)).trans (by rw [integers.narrow, same])

theorem Host.integer_texts_alike_last :
    Host.silent.formatting.Shortest ∧ Host.silent.formatting.ShowsIntegers ∧
      (-9007199254740992 : Int64).toInt.natAbs ≤ 2 ^ 53 ∧
      (Host.silent.toText (.float ⟨0xC340000000000000⟩)).runIn { host := () } =
        (.ok "-9007199254740992", { host := () }) := by
  have shortest := Formatting.standard_shortest
  have integers := Formatting.standard_showsIntegers
  have small : (-9007199254740992 : Int64).toInt.natAbs ≤ 2 ^ 53 := by decide
  refine ⟨shortest, integers, small, ?_⟩
  obtain ⟨text, -, wide, -, doubles, -⟩ :=
    Host.silent.integer_texts_alike shortest integers { host := () } small
  have exact : (⟨0xC340000000000000⟩ : Double).quantity =
      .finite (-9007199254740992 : Int64).toInt := by decide +kernel
  have written : Host.silent.formatting.numberText (.bigInteger (-9007199254740992)) =
      "-9007199254740992" := by decide +kernel
  rw [doubles _ exact, ← wide]
  exact (runIn_toText_number _ _ _).trans (by rw [written])

-- A double that is a larger integer may need fewer digits than the integer.
example : Double.text ⟨0x43B0000000000000⟩ = "1152921504606847000" := by decide +kernel

end ScriptValue
