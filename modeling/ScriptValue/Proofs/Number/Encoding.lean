import ScriptValue.Proofs.Equality.Strength

set_option autoImplicit false

namespace ScriptValue

namespace Double

theorem isNegativeZero_iff (x : Double) : x.isNegativeZero = true ↔ x = .negativeZero := by
  constructor
  · intro h
    simp only [isNegativeZero, isZero, Bool.and_eq_true, beq_iff_eq] at h
    exact ext_magnitude (h.2.trans (by decide)) (h.1.trans (by decide))
  · rintro rfl
    decide

def IsNarrow (x : Double) (n : ℤ) : Prop :=
  x.quantity = .finite n ∧ -2 ^ 31 ≤ n ∧ n ≤ 2 ^ 31 - 1 ∧ x ≠ .negativeZero

theorem IsNarrow.isNegativeZero {x : Double} {n : ℤ} (narrow : x.IsNarrow n) :
    x.isNegativeZero = false := by
  rw [← Bool.not_eq_true, x.isNegativeZero_iff]
  exact narrow.2.2.2

theorem eq_of_same {x y : Double} (same : (Number.float x).same false (.float y) = true)
    (number : x.isNaN = false) : x = y := by
  obtain ⟨agree, together⟩ := (Number.same_false_iff _ _).1 same
  have quantity : x.quantity = y.quantity := (Number.same_iff_quantity_eq _ _).1 agree
  rcases (quantity_eq_iff x y).1 quantity with ⟨nan, -⟩ | equal | ⟨zeroX, zeroY⟩
  · rw [number] at nan
    cases nan
  · exact equal
  · have negative : x.isNegativeZero = y.isNegativeZero := by
      by_contra apart
      exact together ⟨quantity_of_isZero zeroX, quantity_of_isZero zeroY, apart⟩
    rw [isNegativeZero, isNegativeZero, zeroX, zeroY, Bool.true_and, Bool.true_and] at negative
    exact ext_magnitude negative ((beq_iff_eq.1 zeroX).trans (beq_iff_eq.1 zeroY).symm)

end Double

namespace Number

theorem fitsInteger_iff (n : ℤ) : fitsInteger n = true ↔ -2 ^ 31 ≤ n ∧ n ≤ 2 ^ 31 - 1 := by
  simp only [fitsInteger, Bool.and_eq_true, decide_eq_true_eq]
  omega

theorem same_of_quantity {m n : Number} (quantity : m.quantity = n.quantity)
    (sign : m.isNegativeZero = n.isNegativeZero) : m.same false n = true :=
  (same_false_iff m n).2 ⟨(same_iff_quantity_eq m n).2 quantity, fun apart => apart.2.2 sign⟩

theorem ofInt64_of_fits {n : Int64} (fits : -2 ^ 31 ≤ n.toInt ∧ n.toInt ≤ 2 ^ 31 - 1) :
    ofInt64 n = .integer (Int32.ofInt n.toInt) := by
  rw [ofInt64, if_pos ((fitsInteger_iff _).2 fits)]

theorem ofInt64_of_not_fits {n : Int64} (wide : ¬(-2 ^ 31 ≤ n.toInt ∧ n.toInt ≤ 2 ^ 31 - 1)) :
    ofInt64 n = .bigInteger n := by
  rw [ofInt64, if_neg (by rwa [fitsInteger_iff])]

theorem same_ofInt64 (n : Int64) : (ofInt64 n).same false (.bigInteger n) = true := by
  by_cases fits : -2 ^ 31 ≤ n.toInt ∧ n.toInt ≤ 2 ^ 31 - 1
  · rw [ofInt64_of_fits fits]
    refine same_of_quantity ?_ rfl
    rw [quantity, quantity, toInt_ofInt_of_fits ((fitsInteger_iff _).2 fits)]
  · rw [ofInt64_of_not_fits fits]
    exact same_of_quantity rfl rfl

end Number

namespace Narrowing

variable (narrowing : Narrowing)

theorem ofDouble_of_isNarrow {x : Double} {n : ℤ} (narrow : x.IsNarrow n) :
    narrowing.ofDouble x = .integer (Int32.ofInt n) := by
  have whole : x.integer? = some n := (x.integer?_eq_some_iff n).2 narrow.1
  have fits : Number.fitsInteger n = true :=
    (Number.fitsInteger_iff n).2 ⟨narrow.2.1, narrow.2.2.1⟩
  simp [ofDouble_eq, whole, fits, narrow.isNegativeZero]

theorem ofDouble_of_not_isNarrow {x : Double} (wide : ¬∃ n, x.IsNarrow n) :
    narrowing.ofDouble x = .float x := by
  rw [ofDouble_eq]
  split
  case h_1 n whole =>
    split
    case isTrue accepted =>
      -- What is encoded narrowly is narrow.
      simp only [Bool.and_eq_true, Bool.not_eq_true'] at accepted
      obtain ⟨lower, upper⟩ := (Number.fitsInteger_iff n).1 accepted.1
      have positive : x ≠ .negativeZero := by
        rw [ne_eq, ← x.isNegativeZero_iff, accepted.2]
        exact Bool.false_ne_true
      exact absurd ⟨n, (x.integer?_eq_some_iff n).1 whole, lower, upper, positive⟩ wide
    case isFalse => rfl
  case h_2 => rfl

theorem ofDouble_eq_standard (x : Double) : narrowing.ofDouble x = Number.ofDouble x := by
  rw [ofDouble_eq, Number.ofDouble, ofDouble_eq]

theorem same_ofDouble (x : Double) : (narrowing.ofDouble x).same false (.float x) = true := by
  apply Number.same_of_quantity
  · rw [ofDouble_eq_standard]
    exact Number.quantity_ofDouble x
  by_cases narrow : ∃ n, x.IsNarrow n
  · obtain ⟨n, narrow⟩ := narrow
    rw [narrowing.ofDouble_of_isNarrow narrow]
    exact narrow.isNegativeZero.symm
  · rw [narrowing.ofDouble_of_not_isNarrow narrow]

/-- Numbers are encoded without loss and in one way. A double becomes a narrow integer where it is
one, and otherwise keeps its bits; a wide integer becomes a narrow one where it fits; and the two
encodings of a number that is both agree. -/
theorem encoding_canonical :
    (∀ x : Double,
      Value.same (.number (narrowing.ofDouble x)) (.float x) = .ok true ∧
      ((∃ k, narrowing.ofDouble x = .integer k) ↔ ∃ n, x.IsNarrow n) ∧
      ((∃ k, narrowing.ofDouble x = .integer k) ∨ narrowing.ofDouble x = .float x)) ∧
    (∀ x y : Double, Value.same (.float x) (.float y) = .ok true → x.isNaN = false →
      narrowing.ofDouble x = narrowing.ofDouble y) ∧
    (∀ n : Int64,
      Value.same (.ofInt64 n) (.bigInteger n) = .ok true ∧
      ((∃ k, Number.ofInt64 n = .integer k) ↔ -2 ^ 31 ≤ n.toInt ∧ n.toInt ≤ 2 ^ 31 - 1) ∧
      ((∃ k, Number.ofInt64 n = .integer k) ∨ Number.ofInt64 n = .bigInteger n)) ∧
    ∀ (n : Int64) (x : Double), x.IsNarrow n.toInt →
      ∃ k : Int32, k.toInt = n.toInt ∧ Number.ofInt64 n = .integer k ∧
        narrowing.ofDouble x = .integer k := by
  refine ⟨fun x => ⟨?_, ?_⟩, fun x y same number => ?_, fun n => ⟨?_, ?_⟩, fun n x narrow => ?_⟩
  · exact congrArg Except.ok (narrowing.same_ofDouble x)
  · by_cases narrow : ∃ n, x.IsNarrow n
    · have encoded : ∃ k, narrowing.ofDouble x = .integer k :=
        narrow.elim fun n h => ⟨_, narrowing.ofDouble_of_isNarrow h⟩
      exact ⟨iff_of_true encoded narrow, .inl encoded⟩
    · have kept := narrowing.ofDouble_of_not_isNarrow narrow
      exact ⟨iff_of_false (by simp [kept]) narrow, .inr kept⟩
  · rw [Double.eq_of_same (Except.ok.inj same) number]
  · exact congrArg Except.ok (Number.same_ofInt64 n)
  · by_cases fits : -2 ^ 31 ≤ n.toInt ∧ n.toInt ≤ 2 ^ 31 - 1
    · have encoded : ∃ k, Number.ofInt64 n = .integer k := ⟨_, Number.ofInt64_of_fits fits⟩
      exact ⟨iff_of_true encoded fits, .inl encoded⟩
    · have kept := Number.ofInt64_of_not_fits fits
      exact ⟨iff_of_false (by simp [kept]) fits, .inr kept⟩
  · have fits : -2 ^ 31 ≤ n.toInt ∧ n.toInt ≤ 2 ^ 31 - 1 := ⟨narrow.2.1, narrow.2.2.1⟩
    exact ⟨_, Number.toInt_ofInt_of_fits ((Number.fitsInteger_iff _).2 fits),
      Number.ofInt64_of_fits fits, narrowing.ofDouble_of_isNarrow narrow⟩

theorem encoding_canonical_least :
    (⟨0xC1E0000000000000⟩ : Double).IsNarrow (-2147483648 : Int64).toInt ∧
      (∃ k : Int32, k.toInt = -2 ^ 31 ∧ Number.ofInt64 (-2147483648) = .integer k ∧
        Number.ofDouble ⟨0xC1E0000000000000⟩ = .integer k) ∧
      Value.same (.float .negativeZero) (.float .negativeZero) = .ok true ∧
      Number.ofDouble .negativeZero = .float .negativeZero := by
  have quantity : (⟨0xC1E0000000000000⟩ : Double).quantity =
      .finite (-2147483648 : Int64).toInt := by decide +kernel
  have narrow : (⟨0xC1E0000000000000⟩ : Double).IsNarrow (-2147483648 : Int64).toInt :=
    ⟨quantity, by decide, by decide, by decide⟩
  obtain ⟨doubles, same, -, together⟩ := standard.encoding_canonical
  have kept : Number.ofDouble .negativeZero = .float .negativeZero := by
    rcases (doubles .negativeZero).2.2 with encoded | kept
    · obtain ⟨n, -, -, -, positive⟩ := (doubles .negativeZero).2.1.1 encoded
      exact absurd rfl positive
    · exact kept
  have equal := same .negativeZero .negativeZero (by decide) (by decide)
  exact ⟨narrow, together _ _ narrow, by decide, equal.trans kept⟩

end Narrowing

end ScriptValue
