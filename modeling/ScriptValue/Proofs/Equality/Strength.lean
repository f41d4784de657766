import ScriptValue.Proofs.Equality.Strict
import ScriptValue.Proofs.Number.Conversion

set_option autoImplicit false

namespace ScriptValue

namespace Double

theorem not_isNaN_of_isZero {x : Double} (zero : x.isZero = true) : x.isNaN = false :=
  not_isNaN_of_isFinite (isFinite_of_quantity (quantity_of_isZero zero))

theorem eq_or_isZero_of_equals {x y : Double} (equal : x.equals y = true) :
    x = y ∨ x.isZero = true ∧ y.isZero = true := by
  simp only [equals, Bool.and_eq_true, Bool.or_eq_true, beq_iff_eq] at equal
  exact equal.2

theorem equals_of_isZero {x y : Double} (hx : x.isZero = true) (hy : y.isZero = true) :
    x.equals y = true := by
  simp [equals, not_isNaN_of_isZero hx, not_isNaN_of_isZero hy, hx, hy]

-- The sign tells an integer from a double only where the double is negative zero.
theorem integer?_signed_iff (x : Double) (k : ℤ) :
    (x.integer? == some k && !x.isNegativeZero) = true ↔
      x.integer? = some k ∧
        ¬((k : ℚ) = 0 ∧ x.quantity = .finite 0 ∧ x.isNegativeZero = true) := by
  rw [Bool.and_eq_true, beq_iff_eq, Bool.not_eq_true']
  constructor
  · rintro ⟨whole, positive⟩
    exact ⟨whole, fun zero => by simp [positive] at zero⟩
  · rintro ⟨whole, apart⟩
    refine ⟨whole, ?_⟩
    cases negative : x.isNegativeZero with
    | false => rfl
    | true =>
      simp only [isNegativeZero, Bool.and_eq_true] at negative
      have zero := quantity_of_isZero negative.1
      have nothing : (k : ℚ) = 0 := by
        rw [integer?_eq_some_iff, zero, Quantity.finite.injEq] at whole
        exact whole.symm
      exact absurd ⟨nothing, zero, by simp [isNegativeZero, negative]⟩ apart

theorem equals_signed_iff (x y : Double) :
    (x.isNaN && y.isNaN || x.equals y && x.negative == y.negative) = true ↔
      (x.isNaN && y.isNaN || x.equals y) = true ∧
        ¬(x.quantity = .finite 0 ∧ y.quantity = .finite 0 ∧
          x.isNegativeZero ≠ y.isNegativeZero) := by
  rw [quantity_eq_zero_iff, quantity_eq_zero_iff]
  by_cases zeros : x.isZero = true ∧ y.isZero = true
  · simp [isNegativeZero, zeros.1, zeros.2, not_isNaN_of_isZero zeros.1,
      equals_of_isZero zeros.1 zeros.2]
  · have sign (equal : x.equals y = true) : x.negative = y.negative := by
      rcases eq_or_isZero_of_equals equal with rfl | both
      · rfl
      · exact absurd both zeros
    have apart : ¬(x.isZero = true ∧ y.isZero = true ∧ x.isNegativeZero ≠ y.isNegativeZero) :=
      fun h => zeros ⟨h.1, h.2.1⟩
    simp only [apart, not_false_eq_true, and_true]
    cases equal : x.equals y with
    | false => simp
    | true => simp [sign equal]

end Double

namespace Number

def isNaN : Number → Bool
  | .float x => x.isNaN
  | _ => false

def isNegativeZero : Number → Bool
  | .float x => x.isNegativeZero
  | _ => false

def ZerosApart (m n : Number) : Prop :=
  m.quantity = .finite 0 ∧ n.quantity = .finite 0 ∧ m.isNegativeZero ≠ n.isNegativeZero

theorem quantity_eq_nan_iff (n : Number) : n.quantity = .nan ↔ n.isNaN = true := by
  cases n with
  | integer k | bigInteger k => simp [quantity, isNaN]
  | float x => exact x.quantity_eq_nan_iff

theorem isNegativeZero_eq_match (n : Number) :
    n.isNegativeZero = match n.integerOrDouble with
      | .inl _ => false
      | .inr x => x.isNegativeZero := by cases n <;> rfl

theorem same_false_iff (m n : Number) :
    m.same false n = true ↔ m.same true n = true ∧ ¬m.ZerosApart n := by
  rw [same, same, ZerosApart, quantity_eq_match, quantity_eq_match, isNegativeZero_eq_match,
    isNegativeZero_eq_match]
  cases m.integerOrDouble <;> cases n.integerOrDouble
  case inl.inl => simp
  case inl.inr k x =>
    simpa only [Bool.false_or, Bool.true_or, Bool.and_true, beq_iff_eq, Quantity.finite.injEq,
      ne_eq, Bool.false_eq, Bool.not_eq_false] using x.integer?_signed_iff k
  case inr.inl x k => simpa [and_left_comm] using x.integer?_signed_iff k
  case inr.inr x y => simpa using x.equals_signed_iff y

theorem same_false_iff_equals (m n : Number) :
    m.same false n = true ↔
      m.isNaN = true ∧ n.isNaN = true ∨ m.equals n = true ∧ ¬m.ZerosApart n := by
  rw [same_false_iff, same_iff_quantity_eq, Quantity.eq_iff_agree, quantity_eq_nan_iff,
    quantity_eq_nan_iff, equals_iff_agree]
  have apart (nan : m.isNaN = true) : ¬m.ZerosApart n := by
    rintro ⟨zero, -⟩
    rw [← quantity_eq_nan_iff, zero] at nan
    exact absurd nan nofun
  tauto

end Number

namespace Value

def isNaN : Value → Bool
  | .number n => n.isNaN
  | _ => false

variable {a b : Value}

theorem checkResolved_of_resolved (ha : a.isUnresolved = false) (hb : b.isUnresolved = false) :
    a.checkResolved b = .ok () := by
  cases a <;> cases b <;> first | rfl | simp [isUnresolved] at ha hb

theorem sameUpTo_of_resolved (zerosEqual : Bool) (ha : a.isUnresolved = false)
    (hb : b.isUnresolved = false) : a.sameUpTo zerosEqual b = .ok (sameContent zerosEqual a b) := by
  rw [sameUpTo, checkResolved_of_resolved ha hb]
  rfl

theorem sameContent_mono (same : sameContent false a b = true) : sameContent true a b = true := by
  cases a <;> cases b
  case number.number m n => exact ((Number.same_false_iff m n).1 same).1
  all_goals exact same

theorem strictContent_iff (objects : ¬(a.isObject = true ∧ b.isObject = true)) :
    strictContent a b = true ↔
      sameContent true a b = true ∧ ¬(a.isNaN = true ∧ b.isNaN = true) ∧
        ¬(a.isSlot = true ∧ b.isSlot = true) := by
  cases a <;> cases b
  case number.number m n =>
    simp only [strictContent, sameContent, isNaN, isSlot]
    rw [Number.same_iff_quantity_eq, Number.equals_iff_agree, Quantity.Agree, ne_eq,
      Number.quantity_eq_nan_iff]
    constructor
    · rintro ⟨same, number⟩
      exact ⟨same, fun nan => number nan.1, by simp⟩
    · rintro ⟨same, number, -⟩
      refine ⟨same, fun nan => number ⟨nan, ?_⟩⟩
      rw [← Number.quantity_eq_nan_iff, ← same, Number.quantity_eq_nan_iff, nan]
  case object.object => exact absurd ⟨rfl, rfl⟩ objects
  case slot.slot => simp [strictContent, isSlot]
  all_goals simp [strictContent, sameContent, isNaN, isSlot]

theorem looseContent_of_strictContent (strict : strictContent a b = true) :
    looseContent a b = true := by
  cases a <;> cases b <;> first | exact strict | simp [strictContent] at strict

theorem isObject_of_strictContent (strict : strictContent a b = true) :
    a.isObject = false ∧ b.isObject = false := by
  cases a <;> cases b <;> first | exact ⟨rfl, rfl⟩ | simp [strictContent] at strict

end Value

namespace Host

variable {σ : Type} (host : Host σ)

theorem looseEquals_of_strictEquals {w after : World σ} {a b : Value}
    (strict : (host.strictEquals a b).runIn w = (.ok true, after)) :
    host.Alike (fun _ h => h.strictEquals a b) (fun _ h => h.looseEquals a b) w := by
  obtain ⟨x, y, rfl, rfl⟩ | objects := Value.eq_objects_or a b
  · -- Two objects go to the same hook.
    exact (host.strictEquals_asks w _ _).alike fun _ h u => rfl
  · obtain ⟨resolved, content⟩ := strictContent_of_strictEquals host objects strict
    obtain ⟨left, right⟩ := Value.isObject_of_strictContent content
    refine (host.strictEquals_asks w a b).alike fun _ h u => ?_
    rw [runIn_strictEquals h objects, runIn_looseEquals h u left right resolved, resolved, content,
      Value.looseContent_of_strictContent content]
    rfl

/-- The relations on resolved values, from the finest to the coarsest. -/
theorem relations_line_up (w : World σ) {a b : Value} (ha : a.isUnresolved = false)
    (hb : b.isUnresolved = false) :
    (∃ r s, a.same b = .ok r ∧ a.sameZero b = .ok s ∧ (r = true → s = true)) ∧
      (¬(a.isObject = true ∧ b.isObject = true) →
        ∃ r s, (host.strictEquals a b).runIn w = (.ok r, w) ∧ a.sameZero b = .ok s ∧
          (r = true ↔ s = true ∧ ¬(a.isNaN = true ∧ b.isNaN = true) ∧
            ¬(a.isSlot = true ∧ b.isSlot = true))) ∧
      (∀ m n : Number, a = .number m → b = .number n →
        ∃ r s, (host.strictEquals a b).runIn w = (.ok r, w) ∧ a.same b = .ok s ∧
          (r = true ↔ m.quantity.Agree n.quantity) ∧
          (s = true ↔ m.isNaN = true ∧ n.isNaN = true ∨ r = true ∧ ¬m.ZerosApart n)) ∧
      ∀ after, (host.strictEquals a b).runIn w = (.ok true, after) →
        (host.looseEquals a b).runIn w = (.ok true, after) ∧
          host.Alike (fun _ h => h.strictEquals a b) (fun _ h => h.looseEquals a b) w := by
  have resolved := Value.checkResolved_of_resolved ha hb
  have same (zerosEqual : Bool) := Value.sameUpTo_of_resolved zerosEqual ha hb
  have strict (objects : ¬(a.isObject = true ∧ b.isObject = true)) :
      (host.strictEquals a b).runIn w = (.ok (a.strictContent b), w) := by
    rw [runIn_strictEquals host objects, resolved]
    rfl
  refine ⟨⟨_, _, same false, same true, Value.sameContent_mono⟩, fun objects => ?_, ?_, ?_⟩
  · exact ⟨_, _, strict objects, same true, Value.strictContent_iff objects⟩
  · rintro m n rfl rfl
    refine ⟨_, _, strict (by simp [Value.isObject]), same false, ?_, ?_⟩
    · exact Number.equals_iff_agree m n
    · exact Number.same_false_iff_equals m n
  · intro after equal
    have alike := looseEquals_of_strictEquals host equal
    exact ⟨alike.1.symm.trans equal, alike⟩

theorem relations_line_up_wrappers :
    (wrappers.looseEquals (.object ⟨1⟩) (.object ⟨2⟩)).runIn { host := fun _ => .integer 3 } =
        (.ok true, { host := fun _ => .integer 3 }) ∧
      wrappers.Alike (fun _ h => h.strictEquals (.object ⟨1⟩) (.object ⟨2⟩))
        (fun _ h => h.looseEquals (.object ⟨1⟩) (.object ⟨2⟩)) { host := fun _ => .integer 3 } := by
  obtain ⟨-, -, -, loose⟩ := wrappers.relations_line_up { host := fun _ => .integer 3 }
    (a := .object ⟨1⟩) (b := .object ⟨2⟩) rfl rfl
  exact loose _ rfl

end Host

end ScriptValue
