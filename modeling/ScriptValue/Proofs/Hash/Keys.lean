import ScriptValue.Hash.MapKey
import ScriptValue.Proofs.Number.Exact

set_option autoImplicit false

namespace ScriptValue

/-- What a key stands for: a number in any encoding, a symbol whatever its description, and any
other value as it is. -/
inductive KeyClass where
  | number (q : Quantity)
  | symbol (serial : UInt64)
  | other (v : Value)
  deriving DecidableEq

namespace Value

def keyClass : Value → KeyClass
  | .number n => .number n.quantity
  | .symbol s => .symbol s.serial
  | v => .other v

theorem sameContent_iff_keyClass {a b : Value} (ha : a.isKey = true) (hb : b.isKey = true) :
    sameContent true a b = true ↔ a.keyClass = b.keyClass := by
  cases a <;> cases b
  case number.number m n =>
    simpa only [sameContent, keyClass, KeyClass.number.injEq] using Number.same_iff_quantity_eq m n
  all_goals simp_all [sameContent, keyClass, isKey, Symbol.same]

theorem sameZero_of_isKey {a b : Value} (ha : a.isKey = true) (hb : b.isKey = true) :
    a.sameZero b = .ok (sameContent true a b) := by
  cases a <;> cases b <;> first | rfl | simp [isKey] at ha hb

end Value

namespace Double

theorem hash_of_quantity {x : Double} {n : ℤ} (h : x.quantity = .finite n)
    (fits : fitsInt64 n = true) : x.hash = (Int64.ofInt n).toUInt64 := by
  have whole := (integer?_eq_some_iff x n).2 h
  simp [hash, whole, fits]

theorem hash_of_isNaN {x : Double} (h : x.isNaN = true) : x.hash = hashOfNaN := by
  simp [hash, integer?_of_isNaN h, h]

theorem hash_congr {x y : Double} (same : x.quantity = y.quantity) : x.hash = y.hash := by
  rcases (quantity_eq_iff x y).1 same with ⟨hx, hy⟩ | rfl | ⟨hx, hy⟩
  · rw [hash_of_isNaN hx, hash_of_isNaN hy]
  · rfl
  · have zero : x.quantity = .finite ((0 : ℤ) : ℚ) := by simp [quantity_of_isZero hx]
    rw [hash_of_quantity zero (by decide), hash_of_quantity (same ▸ zero) (by decide)]

end Double

namespace Number

theorem fitsInt64_toInt (n : Int64) : Double.fitsInt64 n.toInt = true := by
  have lower := n.le_toInt
  have upper := n.toInt_lt
  simp only [Double.fitsInt64, Bool.and_eq_true, decide_eq_true_eq]
  omega

theorem hash_of_quantity {a : Number} {n : ℤ} (h : a.quantity = .finite n)
    (fits : Double.fitsInt64 n = true) : a.hash = (Int64.ofInt n).toUInt64 := by
  cases a with
  | integer k =>
    have whole : k.toInt = n := by simpa [quantity] using h
    simp [hash, ← whole, Int32.toInt64]
  | bigInteger k =>
    have whole : k.toInt = n := by simpa [quantity] using h
    simp [hash, ← whole]
  | float x => exact Double.hash_of_quantity h fits

theorem hash_congr {a b : Number} (same : a.quantity = b.quantity) : a.hash = b.hash := by
  cases a with
  | integer n =>
    have fits : Double.fitsInt64 n.toInt = true := by simpa using fitsInt64_toInt n.toInt64
    rw [hash_of_quantity (a := .integer n) rfl fits, hash_of_quantity same.symm fits]
  | bigInteger n =>
    rw [hash_of_quantity (a := .bigInteger n) rfl (fitsInt64_toInt n),
      hash_of_quantity same.symm (fitsInt64_toInt n)]
  | float x =>
    cases b with
    | float y => exact Double.hash_congr same
    | integer n =>
      have fits : Double.fitsInt64 n.toInt = true := by simpa using fitsInt64_toInt n.toInt64
      rw [hash_of_quantity same fits, hash_of_quantity (a := .integer n) rfl fits]
    | bigInteger n =>
      rw [hash_of_quantity same (fitsInt64_toInt n),
        hash_of_quantity (a := .bigInteger n) rfl (fitsInt64_toInt n)]

end Number

namespace Value

theorem hash_isOk (seeds : HashSeeds) {v : Value} (h : v.isKey = true) :
    ∃ w, v.hash seeds = .ok w := by
  cases v <;> first | exact ⟨_, rfl⟩ | simp [isKey] at h

theorem hash_congr (seeds : HashSeeds) {a b : Value} (same : a.keyClass = b.keyClass) :
    a.hash seeds = b.hash seeds := by
  cases a <;> cases b
  case number.number m n =>
    simp only [hash, Number.hash_congr (KeyClass.number.inj same)]
  all_goals simp_all [keyClass, hash]

end Value

namespace MapKey

variable {seeds : HashSeeds}

theorem beq_iff_keyClass (a b : MapKey seeds) :
    (a == b) = true ↔ a.value.keyClass = b.value.keyClass := by
  have result := Value.sameZero_of_isKey a.isKey b.isKey
  have same := Value.sameContent_iff_keyClass a.isKey b.isKey
  simpa only [BEq.beq, result] using same

instance : EquivBEq (MapKey seeds) where
  rfl := by
    intro a
    exact (beq_iff_keyClass a a).2 rfl
  symm := by
    intro a b h
    exact (beq_iff_keyClass b a).2 ((beq_iff_keyClass a b).1 h).symm
  trans := by
    intro a b c h h'
    have first := (beq_iff_keyClass a b).1 h
    exact (beq_iff_keyClass a c).2 (first.trans ((beq_iff_keyClass b c).1 h'))

instance : LawfulHashable (MapKey seeds) where
  hash_eq := by
    intro a b h
    have same := Value.hash_congr seeds ((beq_iff_keyClass a b).1 h)
    simp only [Hashable.hash, same]

theorem ofValue_eq_ok_iff (v : Value) :
    (∃ k : MapKey seeds, ofValue v = .ok k ∧ k.value = v) ↔
      v.isSlot = false ∧ ∀ name, v ≠ .unresolved name := by
  cases v <;> simp [ofValue, Value.isKey, Value.isSlot]

-- Keys are whatever `ofValue` accepts. On them the comparison never fails, so that equality is the
-- comparison itself.
theorem equality_lawful (seeds : HashSeeds) :
    (∀ v : Value, (∃ k : MapKey seeds, ofValue v = .ok k ∧ k.value = v) ↔
      v.isSlot = false ∧ ∀ name, v ≠ .unresolved name) ∧
    ∀ a b c : MapKey seeds,
      a.value.sameZero b.value = .ok (a == b) ∧
      (a == a) = true ∧
      ((a == b) = true → (b == a) = true) ∧
      ((a == b) = true → (b == c) = true → (a == c) = true) ∧
      ((a == b) = true →
        ∃ h, a.value.hash seeds = .ok h ∧ b.value.hash seeds = .ok h ∧
          hash a = h ∧ hash b = h) := by
  refine ⟨ofValue_eq_ok_iff, fun a b c => ⟨?_, BEq.rfl, BEq.symm, BEq.trans, fun same => ?_⟩⟩
  · have result := Value.sameZero_of_isKey a.isKey b.isKey
    simp only [BEq.beq, result]
  · obtain ⟨h, hashed⟩ := Value.hash_isOk seeds a.isKey
    have other := (Value.hash_congr seeds ((beq_iff_keyClass a b).1 same)).symm.trans hashed
    exact ⟨h, hashed, other, by simp only [Hashable.hash, hashed],
      by simp only [Hashable.hash, other]⟩

end MapKey

end ScriptValue
