import ScriptValue.Proofs.Equality.Strength
import ScriptValue.Proofs.Hash.Keys

set_option autoImplicit false

namespace ScriptValue

namespace Value

theorem hash_object_inj (seeds : HashSeeds) (x y : ObjectId) :
    (Value.object x).hash seeds = (Value.object y).hash seeds ↔ x = y := by
  cases x
  cases y
  simp [hash]

theorem hash_of_strictContent (seeds : HashSeeds) {a b : Value} (ha : a.isKey = true)
    (hb : b.isKey = true) (content : a.strictContent b = true) : a.hash seeds = b.hash seeds := by
  have objects : ¬(a.isObject = true ∧ b.isObject = true) := by
    simp [isObject_of_strictContent content]
  have same := ((strictContent_iff objects).1 content).1
  exact hash_congr seeds ((sameContent_iff_keyClass ha hb).1 same)

end Value

namespace Host

variable {σ : Type} (host : Host σ)

/-- Strictly equal values hash alike, unless they are two objects: these hash apart. -/
theorem hash_of_strictEquals (seeds : HashSeeds) {w after : World σ} {a b : Value}
    (ha : a.isKey = true) (hb : b.isKey = true)
    (equal : (host.strictEquals a b).runIn w = (.ok true, after)) :
    ∃ h k, a.hash seeds = .ok h ∧ b.hash seeds = .ok k ∧
      (h = k ↔ ¬∃ x y, a = .object x ∧ b = .object y ∧ x ≠ y) := by
  obtain ⟨h, left⟩ := Value.hash_isOk seeds ha
  obtain ⟨k, right⟩ := Value.hash_isOk seeds hb
  refine ⟨h, k, left, right, ?_⟩
  rw [← Except.ok.injEq (ε := Violation), ← left, ← right]
  obtain ⟨x, y, rfl, rfl⟩ | objects := Value.eq_objects_or a b
  · simp [Value.hash_object_inj]
  · obtain ⟨-, content⟩ := strictContent_of_strictEquals host objects equal
    have apart : ¬∃ x y, a = .object x ∧ b = .object y ∧ x ≠ y := by
      rintro ⟨x, y, rfl, rfl, -⟩
      exact objects ⟨rfl, rfl⟩
    simp only [apart, not_false_eq_true, iff_true]
    exact Value.hash_of_strictContent seeds ha hb content

theorem hash_of_strictEquals_zeros :
    (silent.strictEquals (.float .negativeZero) (.bigInteger 0)).runIn { host := () } =
        (.ok true, { host := () }) ∧
      ∀ seeds : HashSeeds, ∃ h k, (Value.float .negativeZero).hash seeds = .ok h ∧
        (Value.bigInteger 0).hash seeds = .ok k ∧ h = k := by
  have content : (Value.float .negativeZero).strictContent (.bigInteger 0) = true := by
    decide +kernel
  have equal : (silent.strictEquals (.float .negativeZero) (.bigInteger 0)).runIn { host := () } =
      (.ok true, { host := () }) := by
    rw [runIn_strictEquals silent (by decide), content]
    rfl
  refine ⟨equal, fun seeds => ?_⟩
  obtain ⟨h, k, left, right, same⟩ := silent.hash_of_strictEquals seeds
    (a := .float .negativeZero) (b := .bigInteger 0) rfl rfl equal
  exact ⟨h, k, left, right, same.2 nofun⟩

theorem equal_wrappers_hash_apart :
    (wrappers.strictEquals (.object ⟨4⟩) (.object ⟨5⟩)).runIn { host := fun _ => .integer 3 } =
        (.ok true, { host := fun _ => .integer 3 }) ∧
      ∀ seeds : HashSeeds, (Value.object ⟨4⟩).hash seeds ≠ (Value.object ⟨5⟩).hash seeds :=
  ⟨rfl, fun seeds => by rw [ne_eq, Value.hash_object_inj]; decide⟩

end Host

end ScriptValue
