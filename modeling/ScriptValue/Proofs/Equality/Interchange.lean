import ScriptValue.Proofs.Coercion.ThroughNumber
import ScriptValue.Proofs.Equality.Strict
import ScriptValue.Proofs.Hash.Keys

set_option autoImplicit false

namespace ScriptValue

namespace Value

variable {a b : Number}

-- A pair with a number in it is neither a pair of objects nor one of unresolved names.
theorem not_objects_left (n : Number) (v : Value) :
    ¬((Value.number n).isObject = true ∧ v.isObject = true) := by simp [isObject]

theorem not_objects_right (n : Number) (v : Value) :
    ¬(v.isObject = true ∧ (Value.number n).isObject = true) := by simp [isObject]

theorem not_unresolved_right (n : Number) (v : Value) :
    ¬(v.isUnresolved = true ∧ (Value.number n).isUnresolved = true) := by simp [isUnresolved]

theorem checkResolved_number (a b : Number) (v : Value) :
    (Value.number a).checkResolved v = (Value.number b).checkResolved v := by cases v <;> rfl

theorem strictContent_congr (same : a.quantity = b.quantity) (v : Value) :
    strictContent (.number a) v = strictContent (.number b) v := by
  cases v with
  | number n => exact Number.equals_congr same n
  | _ => rfl

theorem looseContent_congr (same : a.quantity = b.quantity) (v : Value) :
    looseContent (.number a) v = looseContent (.number b) v := by
  have equals := Number.equals_congr same
  cases v with
  | number n => exact equals n
  | string s => exact equals _
  | boolean t =>
    simp only [looseContent, looseNumber, Number.equals_comm (.integer _)]
    exact equals _
  | _ => rfl

theorem sameContent_congr (same : a.quantity = b.quantity) (v : Value) :
    sameContent true (.number a) v = sameContent true (.number b) v := by
  cases v with
  | number n => exact Number.same_congr same n
  | _ => rfl

theorem sameZero_congr_left (same : a.quantity = b.quantity) (v : Value) :
    (Value.number a).sameZero v = (Value.number b).sameZero v := by
  rw [sameZero, sameZero, sameUpTo, sameUpTo, checkResolved_number a b, sameContent_congr same]

theorem sameZero_number_comm (n : Number) (v : Value) :
    v.sameZero (.number n) = (Value.number n).sameZero v := by
  rw [sameZero, sameZero, sameUpTo, sameUpTo, checkResolved_comm (not_unresolved_right n v),
    sameContent_comm]

end Value

namespace Host

variable {σ : Type} (host : Host σ) {a b : Number}

/-- In any world and on either side, the relations do not tell two values apart. -/
def Interchangeable (a b : Value) : Prop :=
  ∀ (w : World σ) (v : Value),
    host.Alike (fun _ h => h.strictEquals a v) (fun _ h => h.strictEquals b v) w ∧
    host.Alike (fun _ h => h.strictEquals v a) (fun _ h => h.strictEquals v b) w ∧
    host.Alike (fun _ h => h.looseEquals a v) (fun _ h => h.looseEquals b v) w ∧
    host.Alike (fun _ h => h.looseEquals v a) (fun _ h => h.looseEquals v b) w ∧
    a.sameZero v = b.sameZero v ∧ v.sameZero a = v.sameZero b

theorem runIn_strictEquals_congr (same : a.quantity = b.quantity) (v : Value) (w : World σ) :
    (host.strictEquals (.number a) v).runIn w = (host.strictEquals (.number b) v).runIn w := by
  rw [runIn_strictEquals host (Value.not_objects_left a v),
    runIn_strictEquals host (Value.not_objects_left b v), Value.checkResolved_number a b,
    Value.strictContent_congr same]

theorem runIn_strictEquals_number_comm (n : Number) (v : Value) (w : World σ) :
    (host.strictEquals v (.number n)).runIn w = (host.strictEquals (.number n) v).runIn w := by
  rw [runIn_strictEquals host (Value.not_objects_right n v),
    runIn_strictEquals host (Value.not_objects_left n v), Value.strictContent_comm,
    Value.checkResolved_comm (Value.not_unresolved_right n v)]

theorem looseEquals_congr (same : a.quantity = b.quantity) (v : Value) :
    host.looseEquals (.number a) v = host.looseEquals (.number b) v := by
  cases v with
  | object o =>
    simp only [looseEquals, Value.looseContent_congr same, Value.checkResolved_number a b]
    rfl
  | _ => simp only [looseEquals, Value.looseContent_congr same, Value.checkResolved_number a b]

theorem looseEquals_number_comm (n : Number) (v : Value) (w : World σ) :
    (host.looseEquals v (.number n)).runIn w = (host.looseEquals (.number n) v).runIn w :=
  looseEquals_comm host w (Value.not_objects_right n v) (Value.not_unresolved_right n v)

theorem interchangeable_of_quantity_eq (same : a.quantity = b.quantity) :
    host.Interchangeable (.number a) (.number b) := by
  intro w v
  refine ⟨(host.strictEquals_asks w _ v).alike fun _ h u => h.runIn_strictEquals_congr same v u,
    (host.strictEquals_asks w v _).alike fun _ h u => ?_,
    (host.looseEquals_asks w (Value.not_objects_left a v)).alike fun _ h u => ?_,
    (host.looseEquals_asks w (Value.not_objects_right a v)).alike fun _ h u => ?_,
    Value.sameZero_congr_left same v, ?_⟩
  · rw [runIn_strictEquals_number_comm, runIn_strictEquals_number_comm,
      runIn_strictEquals_congr h same]
  · rw [looseEquals_congr h same]
  · rw [looseEquals_number_comm, looseEquals_number_comm, looseEquals_congr h same]
  · rw [Value.sameZero_number_comm, Value.sameZero_number_comm, Value.sameZero_congr_left same]

theorem quantity_agree_of_strictEquals {w : World σ}
    (equal : (host.strictEquals (.number a) (.number b)).runIn w = (.ok true, w)) :
    a.quantity.Agree b.quantity := by
  obtain ⟨-, content⟩ := strictContent_of_strictEquals host (Value.not_objects_left a _) equal
  exact (Number.equals_iff_agree a b).1 content

/-- Where one of two equal numbers stands, the other may: in the relations, as a key, as an integer
of any width and as a truth value. As doubles they are equal numbers, though they may be two
zeros. -/
theorem equal_numbers_interchangeable (w : World σ)
    (equal : (host.strictEquals (.number a) (.number b)).runIn w = (.ok true, w)) :
    host.Interchangeable (.number a) (.number b) ∧
      (∀ seeds, ∃ k, (Value.number a).hash seeds = .ok k ∧ (Value.number b).hash seeds = .ok k) ∧
      (∃ n, ∀ u, (host.toInt64 (.number a)).runIn u = (.ok n, u) ∧
        (host.toInt64 (.number b)).runIn u = (.ok n, u)) ∧
      (∃ n, ∀ u, (host.toInt32 (.number a)).runIn u = (.ok n, u) ∧
        (host.toInt32 (.number b)).runIn u = (.ok n, u)) ∧
      (∃ n, ∀ u, (host.toUInt32 (.number a)).runIn u = (.ok n, u) ∧
        (host.toUInt32 (.number b)).runIn u = (.ok n, u)) ∧
      (∃ t, (Value.number a).truth = .ok t ∧ (Value.number b).truth = .ok t) ∧
      ∃ x y, (∀ u, (host.toDouble (.number a)).runIn u = (.ok x, u) ∧
        (host.toDouble (.number b)).runIn u = (.ok y, u)) ∧ x.equals y = true := by
  have agree := quantity_agree_of_strictEquals host equal
  have same : a.quantity = b.quantity := agree.1
  have int64 : a.toInt64 = b.toInt64 := by
    rw [Number.toInt64_eq_clip64, Number.toInt64_eq_clip64, same]
  have int32 : a.toInt32 = b.toInt32 := by
    rw [Number.toInt32_eq_wrapSigned, Number.toInt32_eq_wrapSigned, same]
  have uint32 : a.toUInt32 = b.toUInt32 := by
    rw [Number.toUInt32_eq_wrapUnsigned, Number.toUInt32_eq_wrapUnsigned, same]
  have truth : a.truth = b.truth := by
    rw [Bool.eq_iff_iff, Number.truth_iff, Number.truth_iff, same]
  have doubles : a.toDouble.equals b.toDouble = true := by
    rw [Double.equals_iff_agree]
    exact ⟨Number.quantity_toDouble_congr same,
      fun nan => agree.2 ((Number.quantity_toDouble_eq_nan_iff a).1 nan)⟩
  refine ⟨interchangeable_of_quantity_eq host same, fun seeds => ⟨a.hash, rfl, ?_⟩,
    ⟨a.toInt64, fun u => ⟨rfl, ?_⟩⟩, ⟨a.toInt32, fun u => ⟨rfl, ?_⟩⟩,
    ⟨a.toUInt32, fun u => ⟨rfl, ?_⟩⟩, ⟨a.truth, rfl, ?_⟩,
    a.toDouble, b.toDouble, fun u => ⟨rfl, rfl⟩, doubles⟩
  · rw [Number.hash_congr same]
    rfl
  · rw [int64]
    rfl
  · rw [int32]
    rfl
  · rw [uint32]
    rfl
  · rw [truth]
    rfl

theorem equal_numbers_interchangeable_lowest :
    (silent.strictEquals (.bigInteger Int64.minValue) (.float ⟨0xC3E0000000000000⟩)).runIn
        { host := () } = (.ok true, { host := () }) ∧
      silent.Interchangeable (.bigInteger Int64.minValue) (.float ⟨0xC3E0000000000000⟩) := by
  have equal : (silent.strictEquals (.bigInteger Int64.minValue)
      (.float ⟨0xC3E0000000000000⟩)).runIn { host := () } = (.ok true, { host := () }) := by
    rfl
  exact ⟨equal, (silent.equal_numbers_interchangeable { host := () } equal).1⟩

end Host

end ScriptValue
