import ScriptValue.Proofs.Equality.Symmetry

set_option autoImplicit false

namespace ScriptValue

namespace Number

theorem same_comm (m n : Number) : m.same true n = n.same true m := by
  rw [Bool.eq_iff_iff, same_iff_quantity_eq, same_iff_quantity_eq, eq_comm]

variable {a b : Number}

theorem equals_congr (same : a.quantity = b.quantity) (n : Number) : a.equals n = b.equals n := by
  rw [Bool.eq_iff_iff, equals_iff_agree, equals_iff_agree, same]

theorem same_congr (same : a.quantity = b.quantity) (n : Number) :
    a.same true n = b.same true n := by
  rw [Bool.eq_iff_iff, same_iff_quantity_eq, same_iff_quantity_eq, same]

end Number

namespace Value

theorem strictContent_comm (a b : Value) : strictContent a b = strictContent b a := by
  cases a <;> cases b <;> simp only [strictContent, Symbol.same, Number.equals_comm] <;>
    exact Bool.beq_comm

theorem sameContent_comm (a b : Value) : sameContent true a b = sameContent true b a := by
  cases a <;> cases b <;> simp only [sameContent, Symbol.same, Number.same_comm] <;>
    exact Bool.beq_comm

theorem eq_object_of_isObject {v : Value} (object : v.isObject = true) : ∃ o, v = .object o := by
  cases v <;> first | exact ⟨_, rfl⟩ | simp [isObject] at object

theorem eq_objects_or (a b : Value) :
    (∃ x y, a = .object x ∧ b = .object y) ∨ ¬(a.isObject = true ∧ b.isObject = true) := by
  by_cases objects : a.isObject = true ∧ b.isObject = true
  · obtain ⟨x, left⟩ := eq_object_of_isObject objects.1
    obtain ⟨y, right⟩ := eq_object_of_isObject objects.2
    exact .inl ⟨x, y, left, right⟩
  · exact .inr objects

def strictHooks : Value → Value → List HookCall
  | .object x, .object y => if x = y then [] else [.selfEquals x y]
  | _, _ => []

end Value

namespace Host

variable {σ : Type} (host : Host σ)

theorem runIn_strictEquals {a b : Value} (objects : ¬(a.isObject = true ∧ b.isObject = true))
    (w : World σ) :
    (host.strictEquals a b).runIn w = ((a.checkResolved b).map fun _ => a.strictContent b, w) := by
  rw [strictEquals, Guest.runIn_bind, Guest.runIn_ofExcept]
  · cases a.checkResolved b <;> rfl
  · rintro x y rfl rfl
    exact objects ⟨rfl, rfl⟩

theorem strictContent_of_strictEquals {w after : World σ} {a b : Value}
    (objects : ¬(a.isObject = true ∧ b.isObject = true))
    (equal : (host.strictEquals a b).runIn w = (.ok true, after)) :
    a.checkResolved b = .ok () ∧ a.strictContent b = true := by
  rw [runIn_strictEquals host objects, Prod.mk.injEq] at equal
  cases resolved : a.checkResolved b with
  | ok => simpa [resolved, Except.map] using equal.1
  | error e => simp [resolved, Except.map] at equal

theorem runIn_strictEquals_object (x y : ObjectId) (w : World σ) :
    (host.strictEquals (.object x) (.object y)).runIn w =
      (.ok ((host.sameObject x y).run w).1, ((host.sameObject x y).run w).2) := rfl

theorem run_sameObject (x y : ObjectId) (w : World σ) :
    (host.sameObject x y).run w =
      if x = y then (true, w) else ((host.behaviour w x).selfEquals y).run w := by
  rw [sameObject]
  split <;> rfl

theorem strictEquals_asks (w : World σ) (a b : Value) :
    host.Asks (fun _ h => h.strictEquals a b) w (a.strictHooks b) := by
  obtain ⟨x, y, rfl, rfl⟩ | objects := Value.eq_objects_or a b
  · intro earlier
    rw [runIn_strictEquals_object, runIn_strictEquals_object, run_sameObject, run_sameObject,
      Value.strictHooks]
    by_cases same : x = y
    · simp [same]
    · simp only [same, if_false]
      rfl
  · have nothing : a.strictHooks b = [] := by
      cases a <;> cases b <;> first | rfl | exact absurd ⟨rfl, rfl⟩ objects
    rw [nothing]
    exact asks_nothing fun τ h u => h.runIn_strictEquals objects u

def wrappers : Host (ObjectId → Value) where
  behaviour w o :=
    { number := pure (w.host o)
      string := pure (w.host o)
      selfEquals := fun other => pure ((w.host o).same (w.host other) matches .ok true) }
  prototype _ := pure ⟨0⟩
  adopt _ _ _ _ := pure ()

end Host

end ScriptValue
