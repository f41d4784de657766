set_option autoImplicit false

namespace ScriptValue

-- Powers are the core library's own, whatever else is imported.
attribute [local instance (high)] instPowNat

def addSaturating (a b : UInt64) : UInt64 :=
  UInt64.ofNat (min (a.toNat + b.toNat) (2 ^ (64 : Nat) - 1))

@[simp] theorem toNat_addSaturating (a b : UInt64) :
    (addSaturating a b).toNat = min (a.toNat + b.toNat) (2 ^ (64 : Nat) - 1) := by
  rw [addSaturating, UInt64.toNat_ofNat', Nat.mod_eq_of_lt]
  omega

theorem addSaturating_comm (a b : UInt64) : addSaturating a b = addSaturating b a := by
  simp [addSaturating, Nat.add_comm]

theorem addSaturating_assoc (a b c : UInt64) :
    addSaturating (addSaturating a b) c = addSaturating a (addSaturating b c) := by
  apply UInt64.toNat_inj.mp
  simp only [toNat_addSaturating]
  omega

@[simp] theorem addSaturating_zero (a : UInt64) : addSaturating a 0 = a := by
  apply UInt64.toNat_inj.mp
  have := a.toNat_lt
  simp
  omega

@[ext] structure Usage where
  current : UInt64
  projected : UInt64
  deriving DecidableEq

namespace Usage

def zero : Usage := ⟨0, 0⟩

def uniform (size : UInt64) : Usage := ⟨size, size⟩

def add (a b : Usage) : Usage :=
  ⟨addSaturating a.current b.current, addSaturating a.projected b.projected⟩

instance : Add Usage := ⟨add⟩

instance : Zero Usage := ⟨zero⟩

@[simp] theorem current_add (a b : Usage) :
    (a + b).current = addSaturating a.current b.current := rfl

@[simp] theorem projected_add (a b : Usage) :
    (a + b).projected = addSaturating a.projected b.projected := rfl

theorem add_comm (a b : Usage) : a + b = b + a :=
  Usage.ext (addSaturating_comm _ _) (addSaturating_comm _ _)

theorem add_assoc (a b c : Usage) : a + b + c = a + (b + c) :=
  Usage.ext (addSaturating_assoc _ _ _) (addSaturating_assoc _ _ _)

@[simp] theorem add_zero (a : Usage) : a + 0 = a :=
  Usage.ext (addSaturating_zero _) (addSaturating_zero _)

@[simp] theorem zero_add (a : Usage) : 0 + a = a := by rw [add_comm, add_zero]

end Usage

end ScriptValue
