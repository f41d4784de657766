import ScriptValue.Equality
import ScriptValue.Hash.Basic

set_option autoImplicit false

namespace ScriptValue

structure MapKey (seeds : HashSeeds) where
  value : Value
  isKey : value.isKey = true

namespace MapKey

variable {seeds : HashSeeds}

-- Why a value is not a key: an unresolved name raises as it does everywhere, and a slot is a
-- mistake of the caller.
def refusal : Value → Fault
  | .unresolved name => .raised (Cause.unresolved name).error
  | _ => .violated .slotAsKey

def ofValue (v : Value) : Except Fault (MapKey seeds) :=
  if h : v.isKey = true then .ok ⟨v, h⟩ else .error (refusal v)

-- Neither fallback is ever taken: keys are resolved, and they are not slots.
instance : BEq (MapKey seeds) where
  beq a b := match a.value.sameZero b.value with
    | .ok r => r
    | .error _ => false

instance : Hashable (MapKey seeds) where
  hash k := match k.value.hash seeds with
    | .ok h => h
    | .error _ => 0

end MapKey

end ScriptValue
