import ScriptValue.Coercion

set_option autoImplicit false

namespace ScriptValue

namespace Host

variable {σ : Type} (host : Host σ)

def box (v : Value) (w : Wrapper) : Effect σ ObjectId := do
  host.wrap v (← host.prototype w) w

def toObject : Value → Guest σ ObjectId
  | .number n => host.box (.number n) .number
  | .boolean b => host.box (.boolean b) .boolean
  | .string s => host.box (.string s) .string
  | .symbol s => host.box (.symbol s) .symbol
  | .object o => return o
  | .null | .undefined => host.reject .nullishToObject
  | .slot _ => host.reject .slotToObject
  | .unresolved name => host.reject (.unresolved name)

def baseObject : Value → Guest σ (Option ObjectId)
  | .number _ => some <$> host.prototype .number
  | .boolean _ => some <$> host.prototype .boolean
  | .string _ => some <$> host.prototype .string
  | .symbol s => some <$> host.toObject (.symbol s)
  | .object o => return some o
  | .null | .undefined => return none
  | .slot _ => host.reject .baseOfSlot
  | .unresolved name => host.reject (.unresolved name)

end Host

end ScriptValue
