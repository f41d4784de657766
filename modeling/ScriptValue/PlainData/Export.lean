import ScriptValue.Host

set_option autoImplicit false

namespace ScriptValue

variable {σ : Type}

def Host.export (host : Host σ) : Value → ExceptT Fault (Effect σ) PlainData
  | .number (.integer n) => return .integer n.toInt64
  | .number (.bigInteger n) => return .integer n
  | .number (.float x) => return .float x
  | .boolean b => return .bool b
  | .null | .undefined => return .null
  | .string s => return .string s
  | .symbol s => return .string s.label
  | .object o => do (← host.behaviourOf o).exported
  | .slot _ => throw (.violated .exportedSlot)
  | .unresolved name => throw (.raised (Cause.unresolved name).error)

end ScriptValue
