import ScriptValue.Coercion

set_option autoImplicit false

namespace ScriptValue

variable {σ : Type}

/-- A symbol gives its description in brackets, any other key its text; a symbol without a
description and a key without a text give nothing. -/
def Host.keyName (host : Host σ) (key : Value) : Effect σ String := do
  match key with
  | .symbol s =>
      match s.description with
      | some d => return "[" ++ d ++ "]"
      | none => return ""
  | key =>
      match ← (host.toText key).run with
      | .ok text => return text
      | .error _ => return ""

def Host.functionName (host : Host σ) (word : String) (key : Value) : Effect σ String := do
  return word ++ (← host.keyName key)

end ScriptValue
