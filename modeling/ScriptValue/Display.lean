import ScriptValue.Host

set_option autoImplicit false

namespace ScriptValue

variable {σ : Type}

def Host.display (host : Host σ) (w : World σ) : Value → String
  | .number (.float x) => host.formatting.text x
  | .number (.integer n) => String.ofList (integerText n.toInt)
  | .number (.bigInteger n) => String.ofList (integerText n.toInt)
  | .boolean b => if b then "true" else "false"
  | .null => "null"
  | .undefined => "undefined"
  | .string s => s
  | .symbol s => s.text
  | .object o => "[object " ++ (host.behaviour w o).className ++ "]"
  | .slot _ => ""
  | .unresolved name => "<unresolved " ++ name ++ ">"

end ScriptValue
