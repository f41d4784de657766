import ScriptValue.Double.Basic

set_option autoImplicit false

namespace ScriptValue

inductive PlainData where
  | null
  | bool (b : Bool)
  | integer (n : Int64)
  | float (x : Double)
  | string (s : String)
  | array (items : List PlainData)
  | map (entries : List (String × PlainData))

end ScriptValue
