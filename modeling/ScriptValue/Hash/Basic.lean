import ScriptValue.Error
import ScriptValue.Hash.Seeds
import ScriptValue.Value

set_option autoImplicit false

namespace ScriptValue

attribute [local instance (high)] instPowNat

namespace Double

def hashOfNaN : UInt64 := 0x7FF8000000000000

def fitsInt64 (n : Int) : Bool := -2 ^ (63 : Nat) ≤ n && n < 2 ^ (63 : Nat)

def hash (x : Double) : UInt64 :=
  match x.integer? with
  | some n => if fitsInt64 n then (Int64.ofInt n).toUInt64 else x.bits
  | none => if x.isNaN then hashOfNaN else x.bits

end Double

def Number.hash : Number → UInt64
  | .integer n => n.toInt64.toUInt64
  | .bigInteger n => n.toUInt64
  | .float x => x.hash

namespace Value

def hash (seeds : HashSeeds) : Value → Except Violation UInt64
  | .number n => .ok n.hash
  | .boolean b => .ok (if b then seeds.ofTrue else seeds.ofFalse)
  | .null => .ok seeds.ofNull
  | .undefined => .ok seeds.ofUndefined
  | .string s => .ok (seeds.ofText s)
  | .symbol s => .ok s.serial
  | .object o => .ok o.serial
  | .slot _ => .error .slotAsKey
  | .unresolved _ => .error .unresolvedAsKey

def isKey : Value → Bool
  | .slot _ | .unresolved _ => false
  | _ => true

end Value

end ScriptValue
