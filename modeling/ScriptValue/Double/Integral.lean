import ScriptValue.Double.Basic

set_option autoImplicit false

namespace ScriptValue

attribute [local instance (high)] instPowNat

def signed (negative : Bool) (n : Nat) : Int := if negative then -(n : Int) else n

namespace Double.Parts

def towardZero (negative : Bool) (m : Nat) (e : Int) : Int :=
  signed negative (m * 2 ^ e.toNat / 2 ^ (-e).toNat)

def truncate? : Parts → Option Int
  | .finite s m e => some (towardZero s m e)
  | .nan | .infinite _ => none

def integer? : Parts → Option Int
  | .finite s m e => if m * 2 ^ e.toNat % 2 ^ (-e).toNat = 0 then some (towardZero s m e) else none
  | .nan | .infinite _ => none

def clip64 : Parts → Int64
  | .nan => 0
  | .infinite s => if s then Int64.minValue else Int64.maxValue
  | .finite s m e => Int64.ofIntClamp (towardZero s m e)

end Double.Parts

namespace Double

def truncate? (x : Double) : Option Int := x.parts.truncate?

def integer? (x : Double) : Option Int := x.parts.integer?

def toInt64 (x : Double) : Int64 := x.parts.clip64

end Double

end ScriptValue
