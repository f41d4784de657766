import ScriptValue.Double.Remainder

set_option autoImplicit false

namespace ScriptValue

attribute [local instance (high)] instPowNat

-- Conversions of single numbers clip: what is out of range becomes the nearest bound.
def Double.Parts.clipUnsigned : Double.Parts → UInt32
  | .nan => 0
  | .infinite s => if s then 0 else -1
  | .finite s m e => UInt32.ofNat (min (towardZero s m e).toNat (2 ^ (32 : Nat) - 1))

namespace Double

def modulus : Double := ofInt (2 ^ (32 : Nat))

def wrap (x : Double) : UInt32 :=
  let t := x.trunc
  if zero.atMost t && t.below modulus then t.parts.clipUnsigned
  else (t.remEuclid modulus).parts.clipUnsigned

/-- Truncation modulo `2 ^ 32`, read as signed; NaN is 0 and the infinities are the bounds. -/
def toInt32 (x : Double) : Int32 :=
  match x.parts with
  | .nan => 0
  | .infinite s => if s then Int32.minValue else Int32.maxValue
  | .finite _ _ _ => x.wrap.toInt32

def toUInt32 (x : Double) : UInt32 :=
  match x.parts with
  | .nan => 0
  | .infinite s => if s then 0 else -1
  | .finite _ _ _ => x.wrap

end Double

end ScriptValue
