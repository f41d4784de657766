import ScriptValue.Double.Rounding

set_option autoImplicit false

namespace ScriptValue

attribute [local instance (high)] instPowNat

structure Decimal where
  coefficient : Nat
  exponent : Int
  deriving DecidableEq

namespace Decimal

def digits (d : Decimal) : List Char := Nat.toDigits 10 d.coefficient

def point (d : Decimal) : Int := d.digits.length + d.exponent

def numerator (d : Decimal) : Nat := d.coefficient * 10 ^ d.exponent.toNat
def denominator (d : Decimal) : Nat := 10 ^ (-d.exponent).toNat

def ofDigits (whole fraction : List Char) (exponent : Int) : Decimal :=
  ⟨Nat.ofDigitChars 10 (whole ++ fraction) 0, exponent - fraction.length⟩

def ofBinary (m : Nat) (e : Int) : Decimal :=
  if 0 ≤ e then ⟨m * 2 ^ e.toNat, 0⟩ else ⟨m * 5 ^ (-e).toNat, e⟩

def trim (d : Decimal) : Decimal :=
  if h : d.coefficient ≠ 0 ∧ d.coefficient % 10 = 0 then
    trim ⟨d.coefficient / 10, d.exponent + 1⟩
  else d
termination_by d.coefficient
decreasing_by omega

-- The two bounds keep the powers of ten small: a non-zero coefficient is at least one and below
-- two to its bit length, and doubles lie between ten to the -400 and ten to the 400.
def nearestMagnitude (d : Decimal) : Nat :=
  if d.coefficient = 0 then 0
  else if 400 < d.exponent then Double.infiniteMagnitude
  else if d.exponent < -(d.coefficient.log2 + 400 : Int) then 0
  else Double.nearestMagnitude d.numerator d.denominator

def nearest (negative : Bool) (d : Decimal) : Double :=
  Double.ofMagnitude negative d.nearestMagnitude

end Decimal

end ScriptValue
