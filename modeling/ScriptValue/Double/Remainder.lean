import ScriptValue.Double.Integral
import ScriptValue.Double.Rounding

set_option autoImplicit false

namespace ScriptValue

attribute [local instance (high)] instPowNat

namespace Double

def trunc (x : Double) : Double :=
  match x.parts with
  | .finite s m e => nearest s (m * 2 ^ e.toNat / 2 ^ (-e).toNat) 1
  | .nan | .infinite _ => x

-- Magnitudes rise with the numbers on one side of zero and fall on the other.
def rank (x : Double) : Int := signed x.negative x.magnitude

def below (x y : Double) : Bool := !x.isNaN && !y.isNaN && x.rank < y.rank

def atMost (x y : Double) : Bool := !x.isNaN && !y.isNaN && x.rank ≤ y.rank

def unscaled (m : Nat) (e k : Int) : Nat := m * 2 ^ (e - k).toNat

def nearestScaled (negative : Bool) (m : Nat) (e : Int) : Double :=
  nearest negative (m * 2 ^ e.toNat) (2 ^ (-e).toNat)

def add (x y : Double) : Double :=
  match x.parts, y.parts with
  | .finite s m e, .finite t n f =>
      let k := min e f
      let sum := signed s (unscaled m e k) + signed t (unscaled n f k)
      if sum = 0 then ofMagnitude (s && t) 0 else nearestScaled (sum < 0) sum.natAbs k
  | .infinite s, .infinite t => if s = t then x else nan
  | .infinite _, .finite _ _ _ => x
  | .finite _ _ _, .infinite _ => y
  | .nan, _ | _, .nan => nan

def rem (x y : Double) : Double :=
  match x.parts, y.parts with
  | .finite s m e, .finite _ n f =>
      let k := min e f
      if n = 0 then nan else nearestScaled s (unscaled m e k % unscaled n f k) k
  | .finite _ _ _, .infinite _ => x
  | .nan, _ | .infinite _, _ | _, .nan => nan

def remEuclid (x y : Double) : Double :=
  let r := x.rem y
  if r.below zero then r.add y.absolutely else r

end Double

end ScriptValue
