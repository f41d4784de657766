import ScriptValue.Double.Basic

set_option autoImplicit false

namespace ScriptValue

attribute [local instance (high)] instPowNat

def halfEven (num den : Nat) : Nat :=
  let q := num / den
  let r := num % den
  if 2 * r < den then q else if den < 2 * r then q + 1 else q + q % 2

def atLeastPow (num den : Nat) (k : Int) : Bool :=
  den * 2 ^ k.toNat ≤ num * 2 ^ (-k).toNat

def floorLog2 (num den : Nat) : Int :=
  let k : Int := (num.log2 : Int) - den.log2
  if atLeastPow num den k then k else k - 1

namespace Double

def spacing (num den : Nat) : Int := max (floorLog2 num den - 52) (-1074)

def nearestMagnitude (num den : Nat) : Nat :=
  if num = 0 then 0
  else
    let e := spacing num den
    let q := halfEven (num * 2 ^ (-e).toNat) (den * 2 ^ e.toNat)
    min ((e + 1074).toNat * 2 ^ (52 : Nat) + q) infiniteMagnitude

def nearest (negative : Bool) (num den : Nat) : Double :=
  ofMagnitude negative (nearestMagnitude num den)

def ofInt (n : Int) : Double := nearest (n < 0) n.natAbs 1

theorem nearestMagnitude_le (num den : Nat) : nearestMagnitude num den ≤ infiniteMagnitude := by
  simp only [nearestMagnitude]
  split
  · exact Nat.zero_le _
  · exact Nat.min_le_right _ _

@[simp] theorem magnitude_nearest (s : Bool) (num den : Nat) :
    (nearest s num den).magnitude = nearestMagnitude num den := by
  have := nearestMagnitude_le num den
  have : infiniteMagnitude < 2 ^ (63 : Nat) := by decide
  exact magnitude_ofMagnitude s (by omega)

@[simp] theorem negative_nearest (s : Bool) (num den : Nat) :
    (nearest s num den).negative = s := by
  have := nearestMagnitude_le num den
  have : infiniteMagnitude < 2 ^ (63 : Nat) := by decide
  exact negative_ofMagnitude s (by omega)

@[simp] theorem isNaN_nearest (s : Bool) (num den : Nat) : (nearest s num den).isNaN = false := by
  have := nearestMagnitude_le num den
  simp [isNaN, this]

end Double

end ScriptValue
