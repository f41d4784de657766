set_option autoImplicit false

namespace ScriptValue

-- Powers are the core library's own, whatever else is imported.
attribute [local instance (high)] instPowNat

structure Double where
  bits : UInt64
  deriving DecidableEq

inductive Double.Parts where
  | nan
  | infinite (negative : Bool)
  | finite (negative : Bool) (significand : Nat) (exponent : Int)
  deriving DecidableEq

namespace Double

-- Below the sign bit, larger magnitudes are larger numbers; the largest one is infinity and
-- whatever lies above it is not a number.
def magnitude (x : Double) : Nat := x.bits.toNat % 2 ^ (63 : Nat)

def negative (x : Double) : Bool := 2 ^ (63 : Nat) ≤ x.bits.toNat

def infiniteMagnitude : Nat := 2047 * 2 ^ (52 : Nat)

def ofMagnitude (negative : Bool) (magnitude : Nat) : Double :=
  ⟨UInt64.ofNat (if negative then 2 ^ (63 : Nat) + magnitude else magnitude)⟩

def zero : Double := ofMagnitude false 0
def negativeZero : Double := ofMagnitude true 0
def infinity (negative : Bool) : Double := ofMagnitude negative infiniteMagnitude
def nan : Double := ofMagnitude false (infiniteMagnitude + 2 ^ (51 : Nat))

def isNaN (x : Double) : Bool := infiniteMagnitude < x.magnitude
def isInfinite (x : Double) : Bool := x.magnitude == infiniteMagnitude
def isZero (x : Double) : Bool := x.magnitude == 0
def isNegativeZero (x : Double) : Bool := x.isZero && x.negative

-- The leading bit of a significand is stored unless the exponent field is zero, where the
-- exponent is the one that field 1 has.
def significand (x : Double) : Nat :=
  if x.magnitude < 2 ^ (52 : Nat) then x.magnitude
  else 2 ^ (52 : Nat) + x.magnitude % 2 ^ (52 : Nat)

def exponent (x : Double) : Int := (max (x.magnitude / 2 ^ (52 : Nat)) 1 : Nat) - 1075

def parts (x : Double) : Parts :=
  if x.isNaN then .nan
  else if x.isInfinite then .infinite x.negative
  else .finite x.negative x.significand x.exponent

def negate (x : Double) : Double := ofMagnitude (!x.negative) x.magnitude

def absolutely (x : Double) : Double := ofMagnitude false x.magnitude

def equals (x y : Double) : Bool :=
  !x.isNaN && !y.isNaN && (x == y || x.isZero && y.isZero)

theorem magnitude_lt (x : Double) : x.magnitude < 2 ^ (63 : Nat) := Nat.mod_lt _ (by decide)

theorem bits_toNat (x : Double) :
    x.bits.toNat = (if x.negative then 2 ^ (63 : Nat) else 0) + x.magnitude := by
  have := x.bits.toNat_lt
  simp only [negative, magnitude, decide_eq_true_eq]
  split <;> omega

@[simp] theorem magnitude_ofMagnitude (negative : Bool) {m : Nat} (h : m < 2 ^ (63 : Nat)) :
    (ofMagnitude negative m).magnitude = m := by
  cases negative <;> simp [ofMagnitude, magnitude, UInt64.toNat_ofNat'] <;> omega

@[simp] theorem negative_ofMagnitude (s : Bool) {m : Nat} (h : m < 2 ^ (63 : Nat)) :
    (ofMagnitude s m).negative = s := by
  cases s <;> simp [ofMagnitude, negative, UInt64.toNat_ofNat'] <;> omega

@[simp] theorem magnitude_absolutely (x : Double) : x.absolutely.magnitude = x.magnitude :=
  magnitude_ofMagnitude false x.magnitude_lt

@[simp] theorem negative_absolutely (x : Double) : x.absolutely.negative = false :=
  negative_ofMagnitude false x.magnitude_lt

theorem ofMagnitude_negative_magnitude (x : Double) :
    ofMagnitude x.negative x.magnitude = x := by
  cases x with
  | mk bits =>
    have h := bits_toNat ⟨bits⟩
    simp only [ofMagnitude, Double.mk.injEq]
    apply UInt64.toNat_inj.mp
    rw [UInt64.toNat_ofNat', Nat.mod_eq_of_lt]
    · rw [h]; split <;> simp
    · have := magnitude_lt ⟨bits⟩
      split <;> omega

end Double

end ScriptValue
