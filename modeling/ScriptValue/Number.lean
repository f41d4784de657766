import ScriptValue.Decimal.Layout
import ScriptValue.Double.Wrapping
import ScriptValue.Numeral

set_option autoImplicit false

namespace ScriptValue

attribute [local instance (high)] instPowNat

inductive Number where
  | integer (n : Int32)
  | bigInteger (n : Int64)
  | float (x : Double)
  deriving DecidableEq

namespace Number

def fitsInteger (n : Int) : Bool := -2 ^ (31 : Nat) ≤ n && n < 2 ^ (31 : Nat)

def ofInt64 (n : Int64) : Number :=
  if fitsInteger n.toInt then .integer (Int32.ofInt n.toInt) else .bigInteger n

end Number

/-- A checked conversion of doubles to narrow integers, of which only integral doubles are asked. -/
structure Narrowing where
  toInt32? : Double → Option Int32
  exact : ∀ x n, x.integer? = some n →
    toInt32? x = if Number.fitsInteger n then some (Int32.ofInt n) else none

namespace Narrowing

def standard : Narrowing where
  toInt32? x := x.integer?.bind fun n =>
    if Number.fitsInteger n then some (Int32.ofInt n) else none
  exact x n whole := by rw [whole, Option.bind_some]

def ofDouble (narrowing : Narrowing) (x : Double) : Number :=
  if x.integer?.isSome && !x.isNegativeZero then
    match narrowing.toInt32? x with
    | some n => .integer n
    | none => .float x
  else .float x

theorem ofDouble_eq (narrowing : Narrowing) (x : Double) :
    narrowing.ofDouble x =
      match x.integer? with
      | some n =>
          if Number.fitsInteger n && !x.isNegativeZero then .integer (Int32.ofInt n) else .float x
      | none => .float x := by
  rw [ofDouble]
  cases whole : x.integer? with
  | none => rfl
  | some n =>
    rw [narrowing.exact x n whole]
    dsimp only [Option.isSome_some]
    cases Number.fitsInteger n <;> cases x.isNegativeZero <;> rfl

end Narrowing

namespace Number

def ofDouble (x : Double) : Number := Narrowing.standard.ofDouble x

def toDouble : Number → Double
  | .integer n => Double.ofInt n.toInt
  | .bigInteger n => Double.ofInt n.toInt
  | .float x => x

def toInt64 : Number → Int64
  | .integer n => n.toInt64
  | .bigInteger n => n
  | .float x => x.toInt64

def toInt32 : Number → Int32
  | .integer n => n
  | .bigInteger n => n.toInt32
  | .float x => x.toInt32

def toUInt32 : Number → UInt32
  | .integer n => n.toUInt32
  | .bigInteger n => n.toInt32.toUInt32
  | .float x => x.toUInt32

def truth : Number → Bool
  | .integer n => n != 0
  | .bigInteger n => n != 0
  | .float x => !x.isZero && !x.isNaN

def integerOrDouble : Number → Int ⊕ Double
  | .integer n => .inl n.toInt
  | .bigInteger n => .inl n.toInt
  | .float x => .inr x

def equals (a b : Number) : Bool :=
  match a.integerOrDouble, b.integerOrDouble with
  | .inl m, .inl n => m == n
  | .inl n, .inr x | .inr x, .inl n => x.integer? == some n
  | .inr x, .inr y => x.equals y

/-- As `equals`, but NaN is NaN, and negative zero is told from the others unless `zerosEqual`. -/
def same (zerosEqual : Bool) (a b : Number) : Bool :=
  match a.integerOrDouble, b.integerOrDouble with
  | .inl m, .inl n => m == n
  | .inl n, .inr x | .inr x, .inl n => x.integer? == some n && (zerosEqual || !x.isNegativeZero)
  | .inr x, .inr y =>
      x.isNaN && y.isNaN || x.equals y && (zerosEqual || x.negative == y.negative)

def ofText (s : String) : Number := ofDouble (Double.ofText s)

end Number

def Formatting.numberText (f : Formatting) : Number → String
  | .integer n => String.ofList (f.integer n.toInt)
  | .bigInteger n => String.ofList (f.integer n.toInt)
  | .float x => f.text x

end ScriptValue
