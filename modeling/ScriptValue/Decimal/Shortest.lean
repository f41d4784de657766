import ScriptValue.Decimal.Basic

set_option autoImplicit false

namespace ScriptValue

attribute [local instance (high)] instPowNat

inductive Tie where
  | even
  | up
  deriving DecidableEq

def Tie.prefersAbove : Tie → Nat → Bool
  | .even, below => below % 2 == 1
  | .up, _ => true

namespace Decimal

def readsBack (magnitude : Nat) (d : Decimal) : Bool := d.nearestMagnitude == magnitude

def below (d : Decimal) (n : Nat) : Decimal := ⟨d.coefficient / 10 ^ n, d.exponent + n⟩
def above (d : Decimal) (n : Nat) : Decimal := ⟨d.coefficient / 10 ^ n + 1, d.exponent + n⟩

def prefersAbove (tie : Tie) (d : Decimal) (n : Nat) : Bool :=
  let r := d.coefficient % 10 ^ n
  if 2 * r = 10 ^ n then tie.prefersAbove (d.coefficient / 10 ^ n) else 10 ^ n < 2 * r

def dropDigits? (tie : Tie) (magnitude : Nat) (d : Decimal) (n : Nat) : Option Decimal :=
  match readsBack magnitude (d.below n), readsBack magnitude (d.above n) with
  | true, true => some (if prefersAbove tie d n then d.above n else d.below n)
  | true, false => some (d.below n)
  | false, true => some (d.above n)
  | false, false => none

def shorten (tie : Tie) (magnitude : Nat) (d : Decimal) : Nat → Decimal
  | 0 => d
  | n + 1 => (dropDigits? tie magnitude d (n + 1)).getD (shorten tie magnitude d n)

end Decimal

def Double.shortest (tie : Tie) (x : Double) : Decimal :=
  let d := Decimal.ofBinary x.significand x.exponent
  (d.shorten tie x.magnitude (d.digits.length - 1)).trim

end ScriptValue
