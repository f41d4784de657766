import ScriptValue.Coercion

set_option autoImplicit false

namespace ScriptValue

namespace Value

def unresolvedName? : Value → Value → Option String
  | .unresolved name, _ => some name
  | _, .unresolved name => some name
  | _, _ => none

def checkResolved (a b : Value) : Except GuestError Unit :=
  match unresolvedName? a b with
  | some name => .error (Cause.unresolved name).error
  | none => .ok ()

def sameContent (zerosEqual : Bool) : Value → Value → Bool
  | .number m, .number n => m.same zerosEqual n
  | .boolean a, .boolean b => a == b
  | .null, .null => true
  | .undefined, .undefined => true
  | .string a, .string b => a == b
  | .symbol a, .symbol b => a.same b
  | .object a, .object b => a == b
  | .slot a, .slot b => a == b
  | _, _ => false

def sameUpTo (zerosEqual : Bool) (a b : Value) : Except GuestError Bool := do
  checkResolved a b
  return sameContent zerosEqual a b

def same (a b : Value) : Except GuestError Bool := sameUpTo false a b

def sameZero (a b : Value) : Except GuestError Bool := sameUpTo true a b

def strictContent : Value → Value → Bool
  | .number m, .number n => m.equals n
  | .boolean a, .boolean b => a == b
  | .null, .null => true
  | .undefined, .undefined => true
  | .string a, .string b => a == b
  | .symbol a, .symbol b => a.same b
  | _, _ => false

def looseNumber (n : Number) : Value → Bool
  | .number m => n.equals m
  | .string s => n.equals (Number.ofText s)
  | .boolean b => n.equals (.integer (if b then 1 else 0))
  | _ => false

-- The order of the rows matters: a slot equals nothing, null and undefined only each other, and
-- what is left is compared within its kind or else as numbers.
def looseContent : Value → Value → Bool
  | .slot _, _ | _, .slot _ => false
  | .null, v | .undefined, v => v.isNullish
  | _, .null | _, .undefined => false
  | .boolean a, .boolean b => a == b
  | .string a, .string b => a == b
  | .symbol a, .symbol b => a.same b
  | .boolean b, v => looseNumber (.integer (if b then 1 else 0)) v
  | v, .boolean b => looseNumber (.integer (if b then 1 else 0)) v
  | .number n, v => looseNumber n v
  | v, .number n => looseNumber n v
  | _, _ => false

-- Kinds that no object equals loosely, so the object need not be asked.
def equalsNoObject (v : Value) : Bool := v.isNullish || v.isSlot

end Value

namespace Host

variable {σ : Type} (host : Host σ)

def strictEquals (a b : Value) : Guest σ Bool := do
  Guest.ofExcept (a.checkResolved b)
  match a, b with
  | .object x, .object y => host.sameObject x y
  | a, b => return a.strictContent b

def looseEquals (a b : Value) : Guest σ Bool := do
  Guest.ofExcept (a.checkResolved b)
  match a, b with
  | .object x, .object y => host.sameObject x y
  | .object x, v =>
      if v.equalsNoObject then return false
      let p ← host.toPrimitive (.object x)
      Guest.ofExcept (p.checkResolved v)
      return p.looseContent v
  | v, .object y =>
      if v.equalsNoObject then return false
      let p ← host.toPrimitive (.object y)
      Guest.ofExcept (v.checkResolved p)
      return v.looseContent p
  | a, b => return a.looseContent b

end Host

end ScriptValue
