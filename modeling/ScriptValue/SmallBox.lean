import ScriptValue.Value

set_option autoImplicit false

namespace ScriptValue

structure Box where
  identity : Nat
  content : Value
  deriving DecidableEq

namespace SmallBox

def least : Int := -128
def greatest : Int := 127

def place? (n : Int) : Option (Fin 256) :=
  if h : least ≤ n ∧ n ≤ greatest then
    some ⟨(n - least).toNat, by simp only [least, greatest] at h ⊢; omega⟩
  else none

end SmallBox

structure BoxCache where
  integers : Vector Box 256
  bigIntegers : Vector Box 256
  nextIdentity : Nat

namespace BoxCache

def initial : BoxCache where
  integers := .ofFn fun i => ⟨i, .integer (Int32.ofInt (i + SmallBox.least))⟩
  bigIntegers := .ofFn fun i => ⟨256 + i, .bigInteger (Int64.ofInt (i + SmallBox.least))⟩
  nextIdentity := 512

def allocate (v : Value) : StateM BoxCache Box := do
  let cache ← get
  set { cache with nextIdentity := cache.nextIdentity + 1 }
  return ⟨cache.nextIdentity, v⟩

def boxInteger (n : Int32) : StateM BoxCache Box := do
  match SmallBox.place? n.toInt with
  | some i => return (← get).integers[i]
  | none => allocate (.integer n)

def boxBigInteger (n : Int64) : StateM BoxCache Box := do
  match SmallBox.place? n.toInt with
  | some i => return (← get).bigIntegers[i]
  | none => allocate (.bigInteger n)

def box : Value → StateM BoxCache Box
  | .number (.integer n) => boxInteger n
  | .number (.bigInteger n) => boxBigInteger n
  | v => allocate v

end BoxCache

end ScriptValue
