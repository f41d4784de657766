import ScriptValue.Accounting.Appraisal
import ScriptValue.PlainData.Basic
import ScriptValue.World

set_option autoImplicit false

namespace ScriptValue

inductive Hint where
  | number
  | string
  | default
  deriving DecidableEq

structure Behaviour (σ : Type) where
  className : String := "Object"
  callable : Bool := false
  number : Guest σ Value
  string : Guest σ Value
  default : Guest σ Value := number
  call : (receiver : Value) → (arguments : List Value) → Guest σ Value :=
    fun _ _ => raise (.notCallable className)
  selfEquals : (other : ObjectId) → Effect σ Bool := fun _ => pure false
  resource : Option String := none
  holdings : Appraisal := ({} : Holdings).appraisal
  exported : ExceptT Fault (Effect σ) PlainData := pure (.map [])

def Behaviour.primitive {σ : Type} (b : Behaviour σ) : Hint → Guest σ Value
  | .number => b.number
  | .string => b.string
  | .default => b.default

inductive Wrapper where
  | number
  | boolean
  | string
  | symbol
  deriving DecidableEq

def Wrapper.className : Wrapper → String
  | .number => "Number"
  | .boolean => "Boolean"
  | .string => "String"
  | .symbol => "Symbol"

/-- What the library leaves to its surroundings. A host may create wrappers in its own way, or say
only how it adopts a new object as one. -/
structure Host (σ : Type) where
  behaviour : World σ → ObjectId → Behaviour σ
  prototype : Wrapper → Effect σ ObjectId
  adopt : (object : ObjectId) → (primitive : Value) → (prototype : ObjectId) → Wrapper →
    Effect σ Unit := fun _ _ _ _ => pure ()
  wrap : (primitive : Value) → (prototype : ObjectId) → Wrapper → Effect σ ObjectId :=
    fun primitive prototype wrapper => do
      let o ← World.newObject
      adopt o primitive prototype wrapper
      return o
  typeError : (message : String) → GuestError := fun message => ⟨.type, message⟩
  referenceError : (name : String) → GuestError := fun name => (Cause.unresolved name).error
  formatting : Formatting := .standard

namespace Host

variable {σ : Type} (host : Host σ)

def error : Cause → GuestError
  | .unresolved name => host.referenceError name
  | c => host.typeError c.message

def reject {α : Type} (c : Cause) : Guest σ α := throw (host.error c)

@[simp] theorem runIn_reject {α : Type} (c : Cause) (w : World σ) :
    (host.reject c : Guest σ α).runIn w = (.error (host.error c), w) := rfl

def behaviourOf (o : ObjectId) : Effect σ (Behaviour σ) := do
  return host.behaviour (← get) o

@[simp] theorem run_behaviourOf (o : ObjectId) (w : World σ) :
    (host.behaviourOf o).run w = (host.behaviour w o, w) := rfl

def call (function : ObjectId) (receiver : Value) (arguments : List Value) : Guest σ Value := do
  (← host.behaviourOf function).call receiver arguments

/-- Whether two object values are the same to strict equality: they are the same object, or the
left one says so. -/
def sameObject (a b : ObjectId) : Effect σ Bool := do
  if a = b then return true
  (← host.behaviourOf a).selfEquals b

end Host

end ScriptValue
