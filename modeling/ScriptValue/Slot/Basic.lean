import ScriptValue.Error
import ScriptValue.Value

set_option autoImplicit false

namespace ScriptValue

structure Flags where
  writable : Bool := false
  configurable : Bool := false
  enumerable : Bool := false
  deriving DecidableEq

def Flags.all : Flags := ⟨true, true, true⟩
def Flags.none : Flags := {}

/-- A property slot. It is a record of five fields, any of which may be set beside any other. -/
structure Slot where
  value? : Option Value := none
  flags : Flags := {}
  isAccessor : Bool := false
  getter? : Option ObjectId := none
  setter? : Option ObjectId := none
  deriving DecidableEq

namespace Slot

def data (value : Value) (flags : Flags) : Slot := { value? := some value, flags := flags }

def accessor (getter setter : Option ObjectId) (configurable enumerable : Bool) : Slot where
  flags := ⟨false, configurable, enumerable⟩
  isAccessor := true
  getter? := getter
  setter? := setter

def function? (s : Slot) : Role → Option ObjectId
  | .getter => s.getter?
  | .setter => s.setter?

def isWritable (s : Slot) : Bool := s.flags.writable || s.setter?.isSome

def withFlags (s : Slot) (flags : Flags) : Slot := { s with flags := flags }

def store (s : Slot) (v : Value) : Slot := { s with value? := some v }

def withFunction (s : Slot) (role : Role) (function? : Option ObjectId) : Slot :=
  match role with
  | .getter => { s with getter? := function? }
  | .setter => { s with setter? := function? }

def install (s : Slot) (role : Role) (function? : Option ObjectId) : Slot :=
  { s with
    isAccessor := true
    value? := none
    flags := { s.flags with writable := false } }.withFunction role function?

@[simp] theorem isAccessor_install (s : Slot) (role : Role) (f : Option ObjectId) :
    (s.install role f).isAccessor = true := by cases role <;> rfl

@[simp] theorem value?_install (s : Slot) (role : Role) (f : Option ObjectId) :
    (s.install role f).value? = none := by cases role <;> rfl

@[simp] theorem flags_install (s : Slot) (role : Role) (f : Option ObjectId) :
    (s.install role f).flags = { s.flags with writable := false } := by cases role <;> rfl

theorem function?_install (s : Slot) (role other : Role) (f : Option ObjectId) :
    (s.install role f).function? other = if other = role then f else s.function? other := by
  cases role <;> cases other <;> rfl

end Slot

end ScriptValue
