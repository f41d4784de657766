set_option autoImplicit false

namespace ScriptValue

structure ObjectId where
  serial : UInt64
  deriving DecidableEq, Ord

structure SlotId where
  index : Nat
  deriving DecidableEq

structure Symbol where
  serial : UInt64
  description : Option String
  deriving DecidableEq

namespace Symbol

def same (a b : Symbol) : Bool := a.serial == b.serial

def label (s : Symbol) : String := s.description.getD ""

def text (s : Symbol) : String := "Symbol(" ++ s.label ++ ")"

end Symbol

end ScriptValue
