import ScriptValue.Identity
import ScriptValue.Number

set_option autoImplicit false

namespace ScriptValue

inductive Value where
  | number (n : Number)
  | boolean (b : Bool)
  | null
  | undefined
  | string (s : String)
  | symbol (s : Symbol)
  | object (o : ObjectId)
  | slot (s : SlotId)
  | unresolved (name : String)
  deriving DecidableEq

inductive Kind where
  | integer
  | bigInteger
  | float
  | boolean
  | null
  | undefined
  | string
  | symbol
  | object
  | slot
  | unresolved
  deriving DecidableEq

def Kind.name : Kind → String
  | .integer => "Integer"
  | .bigInteger => "BigInteger"
  | .float => "Float"
  | .boolean => "Boolean"
  | .null => "Null"
  | .undefined => "Undefined"
  | .string => "String"
  | .symbol => "Symbol"
  | .object => "Object"
  | .slot => "PropertySlot"
  | .unresolved => "Unresolved"

def Number.kind : Number → Kind
  | .integer _ => .integer
  | .bigInteger _ => .bigInteger
  | .float _ => .float

namespace Value

def kind : Value → Kind
  | .number n => n.kind
  | .boolean _ => .boolean
  | .null => .null
  | .undefined => .undefined
  | .string _ => .string
  | .symbol _ => .symbol
  | .object _ => .object
  | .slot _ => .slot
  | .unresolved _ => .unresolved

def integer (n : Int32) : Value := .number (.integer n)
def bigInteger (n : Int64) : Value := .number (.bigInteger n)
def float (x : Double) : Value := .number (.float x)

def ofInt64 (n : Int64) : Value := .number (.ofInt64 n)

def isNumber : Value → Bool
  | .number _ => true
  | _ => false

def isObject : Value → Bool
  | .object _ => true
  | _ => false

def isSlot : Value → Bool
  | .slot _ => true
  | _ => false

def isNullish : Value → Bool
  | .null | .undefined => true
  | _ => false

def integer? : Value → Option Int
  | .number (.integer n) => some n.toInt
  | .number (.bigInteger n) => some n.toInt
  | _ => none

def double? : Value → Option Double
  | .number (.float x) => some x
  | _ => none

def string? : Value → Option String
  | .string s => some s
  | _ => none

def symbol? : Value → Option Symbol
  | .symbol s => some s
  | _ => none

def object? : Value → Option ObjectId
  | .object o => some o
  | _ => none

def slot? : Value → Option SlotId
  | .slot s => some s
  | _ => none

end Value

end ScriptValue
