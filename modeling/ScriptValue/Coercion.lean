import ScriptValue.Host

set_option autoImplicit false

namespace ScriptValue

-- The entries in which the numeric tables differ. Undefined and slots have the same one, because
-- a slot is inert; a text goes by the double it denotes.
structure NumericTable (α : Type) where
  ofNumber : Number → α
  ofBool : Bool → α
  ofNull : α
  ofNothing : α
  ofDouble : Double → α

namespace NumericTable

def row {α : Type} (t : NumericTable α) : Value → Except GuestError α
  | .number n => .ok (t.ofNumber n)
  | .boolean b => .ok (t.ofBool b)
  | .null => .ok t.ofNull
  | .undefined | .slot _ => .ok t.ofNothing
  | .string s => .ok (t.ofDouble (Double.ofText s))
  | .symbol _ => .error Cause.symbolToNumber.error
  | .object _ => .error Cause.objectToPrimitive.error
  | .unresolved name => .error (Cause.unresolved name).error

def number : NumericTable Number where
  ofNumber := id
  ofBool b := .integer (if b then 1 else 0)
  ofNull := .integer 0
  ofNothing := .float .nan
  ofDouble := Number.ofDouble

def double : NumericTable Double where
  ofNumber := Number.toDouble
  ofBool b := Double.ofInt (if b then 1 else 0)
  ofNull := .zero
  ofNothing := .nan
  ofDouble := id

def int64 : NumericTable Int64 where
  ofNumber := Number.toInt64
  ofBool b := if b then 1 else 0
  ofNull := 0
  ofNothing := 0
  ofDouble := Double.toInt64

def int32 : NumericTable Int32 where
  ofNumber := Number.toInt32
  ofBool b := if b then 1 else 0
  ofNull := 0
  ofNothing := 0
  ofDouble := Double.toInt32

def uint32 : NumericTable UInt32 where
  ofNumber := Number.toUInt32
  ofBool b := if b then 1 else 0
  ofNull := 0
  ofNothing := 0
  ofDouble := Double.toUInt32

end NumericTable

namespace Value

def textRow (f : Formatting) : Value → Except GuestError String
  | .number n => .ok (f.numberText n)
  | .boolean b => .ok (if b then "true" else "false")
  | .null => .ok "null"
  | .undefined => .ok "undefined"
  | .string s => .ok s
  | .slot _ => .ok ""
  | .symbol _ => .error Cause.symbolToText.error
  | .object _ => .error Cause.objectToPrimitive.error
  | .unresolved name => .error (Cause.unresolved name).error

def truth : Value → Except GuestError Bool
  | .number n => .ok n.truth
  | .boolean b => .ok b
  | .string s => .ok !s.isEmpty
  | .symbol _ | .object _ => .ok true
  | .null | .undefined | .slot _ => .ok false
  | .unresolved name => .error (Cause.unresolved name).error

end Value

namespace Host

variable {σ : Type} (host : Host σ)

def reduce (hint : Hint) (o : ObjectId) : Guest σ Value := do
  (← host.behaviourOf o).primitive hint

@[simp] theorem runIn_reduce (hint : Hint) (o : ObjectId) (w : World σ) :
    (host.reduce hint o).runIn w = ((host.behaviour w o).primitive hint).runIn w := by
  simp [reduce, Guest.runIn_bind]

def coerce {α : Type} (hint : Hint) (table : Value → Except GuestError α) : Value → Guest σ α
  | .object o => do Guest.ofExcept (table (← host.reduce hint o))
  | v => Guest.ofExcept (table v)

theorem runIn_coerce_object {α : Type} (hint : Hint) (table : Value → Except GuestError α)
    (o : ObjectId) (w : World σ) :
    (host.coerce hint table (.object o)).runIn w =
      match ((host.behaviour w o).primitive hint).runIn w with
      | (.ok v, w) => (table v, w)
      | (.error e, w) => (.error e, w) := by
  simp only [coerce, Guest.runIn_bind, runIn_reduce, Guest.runIn_ofExcept]
  rcases ((host.behaviour w o).primitive hint).runIn w with ⟨v | e, w⟩ <;> rfl

theorem coerce_eq_table {α : Type} (hint : Hint) (table : Value → Except GuestError α)
    {v : Value} (h : v.isObject = false) : host.coerce hint table v = Guest.ofExcept (table v) := by
  cases v <;> simp_all [coerce, Value.isObject]

def toNumber (v : Value) : Guest σ Number := host.coerce .number NumericTable.number.row v
def toDouble (v : Value) : Guest σ Double := host.coerce .number NumericTable.double.row v
def toInt32 (v : Value) : Guest σ Int32 := host.coerce .number NumericTable.int32.row v
def toUInt32 (v : Value) : Guest σ UInt32 := host.coerce .number NumericTable.uint32.row v

def toInt64 (v : Value) : Guest σ Int64 := host.coerce .number NumericTable.int64.row v

def toText (v : Value) : Guest σ String := host.coerce .string (Value.textRow host.formatting) v

def toPrimitive : Value → Guest σ Value
  | .object o => do
      let p ← host.reduce .default o
      if p.isObject then raise .objectToPrimitive else return p
  | .unresolved name => raise (.unresolved name)
  | v => return v

def typeName (w : World σ) : Value → String
  | .number _ => "number"
  | .boolean _ => "boolean"
  | .string _ => "string"
  | .symbol _ => "symbol"
  | .null => "object"
  | .object o => if (host.behaviour w o).callable then "function" else "object"
  | .undefined | .slot _ | .unresolved _ => "undefined"

end Host

end ScriptValue
