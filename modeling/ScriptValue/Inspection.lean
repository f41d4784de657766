import ScriptValue.Host
import ScriptValue.Text.Invisible

set_option autoImplicit false

namespace ScriptValue

namespace Inspection

def floatLayout : Layout := ⟨-3, 16, true, false, .up⟩

def float (x : Double) : String :=
  match x.parts with
  | .nan => "NaN"
  | .infinite s => String.ofList (Layout.sign s ++ "inf".toList)
  | .finite s _ _ =>
      String.ofList
        (if x.isZero then Layout.sign s ++ "0.0".toList else floatLayout.writeDouble x)

def escape (c : Char) : List Char :=
  match c with
  | '\x00' => ['\\', '0']
  | '\t' => ['\\', 't']
  | '\r' => ['\\', 'r']
  | '\n' => ['\\', 'n']
  | '"' => ['\\', '"']
  | '\\' => ['\\', '\\']
  | c =>
      if isInvisible c then '\\' :: 'u' :: '\x7b' :: (Nat.toDigits 16 c.toNat ++ ['\x7d'])
      else [c]

def quoted (s : String) : String := "\"" ++ String.ofList (s.toList.flatMap escape) ++ "\""

def applied (name argument : String) : String := name ++ "(" ++ argument ++ ")"

def record (name : String) (fields : List (String × String)) : String :=
  name ++ " \x7b " ++ ", ".intercalate (fields.map fun (field, v) => field ++ ": " ++ v) ++ " \x7d"

def optional : Option String → String
  | none => "None"
  | some v => applied "Some" v

def bool (b : Bool) : String := if b then "true" else "false"

def number : Number → String
  | .integer n => applied "Integer" (String.ofList (integerText n.toInt))
  | .bigInteger n => applied "BigInteger" (String.ofList (integerText n.toInt))
  | .float x => applied "Float" (float x)

def symbol (s : Symbol) : String :=
  record "Symbol"
    [("id", toString s.serial.toNat), ("description", optional (s.description.map quoted))]

def flags (f : Flags) : String :=
  record "PropertyFlags"
    [("writable", bool f.writable), ("configurable", bool f.configurable),
     ("enumerable", bool f.enumerable)]

variable {σ : Type} (host : Host σ) (w : World σ)

def object (o : ObjectId) : String :=
  record "ObjectRef"
    [("id", applied "ObjectId" (toString o.serial.toNat)),
     ("class", quoted (host.behaviour w o).className)]

def slot (s : Slot) (shown : Option String) : String :=
  record "PropertySlot"
    [("value", optional shown), ("flags", flags s.flags), ("accessor", bool s.isAccessor),
     ("getter", optional ((s.function? .getter).map (object host w))),
     ("setter", optional ((s.function? .setter).map (object host w)))]

def value? : Nat → Value → Option String
  | _, .number n => some (number n)
  | _, .boolean b => some (applied "Boolean" (bool b))
  | _, .null => some "Null"
  | _, .undefined => some "Undefined"
  | _, .string s => some (applied "String" (quoted s))
  | _, .symbol s => some (applied "Symbol" (symbol s))
  | _, .object o => some (applied "Object" (object host w o))
  | _, .unresolved name => some (applied "Unresolved" (quoted name))
  | 0, .slot _ => none
  | n + 1, .slot s => do
      let shown ← match (w.slot s).value? with
        | none => some none
        | some v => (value? n v).map some
      return applied "PropertySlot" (slot host w (w.slot s) shown)

end Inspection

/-- The full text of a value; none if it leads to slots that hold each other in a circle. -/
def Host.inspect? {σ : Type} (host : Host σ) (w : World σ) (v : Value) : Option String :=
  Inspection.value? host w (w.slots.size + 1) v

end ScriptValue
