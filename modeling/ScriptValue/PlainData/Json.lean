import ScriptValue.Decimal.Layout
import ScriptValue.PlainData.Serialize

set_option autoImplicit false

namespace ScriptValue

namespace Json

def hexDigit (n : Nat) : Char := Nat.digitChar (n % 16)

def escape (c : Char) : List Char :=
  match c with
  | '"' => ['\\', '"']
  | '\\' => ['\\', '\\']
  | '\n' => ['\\', 'n']
  | '\t' => ['\\', 't']
  | '\r' => ['\\', 'r']
  | '\x08' => ['\\', 'b']
  | '\x0c' => ['\\', 'f']
  | c =>
      if c.toNat < 0x20 then ['\\', 'u', '0', '0', hexDigit (c.toNat / 16), hexDigit c.toNat]
      else [c]

def quoted (cs : List Char) : List Char := '"' :: (cs.flatMap escape ++ ['"'])

def floatLayout : Layout := ⟨-4, 16, true, true, .even⟩

def floatText (x : Double) : List Char :=
  match x.parts with
  | .nan | .infinite _ => "null".toList
  | .finite s _ _ =>
      if x.isZero then Layout.sign s ++ "0.0".toList else floatLayout.writeDouble x

def separated : List (List Char) → List Char
  | [] => []
  | [t] => t
  | t :: ts => t ++ ',' :: separated ts

end Json

def Serializer.json : Serializer (List Char) where
  unit := "null".toList
  bool b := if b then "true".toList else "false".toList
  int64 n := integerText n.toInt
  float64 := Json.floatText
  str t := Json.quoted t.toList
  seq texts := '[' :: (Json.separated texts ++ [']'])
  map entries :=
    '\x7b' :: (Json.separated (entries.map fun e => Json.quoted e.1.toList ++ ':' :: e.2) ++
      ['\x7d'])

def PlainData.json (d : PlainData) : String := String.ofList (d.serialize .json)

end ScriptValue
