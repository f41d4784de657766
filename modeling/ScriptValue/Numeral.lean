import ScriptValue.Decimal.Basic
import ScriptValue.Double.Integral
import ScriptValue.Text.Blank

set_option autoImplicit false

namespace ScriptValue

namespace Numeral

def radix? : Char → Option Nat
  | 'x' | 'X' => some 16
  | 'o' | 'O' => some 8
  | 'b' | 'B' => some 2
  | _ => none

def digit? (radix : Nat) (c : Char) : Option Nat :=
  let value? :=
    if c.isDigit then some (c.toNat - '0'.toNat)
    else if 'a' ≤ c ∧ c ≤ 'f' then some (c.toNat - 'a'.toNat + 10)
    else if 'A' ≤ c ∧ c ≤ 'F' then some (c.toNat - 'A'.toNat + 10)
    else none
  value?.filter (· < radix)

def appendDigit (radix : Nat) (x : Double) (digit : Nat) : Double :=
  match x.truncate? with
  | some n => Double.nearest false (n.toNat * radix + digit) 1
  | none => x

-- Every digit rounds the number read so far, so a long numeral may end a step away from the
-- double nearest to its exact value.
def readRadix? (radix : Nat) (body : List Char) : Option Double :=
  if body.isEmpty then none
  else body.foldlM (fun x c => (digit? radix c).map (appendDigit radix x)) Double.zero

def digitRun (cs : List Char) : List Char × List Char :=
  (cs.takeWhile Char.isDigit, cs.dropWhile Char.isDigit)

def readNat? (cs : List Char) : Option Nat :=
  if cs.isEmpty || !cs.all Char.isDigit then none else some (Nat.ofDigitChars 10 cs 0)

def splitSign : List Char → Bool × List Char
  | '+' :: cs => (false, cs)
  | '-' :: cs => (true, cs)
  | cs => (false, cs)

def readExponent? : List Char → Option Int
  | [] => some 0
  | c :: cs =>
      if c = 'e' ∨ c = 'E' then (readNat? (splitSign cs).2).map (signed (splitSign cs).1) else none

def readDecimal? (cs : List Char) : Option Decimal :=
  let (whole, rest) := digitRun cs
  let (fraction, rest) := match rest with
    | '.' :: more => digitRun more
    | _ => ([], rest)
  if whole.isEmpty && fraction.isEmpty then none
  else (readExponent? rest).map (Decimal.ofDigits whole fraction)

def readSigned? (cs : List Char) : Option Double :=
  let (negative, body) := splitSign cs
  if body = "Infinity".toList then some (Double.infinity negative)
  else (readDecimal? body).map (Decimal.nearest negative)

def readTrimmed? : List Char → Option Double
  | [] => some Double.zero
  | '0' :: c :: body =>
      match radix? c with
      | some radix => readRadix? radix body
      | none => readSigned? ('0' :: c :: body)
  | cs => readSigned? cs

def read (cs : List Char) : Double := (readTrimmed? (trimBlank cs)).getD Double.nan

end Numeral

def Double.ofText (s : String) : Double := Numeral.read s.toList

end ScriptValue
