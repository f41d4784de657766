import ScriptValue.Numeral

set_option autoImplicit false

namespace ScriptValue

attribute [local instance (high)] instPowNat

namespace Decimal

def splitOnce (isMark : Char → Bool) (cs : List Char) : List Char × List Char :=
  (cs.takeWhile (!isMark ·), (cs.dropWhile (!isMark ·)).tail)

def isExponentMark (c : Char) : Bool := c == 'e' || c == 'E'
def isPoint (c : Char) : Bool := c == '.'
def isZeroDigit (c : Char) : Bool := c == '0'

def readInt32? (cs : List Char) : Option Int :=
  let (negative, ds) := Numeral.splitSign cs
  ((Numeral.readNat? ds).map (signed negative)).filter
    fun n => -2 ^ (31 : Nat) ≤ n && n < 2 ^ (31 : Nat)

def trimZerosEnd (cs : List Char) : List Char := (cs.reverse.dropWhile isZeroDigit).reverse

def significant (rendering : List Char) : List Char × Int :=
  let (mantissa, power) := splitOnce isExponentMark rendering
  let (whole, fraction) := splitOnce isPoint mantissa
  let digits := whole ++ fraction
  let leading := (digits.takeWhile isZeroDigit).length
  (trimZerosEnd (digits.drop leading), whole.length + (readInt32? power).getD 0 - leading)

end Decimal

end ScriptValue
