import ScriptValue.Decimal.Shortest
import ScriptValue.Decimal.Significant

set_option autoImplicit false

namespace ScriptValue

structure Layout where
  -- Positional text is used for points from `least` to `greatest`.
  least : Int
  greatest : Int
  pointZero : Bool
  plus : Bool
  tie : Tie

namespace Layout

def positional (f : Layout) (digits : List Char) (point : Int) : List Char :=
  if point ≤ 0 then
    '0' :: '.' :: (List.replicate (-point).toNat '0' ++ digits)
  else if digits.length ≤ point then
    digits ++ List.replicate (point.toNat - digits.length) '0'
      ++ (if f.pointZero then ['.', '0'] else [])
  else
    digits.take point.toNat ++ '.' :: digits.drop point.toNat

def exponentSign (f : Layout) (e : Int) : List Char :=
  if e < 0 then ['-'] else if f.plus then ['+'] else []

def scientific (f : Layout) (digits : List Char) (e : Int) : List Char :=
  digits.take 1 ++ (if digits.length ≤ 1 then [] else '.' :: digits.drop 1)
    ++ 'e' :: (f.exponentSign e ++ Nat.toDigits 10 e.natAbs)

/-- The text of `0.DIGITS * 10 ^ point`. -/
def write (f : Layout) (digits : List Char) (point : Int) : List Char :=
  if f.least ≤ point ∧ point ≤ f.greatest then f.positional digits point
  else f.scientific digits (point - 1)

def sign (negative : Bool) : List Char := if negative then ['-'] else []

def writeDouble (f : Layout) (x : Double) : List Char :=
  let d := x.shortest f.tie
  sign x.negative ++ f.write d.digits d.point

end Layout

def integerText (n : Int) : List Char := Layout.sign (n < 0) ++ Nat.toDigits 10 n.natAbs

def Layout.number : Layout := ⟨-5, 21, false, true, .even⟩

def Layout.rendering : Layout := ⟨-4, 16, true, false, .even⟩

/-- What renders the size of a finite double other than zero, in any layout, and the digits of an
integer. -/
structure Formatting where
  double : Double → List Char
  integer : Int → List Char

namespace Formatting

def standard : Formatting where
  double := Layout.rendering.writeDouble
  integer := integerText

def text (f : Formatting) (x : Double) : String :=
  match x.parts with
  | .nan => "NaN"
  | .infinite s => if s then "-Infinity" else "Infinity"
  | .finite s _ _ =>
      if x.isZero then "0"
      else
        let (digits, point) := Decimal.significant (f.double x.absolutely)
        String.ofList (Layout.sign s ++ Layout.number.write digits point)

end Formatting

def Double.text (x : Double) : String := Formatting.standard.text x

end ScriptValue
