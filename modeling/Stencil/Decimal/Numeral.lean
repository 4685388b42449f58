import Stencil.Decimal.Shortest
import Stencil.Text.Identifier

/-!
# Numerals

Reading numbers from text: binary64 numbers rounded to the nearest, and integers of a fixed width.
-/

namespace Stencil

namespace Decimal

def width (n : Nat) : Nat :=
  (Nat.toDigits 10 n).length

def toFloat (decimal : Decimal) : Float :=
  let magnitude := decimal.exponent + width decimal.digits
  if decimal.digits = 0 ∨ magnitude < -400 then
    0
  else if 400 < magnitude then
    1 / 0
  else
    Float.ofScientific decimal.digits (decimal.exponent < 0) decimal.exponent.natAbs

def readInt? : List Char → Option Int
  | '-' :: digits => if Text.isIndex digits then some (-(Text.digitsValue digits)) else none
  | text => (Text.readNat? text).map Int.ofNat

/-- Reads digits with an optional point and an optional exponent. A digit must stand before or
after the point. -/
def read? (text : List Char) : Option Decimal :=
  let whole := text.takeWhile Char.isDigit
  let afterWhole := text.dropWhile Char.isDigit
  let (fraction, rest) :=
    match afterWhole with
    | '.' :: others => (others.takeWhile Char.isDigit, others.dropWhile Char.isDigit)
    | others => ([], others)
  let digits := whole ++ fraction
  if digits.isEmpty then
    none
  else
    let written (exponent : Int) : Decimal :=
      ⟨Text.digitsValue digits, exponent - fraction.length⟩
    match rest with
    | [] => some (written 0)
    | c :: exponent =>
      if c = 'e' ∨ c = 'E' then (readInt? exponent).map written else none

end Decimal

namespace Numeral

def readMagnitude? (text : List Char) : Option Float :=
  let word := String.ofList (text.map Char.toLower)
  if word = "inf" ∨ word = "infinity" then
    some (1 / 0)
  else if word = "nan" then
    some (0 / 0)
  else
    (Decimal.read? text).map Decimal.toFloat

def readFloat? : List Char → Option Float
  | '+' :: text => readMagnitude? text
  | '-' :: text => (readMagnitude? text).map Float.neg
  | text => readMagnitude? text

def readInt64? (text : List Char) : Option Int :=
  (Decimal.readInt? text).filter fun n => -0x8000000000000000 ≤ n && n < 0x8000000000000000

def readUInt64? (text : List Char) : Option Nat :=
  (Text.readNat? text).filter fun n => n < 0x10000000000000000

end Numeral

end Stencil
