import Stencil.Document
import Stencil.Text.Identifier

/-!
# JSON numbers

What a JSON number stands for. A number without a point or an exponent is an integer if a 64-bit
word holds it. Any other is a float: as many leading digits as fit an unsigned 64-bit word, scaled
by a power of ten in binary64 arithmetic. A float that would be infinite stands for no data.
-/

namespace Stencil.Json

structure Number where
  negative : Bool
  whole : List Char
  fraction : Option (List Char)
  /-- Whether the exponent is negative, and its digits. -/
  exponent : Option (Bool × List Char)

namespace Number

/-- Appends digits to a number while an unsigned 64-bit word holds it; gives the number, how many
digits were appended and how many were left over. -/
def gather (n : Nat) : List Char → Nat × Nat × Nat
  | [] => (n, 0, 0)
  | c :: digits =>
    let longer := 10 * n + (c.toNat - '0'.toNat)
    if longer < 0x10000000000000000 then
      let (all, taken, left) := gather longer digits
      (all, taken + 1, left)
    else
      (n, 0, digits.length + 1)

def powerOfTen (exponent : Nat) : Float :=
  Float.ofScientific 1 false exponent

/-- Scales a float by a power of ten; a very small power is divided out in steps of `10 ^ 308`. -/
def scale (value : Float) (exponent : Int) : Nat → Option Float
  | 0 => some 0
  | steps + 1 =>
    if exponent.natAbs ≤ 308 then
      if 0 ≤ exponent then some (value * powerOfTen exponent.natAbs)
      else some (value / powerOfTen exponent.natAbs)
    else if value == 0 then
      some value
    else if 0 ≤ exponent then
      none
    else
      scale (value / powerOfTen 308) (exponent + 308) steps

/-- The power of ten that an exponent writes, unless no 32-bit word holds it. -/
def exponentValue? (negative : Bool) (digits : List Char) : Option Int :=
  let n := Text.digitsValue digits
  if n < 0x80000000 then some (if negative then -(n : Int) else n) else none

def magnitude? (number : Number) : Option Float :=
  let (wholeValue, _, dropped) := gather 0 number.whole
  let (value, taken, _) := gather wholeValue (number.fraction.getD [])
  let shift : Int := dropped - taken
  match number.exponent with
  | none => scale value.toFloat shift 4
  | some (negative, digits) =>
    match exponentValue? negative digits with
    | some exponent => scale value.toFloat (shift + exponent) 4
    | none => if value = 0 ∨ negative then some 0 else none

def ofFloat (value : Float) : Document :=
  if value.isFinite then .float value else .unusable

/-- The data that a number stands for. Minus zero is a float. -/
def toDocument (number : Number) : Document :=
  let value := Text.digitsValue number.whole
  let whole := number.fraction.isNone && number.exponent.isNone
  if whole && !number.negative && value < 0x10000000000000000 then
    .integer value
  else if whole && number.negative && 0 < value && value ≤ 0x8000000000000000 then
    .integer (-value)
  else
    match number.magnitude? with
    | none => .unusable
    | some x => ofFloat (if number.negative then -x else x)

end Number

end Stencil.Json
