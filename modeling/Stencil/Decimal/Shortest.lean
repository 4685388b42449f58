/-!
# Shortest decimals

The decimal numeral that stands for a binary64 number: of the decimals that round to the number,
one on the coarsest decimal grid, and there the nearest, with the larger one in a tie. All
arithmetic is exact.
-/

namespace Stencil

/-- A non-negative decimal number, `digits` times ten to the power `exponent`. -/
structure Decimal where
  digits : Nat
  exponent : Int
  deriving DecidableEq, Repr

/-- The parts of a finite binary64 number: `significand` times two to the power `exponent`. -/
structure Binary where
  significand : Nat
  exponent : Int
  deriving DecidableEq, Repr

namespace Binary

def minExponent : Int := -1074

def ofFloat (x : Float) : Binary :=
  let bits := x.toBits.toNat
  let biased : Nat := bits / Nat.pow 2 52 % Nat.pow 2 11
  let fraction : Nat := bits % Nat.pow 2 52
  if biased = 0 then ⟨fraction, minExponent⟩ else ⟨Nat.pow 2 52 + fraction, (biased : Int) - 1075⟩

/-- The distance from the number down to the end of its rounding interval, in quarters of the
unit of its significand: half as much below a power of two as elsewhere. -/
def quartersBelow (number : Binary) : Nat :=
  if number.significand = Nat.pow 2 52 ∧ minExponent < number.exponent then 1 else 2

/-- The nearest multiple of ten to the power `exponent` that rounds to the number. -/
def onGrid? (number : Binary) (exponent : Int) : Option Decimal :=
  -- A multiple `d` compares with `q` quarters as `d * grid` with `q * quarter`.
  let grid := Nat.pow 10 exponent.toNat * Nat.pow 2 (2 - number.exponent).toNat
  let quarter := Nat.pow 2 (number.exponent - 2).toNat * Nat.pow 10 (-exponent).toNat
  let value := 4 * number.significand * quarter
  let low := (4 * number.significand - number.quartersBelow) * quarter
  let high := (4 * number.significand + 2) * quarter
  let rounds (d : Nat) : Bool :=
    if number.significand % 2 = 0 then low ≤ d * grid && d * grid ≤ high
    else low < d * grid && d * grid < high
  let below := value / grid
  let above := below + 1
  match rounds below, rounds above with
  | true, true =>
    some ⟨if value - below * grid < above * grid - value then below else above, exponent⟩
  | true, false => some ⟨below, exponent⟩
  | false, true => some ⟨above, exponent⟩
  | false, false => none

def exact (number : Binary) : Decimal :=
  ⟨number.significand * Nat.pow 2 number.exponent.toNat * Nat.pow 5 (-number.exponent).toNat,
    min number.exponent 0⟩

/-- An exponent of ten that no multiple can round to the number from above. -/
def coarsest (number : Binary) : Int :=
  (Nat.log2 number.significand + 2 + number.exponent) * 30103 / 100000 + 1

def shortest (number : Binary) : Decimal :=
  if number.significand = 0 then
    ⟨0, 0⟩
  else
    ((List.range 24).findSome? fun (k : Nat) => number.onGrid? (number.coarsest - k)).getD
      number.exact

end Binary

namespace Decimal

def positional (decimal : Decimal) : List Char :=
  let digits := Nat.toDigits 10 decimal.digits
  if 0 ≤ decimal.exponent then
    digits ++ List.replicate decimal.exponent.toNat '0'
  else
    let places := (-decimal.exponent).toNat
    let padded := List.replicate (places + 1 - digits.length) '0' ++ digits
    let whole := padded.length - places
    padded.take whole ++ '.' :: padded.drop whole

/-- The text of a binary64 number: its shortest decimal, never with an exponent, and without a
point if it is whole. Zero keeps its sign. -/
def ofFloat (x : Float) : List Char :=
  if x.isNaN then
    ['N', 'a', 'N']
  else
    let magnitude := if x.isInf then ['i', 'n', 'f'] else (Binary.ofFloat x).shortest.positional
    if x.toBits.toNat / 0x8000000000000000 = 1 then '-' :: magnitude else magnitude

end Decimal

end Stencil
