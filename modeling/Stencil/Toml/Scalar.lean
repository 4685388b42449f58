import Stencil.Decimal.Numeral
import Stencil.Toml.Datetime

/-!
# Plain values in TOML

Reading the values that are written without quotes or brackets: truth values, dates and times, and
numbers. Each reader gives what it found and the text after it.
-/

namespace Stencil.Toml.Scalar

/-- Reads at least one digit; a single underscore may stand between two digits and does not
count. -/
def readDigits (isDigit : Char → Bool) : List Char → List Char × List Char
  | [] => ([], [])
  | c :: '_' :: d :: rest =>
    if isDigit c then
      if isDigit d then
        let (digits, rest) := readDigits isDigit (d :: rest)
        (c :: digits, rest)
      else
        ([c], '_' :: d :: rest)
    else
      ([], c :: '_' :: d :: rest)
  | c :: rest =>
    if isDigit c then
      let (digits, rest) := readDigits isDigit rest
      (c :: digits, rest)
    else
      ([], c :: rest)

def readSign : List Char → Bool × List Char
  | '+' :: rest => (false, rest)
  | '-' :: rest => (true, rest)
  | text => (false, text)

/-- Reads the digits of an integer: zero, or digits of which the first is not zero. -/
def readWhole : List Char → Option (List Char × List Char)
  | '0' :: rest => some (['0'], rest)
  | text =>
    let (digits, rest) := readDigits Char.isDigit text
    if digits.isEmpty then none else some (digits, rest)

def readFraction : List Char → Option (List Char × List Char)
  | '.' :: rest =>
    let (digits, rest) := readDigits Char.isDigit rest
    if digits.isEmpty then none else some (digits, rest)
  | _ => none

def readExponent : List Char → Option (Int × List Char)
  | c :: rest =>
    if c = 'e' ∨ c = 'E' then
      let (negative, rest) := readSign rest
      let (digits, rest) := readDigits Char.isDigit rest
      let n : Int := Text.digitsValue digits
      if digits.isEmpty then none else some (if negative then -n else n, rest)
    else
      none
  | [] => none

def readSpecial : List Char → Option (Float × List Char)
  | 'i' :: 'n' :: 'f' :: rest => some (1 / 0, rest)
  | 'n' :: 'a' :: 'n' :: rest => some (0 / 0, rest)
  | _ => none

/-- Reads a float: digits with a point, an exponent or both. One too large is refused, unless it
is negative. -/
def readFloat (text : List Char) : Option (Toml × List Char) :=
  let (negative, unsigned) := readSign text
  let signed (x : Float) : Toml := .float (if negative then -x else x)
  match readSpecial unsigned with
  | some (x, rest) => some (signed x, rest)
  | none => do
    let (whole, rest) ← readWhole unsigned
    let (fraction, exponent, rest) ←
      match readFraction rest with
      | some (fraction, rest) =>
        match readExponent rest with
        | some (exponent, rest) => some (fraction, exponent, rest)
        | none => some (fraction, 0, rest)
      | none => (readExponent rest).map fun (exponent, rest) => ([], exponent, rest)
    let decimal : Decimal := ⟨Text.digitsValue (whole ++ fraction), exponent - fraction.length⟩
    let x := decimal.toFloat
    if x.isInf && !negative then none else some (signed x, rest)

def digitValue (c : Char) : Nat :=
  if c.isDigit then c.toNat - '0'.toNat
  else if c.isLower then c.toNat - 'a'.toNat + 10
  else c.toNat - 'A'.toNat + 10

def isDigitIn (base : Nat) (c : Char) : Bool :=
  c.isAlphanum && digitValue c < base

def readInBase (base : Nat) (text : List Char) : Option (Toml × List Char) :=
  let (digits, rest) := readDigits (isDigitIn base) text
  let n := digits.foldl (fun n c => base * n + digitValue c) 0
  if digits.isEmpty || 0x8000000000000000 ≤ n then none else some (.integer n, rest)

def readInteger : List Char → Option (Toml × List Char)
  | '0' :: 'x' :: rest => readInBase 16 rest
  | '0' :: 'o' :: rest => readInBase 8 rest
  | '0' :: 'b' :: rest => readInBase 2 rest
  | text =>
    let (negative, unsigned) := readSign text
    (readWhole unsigned).bind fun (digits, rest) =>
      let n : Int := Text.digitsValue digits
      let value := if negative then -n else n
      if -0x8000000000000000 ≤ value && value < 0x8000000000000000 then
        some (.integer value, rest)
      else
        none

def readBoolean : List Char → Option (Toml × List Char)
  | 't' :: 'r' :: 'u' :: 'e' :: rest => some (.boolean true, rest)
  | 'f' :: 'a' :: 'l' :: 's' :: 'e' :: rest => some (.boolean false, rest)
  | _ => none

def read (text : List Char) : Option (Toml × List Char) :=
  readBoolean text <|> Datetime.read text <|> readFloat text <|> readInteger text

end Stencil.Toml.Scalar
