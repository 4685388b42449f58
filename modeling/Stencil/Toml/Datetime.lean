import Stencil.Text.Identifier
import Stencil.Toml

/-!
# Dates and times in TOML

Reading a date, a time of day or both, and giving their normal spelling. A date or time is a plain
value. Settings may also write it between quotes, as the first member of a table with a name of its
own; that form allows a little more about the offset from universal time.
-/

namespace Stencil.Toml

namespace Datetime

structure OffsetLimits where
  hour : Nat
  minute : Nat
  deriving DecidableEq, Repr

def plain : OffsetLimits := ⟨23, 59⟩

/-- The limits between quotes: only the offset as a whole is limited. -/
def quoted : OffsetLimits := ⟨99, 99⟩

def maxOffset : Nat := 24 * 60

def readField (digits low high : Nat) (text : List Char) : Option (Nat × List Char) :=
  let field := text.take digits
  let n := Text.digitsValue field
  if field.length = digits ∧ field.all Char.isDigit ∧ low ≤ n ∧ n ≤ high then
    some (n, text.drop digits)
  else
    none

def readChar (c : Char) : List Char → Option (List Char)
  | d :: rest => if d = c then some rest else none
  | [] => none

def padded (digits n : Nat) : String :=
  let text := Nat.toDigits 10 n
  String.ofList (List.replicate (digits - text.length) '0' ++ text)

def daysIn (year month : Nat) : Nat :=
  if month = 2 then
    if year % 4 = 0 ∧ (year % 100 ≠ 0 ∨ year % 400 = 0) then 29 else 28
  else if month ∈ [4, 6, 9, 11] then 30
  else 31

def readDate (text : List Char) : Option (String × List Char) := do
  let (year, rest) ← readField 4 0 9999 text
  let rest ← readChar '-' rest
  let (month, rest) ← readField 2 1 12 rest
  let rest ← readChar '-' rest
  let (day, rest) ← readField 2 1 (daysIn year month) rest
  return (padded 4 year ++ "-" ++ padded 2 month ++ "-" ++ padded 2 day, rest)

/-- Reads a fraction of a second and gives its normal spelling: at most nine digits, and no zeros
at the end. -/
def readSecondFraction : List Char → String × List Char
  | '.' :: rest =>
    let digits := rest.takeWhile Char.isDigit
    if digits.isEmpty then
      ("", '.' :: rest)
    else
      let kept := ((digits.take 9).reverse.dropWhile (· == '0')).reverse
      (if kept.isEmpty then "" else "." ++ String.ofList kept, rest.dropWhile Char.isDigit)
  | text => ("", text)

def readTime (text : List Char) : Option (String × List Char) := do
  let (hour, rest) ← readField 2 0 23 text
  let rest ← readChar ':' rest
  let (minute, rest) ← readField 2 0 59 rest
  let rest ← readChar ':' rest
  let (second, rest) ← readField 2 0 60 rest
  let (fraction, rest) := readSecondFraction rest
  return (padded 2 hour ++ ":" ++ padded 2 minute ++ ":" ++ padded 2 second ++ fraction, rest)

def readOffset (limits : OffsetLimits) : List Char → Option (String × List Char)
  | 'Z' :: rest => some ("Z", rest)
  | 'z' :: rest => some ("Z", rest)
  | sign :: rest =>
    if sign = '+' ∨ sign = '-' then do
      let (hour, rest) ← readField 2 0 limits.hour rest
      let rest ← readChar ':' rest
      let (minute, rest) ← readField 2 0 limits.minute rest
      let offset := 60 * hour + minute
      let shown := if offset = 0 then "+" else String.singleton sign
      if maxOffset < offset then none
      else return (shown ++ padded 2 (offset / 60) ++ ":" ++ padded 2 (offset % 60), rest)
    else
      none
  | [] => none

def readTimePart : List Char → String × List Char
  | c :: rest =>
    if c = 'T' ∨ c = 't' ∨ c = ' ' then
      match readTime rest with
      | some (time, rest) => ("T" ++ time, rest)
      | none => ("", c :: rest)
    else
      ("", c :: rest)
  | [] => ("", [])

def readOffsetPart (limits : OffsetLimits) (text : List Char) : String × List Char :=
  (readOffset limits text).getD ("", text)

/-- Reads a date, a time or both as a plain value. An offset stands only after a date with a
time. -/
def read (text : List Char) : Option (Toml × List Char) :=
  match readDate text with
  | some (date, rest) =>
    let (time, rest) := readTimePart rest
    let (offset, rest) := if time.isEmpty then ("", rest) else readOffsetPart plain rest
    some (.datetime (date ++ time ++ offset), rest)
  | none => (readTime text).map fun (time, rest) => (.datetime time, rest)

/-- The normal spelling of a date, a time or both between quotes. An offset may also stand after a
date alone. -/
def ofText? (text : List Char) : Option String :=
  match readDate text with
  | some (date, rest) =>
    let (time, rest) := readTimePart rest
    let (offset, rest) := readOffsetPart quoted rest
    if rest.isEmpty then some (date ++ time ++ offset) else none
  | none =>
    match readTime text with
    | some (time, []) => some time
    | _ => none

end Datetime

mutual

/-- The data where each table whose first member has the name for dates and times stands for the
one in its text. The other members of such a table do not count. -/
def withDatetimes? : Toml → Option Toml
  | .array items => (itemsWithDatetimes? items).map .array
  | .table [] => some (.table [])
  | .table ((name, data) :: members) =>
    if name = datetimeMember then
      match data with
      | .string text => (Datetime.ofText? text.toList).map .datetime
      | _ => none
    else do
      let first ← withDatetimes? data
      let others ← membersWithDatetimes? members
      return .table ((name, first) :: others)
  | data => some data

def itemsWithDatetimes? : List Toml → Option (List Toml)
  | [] => some []
  | item :: items => do
    let first ← withDatetimes? item
    let others ← itemsWithDatetimes? items
    return first :: others

def membersWithDatetimes? : List (String × Toml) → Option (List (String × Toml))
  | [] => some []
  | (name, data) :: members => do
    let first ← withDatetimes? data
    let others ← membersWithDatetimes? members
    return (name, first) :: others

end

end Stencil.Toml
