import Stencil.Json.Number
import Stencil.Json.Quoted

/-!
# Reading JSON text

Strict JSON as documents. Each reader gives what it found and the text after it. Data that is
nested too deep, and text with half of a surrogate pair, are well formed and stand for no data.
-/

namespace Stencil.Json.Reader

def maxDepth : Nat := 127

def skipBlank (text : List Char) : List Char :=
  text.dropWhile fun c => c == ' ' || c == '\n' || c == '\t' || c == '\r'

def readDigits (text : List Char) : Option (List Char × List Char) :=
  let digits := text.takeWhile Char.isDigit
  if digits.isEmpty then none else some (digits, text.dropWhile Char.isDigit)

/-- Reads the digits before a point: zero, or a run that does not begin with zero. -/
def readWhole (text : List Char) : Option (List Char × List Char) :=
  (readDigits text).filter fun found => found.1.length == 1 || found.1.head? != some '0'

def readFraction : List Char → Option (Option (List Char) × List Char)
  | '.' :: rest => (readDigits rest).map fun (digits, rest) => (some digits, rest)
  | text => some (none, text)

def readExponent : List Char → Option (Option (Bool × List Char) × List Char)
  | c :: rest =>
    if c = 'e' ∨ c = 'E' then
      let (negative, rest) :=
        match rest with
        | '+' :: rest => (false, rest)
        | '-' :: rest => (true, rest)
        | rest => (false, rest)
      (readDigits rest).map fun (digits, rest) => (some (negative, digits), rest)
    else
      some (none, c :: rest)
  | [] => some (none, [])

def readNumber (text : List Char) : Option (Number × List Char) := do
  let (negative, rest) :=
    match text with
    | '-' :: rest => (true, rest)
    | rest => (false, rest)
  let (whole, rest) ← readWhole rest
  let (fraction, rest) ← readFraction rest
  let (exponent, rest) ← readExponent rest
  return (⟨negative, whole, fraction, exponent⟩, rest)

/-- The table with the given members, unless one of their names stands for no text. -/
def tableOf (members : List (Option (List Char) × Document)) : Document :=
  match members.mapM fun (name, member) => name.map fun name => (String.ofList name, member) with
  | some named => .table named
  | none => .unusable

mutual

/-- Reads a value that may hold `depth` levels of arrays and objects. -/
def readValue (depth : Nat) : Nat → List Char → Option (Document × List Char)
  | 0, _ => none
  | fuel + 1, text =>
    match skipBlank text with
    | 'n' :: 'u' :: 'l' :: 'l' :: rest => some (.null, rest)
    | 't' :: 'r' :: 'u' :: 'e' :: rest => some (.boolean true, rest)
    | 'f' :: 'a' :: 'l' :: 's' :: 'e' :: rest => some (.boolean false, rest)
    | '"' :: rest =>
      (readString (rest.length + 1) rest).map fun (content, rest) =>
        match content with
        | some content => (.string (String.ofList content), rest)
        | none => (.unusable, rest)
    | '[' :: rest => do
      let (items, rest) ←
        match skipBlank rest with
        | ']' :: rest => some ([], rest)
        | rest => readItems (depth - 1) fuel rest
      return (if depth = 0 then .unusable else .array items, rest)
    | '{' :: rest => do
      let (members, rest) ←
        match skipBlank rest with
        | '}' :: rest => some ([], rest)
        | rest => readMembers (depth - 1) fuel rest
      return (if depth = 0 then .unusable else tableOf members, rest)
    | rest => (readNumber rest).map fun (number, rest) => (number.toDocument, rest)

def readItems (depth : Nat) : Nat → List Char → Option (List Document × List Char)
  | 0, _ => none
  | fuel + 1, text => do
    let (item, rest) ← readValue depth fuel text
    match skipBlank rest with
    | ']' :: rest => return ([item], rest)
    | ',' :: rest =>
      let (items, rest) ← readItems depth fuel rest
      return (item :: items, rest)
    | _ => none

def readMembers (depth : Nat) :
    Nat → List Char → Option (List (Option (List Char) × Document) × List Char)
  | 0, _ => none
  | fuel + 1, text =>
    match skipBlank text with
    | '"' :: rest => do
      let (name, rest) ← readString (rest.length + 1) rest
      match skipBlank rest with
      | ':' :: rest =>
        let (member, rest) ← readValue depth fuel rest
        match skipBlank rest with
        | '}' :: rest => return ([(name, member)], rest)
        | ',' :: rest =>
          let (members, rest) ← readMembers depth fuel rest
          return ((name, member) :: members, rest)
        | _ => none
      | _ => none
    | _ => none

end

end Reader

def read? (text : String) : Option Document :=
  let chars := text.toList
  match Reader.readValue Reader.maxDepth (chars.length + 1) chars with
  | some (document, rest) => if (Reader.skipBlank rest).isEmpty then some document else none
  | none => none

end Stencil.Json
