import Stencil.Text.Quoted

/-!
# JSON strings

Writing a text as a JSON string, and reading the characters of a string. Only quotes, backslashes
and control characters are escaped. A reader knows all escapes, among them those that write a
character in two halves; a string with one half alone is well formed and stands for no text.
-/

namespace Stencil.Json

def quoteChar (c : Char) : List Char :=
  match c with
  | '"' => ['\\', '"']
  | '\\' => ['\\', '\\']
  | '\x08' => ['\\', 'b']
  | '\x0c' => ['\\', 'f']
  | '\n' => ['\\', 'n']
  | '\r' => ['\\', 'r']
  | '\t' => ['\\', 't']
  | c =>
    if c.toNat < 0x20 then
      ['\\', 'u', '0', '0', (c.toNat / 16).digitChar, (c.toNat % 16).digitChar]
    else
      [c]

def quote (text : List Char) : List Char :=
  '"' :: text.flatMap quoteChar ++ ['"']

namespace Reader

def readHex4 : List Char → Option (Nat × List Char)
  | a :: b :: c :: d :: rest => do
    let a ← Text.hexValue? a
    let b ← Text.hexValue? b
    let c ← Text.hexValue? c
    let d ← Text.hexValue? d
    return (((a * 16 + b) * 16 + c) * 16 + d, rest)
  | _ => none

def simpleEscape? : Char → Option Char
  | '"' => some '"'
  | '\\' => some '\\'
  | '/' => some '/'
  | 'b' => some '\x08'
  | 'f' => some '\x0c'
  | 'n' => some '\n'
  | 'r' => some '\r'
  | 't' => some '\t'
  | _ => none

def readLowHalf : List Char → Option (Nat × List Char)
  | '\\' :: 'u' :: rest =>
    (readHex4 rest).filter fun found => 0xDC00 ≤ found.1 && found.1 < 0xE000
  | _ => none

/-- Reads the escape after a backslash: a character, or nothing for half of a pair. -/
def readEscape : List Char → Option (Option Char × List Char)
  | 'u' :: rest => do
    let (unit, rest) ← readHex4 rest
    if 0xD800 ≤ unit && unit < 0xDC00 then
      match readLowHalf rest with
      | some (low, after) =>
        return (some (Char.ofNat (0x10000 + (unit - 0xD800) * 0x400 + (low - 0xDC00))), after)
      | none => return (none, rest)
    else if 0xDC00 ≤ unit && unit < 0xE000 then
      return (none, rest)
    else
      return (some (Char.ofNat unit), rest)
  | c :: rest => (simpleEscape? c).map fun d => (some d, rest)
  | [] => none

/-- Reads the characters of a string up to its closing quote. The fuel is the length of the text.
Nothing stands for a string with half of a surrogate pair. -/
def readString : Nat → List Char → Option (Option (List Char) × List Char)
  | 0, _ => none
  | fuel + 1, text =>
    match text with
    | [] => none
    | '"' :: rest => some (some [], rest)
    | '\\' :: rest => do
      let (c, rest) ← readEscape rest
      let (others, rest) ← readString fuel rest
      return ((do return (← c) :: (← others)), rest)
    | c :: rest =>
      if c.toNat < 0x20 then
        none
      else do
        let (others, rest) ← readString fuel rest
        return (others.map (c :: ·), rest)

end Reader

end Stencil.Json
