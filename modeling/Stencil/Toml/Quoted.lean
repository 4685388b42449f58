import Stencil.Text.Quoted

/-!
# Quoted text in TOML

Writing a text as a TOML string in the plainest of four forms that can hold it, and reading a
string back. Plain quotes come first, then apostrophes, in which nothing is escaped; then either
three times, which may hold line breaks and one or two of their own kind in a row. A text that
none of these holds as it is gets escapes.
-/

namespace Stencil.Toml.Quoted

/-- The forms of a string: between quotes, which need escapes, or between apostrophes, in which
nothing is escaped; a long form has three of them and may have line breaks. -/
inductive Form where
  | basic
  | literal
  | longBasic
  | longLiteral
  deriving DecidableEq, Repr

def Form.delimiter : Form → List Char
  | .basic => ['"']
  | .literal => ['\'']
  | .longBasic => ['"', '"', '"']
  | .longLiteral => ['\'', '\'', '\'']

/-- Whether a character cannot stand in a string as it is, line breaks apart. -/
def isControl (c : Char) : Bool :=
  (c.toNat < 0x20 && c != '\t' && c != '\n') || c.toNat == 0x7F

def longestRun (c : Char) (text : List Char) : Nat :=
  go 0 text
where
  /-- The longest run, when `before` of them stand directly before the text. -/
  go (before : Nat) : List Char → Nat
    | [] => before
    | d :: text => if d = c then go (before + 1) text else max before (go 0 text)

def formOf (text : List Char) : Form :=
  let quotes := longestRun '"' text
  let apostrophes := longestRun '\'' text
  let hasBreak := text.contains '\n'
  let hasControl := text.any isControl
  let hasBackslash := text.contains '\\'
  if !hasControl && !hasBackslash && quotes = 0 && !hasBreak then .basic
  else if !hasControl && apostrophes = 0 && !hasBreak then .literal
  else if !hasControl && !hasBackslash && quotes ≤ 2 then .longBasic
  else if !hasControl && apostrophes ≤ 2 then .longLiteral
  else if hasBreak then .longBasic
  else .basic

def escapeControl (c : Char) : List Char :=
  match c with
  | '\x08' => ['\\', 'b']
  | '\t' => ['\\', 't']
  | '\n' => ['\\', 'n']
  | '\x0c' => ['\\', 'f']
  | '\r' => ['\\', 'r']
  | c =>
    ['\\', 'u', '0', '0', (c.toNat / 16).digitChar.toUpper, (c.toNat % 16).digitChar.toUpper]

/-- Writes a text with escapes. A line break stays where `keepBreaks` says so, and as many quotes
in a row as `maxQuotes` says; `quotes` of them stand directly before the text. -/
def escape (keepBreaks : Bool) (maxQuotes quotes : Nat) : List Char → List Char
  | [] => []
  | c :: text =>
    if c = '"' then
      if quotes < maxQuotes then c :: escape keepBreaks maxQuotes (quotes + 1) text
      else '\\' :: c :: escape keepBreaks maxQuotes 0 text
    else if c = '\\' then
      '\\' :: c :: escape keepBreaks maxQuotes 0 text
    else if c = '\n' && keepBreaks then
      c :: escape keepBreaks maxQuotes 0 text
    else if c.toNat < 0x20 || c.toNat = 0x7F then
      escapeControl c ++ escape keepBreaks maxQuotes 0 text
    else
      c :: escape keepBreaks maxQuotes 0 text

def body (form : Form) (text : List Char) : List Char :=
  match form with
  | .basic => escape false 0 0 text
  | .longBasic => escape true 2 0 text
  | .literal | .longLiteral => text

/-- A text as a TOML string. A long string that has line breaks begins on a line of its own. -/
def encode (text : List Char) : List Char :=
  let form := formOf text
  let opened :=
    if (form = .longBasic ∨ form = .longLiteral) ∧ text.contains '\n' then
      form.delimiter ++ ['\n']
    else
      form.delimiter
  opened ++ body form text ++ form.delimiter

def isPlain (c : Char) : Bool :=
  c == '\t' || (0x20 ≤ c.toNat && c.toNat != 0x7F)

def isSpace (c : Char) : Bool :=
  c == ' ' || c == '\t'

def dropBreak? : List Char → Option (List Char)
  | '\n' :: text => some text
  | '\r' :: '\n' :: text => some text
  | _ => none

def skipBlank : List Char → List Char
  | '\n' :: text => skipBlank text
  | '\r' :: '\n' :: text => skipBlank text
  | ' ' :: text => skipBlank text
  | '\t' :: text => skipBlank text
  | text => text

def readScalar? (digits : Nat) (text : List Char) : Option (Char × List Char) :=
  if text.length < digits then
    none
  else do
    let values ← (text.take digits).mapM Text.hexValue?
    let n := values.foldl (fun n value => 16 * n + value) 0
    if n.isValidChar then some (Char.ofNat n, text.drop digits) else none

def readEscape? : List Char → Option (Char × List Char)
  | 'b' :: text => some ('\x08', text)
  | 't' :: text => some ('\t', text)
  | 'n' :: text => some ('\n', text)
  | 'f' :: text => some ('\x0c', text)
  | 'r' :: text => some ('\r', text)
  | '"' :: text => some ('"', text)
  | '\\' :: text => some ('\\', text)
  | 'u' :: text => readScalar? 4 text
  | 'U' :: text => readScalar? 8 text
  | _ => none

def readBasic : Nat → List Char → Option (List Char × List Char)
  | 0, _ => none
  | fuel + 1, text =>
    match text with
    | [] => none
    | '"' :: rest => some ([], rest)
    | '\\' :: rest => do
      let (c, rest) ← readEscape? rest
      let (content, rest) ← readBasic fuel rest
      return (c :: content, rest)
    | c :: rest =>
      if isPlain c then
        (readBasic fuel rest).map fun (content, rest) => (c :: content, rest)
      else
        none

def readLiteral : List Char → Option (List Char × List Char)
  | [] => none
  | '\'' :: rest => some ([], rest)
  | c :: rest =>
    if isPlain c then
      (readLiteral rest).map fun (content, rest) => (c :: content, rest)
    else
      none

/-- Reads a string between three quotes, after those that open it. A backslash at the end of a
line takes away all blanks and line breaks up to the next character. -/
def readLongBasic : Nat → List Char → Option (List Char × List Char)
  | 0, _ => none
  | fuel + 1, text =>
    match text with
    | [] => none
    | '"' :: '"' :: '"' :: '"' :: '"' :: rest => some (['"', '"'], rest)
    | '"' :: '"' :: '"' :: '"' :: rest => some (['"'], rest)
    | '"' :: '"' :: '"' :: rest => some ([], rest)
    | '\\' :: rest =>
      match dropBreak? (rest.dropWhile isSpace) with
      | some rest => readLongBasic fuel (skipBlank rest)
      | none => do
        let (c, rest) ← readEscape? rest
        let (content, rest) ← readLongBasic fuel rest
        return (c :: content, rest)
    | '\n' :: rest => (readLongBasic fuel rest).map fun (content, rest) => ('\n' :: content, rest)
    | '\r' :: '\n' :: rest =>
      (readLongBasic fuel rest).map fun (content, rest) => ('\n' :: content, rest)
    | c :: rest =>
      if isPlain c then
        (readLongBasic fuel rest).map fun (content, rest) => (c :: content, rest)
      else
        none

def readLongLiteral : List Char → Option (List Char × List Char)
  | [] => none
  | '\'' :: '\'' :: '\'' :: '\'' :: '\'' :: rest => some (['\'', '\''], rest)
  | '\'' :: '\'' :: '\'' :: '\'' :: rest => some (['\''], rest)
  | '\'' :: '\'' :: '\'' :: rest => some ([], rest)
  | '\n' :: rest => (readLongLiteral rest).map fun (content, rest) => ('\n' :: content, rest)
  | '\r' :: '\n' :: rest =>
    (readLongLiteral rest).map fun (content, rest) => ('\n' :: content, rest)
  | c :: rest =>
    if isPlain c then
      (readLongLiteral rest).map fun (content, rest) => (c :: content, rest)
    else
      none

/-- Reads a string. A line break directly after the opening of a long string does not count. -/
def decode : List Char → Option (List Char × List Char)
  | '"' :: '"' :: '"' :: rest => readLongBasic (rest.length + 1) ((dropBreak? rest).getD rest)
  | '\'' :: '\'' :: '\'' :: rest => readLongLiteral ((dropBreak? rest).getD rest)
  | '"' :: rest => readBasic (rest.length + 1) rest
  | '\'' :: rest => readLiteral rest
  | _ => none

end Stencil.Toml.Quoted
