import Stencil.Toml.Quoted
import Stencil.Toml.Scalar
import Stencil.Toml.Tree

/-!
# Reading TOML text

The lines of a TOML file as statements, and the data that they define.
-/

namespace Stencil.Toml.Reader

def maxDepth : Nat := 79

def isBare (c : Char) : Bool :=
  c.isAlphanum || c == '_' || c == '-'

def skipSpace (text : List Char) : List Char :=
  text.dropWhile Quoted.isSpace

def skipComment : List Char → List Char
  | '#' :: text => text.dropWhile Quoted.isPlain
  | text => text

def skipLineEnd (text : List Char) : Option (List Char) :=
  match skipComment (skipSpace text) with
  | [] => some []
  | rest => Quoted.dropBreak? rest

def skipLines : Nat → List Char → List Char
  | 0, text => text
  | fuel + 1, text =>
    match skipComment (skipSpace text) with
    | '\n' :: rest => skipLines fuel rest
    | '\r' :: '\n' :: rest => skipLines fuel rest
    | rest => rest

def readName (text : List Char) : Option (String × List Char) :=
  match text with
  | '"' :: '"' :: '"' :: _ => none
  | '\'' :: '\'' :: '\'' :: _ => none
  | '"' :: _ => (Quoted.decode text).map fun (name, rest) => (String.ofList name, rest)
  | '\'' :: _ => (Quoted.decode text).map fun (name, rest) => (String.ofList name, rest)
  | _ =>
    let name := text.takeWhile isBare
    if name.isEmpty then none else some (String.ofList name, text.dropWhile isBare)

/-- Reads names with dots between them: those before the last, and the last. -/
def readPath : Nat → List Char → Option (List String × String × List Char)
  | 0, _ => none
  | fuel + 1, text => do
    let (name, rest) ← readName (skipSpace text)
    match skipSpace rest with
    | '.' :: rest => do
      let (path, last, rest) ← readPath fuel rest
      return (name :: path, last, rest)
    | rest => return ([], name, rest)

def readString (text : List Char) : Option (Toml × List Char) :=
  (Quoted.decode text).map fun (content, rest) => (.string (String.ofList content), rest)

mutual

def readValue (depth : Nat) : Nat → List Char → Option (Toml × List Char)
  | 0, _ => none
  | fuel + 1, text =>
    match text with
    | '"' :: _ => readString text
    | '\'' :: _ => readString text
    | '[' :: rest =>
      if depth = 0 then
        none
      else
        (readItems (depth - 1) fuel rest).map fun (items, rest) => (.array items, rest)
    | '{' :: rest =>
      if depth = 0 then
        none
      else do
        let (pairs, rest) ←
          match skipSpace rest with
          | '}' :: rest => some ([], rest)
          | rest => readPairs (depth - 1) fuel rest
        let table ← Item.ofPairs? pairs
        return (table.toToml, rest)
    | _ => Scalar.read text

def readItems (depth : Nat) : Nat → List Char → Option (List Toml × List Char)
  | 0, _ => none
  | fuel + 1, text =>
    match skipLines (text.length + 1) text with
    | ']' :: rest => some ([], rest)
    | rest => do
      let (item, rest) ← readValue depth fuel rest
      match skipLines (rest.length + 1) rest with
      | ']' :: rest => return ([item], rest)
      | ',' :: rest => do
        let (items, rest) ← readItems depth fuel rest
        return (item :: items, rest)
      | _ => none

def readPairs (depth : Nat) :
    Nat → List Char → Option (List (List String × String × Toml) × List Char)
  | 0, _ => none
  | fuel + 1, text => do
    let (path, name, rest) ← readPath maxDepth text
    match rest with
    | '=' :: rest => do
      let (data, rest) ← readValue depth fuel (skipSpace rest)
      match skipSpace rest with
      | '}' :: rest => return ([(path, name, data)], rest)
      | ',' :: rest => do
        let (pairs, rest) ← readPairs depth fuel rest
        return ((path, name, data) :: pairs, rest)
      | _ => none
    | _ => none

end

def readStatement (text : List Char) : Option (Statement × List Char) :=
  match text with
  | '[' :: '[' :: rest => do
    let (path, name, rest) ← readPath maxDepth rest
    match rest with
    | ']' :: ']' :: rest => return (.listHeader path name, rest)
    | _ => none
  | '[' :: rest => do
    let (path, name, rest) ← readPath maxDepth rest
    match rest with
    | ']' :: rest => return (.header path name, rest)
    | _ => none
  | _ => do
    let (path, name, rest) ← readPath maxDepth text
    match rest with
    | '=' :: rest => do
      let (data, rest) ← readValue maxDepth (rest.length + 1) (skipSpace rest)
      return (.pair path name data, rest)
    | _ => none

def readStatements : Nat → List Char → Option (List Statement)
  | 0, _ => none
  | fuel + 1, text =>
    match skipLines (text.length + 1) text with
    | [] => some []
    | rest => do
      let (statement, rest) ← readStatement rest
      let rest ← skipLineEnd rest
      let statements ← readStatements fuel rest
      return statement :: statements

end Reader

def dropMark : List Char → List Char
  | '\uFEFF' :: text => text
  | text => text

def read? (text : String) : Option Toml :=
  let chars := dropMark text.toList
  (Reader.readStatements (chars.length + 1) chars).bind ofStatements?

end Stencil.Toml
