import Stencil.Text.Casing
import Stencil.Text.Identifier
import Stencil.Toml.Quoted

/-!
# Keys of settings

A key says where in the settings something belongs: under a name, and from there through members
of tables, which are written after a dot, and elements of lists, whose positions are written in
brackets. A text that is no such key is a name as a whole. Keys are read in lowercase.
-/

namespace Stencil.Settings

inductive Step where
  | member (name : String)
  /-- To an element of a list. A negative position counts from the end. -/
  | element (position : Int)
  deriving DecidableEq, Repr

structure Key where
  name : String
  steps : List Step
  deriving DecidableEq, Repr

namespace Key

def isNameChar (c : Char) : Bool :=
  c.isAlphanum || c == ' ' || c == '_' || c == '-'

def readName? (text : List Char) : Option (String × List Char) :=
  let name := text.takeWhile isNameChar
  if name.isEmpty then none else some (String.ofList name, text.dropWhile isNameChar)

/-- Reads a position that fits a signed 64-bit word, up to the bracket after it. Blanks may stand
around it. -/
def readPosition? (text : List Char) : Option (Int × List Char) :=
  let (negative, unsigned) :=
    match text.dropWhile Toml.Quoted.isSpace with
    | '-' :: rest => (true, rest)
    | rest => (false, rest)
  let digits := unsigned.takeWhile Char.isDigit
  let n : Int := Text.digitsValue digits
  let position := if negative then -n else n
  if digits.isEmpty || position < -0x8000000000000000 || 0x8000000000000000 ≤ position then
    none
  else
    match (unsigned.dropWhile Char.isDigit).dropWhile Toml.Quoted.isSpace with
    | ']' :: rest => some (position, rest)
    | _ => none

def readSteps? : Nat → List Char → Option (List Step)
  | _, [] => some []
  | fuel + 1, '.' :: text => do
    let (name, rest) ← readName? text
    let steps ← readSteps? fuel rest
    return .member name :: steps
  | fuel + 1, '[' :: text => do
    let (position, rest) ← readPosition? text
    let steps ← readSteps? fuel rest
    return .element position :: steps
  | _, _ => none

/-- Reads a name with steps after it. Each step takes a character at least. -/
def read? (text : List Char) : Option Key := do
  let (name, rest) ← readName? text
  let steps ← readSteps? rest.length rest
  return ⟨name, steps⟩

def ofText (text : String) : Key :=
  let lowered := Text.lower text.toList
  (read? lowered).getD ⟨String.ofList lowered, []⟩

theorem read?_of_isNameChar {text : List Char} (hne : text ≠ [])
    (h : ∀ c ∈ text, isNameChar c = true) : read? text = some ⟨String.ofList text, []⟩ := by
  have ht : text.takeWhile isNameChar = text := by
    simpa using @List.takeWhile_append_of_pos _ _ _ [] h
  have hd : text.dropWhile isNameChar = [] := by
    simpa using @List.dropWhile_append_of_pos _ _ _ [] h
  simp [read?, readName?, ht, hd, hne, readSteps?]

end Key

end Stencil.Settings
