import Stencil.Text.Fields

/-!
# Humps

Cutting a text into the words that its capitals and its punctuation mark off, and writing those
words in the usual conventions for names. Only ASCII letters and digits belong to a word.
-/

namespace Stencil.Text

/-- The case of the letters read so far in a word. A digit does not change it. -/
inductive Hump where
  | none
  | low
  | high
  deriving DecidableEq

def Hump.next (state : Hump) (c : Char) : Hump :=
  if c.isLower then .low else if c.isUpper then .high else state

/-- Cuts a run of letters and digits. A word ends before an uppercase letter that follows a
lowercase one, and before the last of several uppercase letters when a lowercase one comes next. -/
def humpsFrom (state : Hump) (word : List Char) : List Char → List (List Char)
  | [] => [word]
  | [c] => [word ++ [c]]
  | c :: d :: text =>
    let after := state.next c
    if after = .low ∧ d.isUpper then
      (word ++ [c]) :: humpsFrom .none [] (d :: text)
    else if state = .high ∧ c.isUpper ∧ d.isLower then
      word :: humpsFrom .none [c] (d :: text)
    else
      humpsFrom after (word ++ [c]) (d :: text)

def humps (text : List Char) : List (List Char) :=
  (fields (fun c => !c.isAlphanum) text).flatMap fun field =>
    (humpsFrom .none [] field).filter fun word => !word.isEmpty

def lowerWord (word : List Char) : List Char :=
  word.map Char.toLower

def capitalWord : List Char → List Char
  | [] => []
  | c :: word => c.toUpper :: lowerWord word

def joinWords (separator : List Char) (words : List (List Char)) : List Char :=
  (words.intersperse separator).flatten

def pascalCase (text : List Char) : List Char :=
  ((humps text).map capitalWord).flatten

def camelCase (text : List Char) : List Char :=
  match humps text with
  | [] => []
  | first :: others => lowerWord first ++ (others.map capitalWord).flatten

def snakeCase (text : List Char) : List Char :=
  joinWords ['_'] ((humps text).map lowerWord)

def kebabCase (text : List Char) : List Char :=
  joinWords ['-'] ((humps text).map lowerWord)

end Stencil.Text
