import Stencil.Text.Fields
import Stencil.Text.Identifier

/-!
# Paths

A dotted path names a value: its head is looked up by name, and each later segment steps into the
value found so far. The head is a plain name; a later segment is a name or an index.
-/

namespace Stencil

structure Path where
  head : String
  rest : List String
  deriving DecidableEq, Repr

namespace Path

inductive Fault where
  | empty
  | badHead (segment : String)
  | badSegment (segment : String)
  deriving DecidableEq, Repr

def Fault.message : Fault → String
  | .empty => "empty path"
  | .badHead segment => s!"`{segment}` is not a valid name"
  | .badSegment segment => s!"`{segment}` is not a valid path segment"

def segments (path : Path) : List String :=
  path.head :: path.rest

def text (path : Path) : List Char :=
  Text.join '.' path.head.toList (path.rest.map String.toList)

instance : ToString Path where
  toString path := String.ofList path.text

def readRest : List (List Char) → Except Fault (List String)
  | [] => .ok []
  | segment :: others =>
    if Text.isIdentifier segment || Text.isIndex segment then
      (readRest others).map (String.ofList segment :: ·)
    else
      .error (.badSegment (String.ofList segment))

def parse (source : List Char) : Except Fault Path :=
  let text := Text.trim source
  if text.isEmpty then
    .error .empty
  else
    let (first, others) := Text.split (· == '.') text
    if Text.isIdentifier first then
      (readRest others).map (⟨String.ofList first, ·⟩)
    else
      .error (.badHead (String.ofList first))

end Path

end Stencil
