import Stencil.CompileError

/-!
# Tokens

A template text as a flat list of read tags and the plain text between them, each with the bytes
that it was read from.
-/

namespace Stencil

/-- A stretch of bytes, from `start` up to and without `stop`. -/
structure Span where
  start : Nat
  stop : Nat
  deriving DecidableEq, Repr

inductive Opening where
  | loop (var : String) (source : Path)
  | choice (condition : Path) (negated : Bool)
  deriving DecidableEq, Repr

def Opening.tag : Opening → Tag
  | .loop .. => .loop
  | .choice .. => .choice

inductive TokenKind where
  | literal (text : String)
  | output (path : Path) (filters : List String)
  | opening (block : Opening)
  | branch (tag : Tag)
  | closing (tag : Tag)
  | named (brace : Brace)
  deriving DecidableEq, Repr

structure Token where
  kind : TokenKind
  span : Span
  deriving DecidableEq, Repr

end Stencil
