import Stencil.Path

/-!
# Nodes

A template as a tree. A body is a list of nodes; loops and conditions hold bodies.
-/

namespace Stencil

inductive Node where
  | literal (text : String)
  | output (path : Path) (filters : List String) (offset : Nat)
  | loop (var : String) (source : Path) (body : List Node) (onEmpty : Option (List Node))
  | choice (condition : Path) (negated : Bool) (body : List Node)
      (otherwise : Option (List Node))
  deriving Repr

namespace Node

/-- Appends text to a body; it becomes part of the literal that the body ends with, if any. -/
def appendText (text : String) : List Node → List Node
  | [] => [.literal text]
  | [.literal previous] => [.literal (previous ++ text)]
  | node :: body => node :: appendText text body

end Node

end Stencil
