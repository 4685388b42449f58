import Stencil.Node.Blocks
import Stencil.Render
import Stencil.Token.Reader

/-!
# Templates

A template text is compiled once and rendered any number of times. Two analyses say what a
template reads without rendering it: the names that it takes from the context, and the filters
that it may apply.
-/

namespace Stencil

structure Template where
  nodes : List Node
  deriving Repr

namespace Node

/-- The name that a path takes from the context, if any, inside loops with the variables
`bound`. -/
def placeholder? (bound : List String) (path : Path) : Option String :=
  if path.head ∈ bound then none
  else if !bound.isEmpty && (path.head = Frame.progressName || path.head ∈ Frame.bareNames) then
    none
  else
    some path.head

mutual

/-- The names that a node takes from the context. The source of a loop and its body for nothing
are outside the loop. -/
def placeholders (bound : List String) : Node → List String
  | .literal _ => []
  | .output path _ _ => (placeholder? bound path).toList
  | .loop var source body onEmpty =>
    (placeholder? bound source).toList ++ placeholdersOf (var :: bound) body ++
      placeholdersOfOptional bound onEmpty
  | .choice condition _ body otherwise =>
    (placeholder? bound condition).toList ++ placeholdersOf bound body ++
      placeholdersOfOptional bound otherwise

def placeholdersOf (bound : List String) : List Node → List String
  | [] => []
  | node :: nodes => placeholders bound node ++ placeholdersOf bound nodes

def placeholdersOfOptional (bound : List String) : Option (List Node) → List String
  | none => []
  | some body => placeholdersOf bound body

end

mutual

def filterNames : Node → List String
  | .literal _ => []
  | .output _ filters _ => filters
  | .loop _ _ body onEmpty => filterNamesOf body ++ filterNamesOfOptional onEmpty
  | .choice _ _ body otherwise => filterNamesOf body ++ filterNamesOfOptional otherwise

def filterNamesOf : List Node → List String
  | [] => []
  | node :: nodes => filterNames node ++ filterNamesOf nodes

def filterNamesOfOptional : Option (List Node) → List String
  | none => []
  | some body => filterNamesOf body

end

end Node

def sortedNames (names : List String) : List String :=
  (names.mergeSort fun a b => decide (a ≤ b)).eraseDups

namespace Template

def compile (source : String) : Except CompileError Template :=
  (Token.scan source.toList).bind fun tokens => (Node.ofTokens tokens).map Template.mk

def render (template : Template) (context : Context) (table : FilterTable) : Rendering :=
  renderNodes context table template.nodes

def placeholders (template : Template) : List String :=
  sortedNames (Node.placeholdersOf [] template.nodes)

def filterNames (template : Template) : List String :=
  sortedNames (Node.filterNamesOf template.nodes)

end Template

end Stencil
