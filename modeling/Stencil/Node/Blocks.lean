import Stencil.Node
import Stencil.Token

/-!
# Blocks

Building the tree of a template from its tokens with a stack of open blocks. Text that is adjacent
in one body becomes one literal. A token that no later token could make right is refused at once;
at the end every block must be closed.
-/

namespace Stencil

structure OpenBlock where
  opening : Opening
  offset : Nat
  body : List Node
  /-- The other branch, once its tag has been read. -/
  branch : Option (List Node)

namespace OpenBlock

def tag (block : OpenBlock) : Tag :=
  block.opening.tag

/-- Changes the body that is being read: the other branch once it has begun. -/
def edit (block : OpenBlock) (change : List Node → List Node) : OpenBlock :=
  match block.branch with
  | none => { block with body := change block.body }
  | some branch => { block with branch := some (change branch) }

def toNode (block : OpenBlock) : Node :=
  match block.opening with
  | .loop var source => .loop var source block.body block.branch
  | .choice condition negated => .choice condition negated block.body block.branch

end OpenBlock

/-- What has been read of a template: the finished nodes outside every open block, and the open
blocks, innermost first. -/
structure Blocks where
  root : List Node
  stack : List OpenBlock

namespace Blocks

def start : Blocks := ⟨[], []⟩

def edit (blocks : Blocks) (change : List Node → List Node) : Blocks :=
  match blocks.stack with
  | [] => { blocks with root := change blocks.root }
  | block :: outer => { blocks with stack := block.edit change :: outer }

def append (blocks : Blocks) (node : Node) : Blocks :=
  blocks.edit (· ++ [node])

def divide (blocks : Blocks) (tag : Tag) (offset : Nat) : Except CompileError Blocks :=
  match blocks.stack with
  | [] => .error (.misplaced tag offset)
  | block :: outer =>
    if block.tag = tag.owner ∧ block.branch.isNone then
      .ok { blocks with stack := { block with branch := some [] } :: outer }
    else
      .error (.misplaced tag offset)

def close (blocks : Blocks) (tag : Tag) (offset : Nat) : Except CompileError Blocks :=
  match blocks.stack with
  | [] => .error (.unopened tag offset)
  | block :: outer =>
    if block.tag.closing? = some tag then
      .ok (append { blocks with stack := outer } block.toNode)
    else
      .error (.mismatched tag block.tag block.offset offset)

def step (blocks : Blocks) (token : Token) : Except CompileError Blocks :=
  match token.kind with
  | .literal text => .ok (blocks.edit (Node.appendText text))
  | .named brace => .ok (blocks.edit (Node.appendText brace.text))
  | .output path filters => .ok (blocks.append (.output path filters token.span.start))
  | .opening opening =>
    .ok { blocks with stack := ⟨opening, token.span.start, [], none⟩ :: blocks.stack }
  | .branch tag => blocks.divide tag token.span.start
  | .closing tag => blocks.close tag token.span.start

def run (blocks : Blocks) : List Token → Except CompileError Blocks
  | [] => .ok blocks
  | token :: tokens =>
    match blocks.step token with
    | .error error => .error error
    | .ok next => next.run tokens

def finish (blocks : Blocks) : Except CompileError (List Node) :=
  match blocks.stack with
  | [] => .ok blocks.root
  | block :: _ => .error (.unclosed block.tag block.offset)

theorem run_append (blocks : Blocks) (front back : List Token) :
    blocks.run (front ++ back) = (blocks.run front).bind (·.run back) := by
  induction front generalizing blocks with
  | nil => rfl
  | cons token front ih =>
    simp only [List.cons_append, run]
    cases blocks.step token with
    | error error => rfl
    | ok next => exact ih next

end Blocks

def Node.ofTokens (tokens : List Token) : Except CompileError (List Node) :=
  (Blocks.start.run tokens).bind Blocks.finish

end Stencil
