import Stencil.Proofs.Meaning
import Stencil.Proofs.Reading

/-!
# Relocation

Offsets are carried along and never looked at. Moving the tags of a template to other places of a
text moves the places in its tree and in its errors, and changes nothing else: reading blocks and
rendering both commute with it.
-/

namespace Stencil

variable (f : Nat → Nat)

def Token.relocate (token : Token) : Token :=
  ⟨token.kind, ⟨f token.span.start, f token.span.stop⟩⟩

def Mark.relocate : Mark → Mark
  | .output path filters offset => .output path filters (f offset)
  | .text content => .text content
  | .opening block => .opening block
  | .branch tag => .branch tag
  | .closing tag => .closing tag

namespace Node

mutual

def relocate : Node → Node
  | .literal text => .literal text
  | .output path filters offset => .output path filters (f offset)
  | .loop var source body onEmpty => .loop var source (relocateAll body) (relocateBranch onEmpty)
  | .choice condition negated body otherwise =>
    .choice condition negated (relocateAll body) (relocateBranch otherwise)

def relocateAll : List Node → List Node
  | [] => []
  | node :: nodes => relocate node :: relocateAll nodes

def relocateBranch : Option (List Node) → Option (List Node)
  | none => none
  | some body => some (relocateAll body)

end

end Node

def OpenBlock.relocate (block : OpenBlock) : OpenBlock :=
  ⟨block.opening, f block.offset, Node.relocateAll f block.body,
    Node.relocateBranch f block.branch⟩

def Blocks.relocate (blocks : Blocks) : Blocks :=
  ⟨Node.relocateAll f blocks.root, blocks.stack.map (OpenBlock.relocate f)⟩

def RenderError.relocate : RenderError → RenderError
  | .unknownFilter name offset => .unknownFilter name (f offset)

def CompileError.relocate : CompileError → CompileError
  | .unterminated delimiter offset => .unterminated delimiter (f offset)
  | .unknownKeyword word offset => .unknownKeyword word (f offset)
  | .malformed tag offset fault => .malformed tag (f offset) fault
  | .invalidOutput expression offset fault => .invalidOutput expression (f offset) fault
  | .mismatched found opened openedOffset offset =>
    .mismatched found opened (f openedOffset) (f offset)
  | .unopened tag offset => .unopened tag (f offset)
  | .misplaced tag offset => .misplaced tag (f offset)
  | .unclosed tag offset => .unclosed tag (f offset)

-- ---------------------------------------------------------------------------
-- Marks
-- ---------------------------------------------------------------------------

theorem Token.mark_relocate (token : Token) :
    (token.relocate f).mark = token.mark.relocate f := by
  obtain ⟨kind, span⟩ := token
  cases kind <;> rfl

namespace Node

theorem relocateAll_eq_map (nodes : List Node) : relocateAll f nodes = nodes.map (relocate f) := by
  induction nodes with
  | nil => rfl
  | cons node nodes ih => simp [relocateAll, ih]

theorem relocateAll_append (front back : List Node) :
    relocateAll f (front ++ back) = relocateAll f front ++ relocateAll f back := by
  simp [relocateAll_eq_map]

mutual

theorem marks_relocate (node : Node) :
    (node.relocate f).marks = node.marks.map (Mark.relocate f) := by
  cases node with
  | literal text => rfl
  | output path filters offset => rfl
  | loop var source body onEmpty =>
    simp [relocate, marks, Mark.relocate, marksOf_relocateAll body,
      marksOfBranch_relocateBranch .empty onEmpty]
  | choice condition negated body otherwise =>
    simp [relocate, marks, Mark.relocate, marksOf_relocateAll body,
      marksOfBranch_relocateBranch .otherwise otherwise]

theorem marksOf_relocateAll (nodes : List Node) :
    marksOf (relocateAll f nodes) = (marksOf nodes).map (Mark.relocate f) := by
  cases nodes with
  | nil => rfl
  | cons node nodes =>
    simp [relocateAll, marksOf, marks_relocate node, marksOf_relocateAll nodes]

theorem marksOfBranch_relocateBranch (tag : Tag) (branch : Option (List Node)) :
    marksOfBranch tag (relocateBranch f branch) =
      (marksOfBranch tag branch).map (Mark.relocate f) := by
  cases branch with
  | none => rfl
  | some body => simp [relocateBranch, marksOfBranch, Mark.relocate, marksOf_relocateAll body]

end

theorem relocateAll_appendText (text : String) (body : List Node) :
    relocateAll f (appendText text body) = appendText text (relocateAll f body) := by
  rcases appendText_cases text body with ⟨hlast, happend⟩ | ⟨front, previous, rfl, happend⟩
  · rw [happend, relocateAll_append, appendText_of_apart]
    · rfl
    · rw [relocateAll_eq_map, List.getLast?_map]
      intro last hl
      obtain ⟨node, hnode, rfl⟩ := Option.map_eq_some_iff.mp hl
      have hapart := hlast node hnode
      cases node <;> trivial
  · rw [happend, relocateAll_append, relocateAll_append]
    exact (appendText_append text (relocateAll f front)
      (List.cons_ne_nil (.literal previous) [])).symm

end Node

-- ---------------------------------------------------------------------------
-- Reading blocks
-- ---------------------------------------------------------------------------

theorem OpenBlock.relocate_toNode (block : OpenBlock) :
    (block.relocate f).toNode = block.toNode.relocate f := by
  unfold toNode
  cases h : block.opening <;> simp [OpenBlock.relocate, h, Node.relocate]

theorem OpenBlock.relocate_edit (block : OpenBlock) {change : List Node → List Node}
    (h : ∀ body, Node.relocateAll f (change body) = change (Node.relocateAll f body)) :
    (block.edit change).relocate f = (block.relocate f).edit change := by
  unfold edit
  cases hb : block.branch <;> simp [OpenBlock.relocate, hb, Node.relocateBranch, h]

namespace Blocks

theorem relocate_edit (blocks : Blocks) {change : List Node → List Node}
    (h : ∀ body, Node.relocateAll f (change body) = change (Node.relocateAll f body)) :
    (blocks.edit change).relocate f = (blocks.relocate f).edit change := by
  obtain ⟨root, stack⟩ := blocks
  cases stack with
  | nil => simp [edit, relocate, h]
  | cons block outer => simp [edit, relocate, OpenBlock.relocate_edit f block h]

theorem relocate_append (blocks : Blocks) (node : Node) :
    (blocks.append node).relocate f = (blocks.relocate f).append (node.relocate f) := by
  obtain ⟨root, stack⟩ := blocks
  cases stack with
  | nil => simp [append, edit, relocate, Node.relocateAll_eq_map]
  | cons block outer =>
    cases hb : block.branch <;>
      simp [append, edit, relocate, OpenBlock.edit, OpenBlock.relocate, hb, Node.relocateBranch,
        Node.relocateAll_eq_map]

theorem divide_relocate (blocks : Blocks) (tag : Tag) (offset : Nat) :
    (blocks.relocate f).divide tag (f offset) =
      ((blocks.divide tag offset).map (relocate f)).mapError (CompileError.relocate f) := by
  obtain ⟨root, stack⟩ := blocks
  cases stack with
  | nil => rfl
  | cons block outer =>
    have htag : (block.relocate f).tag = block.tag := rfl
    have hbranch : (block.relocate f).branch.isNone = block.branch.isNone := by
      rw [OpenBlock.relocate]
      cases block.branch <;> rfl
    simp only [divide, relocate, List.map_cons, htag, hbranch]
    by_cases hmay : block.tag = tag.owner ∧ block.branch.isNone
    · rw [if_pos hmay, if_pos hmay]
      rfl
    · rw [if_neg hmay, if_neg hmay]
      rfl

theorem close_relocate (blocks : Blocks) (tag : Tag) (offset : Nat) :
    (blocks.relocate f).close tag (f offset) =
      ((blocks.close tag offset).map (relocate f)).mapError (CompileError.relocate f) := by
  obtain ⟨root, stack⟩ := blocks
  cases stack with
  | nil => rfl
  | cons block outer =>
    have happend : append (relocate f ⟨root, outer⟩) (block.relocate f).toNode =
        relocate f (append ⟨root, outer⟩ block.toNode) := by
      rw [OpenBlock.relocate_toNode, relocate_append]
    have htag : (block.relocate f).tag = block.tag := rfl
    simp only [close, relocate, List.map_cons, htag]
    by_cases hmay : block.tag.closing? = some tag
    · rw [if_pos hmay, if_pos hmay]
      exact congrArg Except.ok happend
    · rw [if_neg hmay, if_neg hmay]
      rfl

theorem step_relocate (blocks : Blocks) (token : Token) :
    (blocks.relocate f).step (token.relocate f) =
      ((blocks.step token).map (relocate f)).mapError (CompileError.relocate f) := by
  rw [step_eq, step_eq, Token.mark_relocate]
  cases token.mark with
  | text content =>
    have hedit := relocate_edit f blocks (Node.relocateAll_appendText f content)
    simp [Mark.relocate, Except.map, Except.mapError, hedit]
  | output path filters offset =>
    simp [Mark.relocate, Except.map, Except.mapError, relocate_append, Node.relocate]
  | opening block => rfl
  | branch tag => exact divide_relocate f blocks tag token.span.start
  | closing tag => exact close_relocate f blocks tag token.span.start

theorem run_relocate (blocks : Blocks) (tokens : List Token) :
    (blocks.relocate f).run (tokens.map (Token.relocate f)) =
      ((blocks.run tokens).map (relocate f)).mapError (CompileError.relocate f) := by
  induction tokens generalizing blocks with
  | nil => rfl
  | cons token tokens ih =>
    rw [List.map_cons, run, step_relocate, run]
    cases blocks.step token with
    | error error => rfl
    | ok next => exact ih next

end Blocks

theorem Node.ofTokens_relocate (tokens : List Token) :
    ofTokens (tokens.map (Token.relocate f)) =
      ((ofTokens tokens).map (relocateAll f)).mapError (CompileError.relocate f) := by
  have hrun : Blocks.start.run (tokens.map (Token.relocate f)) = _ :=
    Blocks.run_relocate f Blocks.start tokens
  rw [ofTokens, ofTokens, hrun]
  cases Blocks.start.run tokens with
  | error error => rfl
  | ok blocks =>
    obtain ⟨root, stack⟩ := blocks
    cases stack <;> rfl

-- ---------------------------------------------------------------------------
-- Rendering
-- ---------------------------------------------------------------------------

theorem FilterTable.change_relocate (table : FilterTable) (offset : Nat) (text : String)
    (names : List String) :
    table.change (f offset) text names =
      (table.change offset text names).mapError (RenderError.relocate f) := by
  induction names generalizing text with
  | nil => rfl
  | cons name names ih =>
    simp only [change]
    cases table.get? name with
    | none => rfl
    | some filter => exact ih (filter.change text)

theorem concat_map_mapError (texts : List (Except RenderError String)) :
    concat (texts.map (·.mapError (RenderError.relocate f))) =
      (concat texts).mapError (RenderError.relocate f) := by
  induction texts with
  | nil => rfl
  | cons text texts ih =>
    rw [List.map_cons, concat, ih, mapError_seq, concat]

namespace Node

variable (context : Context) (table : FilterTable)

mutual

theorem meaning_relocate (node : Node) (frames : List Frame) :
    (node.relocate f).meaning context table frames =
      (node.meaning context table frames).mapError (RenderError.relocate f) := by
  cases node with
  | literal text => rfl
  | output path filters offset =>
    rw [relocate, meaning, meaning, FilterTable.change_relocate]
  | loop var source body onEmpty =>
    rw [relocate, meaning, meaning, meaningOfOptional_relocate onEmpty frames]
    cases resolve context frames source with
    | sequence items =>
      cases items with
      | nil => rfl
      | cons first others =>
        simp only [← concat_map_mapError, List.map_map]
        exact congrArg concat (List.map_congr_left fun _ _ => meaningOf_relocate body _)
    | _ => rfl
  | choice condition negated body otherwise =>
    rw [relocate, meaning, meaning, meaningOf_relocate body frames,
      meaningOfOptional_relocate otherwise frames]
    split <;> rfl

theorem meaningOf_relocate (nodes : List Node) (frames : List Frame) :
    meaningOf context table (relocateAll f nodes) frames =
      (meaningOf context table nodes frames).mapError (RenderError.relocate f) := by
  cases nodes with
  | nil => rfl
  | cons node nodes =>
    rw [relocateAll, meaningOf, meaning_relocate node frames, meaningOf_relocate nodes frames,
      mapError_seq, meaningOf]

theorem meaningOfOptional_relocate (branch : Option (List Node)) (frames : List Frame) :
    meaningOfOptional context table (relocateBranch f branch) frames =
      (meaningOfOptional context table branch frames).mapError (RenderError.relocate f) := by
  cases branch with
  | none => rfl
  | some body => exact meaningOf_relocate body frames

end

end Node

end Stencil
