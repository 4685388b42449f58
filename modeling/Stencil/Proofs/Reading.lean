import Stencil.Node.Blocks
import Stencil.Proofs.Marks
import Stencil.Proofs.Outcome

/-!
# Reading blocks

The stack of open blocks reads a list of tokens as a tree just when the tree has the marks of the
tokens, with neighbouring texts put together. One direction follows the marks of what has been read
from token to token. The other says that tokens with the marks of a body append that body to
whatever body is being read, by induction on the tree.
-/

namespace Stencil

-- ---------------------------------------------------------------------------
-- The marks of what has been read
-- ---------------------------------------------------------------------------

def OpenBlock.marks (block : OpenBlock) : List Mark :=
  .opening block.opening ::
    (Node.marksOf block.body ++ Node.marksOfBranch block.opening.branch block.branch)

theorem OpenBlock.marks_toNode (block : OpenBlock) :
    block.toNode.marks = block.marks ++ [.closing block.opening.closing] := by
  unfold toNode
  cases h : block.opening <;> simp [Node.marks, OpenBlock.marks, h, Opening.branch, Opening.closing]

namespace Blocks

def marks (blocks : Blocks) : List Mark :=
  Node.marksOf blocks.root ++ blocks.stack.reverse.flatMap OpenBlock.marks

theorem marks_push (root : List Node) (block : OpenBlock) (outer : List OpenBlock) :
    marks ⟨root, block :: outer⟩ = marks ⟨root, outer⟩ ++ block.marks := by
  simp [marks]

theorem marks_append (blocks : Blocks) (node : Node) :
    (blocks.append node).marks = blocks.marks ++ node.marks := by
  obtain ⟨root, stack⟩ := blocks
  cases stack with
  | nil => simp [append, edit, marks, Node.marksOf_append, Node.marksOf_singleton]
  | cons block outer =>
    simp only [append, edit, marks_push, List.append_assoc]
    cases hb : block.branch <;>
      simp [OpenBlock.edit, OpenBlock.marks, hb, Node.marksOfBranch, Node.marksOf_append,
        Node.marksOf_singleton]

end Blocks

namespace Node

theorem appendText_append (text : String) (front : List Node) {body : List Node} (h : body ≠ []) :
    appendText text (front ++ body) = front ++ appendText text body := by
  induction front with
  | nil => rfl
  | cons first front ih =>
    obtain ⟨next, others, hn⟩ :=
      List.exists_cons_of_ne_nil (List.append_ne_nil_of_right_ne_nil front h)
    rw [List.cons_append, List.cons_append, ← ih, hn, appendText]
    exact fun _ _ h => nomatch h

theorem appendText_cases (text : String) (body : List Node) :
    (∀ last ∈ body.getLast?, Apart last (.literal text)) ∧
        appendText text body = body ++ [.literal text] ∨
      ∃ front previous, body = front ++ [.literal previous] ∧
        appendText text body = front ++ [.literal (previous ++ text)] := by
  rcases List.eq_nil_or_concat' body with rfl | ⟨front, last, rfl⟩
  · exact .inl ⟨by simp, rfl⟩
  · rw [appendText_append text front (by simp)]
    cases last with
    | literal previous => exact .inr ⟨front, previous, rfl, rfl⟩
    | _ => exact .inl ⟨by simp [Apart], by simp [appendText]⟩

theorem appendText_of_apart {text : String} {body : List Node}
    (h : ∀ last ∈ body.getLast?, Apart last (.literal text)) :
    appendText text body = body ++ [.literal text] := by
  rcases appendText_cases text body with ⟨-, happend⟩ | ⟨front, previous, rfl, -⟩
  · exact happend
  · exact (h (.literal previous) (by simp)).elim

theorem appendText_appendText (a b : String) (body : List Node) :
    appendText b (appendText a body) = appendText (a ++ b) body := by
  rcases appendText_cases a body with ⟨hlast, happend⟩ | ⟨front, previous, rfl, happend⟩
  · have hlast' : ∀ last ∈ body.getLast?, Apart last (.literal (a ++ b)) := by
      intro last hl
      have := hlast last hl
      cases last <;> trivial
    rw [happend, appendText_of_apart hlast', appendText_append b body (by simp)]
    rfl
  · rw [happend, appendText_append b front (by simp), appendText_append (a ++ b) front (by simp)]
    simp [appendText, String.append_assoc]

theorem marksOf_appendText (text : String) (body : List Node) :
    marksOf (appendText text body) = Mark.push (marksOf body) (.text text) := by
  rcases appendText_cases text body with ⟨hlast, happend⟩ | ⟨front, previous, rfl, happend⟩
  · rw [happend, marksOf_append, marksOf_singleton, Mark.push_of_apart, marks]
    rcases List.eq_nil_or_concat' body with rfl | ⟨front, last, rfl⟩
    · simp [marksOf]
    · have hapart := hlast last (by simp)
      rw [marksOf_append, marksOf_singleton, List.getLast?_append_of_ne_nil _ (marks_ne_nil last)]
      exact fun mark hm => apart_marks hapart mark hm (.text text) (by simp [marks])
  · rw [happend, marksOf_append, marksOf_append, marksOf_singleton, marksOf_singleton, marks, marks,
      Mark.push_append _ (by simp)]
    rfl

end Node

namespace Blocks

theorem marks_appendText (blocks : Blocks) (text : String) :
    (blocks.edit (Node.appendText text)).marks = Mark.push blocks.marks (.text text) := by
  obtain ⟨root, stack⟩ := blocks
  cases stack with
  | nil => simp [edit, marks, Node.marksOf_appendText]
  | cons block outer =>
    -- The tag before a body is no text, so a text never joins what stands outside the body.
    have hstep : ∀ (tag : Mark) (marks : List Mark), Mark.Apart tag (.text text) →
        Mark.push (tag :: marks) (.text text) = tag :: Mark.push marks (.text text) := by
      intro tag marks htag
      cases marks with
      | nil => exact Mark.push_of_apart (by simpa using htag)
      | cons next marks => exact Mark.push_cons_cons tag next marks _
    simp only [edit, marks_push]
    rw [Mark.push_append _ (by simp [OpenBlock.marks])]
    cases hb : block.branch with
    | none =>
      simp [OpenBlock.edit, OpenBlock.marks, hb, Node.marksOfBranch, Node.marksOf_appendText,
        hstep (.opening block.opening) _ trivial]
    | some branch =>
      simp only [OpenBlock.edit, OpenBlock.marks, hb, Node.marksOfBranch, Node.marksOf_appendText]
      rw [← List.cons_append, ← List.cons_append, Mark.push_append _ (by simp),
        hstep (.branch _) _ trivial]

-- ---------------------------------------------------------------------------
-- One token
-- ---------------------------------------------------------------------------

/-- What a token does is said by the mark that it leaves. -/
theorem step_eq (blocks : Blocks) (token : Token) :
    blocks.step token =
      match token.mark with
      | .text text => .ok (blocks.edit (Node.appendText text))
      | .output path filters offset => .ok (blocks.append (.output path filters offset))
      | .opening opening =>
        .ok { blocks with stack := ⟨opening, token.span.start, [], none⟩ :: blocks.stack }
      | .branch tag => blocks.divide tag token.span.start
      | .closing tag => blocks.close tag token.span.start := by
  obtain ⟨kind, span⟩ := token
  cases kind <;> rfl

section
variable {blocks next : Blocks}

theorem divide_eq_ok {tag : Tag} {offset : Nat} (h : blocks.divide tag offset = .ok next) :
    ∃ block outer, blocks.stack = block :: outer ∧ block.tag = tag.owner ∧ block.branch = none ∧
      next = ⟨blocks.root, { block with branch := some [] } :: outer⟩ := by
  unfold divide at h
  split at h
  · cases h
  · next block outer hstack =>
    split at h
    · next hmay =>
      cases h
      exact ⟨block, outer, hstack, hmay.1, by simpa using hmay.2, rfl⟩
    · cases h

theorem close_eq_ok {tag : Tag} {offset : Nat} (h : blocks.close tag offset = .ok next) :
    ∃ block outer, blocks.stack = block :: outer ∧ tag = block.opening.closing ∧
      next = append ⟨blocks.root, outer⟩ block.toNode := by
  unfold close at h
  split at h
  · cases h
  · next block outer hstack =>
    split at h
    · next htag =>
      cases h
      rw [OpenBlock.tag, Opening.closing?_tag, Option.some.injEq] at htag
      exact ⟨block, outer, hstack, htag.symm, rfl⟩
    · cases h

variable {error : CompileError}

theorem divide_eq_error {tag : Tag} {offset : Nat} (h : blocks.divide tag offset = .error error) :
    error = .misplaced tag offset ∧
      ∀ block ∈ blocks.stack.head?, ¬(block.tag = tag.owner ∧ block.branch = none) := by
  unfold divide at h
  split at h
  · next hstack =>
    cases h
    exact ⟨rfl, by simp [hstack]⟩
  · next block outer hstack =>
    split at h
    · cases h
    · next hmay =>
      cases h
      refine ⟨rfl, ?_⟩
      rintro _ hb ⟨htag, hbranch⟩
      obtain rfl : block = _ := by simpa [hstack] using hb
      exact hmay ⟨htag, by simp [hbranch]⟩

theorem close_eq_error {tag : Tag} {offset : Nat} (h : blocks.close tag offset = .error error) :
    (blocks.stack = [] ∧ error = .unopened tag offset) ∨
      ∃ block outer, blocks.stack = block :: outer ∧ tag ≠ block.opening.closing ∧
        error = .mismatched tag block.tag block.offset offset := by
  unfold close at h
  split at h
  · next hstack =>
    cases h
    exact .inl ⟨hstack, rfl⟩
  · next block outer hstack =>
    split at h
    · cases h
    · next htag =>
      cases h
      rw [OpenBlock.tag, Opening.closing?_tag, Option.some.injEq] at htag
      exact .inr ⟨block, outer, hstack, Ne.symm htag, rfl⟩

end

theorem marks_step {blocks next : Blocks} {token : Token} (hp : token.mark.ProperBranch)
    (h : blocks.step token = .ok next) : next.marks = Mark.push blocks.marks token.mark := by
  rw [step_eq] at h
  cases hm : token.mark with
  | text content =>
    rw [hm] at h
    cases h
    exact marks_appendText blocks content
  | output path filters offset =>
    rw [hm] at h
    cases h
    rw [marks_append, Mark.push_of_isTag (by simp), Node.marks]
  | opening opening =>
    rw [hm] at h
    cases h
    rw [marks_push, Mark.push_of_isTag (by simp)]
    rfl
  | branch tag =>
    rw [hm] at h hp
    obtain ⟨block, outer, hstack, htag, hbranch, rfl⟩ := divide_eq_ok h
    have hdivides : tag = block.opening.branch := by
      rw [OpenBlock.tag] at htag
      rcases hp with rfl | rfl <;> cases hopening : block.opening <;> simp_all [Opening.tag,
        Tag.owner, Opening.branch]
    obtain ⟨root, stack⟩ := blocks
    obtain rfl : stack = block :: outer := hstack
    rw [marks_push, marks_push, Mark.push_of_isTag (by simp)]
    simp [OpenBlock.marks, hbranch, Node.marksOfBranch, Node.marksOf, hdivides]
  | closing tag =>
    rw [hm] at h
    obtain ⟨block, outer, hstack, rfl, rfl⟩ := close_eq_ok h
    obtain ⟨root, stack⟩ := blocks
    obtain rfl : stack = block :: outer := hstack
    rw [marks_append, OpenBlock.marks_toNode, marks_push,
      Mark.push_of_isTag (by simp), List.append_assoc]

theorem marks_run {blocks next : Blocks} {tokens : List Token}
    (hp : ∀ token ∈ tokens, token.mark.ProperBranch) (h : blocks.run tokens = .ok next) :
    next.marks = (tokens.map Token.mark).foldl Mark.push blocks.marks := by
  induction tokens generalizing blocks with
  | nil =>
    cases h
    rfl
  | cons token tokens ih =>
    obtain ⟨htoken, htokens⟩ := List.forall_mem_cons.mp hp
    rw [run] at h
    split at h
    · cases h
    · next middle hstep =>
      rw [ih htokens h, marks_step htoken hstep]
      rfl

end Blocks

/-- The tree that was read has the marks of its tokens, with neighbouring texts put together. -/
theorem Node.marksOf_ofTokens {tokens : List Token} {nodes : List Node}
    (hp : ∀ token ∈ tokens, token.mark.ProperBranch) (h : ofTokens tokens = .ok nodes) :
    marksOf nodes = Mark.merge (tokens.map Token.mark) := by
  obtain ⟨⟨root, stack⟩, hrun, hfinish⟩ := bind_ok.mp h
  have hmarks := Blocks.marks_run hp hrun
  cases stack with
  | nil =>
    cases hfinish
    simpa [Blocks.marks, Blocks.start, Node.marksOf, Mark.merge] using hmarks
  | cons block outer => cases hfinish

theorem Node.separatedBody_ofTokens {tokens : List Token} {nodes : List Node}
    (hp : ∀ token ∈ tokens, token.mark.ProperBranch) (h : ofTokens tokens = .ok nodes) :
    SeparatedBody nodes := by
  refine separatedBody_of_marks nodes ?_
  rw [marksOf_ofTokens hp h]
  exact Mark.isChain_merge _

-- ---------------------------------------------------------------------------
-- Reading marks back
-- ---------------------------------------------------------------------------

def OpenBlock.current (block : OpenBlock) : List Node :=
  block.branch.getD block.body

namespace Blocks

def current (blocks : Blocks) : List Node :=
  match blocks.stack with
  | [] => blocks.root
  | block :: _ => block.current

/-- Wherever a body may stand, tokens with its marks append it to what is there. -/
def Rebuilds (body : List Node) : Prop :=
  ∀ (blocks : Blocks) (tokens : List Token), (blocks.current ++ body).IsChain Node.Apart →
    Mark.merge (tokens.map Token.mark) = Node.marksOf body →
      blocks.run tokens = .ok (blocks.edit (· ++ body))

theorem exists_append_of_merge {tokens : List Token} {front back : List Mark}
    (h : Mark.merge (tokens.map Token.mark) = front ++ back) :
    ∃ first second, tokens = first ++ second ∧ Mark.merge (first.map Token.mark) = front ∧
      Mark.merge (second.map Token.mark) = back := by
  obtain ⟨a, b, hmarks, ha, hb⟩ := Mark.merge_eq_append h
  obtain ⟨first, second, rfl, rfl, rfl⟩ := List.map_eq_append_iff.mp hmarks
  exact ⟨first, second, rfl, ha, hb⟩

theorem exists_singleton_of_merge {tokens : List Token} {mark : Mark} (hm : mark.IsTag)
    (h : Mark.merge (tokens.map Token.mark) = [mark]) :
    ∃ token, tokens = [token] ∧ token.mark = mark :=
  List.map_eq_singleton_iff.mp (Mark.merge_eq_singleton h hm)

theorem exists_cons_of_merge {tokens : List Token} {mark : Mark} {marks : List Mark}
    (hm : mark.IsTag) (h : Mark.merge (tokens.map Token.mark) = mark :: marks) :
    ∃ token others, tokens = token :: others ∧ token.mark = mark ∧
      Mark.merge (others.map Token.mark) = marks := by
  have hparts : Mark.merge (tokens.map Token.mark) = [mark] ++ marks := h
  obtain ⟨first, others, rfl, hfirst, hothers⟩ := exists_append_of_merge hparts
  obtain ⟨token, rfl, htoken⟩ := exists_singleton_of_merge hm hfirst
  exact ⟨token, others, rfl, htoken, hothers⟩

theorem edit_congr {blocks : Blocks} {change change' : List Node → List Node}
    (h : change blocks.current = change' blocks.current) :
    blocks.edit change = blocks.edit change' := by
  obtain ⟨root, stack⟩ := blocks
  cases stack with
  | nil => simpa [edit, current] using h
  | cons block outer =>
    cases hb : block.branch <;> simpa [edit, current, OpenBlock.current, OpenBlock.edit, hb] using h

theorem edit_edit (blocks : Blocks) (change change' : List Node → List Node) :
    (blocks.edit change).edit change' = blocks.edit (change' ∘ change) := by
  obtain ⟨root, stack⟩ := blocks
  cases stack with
  | nil => rfl
  | cons block outer => cases hb : block.branch <;> simp [edit, OpenBlock.edit, hb]

theorem current_edit (blocks : Blocks) (change : List Node → List Node) :
    (blocks.edit change).current = change blocks.current := by
  obtain ⟨root, stack⟩ := blocks
  cases stack with
  | nil => rfl
  | cons block outer =>
    cases hb : block.branch <;> simp [edit, current, OpenBlock.current, OpenBlock.edit, hb]

theorem edit_id (blocks : Blocks) : blocks.edit (· ++ []) = blocks := by
  obtain ⟨root, stack⟩ := blocks
  cases stack with
  | nil => simp [edit]
  | cons block outer =>
    obtain ⟨opening, offset, body, branch⟩ := block
    cases branch <;> simp [edit, OpenBlock.edit]

theorem rebuilds_nil : Rebuilds [] := by
  intro blocks tokens _ ht
  obtain rfl := List.map_eq_nil_iff.mp (Mark.merge_eq_nil ht)
  rw [run, edit_id]

theorem rebuilds_cons {node : Node} {nodes : List Node} (hnode : Rebuilds [node])
    (hnodes : Rebuilds nodes) : Rebuilds (node :: nodes) := by
  intro blocks tokens hchain ht
  obtain ⟨front, back, rfl, hfront, hback⟩ := exists_append_of_merge ht
  rw [List.append_cons] at hchain
  have hf := hnode blocks front (List.isChain_append.mp hchain).1
    (hfront.trans (Node.marksOf_singleton node).symm)
  have hb := hnodes (blocks.edit (· ++ [node])) back (by rwa [current_edit]) hback
  calc blocks.run (front ++ back)
      = (blocks.run front).bind (·.run back) := run_append blocks front back
    _ = (blocks.edit (· ++ [node])).run back := by rw [hf]; rfl
    _ = .ok ((blocks.edit (· ++ [node])).edit (· ++ nodes)) := hb
    _ = .ok (blocks.edit (· ++ node :: nodes)) := by
      rw [edit_edit]
      exact congrArg Except.ok (edit_congr (by simp))

theorem run_text {tokens : List Token} {text : String}
    (h : Mark.merge (tokens.map Token.mark) = [.text text]) (blocks : Blocks) :
    blocks.run tokens = .ok (blocks.edit (Node.appendText text)) := by
  induction tokens using List.reverseRecOn generalizing text with
  | nil => cases h
  | append_singleton tokens token ih =>
    rw [List.map_append, List.map_singleton, Mark.merge_concat,
      ← List.nil_append [Mark.text text]] at h
    rcases Mark.push_cases (Mark.merge (tokens.map Token.mark)) token.mark with
      ⟨-, hpush⟩ | ⟨front, a, b, hmerge, hb, hpush⟩
    · obtain ⟨hnil, hlast⟩ := List.append_inj' (hpush.symm.trans h) rfl
      obtain rfl := List.map_eq_nil_iff.mp (Mark.merge_eq_nil hnil)
      have htoken : token.mark = .text text := by simpa using hlast
      rw [List.nil_append, run, step_eq, htoken]
      rfl
    · obtain ⟨rfl, hlast⟩ := List.append_inj' (hpush.symm.trans h) rfl
      obtain rfl : a ++ b = text := by simpa using hlast
      have hjoin : Node.appendText b ∘ Node.appendText a = Node.appendText (a ++ b) :=
        funext (Node.appendText_appendText a b)
      rw [run_append, ih hmerge]
      simp only [Except.bind, run, step_eq, hb, edit_edit, hjoin]

theorem rebuilds_literal (text : String) : Rebuilds [.literal text] := by
  intro blocks tokens hchain ht
  have hlast := (List.isChain_append.mp hchain).2.2
  have happend := Node.appendText_of_apart fun last hl => hlast last hl (.literal text) (by simp)
  rw [run_text ht]
  exact congrArg Except.ok (edit_congr happend)

theorem rebuilds_output (path : Path) (filters : List String) (offset : Nat) :
    Rebuilds [.output path filters offset] := by
  intro blocks tokens _ ht
  obtain ⟨token, rfl, htoken⟩ := exists_singleton_of_merge (by simp) ht
  rw [run, step_eq, htoken]
  rfl

theorem run_branch (root : List Node) (block : OpenBlock) (outer : List OpenBlock)
    {branch : Option (List Node)} {tokens : List Token} (hundivided : block.branch = none)
    (hbranch : ∀ body, branch = some body → Rebuilds body ∧ body.IsChain Node.Apart)
    (ht : Mark.merge (tokens.map Token.mark) = Node.marksOfBranch block.opening.branch branch) :
    run ⟨root, block :: outer⟩ tokens = .ok ⟨root, { block with branch } :: outer⟩ := by
  cases branch with
  | none =>
    obtain rfl := List.map_eq_nil_iff.mp (Mark.merge_eq_nil ht)
    rw [run, ← hundivided]
  | some body =>
    obtain ⟨hbody, hchain⟩ := hbranch body rfl
    obtain ⟨first, rest, rfl, hfirst, hrest⟩ := exists_cons_of_merge (by simp) ht
    have hdivide : divide ⟨root, block :: outer⟩ block.opening.branch first.span.start =
        .ok ⟨root, { block with branch := some [] } :: outer⟩ := by
      simp [divide, OpenBlock.tag, Opening.owner_branch, hundivided]
    simp only [run, step_eq, hfirst, hdivide]
    exact hbody ⟨root, { block with branch := some [] } :: outer⟩ rest
      (by simpa [current, OpenBlock.current] using hchain) hrest

/-- A block is put on the stack, its bodies are read on top of it, and its end tag appends it to the
body that it stands in. -/
theorem rebuilds_block (block : OpenBlock) (hbody : Rebuilds block.body)
    (hchain : block.body.IsChain Node.Apart)
    (hbranch : ∀ body, block.branch = some body → Rebuilds body ∧ body.IsChain Node.Apart) :
    Rebuilds [block.toNode] := by
  rintro ⟨root, stack⟩ tokens _ ht
  rw [Node.marksOf_singleton, OpenBlock.marks_toNode, OpenBlock.marks, List.cons_append] at ht
  obtain ⟨first, rest, rfl, hfirst, hrest⟩ := exists_cons_of_merge (by simp) ht
  obtain ⟨inner, ends, rfl, hinner, hends⟩ := exists_append_of_merge hrest
  obtain ⟨last, rfl, hlast⟩ := exists_singleton_of_merge (by simp) hends
  obtain ⟨front, back, rfl, hfront, hback⟩ := exists_append_of_merge hinner
  have hf : run ⟨root, ⟨block.opening, first.span.start, [], none⟩ :: stack⟩ front =
      .ok ⟨root, ⟨block.opening, first.span.start, block.body, none⟩ :: stack⟩ :=
    hbody _ front (by simpa [current, OpenBlock.current] using hchain) hfront
  have hb := run_branch root ⟨block.opening, first.span.start, block.body, none⟩ stack rfl hbranch
    hback
  have hl : run ⟨root, ⟨block.opening, first.span.start, block.body, block.branch⟩ :: stack⟩ [last]
      = .ok (append ⟨root, stack⟩ block.toNode) := by
    simp [run, step_eq, hlast, close, OpenBlock.tag, Opening.closing?_tag, OpenBlock.toNode]
  rw [run, step_eq, hfirst]
  simp only [run_append, hf, hb, hl, Except.bind]
  rfl

end Blocks

namespace Node

mutual

theorem rebuilds (node : Node) (h : node.Separated) : Blocks.Rebuilds [node] := by
  cases node with
  | literal text => exact Blocks.rebuilds_literal text
  | output path filters offset => exact Blocks.rebuilds_output path filters offset
  | loop var source body onEmpty =>
    exact Blocks.rebuilds_block ⟨.loop var source, 0, body, onEmpty⟩
      (rebuildsAll body h.1.2) h.1.1 (rebuildsBranch onEmpty h.2)
  | choice condition negated body otherwise =>
    exact Blocks.rebuilds_block ⟨.choice condition negated, 0, body, otherwise⟩
      (rebuildsAll body h.1.2) h.1.1 (rebuildsBranch otherwise h.2)

theorem rebuildsAll (nodes : List Node) (h : SeparatedAll nodes) : Blocks.Rebuilds nodes := by
  cases nodes with
  | nil => exact Blocks.rebuilds_nil
  | cons node nodes => exact Blocks.rebuilds_cons (rebuilds node h.1) (rebuildsAll nodes h.2)

theorem rebuildsBranch (branch : Option (List Node)) (h : SeparatedBranch branch) :
    ∀ body, branch = some body → Blocks.Rebuilds body ∧ body.IsChain Apart := by
  rintro body rfl
  exact ⟨rebuildsAll body h.2, h.1⟩

end

/-- Tokens with the marks of a tree are read as that tree. -/
theorem ofTokens_of_marks {tokens : List Token} {nodes : List Node} (hs : SeparatedBody nodes)
    (ht : Mark.merge (tokens.map Token.mark) = marksOf nodes) : ofTokens tokens = .ok nodes := by
  have hrun := rebuildsAll nodes hs.2 Blocks.start tokens hs.1 ht
  rw [ofTokens, hrun]
  rfl

/-- Blocks are read without a loss. The tree of tokens that are accepted flattens to their marks,
with neighbouring texts put together, and in no body are two literals side by side; no other tokens
are accepted. And what a tree flattens to is read as that tree. -/
theorem ofTokens_iff_marks :
    (∀ (tokens : List Token) (nodes : List Node), (∀ token ∈ tokens, token.mark.ProperBranch) →
      (ofTokens tokens = .ok nodes ↔
        marksOf nodes = Mark.merge (tokens.map Token.mark) ∧ SeparatedBody nodes)) ∧
    ∀ (tokens : List Token) (nodes : List Node), SeparatedBody nodes →
      tokens.map Token.mark = marksOf nodes → ofTokens tokens = .ok nodes := by
  refine ⟨fun tokens nodes hp => ⟨fun h => ?_, fun h => ?_⟩, fun tokens nodes hs ht => ?_⟩
  · exact ⟨marksOf_ofTokens hp h, separatedBody_ofTokens hp h⟩
  · exact ofTokens_of_marks h.2 h.1.symm
  · refine ofTokens_of_marks hs ?_
    rw [ht, Mark.merge_of_isChain (isChain_marksOf nodes hs)]

theorem ofTokens_iff_marks_nested :
    let front : List Token := [⟨.literal "a", ⟨0, 1⟩⟩, ⟨.named .openBrace, ⟨1, 30⟩⟩]
    let joined : List Token := [⟨.literal "a\x7b", ⟨0, 30⟩⟩]
    let loop : List Token := [⟨.opening (.loop "x" ⟨"xs", []⟩), ⟨30, 47⟩⟩, ⟨.literal "b", ⟨47, 48⟩⟩,
      ⟨.opening (.choice ⟨"y", []⟩ true), ⟨48, 62⟩⟩, ⟨.output ⟨"x", []⟩ ["trim"], ⟨62, 74⟩⟩,
      ⟨.closing .endChoice, ⟨74, 85⟩⟩, ⟨.branch .empty, ⟨85, 96⟩⟩, ⟨.literal "c", ⟨96, 97⟩⟩,
      ⟨.closing .endLoop, ⟨97, 109⟩⟩]
    let nodes : List Node := [.literal "a\x7b", .loop "x" ⟨"xs", []⟩
      [.literal "b", .choice ⟨"y", []⟩ true [.output ⟨"x", []⟩ ["trim"] 62] none]
      (some [.literal "c"])]
    (ofTokens (front ++ loop) = .ok nodes ∧
      marksOf nodes = Mark.merge ((front ++ loop).map Token.mark) ∧ SeparatedBody nodes) ∧
    ofTokens (joined ++ loop) = .ok nodes := by
  intro front joined loop nodes
  have hproper : ∀ token ∈ front ++ loop, token.mark.ProperBranch := by
    simp [front, loop, Token.mark, Mark.ProperBranch]
  have hread : ofTokens (front ++ loop) = .ok nodes := rfl
  have hmarks := (ofTokens_iff_marks.1 (front ++ loop) nodes hproper).mp hread
  exact ⟨⟨hread, hmarks⟩, ofTokens_iff_marks.2 (joined ++ loop) nodes hmarks.2 rfl⟩

end Node

end Stencil
