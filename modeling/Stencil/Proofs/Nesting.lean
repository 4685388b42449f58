import Stencil.Proofs.Reading

/-!
# Nesting

Which blocks are open, read off the tokens alone. Tokens are balanced when every block that they
open they also close, with its own end tag. The open blocks of a text stand at opening tags with
balanced tokens after each, so the innermost one is at the last opening tag that nothing closes.
-/

namespace Stencil

namespace Token

def IsPlain (token : Token) : Prop :=
  (∀ block, token.kind ≠ .opening block) ∧ ∀ tag, token.kind ≠ .closing tag

/-- Every block that is opened is closed by its own end tag, and no other is closed. -/
inductive Balanced : List Token → Prop
  | nil : Balanced []
  | plain {token : Token} {tokens : List Token} (htoken : token.IsPlain)
      (htokens : Balanced tokens) : Balanced (token :: tokens)
  | block {first last : Token} {inner rest : List Token} {opening : Opening}
      (hfirst : first.kind = .opening opening) (hlast : last.kind = .closing opening.closing)
      (hinner : Balanced inner) (hrest : Balanced rest) :
      Balanced (first :: (inner ++ last :: rest))

theorem Balanced.append {front back : List Token} (hfront : Balanced front)
    (hback : Balanced back) : Balanced (front ++ back) := by
  induction hfront with
  | nil => exact hback
  | plain htoken _ ih => exact .plain htoken ih
  | block hfirst hlast hinner _ _ ih =>
    rw [List.cons_append, List.append_assoc, List.cons_append]
    exact .block hfirst hlast hinner ih

end Token

open Token

/-- The tokens open the blocks, innermost first, and after each opening tag they are balanced up to
the next. -/
def OpenBlock.Nested : List OpenBlock → List Token → Prop
  | [], tokens => Balanced tokens
  | block :: outer, tokens => ∃ front token back, tokens = front ++ token :: back ∧
      Nested outer front ∧ token.kind = .opening block.opening ∧
        token.span.start = block.offset ∧ Balanced back

namespace OpenBlock

theorem Nested.append {stack : List OpenBlock} {front back : List Token} (h : Nested stack front)
    (hback : Balanced back) : Nested stack (front ++ back) := by
  cases stack with
  | nil => exact Balanced.append h hback
  | cons block outer =>
    obtain ⟨before, token, after, rfl, houter, hkind, hstart, hafter⟩ := h
    refine ⟨before, token, after ++ back, ?_, houter, hkind, hstart, hafter.append hback⟩
    rw [List.append_assoc, List.cons_append]

theorem Nested.push {stack : List OpenBlock} {tokens : List Token} (h : Nested stack tokens)
    {token : Token} {block : OpenBlock} (hkind : token.kind = .opening block.opening)
    (hstart : token.span.start = block.offset) : Nested (block :: stack) (tokens ++ [token]) :=
  ⟨tokens, token, [], rfl, h, hkind, hstart, .nil⟩

theorem Nested.pop {block : OpenBlock} {outer : List OpenBlock} {tokens : List Token}
    (h : Nested (block :: outer) tokens) {token : Token}
    (hkind : token.kind = .closing block.opening.closing) : Nested outer (tokens ++ [token]) := by
  obtain ⟨front, first, back, rfl, houter, hfirst, -, hback⟩ := h
  rw [List.append_assoc, List.cons_append]
  -- The opening tag, all that follows it and the end tag are one closed block of the body outside.
  exact houter.append (.block hfirst hkind hback .nil)

theorem nested_edit {blocks : Blocks} {tokens : List Token} (change : List Node → List Node)
    (h : Nested blocks.stack tokens) : Nested (blocks.edit change).stack tokens := by
  obtain ⟨root, stack⟩ := blocks
  cases stack with
  | nil => exact h
  | cons block outer =>
    obtain ⟨opening, offset, body, branch⟩ := block
    cases branch <;> exact h

end OpenBlock

namespace Blocks

open OpenBlock

theorem nested_step {blocks next : Blocks} {before : List Token} {token : Token}
    (hn : Nested blocks.stack before) (h : blocks.step token = .ok next) :
    Nested next.stack (before ++ [token]) := by
  -- Only tags that open or close a block change which blocks are open.
  have hplain : token.IsPlain → Nested blocks.stack (before ++ [token]) :=
    fun hp => hn.append (.plain hp .nil)
  unfold step at h
  cases hk : token.kind with
  | literal text =>
    rw [hk] at h
    cases h
    exact nested_edit _ (hplain (by simp [IsPlain, hk]))
  | named brace =>
    rw [hk] at h
    cases h
    exact nested_edit _ (hplain (by simp [IsPlain, hk]))
  | output path filters =>
    rw [hk] at h
    cases h
    exact nested_edit _ (hplain (by simp [IsPlain, hk]))
  | opening opening =>
    rw [hk] at h
    cases h
    exact hn.push hk rfl
  | branch tag =>
    rw [hk] at h
    obtain ⟨block, outer, hstack, -, -, rfl⟩ := divide_eq_ok h
    have hbefore := hplain (by simp [IsPlain, hk])
    rw [hstack] at hbefore
    exact hbefore
  | closing tag =>
    rw [hk] at h
    obtain ⟨block, outer, hstack, rfl, rfl⟩ := close_eq_ok h
    rw [hstack] at hn
    exact nested_edit _ (hn.pop hk)

theorem nested_run {blocks next : Blocks} {before tokens : List Token}
    (hn : Nested blocks.stack before) (h : blocks.run tokens = .ok next) :
    Nested next.stack (before ++ tokens) := by
  induction tokens generalizing blocks before with
  | nil =>
    cases h
    rwa [List.append_nil]
  | cons token tokens ih =>
    rw [run] at h
    split at h
    · cases h
    · next middle hstep =>
      rw [List.append_cons]
      exact ih (nested_step hn hstep) h

theorem nested_run_start {blocks : Blocks} {tokens : List Token}
    (h : start.run tokens = .ok blocks) : Nested blocks.stack tokens :=
  have hempty : Nested start.stack [] := Balanced.nil
  nested_run hempty h

-- ---------------------------------------------------------------------------
-- Where reading stops
-- ---------------------------------------------------------------------------

section
variable {blocks : Blocks} {error : CompileError}

/-- A token that is refused is a branch tag or an end tag, and the error names it. An end tag of
another kind is blamed on the innermost block. -/
theorem step_eq_error {token : Token} (h : blocks.step token = .error error) :
    (∃ tag, token.kind = .branch tag ∧ error = .misplaced tag token.span.start) ∨
      (∃ tag, token.kind = .closing tag ∧ error = .unopened tag token.span.start) ∨
        ∃ tag block outer, token.kind = .closing tag ∧ blocks.stack = block :: outer ∧
          error = .mismatched tag block.tag block.offset token.span.start := by
  unfold step at h
  cases hk : token.kind with
  | branch tag =>
    rw [hk] at h
    exact .inl ⟨tag, rfl, (divide_eq_error h).1⟩
  | closing tag =>
    rw [hk] at h
    rcases close_eq_error h with ⟨-, herror⟩ | ⟨block, outer, hstack, -, herror⟩
    · exact .inr (.inl ⟨tag, rfl, herror⟩)
    · exact .inr (.inr ⟨tag, block, outer, rfl, hstack, herror⟩)
  | _ =>
    rw [hk] at h
    cases h

theorem run_eq_error {tokens : List Token} (h : blocks.run tokens = .error error) :
    ∃ before token after middle, tokens = before ++ token :: after ∧
      blocks.run before = .ok middle ∧ middle.step token = .error error := by
  induction tokens generalizing blocks with
  | nil => cases h
  | cons token tokens ih =>
    rw [run] at h
    split at h
    · next first hstep =>
      cases h
      exact ⟨[], token, tokens, blocks, rfl, rfl, hstep⟩
    · next next hstep =>
      obtain ⟨before, last, after, middle, rfl, hrun, hlast⟩ := ih h
      refine ⟨token :: before, last, after, middle, rfl, ?_, hlast⟩
      rw [run, hstep]
      exact hrun

end

end Blocks

/-- Tokens that are no template have a token at fault, up to which all is well: it is refused, or it
opens a block that nothing closes. -/
theorem Node.ofTokens_eq_error {tokens : List Token} {error : CompileError}
    (h : ofTokens tokens = .error error) :
    ∃ before token after blocks, tokens = before ++ token :: after ∧
      Blocks.start.run before = .ok blocks ∧
      (blocks.step token = .error error ∨
        ∃ block, token.kind = .opening block ∧ Balanced after ∧
          error = .unclosed block.tag token.span.start) := by
  rcases bind_error.mp h with hrun | ⟨⟨root, stack⟩, hrun, hfinish⟩
  · obtain ⟨before, token, after, blocks, htokens, hbefore, hstep⟩ := Blocks.run_eq_error hrun
    exact ⟨before, token, after, blocks, htokens, hbefore, .inl hstep⟩
  · have hnested : OpenBlock.Nested stack tokens := Blocks.nested_run_start hrun
    cases stack with
    | nil => cases hfinish
    | cons block outer =>
      cases hfinish
      -- The tag at fault is the opening tag of the innermost block.
      obtain ⟨before, token, after, rfl, -, hkind, hstart, hafter⟩ := hnested
      rw [Blocks.run_append] at hrun
      obtain ⟨blocks, hbefore, -⟩ := bind_ok.mp hrun
      refine ⟨before, token, after, blocks, rfl, hbefore, .inr ⟨block.opening, hkind, hafter, ?_⟩⟩
      rw [hstart]
      rfl

end Stencil
