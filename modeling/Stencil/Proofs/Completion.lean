import Stencil.Proofs.Nesting

/-!
# Completions

Which tokens can still become a template. All that have been read without a fault can: the end tags
of the blocks that are open, innermost first, complete them. So a token is refused only where
nothing that follows it could make a template, and blocks that are open at the end are the one fault
that more tokens can mend.
-/

namespace Stencil

def CompileError.IsRefusal : CompileError → Prop
  | .mismatched .. | .unopened .. | .misplaced .. => True
  | _ => False

namespace Token

/-- Whether some tokens after these make a template. -/
def Completable (tokens : List Token) : Prop :=
  ∃ rest nodes, Node.ofTokens (tokens ++ rest) = .ok nodes

/-- Whether all of `before` is read and then the token is refused. -/
def RefusedAfter (before : List Token) (token : Token) (error : CompileError) : Prop :=
  ∃ blocks, Blocks.start.run before = .ok blocks ∧ blocks.step token = .error error

/-- The blocks that are open after a token, innermost first, each with the place of its tag. An end
tag closes the innermost. -/
def track (blocks : List (Opening × Nat)) (token : Token) : List (Opening × Nat) :=
  match token.kind with
  | .opening opening => (opening, token.span.start) :: blocks
  | .closing _ => blocks.tail
  | _ => blocks

def openBlocks (tokens : List Token) : List (Opening × Nat) :=
  tokens.foldl track []

end Token

-- ---------------------------------------------------------------------------
-- Open blocks
-- ---------------------------------------------------------------------------

namespace Blocks

def places (blocks : Blocks) : List (Opening × Nat) :=
  blocks.stack.map fun block => (block.opening, block.offset)

@[simp] theorem places_edit (blocks : Blocks) (change : List Node → List Node) :
    (blocks.edit change).places = blocks.places := by
  obtain ⟨root, stack⟩ := blocks
  cases stack with
  | nil => rfl
  | cons block outer =>
    obtain ⟨opening, offset, body, branch⟩ := block
    cases branch <;> rfl

theorem places_step {blocks next : Blocks} {token : Token} (h : blocks.step token = .ok next) :
    next.places = Token.track blocks.places token := by
  unfold step at h
  unfold Token.track
  cases hk : token.kind with
  | literal text =>
    rw [hk] at h
    cases h
    exact places_edit blocks _
  | named brace =>
    rw [hk] at h
    cases h
    exact places_edit blocks _
  | output path filters =>
    rw [hk] at h
    cases h
    exact places_edit blocks _
  | opening opening =>
    rw [hk] at h
    cases h
    rfl
  | branch tag =>
    rw [hk] at h
    obtain ⟨block, outer, hstack, -, -, rfl⟩ := divide_eq_ok h
    simp [places, hstack]
  | closing tag =>
    rw [hk] at h
    obtain ⟨block, outer, hstack, -, rfl⟩ := close_eq_ok h
    refine (places_edit ⟨blocks.root, outer⟩ _).trans ?_
    simp [places, hstack]

theorem places_run {blocks next : Blocks} {tokens : List Token}
    (h : blocks.run tokens = .ok next) : next.places = tokens.foldl Token.track blocks.places := by
  induction tokens generalizing blocks with
  | nil =>
    cases h
    rfl
  | cons token tokens ih =>
    rw [run] at h
    split at h
    · cases h
    · next middle hstep =>
      rw [ih h, places_step hstep]
      rfl

theorem places_run_start {blocks : Blocks} {tokens : List Token}
    (h : start.run tokens = .ok blocks) : blocks.places = Token.openBlocks tokens :=
  places_run h

-- ---------------------------------------------------------------------------
-- Closing what is open
-- ---------------------------------------------------------------------------

theorem step_closing {blocks : Blocks} {opening : Opening} {offset : Nat}
    {outer : List (Opening × Nat)} (h : blocks.places = (opening, offset) :: outer) {token : Token}
    (hk : token.kind = .closing opening.closing) :
    ∃ next, blocks.step token = .ok next ∧ next.places = outer := by
  obtain ⟨block, others, hstack, hplace, -⟩ := List.map_eq_cons_iff.mp h
  obtain ⟨rfl, -⟩ := Prod.mk.inj hplace
  have hstep : blocks.step token = .ok (append { blocks with stack := others } block.toNode) := by
    simp [step, hk, close, hstack, OpenBlock.tag, Opening.closing?_tag]
  refine ⟨_, hstep, ?_⟩
  rw [places_step hstep, Token.track, hk, h]
  rfl

theorem run_closings {blocks : Blocks} {ends : List Token}
    (h : ends.map Token.kind = blocks.places.map fun block => .closing block.1.closing) :
    ∃ next, blocks.run ends = .ok next ∧ next.places = [] := by
  induction ends generalizing blocks with
  | nil => exact ⟨blocks, rfl, List.map_eq_nil_iff.mp h.symm⟩
  | cons token ends ih =>
    obtain ⟨⟨opening, offset⟩, outer, hplaces, hkind, hends⟩ := List.map_eq_cons_iff.mp h.symm
    obtain ⟨middle, hstep, hmiddle⟩ := step_closing hplaces hkind.symm
    obtain ⟨next, hrun, hnext⟩ := ih (hmiddle ▸ hends.symm)
    refine ⟨next, ?_, hnext⟩
    rw [run, hstep]
    exact hrun

theorem isRefusal_of_step {blocks : Blocks} {token : Token} {error : CompileError}
    (h : blocks.step token = .error error) :
    error.IsRefusal ∧ error.offset = token.span.start := by
  rcases step_eq_error h with ⟨tag, -, rfl⟩ | ⟨tag, -, rfl⟩ | ⟨tag, block, outer, -, -, rfl⟩
  · exact ⟨trivial, rfl⟩
  · exact ⟨trivial, rfl⟩
  · exact ⟨trivial, rfl⟩

end Blocks

-- ---------------------------------------------------------------------------
-- Tokens that can be completed
-- ---------------------------------------------------------------------------

namespace Token

variable {tokens : List Token} {blocks : Blocks}

theorem ofTokens_append_closings (h : Blocks.start.run tokens = .ok blocks) {ends : List Token}
    (hends : ends.map kind = (openBlocks tokens).map fun block => .closing block.1.closing) :
    ∃ nodes, Node.ofTokens (tokens ++ ends) = .ok nodes := by
  rw [← Blocks.places_run_start h] at hends
  obtain ⟨⟨root, stack⟩, hrun, hclosed⟩ := Blocks.run_closings hends
  obtain rfl : stack = [] := List.map_eq_nil_iff.mp hclosed
  refine ⟨root, ?_⟩
  rw [Node.ofTokens, Blocks.run_append, h]
  simp only [Except.bind, hrun]
  rfl

/-- Tokens can be completed just when none of them is refused. -/
theorem completable_iff : Completable tokens ↔ ∃ blocks, Blocks.start.run tokens = .ok blocks := by
  constructor
  · rintro ⟨rest, nodes, h⟩
    obtain ⟨last, hrun, -⟩ := bind_ok.mp h
    rw [Blocks.run_append] at hrun
    obtain ⟨blocks, hfront, -⟩ := bind_ok.mp hrun
    exact ⟨blocks, hfront⟩
  · rintro ⟨blocks, h⟩
    let ends : List Token := (openBlocks tokens).map fun block =>
      ⟨.closing block.1.closing, ⟨0, 0⟩⟩
    exact ⟨ends, ofTokens_append_closings h (by simp [ends])⟩

theorem completable_concat_iff (h : Blocks.start.run tokens = .ok blocks) (token : Token) :
    Completable (tokens ++ [token]) ↔ ∃ next, blocks.step token = .ok next := by
  rw [completable_iff, Blocks.run_append, h]
  cases hstep : blocks.step token <;> simp [Except.bind, Blocks.run, hstep]

end Token

namespace Node

open Token

variable {before tokens : List Token} {tag : Tag} {offset : Nat}

theorem ofTokens_of_refused {token : Token} {error : CompileError}
    (h : RefusedAfter before token error) (after : List Token) :
    ofTokens (before ++ token :: after) = .error error := by
  obtain ⟨blocks, hrun, hstep⟩ := h
  rw [ofTokens, Blocks.run_append, hrun]
  simp [Except.bind, Blocks.run, hstep]

theorem exists_refused {error : CompileError} (h : ofTokens tokens = .error error)
    (hrefusal : error.IsRefusal) :
    ∃ before token after, tokens = before ++ token :: after ∧ RefusedAfter before token error := by
  obtain ⟨before, token, after, blocks, htokens, hrun, hstep | ⟨block, -, -, rfl⟩⟩ :=
    ofTokens_eq_error h
  · exact ⟨before, token, after, htokens, blocks, hrun, hstep⟩
  · exact hrefusal.elim

theorem refused_iff_completable (before after : List Token) (token : Token) :
    (∃ error, ofTokens (before ++ token :: after) = .error error ∧ error.IsRefusal ∧
        error.offset = token.span.start ∧ RefusedAfter before token error) ↔
      Completable before ∧ ¬Completable (before ++ [token]) := by
  constructor
  · rintro ⟨error, -, -, -, blocks, hrun, hstep⟩
    refine ⟨completable_iff.mpr ⟨blocks, hrun⟩, fun hcomplete => ?_⟩
    obtain ⟨next, hnext⟩ := (completable_concat_iff hrun token).mp hcomplete
    rw [hstep] at hnext
    cases hnext
  · rintro ⟨hbefore, hupto⟩
    obtain ⟨blocks, hrun⟩ := completable_iff.mp hbefore
    rw [completable_concat_iff hrun] at hupto
    cases hstep : blocks.step token with
    | ok next => exact (hupto ⟨next, hstep⟩).elim
    | error error =>
      have hrefused : RefusedAfter before token error := ⟨blocks, hrun, hstep⟩
      obtain ⟨hrefusal, hoffset⟩ := Blocks.isRefusal_of_step hstep
      exact ⟨error, ofTokens_of_refused hrefused after, hrefusal, hoffset, hrefused⟩

theorem ofTokens_eq_unclosed_iff :
    ofTokens tokens = .error (.unclosed tag offset) ↔
      ∃ blocks block outer, Blocks.start.run tokens = .ok blocks ∧ blocks.stack = block :: outer ∧
        block.tag = tag ∧ block.offset = offset := by
  constructor
  · intro h
    rcases bind_error.mp h with hrun | ⟨⟨root, stack⟩, hrun, hfinish⟩
    · obtain ⟨before, token, after, middle, -, -, hstep⟩ := Blocks.run_eq_error hrun
      exact (Blocks.isRefusal_of_step hstep).1.elim
    · cases stack with
      | nil => cases hfinish
      | cons block outer =>
        cases hfinish
        exact ⟨_, block, outer, hrun, rfl, rfl, rfl⟩
  · rintro ⟨⟨root, _⟩, block, outer, hrun, rfl, rfl, rfl⟩
    rw [ofTokens, hrun]
    rfl

theorem unclosed_iff_completable (tokens : List Token) :
    (∃ tag offset, ofTokens tokens = .error (.unclosed tag offset)) ↔
      (∀ nodes, ofTokens tokens ≠ .ok nodes) ∧ Completable tokens := by
  constructor
  · rintro ⟨tag, offset, h⟩
    obtain ⟨blocks, block, outer, hrun, -⟩ := ofTokens_eq_unclosed_iff.mp h
    refine ⟨fun nodes hn => ?_, completable_iff.mpr ⟨blocks, hrun⟩⟩
    rw [h] at hn
    cases hn
  · rintro ⟨hnone, hcomplete⟩
    obtain ⟨⟨root, stack⟩, hrun⟩ := completable_iff.mp hcomplete
    cases stack with
    | nil =>
      refine absurd ?_ (hnone root)
      rw [ofTokens, hrun]
      rfl
    | cons block outer =>
      exact ⟨block.tag, block.offset,
        ofTokens_eq_unclosed_iff.mpr ⟨_, block, outer, hrun, rfl, rfl, rfl⟩⟩

/-- The error names the innermost block: the last one whose opening tag nothing closes. -/
theorem openBlocks_of_unclosed (h : ofTokens tokens = .error (.unclosed tag offset)) :
    ∃ block outer, openBlocks tokens = (block, offset) :: outer ∧ block.tag = tag ∧
      ∃ before token after, tokens = before ++ token :: after ∧ token.kind = .opening block ∧
        token.span.start = offset ∧ Balanced after := by
  obtain ⟨blocks, block, outer, hrun, hstack, rfl, rfl⟩ := ofTokens_eq_unclosed_iff.mp h
  have hplaces := Blocks.places_run_start hrun
  rw [Blocks.places, hstack, List.map_cons] at hplaces
  have hnested := Blocks.nested_run_start hrun
  rw [hstack] at hnested
  obtain ⟨before, token, after, htokens, -, hkind, hstart, hafter⟩ := hnested
  exact ⟨block.opening, _, hplaces.symm, rfl, before, token, after, htokens, hkind, hstart, hafter⟩

/-- No fault is reported late, and none early. An error that names a refused token comes from one of
the tokens, and a token is refused just where the tokens before it can be completed and those up to
it cannot. A block is left open just where tokens that are no template can be completed. Then the
end tags of all open blocks, innermost first, complete them, and the error names the innermost. -/
theorem ofTokens_error_iff_completable :
    (∀ tokens error, ofTokens tokens = .error error → error.IsRefusal →
      ∃ before token after, tokens = before ++ token :: after ∧
        RefusedAfter before token error) ∧
    (∀ (before after : List Token) (token : Token),
      (∃ error, ofTokens (before ++ token :: after) = .error error ∧ error.IsRefusal ∧
          error.offset = token.span.start ∧ RefusedAfter before token error) ↔
        Completable before ∧ ¬Completable (before ++ [token])) ∧
    ∀ tokens : List Token,
      ((∃ tag offset, ofTokens tokens = .error (.unclosed tag offset)) ↔
        (∀ nodes, ofTokens tokens ≠ .ok nodes) ∧ Completable tokens) ∧
      ∀ tag offset, ofTokens tokens = .error (.unclosed tag offset) →
        (∀ ends : List Token,
          ends.map kind = (openBlocks tokens).map (fun block => .closing block.1.closing) →
            ∃ nodes, ofTokens (tokens ++ ends) = .ok nodes) ∧
        ∃ block outer, openBlocks tokens = (block, offset) :: outer ∧ block.tag = tag ∧
          ∃ before token after, tokens = before ++ token :: after ∧ token.kind = .opening block ∧
            token.span.start = offset ∧ Balanced after := by
  refine ⟨fun tokens error => exists_refused, refused_iff_completable, fun tokens =>
    ⟨unclosed_iff_completable tokens, fun tag offset h => ⟨fun ends hends => ?_, ?_⟩⟩⟩
  · obtain ⟨blocks, block, outer, hrun, -⟩ := ofTokens_eq_unclosed_iff.mp h
    exact ofTokens_append_closings hrun hends
  · exact openBlocks_of_unclosed h

/-- A loop inside a condition: no end tag of a condition may stand in it, and if the text ends there
the loop is to be closed first. -/
theorem ofTokens_error_iff_completable_nested :
    let opened : List Token := [⟨.opening (.choice ⟨"a", []⟩ false), ⟨0, 10⟩⟩,
      ⟨.branch .otherwise, ⟨10, 20⟩⟩, ⟨.opening (.loop "x" ⟨"y", []⟩), ⟨20, 36⟩⟩]
    let last : Token := ⟨.closing .endChoice, ⟨36, 47⟩⟩
    let ends : List Token := [⟨.closing .endLoop, ⟨36, 48⟩⟩, ⟨.closing .endChoice, ⟨48, 59⟩⟩]
    (Completable opened ∧ ¬Completable (opened ++ [last])) ∧
      ofTokens opened = .error (.unclosed .loop 20) ∧ (∀ nodes, ofTokens opened ≠ .ok nodes) ∧
      ∃ nodes, ofTokens (opened ++ ends) = .ok nodes := by
  intro opened last ends
  obtain ⟨-, hrefused, hopen⟩ := ofTokens_error_iff_completable
  have hunclosed : ofTokens opened = .error (.unclosed .loop 20) := rfl
  refine ⟨(hrefused opened [] last).mp ⟨_, rfl, trivial, rfl, _, rfl, rfl⟩, hunclosed,
    ((hopen opened).1.mp ⟨_, _, hunclosed⟩).1, ((hopen opened).2 _ _ hunclosed).1 ends rfl⟩

end Node

end Stencil
