import Stencil.Proofs.Nesting
import Stencil.Proofs.Scanning
import Stencil.Template

/-!
# Where errors point

The place that a compile error names. The text before it holds no fault but blocks that are still
open, and the tag that begins there is the one at fault.
-/

namespace Stencil

namespace CompileError

def delimiter : CompileError → Delimiter
  | .unterminated delimiter _ => delimiter
  | .invalidOutput .. => .output
  | _ => .block

/-- The tags can all be read, but they do not make blocks. -/
def IsNesting : CompileError → Prop
  | .mismatched .. | .unopened .. | .misplaced .. | .unclosed .. => True
  | _ => False

end CompileError

-- ---------------------------------------------------------------------------
-- Faults of one tag
-- ---------------------------------------------------------------------------

namespace TokenKind

theorem ofPiece_eq_error {offset : Nat} {piece : Piece} {error : CompileError}
    (h : ofPiece offset piece = .error error) :
    error.offset = offset ∧ piece.delimiter? = some error.delimiter ∧ ¬error.IsNesting ∧
      ∀ delimiter place, error = .unterminated delimiter place →
        ∃ body, piece = .unterminated delimiter body := by
  cases piece with
  | text content => cases h
  | unterminated delimiter body =>
    cases h
    refine ⟨rfl, rfl, id, ?_⟩
    rintro _ _ ⟨⟩
    exact ⟨body, rfl⟩
  | tag delimiter body =>
    cases delimiter with
    | output =>
      obtain ⟨fault, -, rfl⟩ := mapError_error.mp h
      exact ⟨rfl, rfl, id, by rintro _ _ ⟨⟩⟩
    | block =>
      rw [ofPiece, readWords.eq_def] at h
      split at h
      · cases h
        exact ⟨rfl, rfl, id, by rintro _ _ ⟨⟩⟩
      · split at h
        · cases h
          exact ⟨rfl, rfl, id, by rintro _ _ ⟨⟩⟩
        · obtain ⟨fault, -, rfl⟩ := mapError_error.mp h
          exact ⟨rfl, rfl, id, by rintro _ _ ⟨⟩⟩

end TokenKind

theorem Piece.Leftmost.unterminated {front back : List Piece} {delimiter : Delimiter}
    {body : List Char} (h : Leftmost (front ++ .unterminated delimiter body :: back)) :
    ¬delimiter.closing.toList <:+: body ∧ back = [] := by
  obtain ⟨-, hback, -⟩ := leftmost_append.mp h
  obtain ⟨hproper, hnext, -⟩ := leftmost_cons.mp hback
  refine ⟨hproper, ?_⟩
  cases back with
  | nil => rfl
  | cons next back => exact (hnext next rfl).elim

/-- A text that cannot be scanned has a tag at fault, up to which it can. -/
theorem Token.scan_eq_error {source : List Char} {error : CompileError}
    (h : scan source = .error error) :
    ∃ front back before, source = front ++ error.delimiter.opening.toList ++ back ∧
      Text.byteSize front = error.offset ∧ scan front = .ok before ∧ ¬error.IsNesting ∧
      ∀ delimiter place, error = .unterminated delimiter place →
        ¬delimiter.closing.toList <:+: back := by
  obtain ⟨front, piece, back, before, hcut, hfront, hread⟩ := exists_piece_of_ofPieces_error h
  obtain ⟨hoffset, hdelimiter, hnesting, hunterminated⟩ := TokenKind.ofPiece_eq_error hread
  obtain ⟨rest, hpiece⟩ := Piece.source_of_delimiter? hdelimiter
  obtain ⟨hsource, hscan⟩ := scan_front_of_cut hcut hfront
  refine ⟨front.flatMap Piece.source, rest ++ back.flatMap Piece.source, before, ?_, ?_, hscan,
    hnesting, ?_⟩
  · rw [hsource, hpiece]
    simp
  · rw [hoffset, Nat.zero_add]
  · rintro delimiter place rfl
    obtain ⟨body, rfl⟩ := hunterminated delimiter place rfl
    obtain ⟨hopen, rfl⟩ := (hcut ▸ Piece.leftmost_cut source).unterminated
    rw [Piece.source_unterminated] at hpiece
    obtain rfl := List.append_cancel_left hpiece
    simpa using hopen

-- ---------------------------------------------------------------------------
-- Faults of blocks
-- ---------------------------------------------------------------------------

/-- The innermost block that the tokens leave open is one of `tag`, opened at `offset`. -/
def Token.LeavesOpen (tokens : List Token) (tag : Tag) (offset : Nat) : Prop :=
  ∃ outer token inner block, tokens = outer ++ token :: inner ∧ token.kind = .opening block ∧
    block.tag = tag ∧ token.span.start = offset ∧ Balanced inner

theorem Token.leavesOpen_of_run {tokens : List Token} {blocks : Blocks}
    (h : Blocks.start.run tokens = .ok blocks) {block : OpenBlock} {outer : List OpenBlock}
    (hstack : blocks.stack = block :: outer) : LeavesOpen tokens block.tag block.offset := by
  have hnested := Blocks.nested_run_start h
  rw [hstack] at hnested
  obtain ⟨front, token, back, htokens, -, hkind, hstart, hback⟩ := hnested
  exact ⟨front, token, back, block.opening, htokens, hkind, rfl, hstart, hback⟩

namespace Node

variable {tokens : List Token} {error : CompileError}

theorem ofTokens_of_run {before : List Token} {blocks : Blocks}
    (h : Blocks.start.run before = .ok blocks) :
    (∃ nodes, ofTokens before = .ok nodes) ∨
      ∃ tag offset, ofTokens before = .error (.unclosed tag offset) := by
  obtain ⟨root, stack⟩ := blocks
  rw [ofTokens, h]
  cases stack with
  | nil => exact .inl ⟨root, rfl⟩
  | cons block outer => exact .inr ⟨block.tag, block.offset, rfl⟩

theorem exists_token_of_ofTokens_error (h : ofTokens tokens = .error error) :
    ∃ before token after blocks, tokens = before ++ token :: after ∧
      Blocks.start.run before = .ok blocks ∧ error.offset = token.span.start ∧
      token.kind.delimiter? = some .block ∧ error.delimiter = .block ∧ error.IsNesting ∧
      ∀ found opened openedOffset offset, error = .mismatched found opened openedOffset offset →
        Token.LeavesOpen before opened openedOffset := by
  obtain ⟨before, token, after, blocks, htokens, hrun, hfault⟩ := ofTokens_eq_error h
  refine ⟨before, token, after, blocks, htokens, hrun, ?_⟩
  rcases hfault with hstep | ⟨block, hkind, -, rfl⟩
  · rcases Blocks.step_eq_error hstep with ⟨tag, hkind, rfl⟩ | ⟨tag, hkind, rfl⟩ |
      ⟨tag, block, outer, hkind, hstack, rfl⟩
    · exact ⟨rfl, by rw [hkind]; rfl, rfl, trivial, nofun⟩
    · exact ⟨rfl, by rw [hkind]; rfl, rfl, trivial, nofun⟩
    · refine ⟨rfl, by rw [hkind]; rfl, rfl, trivial, ?_⟩
      rintro _ _ _ _ ⟨⟩
      exact Token.leavesOpen_of_run hrun hstack
  · exact ⟨rfl, by rw [hkind]; rfl, rfl, trivial, nofun⟩

end Node

-- ---------------------------------------------------------------------------
-- Templates
-- ---------------------------------------------------------------------------

namespace Template

/-- A compile error stands at the opening delimiter of a tag, and the text before it can be scanned.
A tag that is not terminated has no closing delimiter after its opening one. A mismatched end tag is
blamed on the innermost block that is open there. And where the tags do not make blocks, all tags of
the text can be read, and the text before the one at fault lacks at most end tags. -/
theorem compile_error_place {source : String} {error : CompileError}
    (h : compile source = .error error) :
    ∃ front back before, source.toList = front ++ error.delimiter.opening.toList ++ back ∧
      Text.byteSize front = error.offset ∧ Token.scan front = .ok before ∧
      (∀ delimiter offset, error = .unterminated delimiter offset →
        ¬delimiter.closing.toList <:+: back) ∧
      (∀ found opened openedOffset offset, error = .mismatched found opened openedOffset offset →
        openedOffset < offset ∧ Token.LeavesOpen before opened openedOffset) ∧
      (error.IsNesting →
        (∃ after, Token.scan source.toList = .ok (before ++ after)) ∧
        ((∃ template, compile (String.ofList front) = .ok template) ∨
          ∃ tag offset, compile (String.ofList front) = .error (.unclosed tag offset))) := by
  rcases bind_error.mp h with hscan | ⟨tokens, hscan, hread⟩
  · obtain ⟨front, back, before, hsource, hoffset, hfront, hnesting, hopen⟩ :=
      Token.scan_eq_error hscan
    refine ⟨front, back, before, hsource, hoffset, hfront, hopen, ?_, fun hn => absurd hn hnesting⟩
    rintro _ _ _ _ rfl
    exact absurd trivial hnesting
  · obtain ⟨before, token, after, blocks, rfl, hrun, hoffset, hblock, hdelimiter, hnesting,
        hopen⟩ := Node.exists_token_of_ofTokens_error (map_error.mp hread)
    obtain ⟨front, back, hsource, hstart, hfront⟩ := Token.exists_front_of_scan hscan hblock
    refine ⟨front, back, before, by rw [hdelimiter, hsource], hstart.trans hoffset.symm, hfront, ?_,
      ?_, fun _ => ⟨⟨token :: after, hscan⟩, ?_⟩⟩
    · rintro _ _ rfl
      exact hnesting.elim
    · rintro found opened openedOffset offset rfl
      have hleaves := hopen found opened openedOffset offset rfl
      refine ⟨?_, hleaves⟩
      -- The open block was opened by a token before this one.
      obtain ⟨outer, first, inner, block, rfl, -, -, hfirst, -⟩ := hleaves
      have hplaces := List.pairwise_append.mp (Token.pairwise_start_scan hscan)
      have hbefore := hplaces.2.2 first (by simp) token (by simp)
      rwa [hfirst, ← hoffset] at hbefore
    · rw [compile, String.toList_ofList, hfront, Except.bind]
      rcases Node.ofTokens_of_run hrun with ⟨nodes, hnodes⟩ | ⟨tag, offset, hnodes⟩
      · exact .inl ⟨⟨nodes⟩, by rw [hnodes]; rfl⟩
      · exact .inr ⟨tag, offset, by rw [hnodes]; rfl⟩

theorem compile_error_place_mismatched :
    let source := "\u00e9\x7b% if a %\x7d\x7b% for x in a %\x7d\x7b% endfor %\x7d\x7b% endfor %\x7d"
    compile source = .error (.mismatched .endLoop .choice 2 40) ∧
      ∃ front back before, source.toList = front ++ "\x7b%".toList ++ back ∧
        Text.byteSize front = 40 ∧ Token.scan front = .ok before ∧
        Token.LeavesOpen before .choice 2 ∧
        ((∃ template, compile (String.ofList front) = .ok template) ∨
          ∃ tag offset, compile (String.ofList front) = .error (.unclosed tag offset)) := by
  have herror : compile
      "\u00e9\x7b% if a %\x7d\x7b% for x in a %\x7d\x7b% endfor %\x7d\x7b% endfor %\x7d" =
        .error (.mismatched .endLoop .choice 2 40) := rfl
  obtain ⟨front, back, before, hsource, hoffset, hfront, -, hopen, hnesting⟩ :=
    compile_error_place herror
  intro source
  exact ⟨herror, front, back, before, hsource, hoffset, hfront, (hopen _ _ _ _ rfl).2,
    (hnesting trivial).2⟩

end Template

end Stencil
