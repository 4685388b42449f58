import Stencil.Proofs.Relocation
import Stencil.Proofs.Scanning

/-!
# Joining

One template text after another. If no delimiter stands across the border, the texts are cut, read
and rendered one after the other: only plain texts at the border become one, and what is said of the
second text is said of it further back.
-/

namespace Stencil

namespace Text

/-- Whether an opening delimiter begins in one text and ends in the next. -/
def OpensAcross (front back : List Char) : Prop :=
  front.getLast? = some '\x7b' ∧ (back.head? = some '\x7b' ∨ back.head? = some '%')

instance (front back : List Char) : Decidable (OpensAcross front back) :=
  inferInstanceAs (Decidable (_ ∧ _))

theorem OpensAcross.extend {front back : List Char} (h : OpensAcross front back)
    (before after : List Char) : OpensAcross (before ++ front) (back ++ after) := by
  obtain ⟨hlast, hhead⟩ := h
  refine ⟨by rw [List.getLast?_append, hlast]; rfl, ?_⟩
  rcases hhead with hhead | hhead
  · exact .inl (by rw [List.head?_append, hhead]; rfl)
  · exact .inr (by rw [List.head?_append, hhead]; rfl)

theorem not_opening_infix_append {front back : List Char} {delimiter : Delimiter}
    (hfront : ¬delimiter.opening.toList <:+: front) (hback : ¬delimiter.opening.toList <:+: back)
    (hborder : ¬OpensAcross front back) : ¬delimiter.opening.toList <:+: front ++ back := by
  rw [Delimiter.toList_opening, not_pair_infix_iff] at hfront hback ⊢
  refine List.isChain_append.mpr ⟨hfront, hback, ?_⟩
  rintro _ hlast _ hhead ⟨rfl, rfl⟩
  refine hborder ⟨hlast, ?_⟩
  cases delimiter with
  | output => exact .inl hhead
  | block => exact .inr hhead

end Text

-- ---------------------------------------------------------------------------
-- Pieces
-- ---------------------------------------------------------------------------

namespace Piece

/-- The pieces of two texts. A text that ends the first is one with a text that begins the
second. -/
def join : List Piece → List Piece → List Piece
  | [], back => back
  | [.text content], .text more :: back => .text (content ++ more) :: back
  | piece :: front, back => piece :: join front back

theorem join_cons_cons (piece next : Piece) (front back : List Piece) :
    join (piece :: next :: front) back = piece :: join (next :: front) back := by
  rw [join]
  exact fun _ _ _ _ _ hnil => nomatch hnil

theorem join_append (before : List Piece) {front : List Piece} (h : front ≠ [])
    (back : List Piece) : join (before ++ front) back = before ++ join front back := by
  induction before with
  | nil => rfl
  | cons piece before ih =>
    obtain ⟨next, others, hn⟩ :=
      List.exists_cons_of_ne_nil (List.append_ne_nil_of_right_ne_nil before h)
    rw [List.cons_append, List.cons_append, ← ih, hn, join_cons_cons]

theorem join_cases (front back : List Piece) :
    ((∀ a ∈ front.getLast?, ∀ b ∈ back.head?, a.delimiter? ≠ none ∨ b.delimiter? ≠ none) ∧
        join front back = front ++ back) ∨
      ∃ before a b after, front = before ++ [.text a] ∧ back = .text b :: after ∧
        join front back = before ++ .text (a ++ b) :: after := by
  rcases List.eq_nil_or_concat' front with rfl | ⟨before, last, rfl⟩
  · exact .inl ⟨by simp, rfl⟩
  · rw [join_append before (by simp)]
    cases back with
    | nil => exact .inl ⟨by simp, by simp [join]⟩
    | cons next after =>
      cases last with
      | text a =>
        cases next with
        | text b => exact .inr ⟨before, a, b, after, rfl, rfl, rfl⟩
        | _ => exact .inl ⟨by simp [delimiter?], by simp [join]⟩
      | _ => exact .inl ⟨by simp [delimiter?], by simp [join]⟩

theorem flatMap_source_join (front back : List Piece) :
    (join front back).flatMap source = front.flatMap source ++ back.flatMap source := by
  rcases join_cases front back with ⟨-, hjoin⟩ | ⟨before, a, b, after, rfl, rfl, hjoin⟩
  · rw [hjoin, List.flatMap_append]
  · rw [hjoin]
    simp [source]

theorem Before.of_text_append {a b : List Char} {next : Piece} (h : (text b).Before next)
    (hb : b ≠ []) : (text (a ++ b)).Before next := by
  cases next with
  | text other => exact h
  | _ => exact (List.getLast?_append_of_ne_nil a hb).trans_ne h

theorem leftmost_join {front back : List Piece} (hfront : Leftmost front) (hback : Leftmost back)
    (hwhole : ∀ piece ∈ front, piece.IsWhole)
    (hborder : ¬Text.OpensAcross (front.flatMap source) (back.flatMap source)) :
    Leftmost (join front back) := by
  rcases join_cases front back with ⟨hapart, hjoin⟩ | ⟨before, a, b, after, rfl, rfl, hjoin⟩
  · rw [hjoin]
    refine leftmost_append.mpr ⟨hfront, hback, fun last hl first hf => ?_⟩
    have hdelimiter := hapart last hl first hf
    obtain ⟨before, rfl⟩ := List.getLast?_eq_some_iff.mp hl
    obtain ⟨after, rfl⟩ := List.head?_eq_some_iff.mp hf
    cases last with
    | tag delimiter body => trivial
    | unterminated delimiter body => exact hwhole (.unterminated delimiter body) (by simp)
    | text content =>
      have hends : content.getLast? = some '\x7b' → first.source.head? ≠ some '\x7b' := by
        intro hbrace hopens
        have hacross : Text.OpensAcross content first.source := ⟨hbrace, .inl hopens⟩
        refine hborder ?_
        simpa [source] using hacross.extend (before.flatMap source) (after.flatMap source)
      cases first with
      | text other => simp [delimiter?] at hdelimiter
      | _ => exact fun hbrace => hends hbrace rfl
  · rw [hjoin]
    obtain ⟨hbefore, hlast, hnext⟩ := leftmost_append.mp hfront
    obtain ⟨⟨hb, hbplain⟩, hfirst, hafter⟩ := leftmost_cons.mp hback
    obtain ⟨⟨-, haplain⟩, -⟩ := leftmost_cons.mp hlast
    have hacross : ¬Text.OpensAcross a b := by
      intro hacross
      refine hborder ?_
      simpa [source] using hacross.extend (before.flatMap source) (after.flatMap source)
    have hproper : (text (a ++ b)).Proper :=
      ⟨List.append_ne_nil_of_right_ne_nil a hb, fun delimiter =>
        Text.not_opening_infix_append (haplain delimiter) (hbplain delimiter) hacross⟩
    refine leftmost_append.mpr ⟨hbefore, leftmost_cons.mpr ⟨hproper, ?_, hafter⟩, ?_⟩
    · exact fun next hn => (hfirst next hn).of_text_append hb
    · -- What stands before a text does so whatever the text is.
      rintro last hl _ ⟨⟩
      have htext := hnext last hl (.text a) rfl
      cases last <;> exact htext

theorem cut_append {front back : List Char} (hwhole : ∀ piece ∈ cut front, piece.IsWhole)
    (hborder : ¬Text.OpensAcross front back) :
    cut (front ++ back) = join (cut front) (cut back) := by
  -- The joined pieces are a leftmost cut of the joined text, and that text has no other.
  have hleftmost : Leftmost (join (cut front) (cut back)) := by
    refine leftmost_join (leftmost_cut front) (leftmost_cut back) hwhole ?_
    rwa [flatMap_source_cut, flatMap_source_cut]
  have hcut := cut_flatMap_source hleftmost
  rwa [flatMap_source_join, flatMap_source_cut, flatMap_source_cut] at hcut

end Piece

-- ---------------------------------------------------------------------------
-- Nodes
-- ---------------------------------------------------------------------------

namespace Node

def join (front : List Node) : List Node → List Node
  | .literal text :: back => appendText text front ++ back
  | back => front ++ back

theorem join_nil (front : List Node) : join front [] = front :=
  List.append_nil front

theorem join_append (front : List Node) {body : List Node} (h : body ≠ []) (back : List Node) :
    join front (body ++ back) = join front body ++ back := by
  cases body with
  | nil => exact (h rfl).elim
  | cons node body => cases node <;> simp [join]

theorem join_concat (front : List Node) {node : Node} (h : ∀ text, node ≠ .literal text)
    (body : List Node) : join front (body ++ [node]) = join front body ++ [node] := by
  cases body with
  | nil =>
    cases node with
    | literal text => exact (h text rfl).elim
    | _ => simp [join]
  | cons first body => exact join_append front (List.cons_ne_nil first body) [node]

theorem join_appendText (front : List Node) (text : String) (body : List Node) :
    join front (appendText text body) = appendText text (join front body) := by
  rcases List.eq_nil_or_concat' body with rfl | ⟨body, last, rfl⟩
  · simp [appendText, join]
  · have happend : ∀ nodes, appendText text (nodes ++ [last]) = nodes ++ appendText text [last] :=
      fun nodes => appendText_append text nodes (List.cons_ne_nil last [])
    rw [happend body]
    cases body with
    | nil =>
      cases last with
      | literal previous =>
        simpa [appendText, join] using (appendText_appendText previous text front).symm
      | _ => simp [appendText, join, happend]
    | cons first body =>
      have hne := List.cons_ne_nil first body
      rw [join_append front hne, join_append front hne, happend]

end Node

theorem OpenBlock.toNode_ne_literal (block : OpenBlock) (text : String) :
    block.toNode ≠ .literal text := by
  unfold toNode
  cases block.opening <;> exact Node.noConfusion

namespace Blocks

def after (front : List Node) (blocks : Blocks) : Blocks :=
  { blocks with root := Node.join front blocks.root }

theorem after_edit (front : List Node) {change : List Node → List Node}
    (h : ∀ body, Node.join front (change body) = change (Node.join front body))
    (blocks : Blocks) : (blocks.edit change).after front = (blocks.after front).edit change := by
  obtain ⟨root, stack⟩ := blocks
  cases stack with
  | nil => simp [edit, after, h]
  | cons block outer => rfl

theorem divide_after (front : List Node) (blocks : Blocks) (tag : Tag) (offset : Nat) :
    (blocks.after front).divide tag offset = (blocks.divide tag offset).map (after front) := by
  obtain ⟨root, stack⟩ := blocks
  cases stack with
  | nil => rfl
  | cons block outer =>
    simp only [divide, after]
    split <;> rfl

theorem close_after (front : List Node) (blocks : Blocks) (tag : Tag) (offset : Nat) :
    (blocks.after front).close tag offset = (blocks.close tag offset).map (after front) := by
  obtain ⟨root, stack⟩ := blocks
  cases stack with
  | nil => rfl
  | cons block outer =>
    simp only [close, after]
    split
    · exact congrArg Except.ok
        (after_edit front (Node.join_concat front block.toNode_ne_literal) ⟨root, outer⟩).symm
    · rfl

theorem step_after (front : List Node) (blocks : Blocks) (token : Token) :
    (blocks.after front).step token = (blocks.step token).map (after front) := by
  rw [step_eq, step_eq]
  cases token.mark with
  | text content =>
    exact congrArg Except.ok (after_edit front (Node.join_appendText front content) blocks).symm
  | output path filters offset =>
    exact congrArg Except.ok
      (after_edit front (Node.join_concat front fun _ => Node.noConfusion) blocks).symm
  | opening block => rfl
  | branch tag => exact divide_after front blocks tag token.span.start
  | closing tag => exact close_after front blocks tag token.span.start

theorem run_after (front : List Node) (blocks : Blocks) (tokens : List Token) :
    (blocks.after front).run tokens = (blocks.run tokens).map (after front) := by
  induction tokens generalizing blocks with
  | nil => rfl
  | cons token tokens ih =>
    rw [run, step_after, run]
    cases blocks.step token with
    | error error => rfl
    | ok next => exact ih next

theorem run_literal_literal (blocks : Blocks) (a b : String) (first second whole : Span)
    (tokens : List Token) :
    blocks.run (⟨.literal a, first⟩ :: ⟨.literal b, second⟩ :: tokens) =
      blocks.run (⟨.literal (a ++ b), whole⟩ :: tokens) := by
  have hjoin : Node.appendText b ∘ Node.appendText a = Node.appendText (a ++ b) :=
    funext (Node.appendText_appendText a b)
  simp only [run, step, edit_edit, hjoin]

end Blocks

namespace Node

theorem ofTokens_literal_literal (before : List Token) (a b : String) (first second whole : Span)
    (after : List Token) :
    ofTokens (before ++ [⟨.literal a, first⟩] ++ ⟨.literal b, second⟩ :: after) =
      ofTokens (before ++ ⟨.literal (a ++ b), whole⟩ :: after) := by
  rw [List.append_assoc, List.singleton_append, ofTokens, ofTokens, Blocks.run_append,
    Blocks.run_append]
  simp only [Blocks.run_literal_literal _ a b first second whole]

/-- What stands after a whole template is read as if nothing stood before it. -/
theorem ofTokens_append {tokens : List Token} {nodes : List Node} (h : ofTokens tokens = .ok nodes)
    (more : List Token) : ofTokens (tokens ++ more) = (ofTokens more).map (join nodes) := by
  obtain ⟨⟨root, stack⟩, hrun, hfinish⟩ := bind_ok.mp h
  cases stack with
  | cons block outer => cases hfinish
  | nil =>
    obtain rfl : root = nodes := Except.ok.inj hfinish
    -- No block is open where the first template ends, so reading starts again there.
    have hstart : Blocks.start.after root = ⟨root, []⟩ := by
      rw [Blocks.after, Blocks.start, join_nil]
    rw [ofTokens, Blocks.run_append, hrun, Except.bind, ← hstart, Blocks.run_after, ofTokens]
    cases Blocks.start.run more with
    | error error => rfl
    | ok blocks =>
      obtain ⟨root, stack⟩ := blocks
      cases stack <;> rfl

end Node

-- ---------------------------------------------------------------------------
-- Reading joined pieces
-- ---------------------------------------------------------------------------

theorem CompileError.relocate_add (bytes : Nat) :
    CompileError.relocate (bytes + ·) = CompileError.shift bytes := by
  funext error
  cases error <;> rfl

theorem TokenKind.ofPiece_add (bytes offset : Nat) (piece : Piece) :
    ofPiece (bytes + offset) piece =
      (ofPiece offset piece).mapError (CompileError.shift bytes) := by
  cases piece with
  | text content => rfl
  | unterminated delimiter body => rfl
  | tag delimiter body =>
    cases delimiter with
    | output =>
      simp only [ofPiece]
      cases readOutput body <;> rfl
    | block =>
      simp only [ofPiece]
      cases (Text.words body).map String.ofList with
      | nil => rfl
      | cons word arguments =>
        simp only [readWords]
        split
        · rfl
        · next tag _ => cases readArguments tag arguments <;> rfl

theorem Token.ofPieces_add (bytes offset : Nat) (pieces : List Piece) :
    ofPieces (bytes + offset) pieces =
      ((ofPieces offset pieces).map (List.map (relocate (bytes + ·)))).mapError
        (CompileError.shift bytes) := by
  induction pieces generalizing offset with
  | nil => rfl
  | cons piece pieces ih =>
    rw [ofPieces_cons, ofPieces_cons, TokenKind.ofPiece_add, Nat.add_assoc, ih]
    cases TokenKind.ofPiece offset piece with
    | error error => rfl
    | ok kind => cases ofPieces (offset + piece.size) pieces <;> rfl

namespace Node

def ofPieces (offset : Nat) (pieces : List Piece) : Except CompileError (List Node) :=
  (Token.ofPieces offset pieces).bind ofTokens

theorem ofPieces_add (bytes offset : Nat) (pieces : List Piece) :
    ofPieces (bytes + offset) pieces =
      ((ofPieces offset pieces).map (relocateAll (bytes + ·))).mapError
        (CompileError.shift bytes) := by
  rw [ofPieces, ofPieces, Token.ofPieces_add]
  cases Token.ofPieces offset pieces with
  | error error => rfl
  | ok tokens => exact CompileError.relocate_add bytes ▸ ofTokens_relocate (bytes + ·) tokens

theorem ofPieces_join {front back : List Piece} {tokens : List Token}
    (h : Token.ofPieces 0 front = .ok tokens) :
    ofPieces 0 (Piece.join front back) =
      (Token.ofPieces (Text.byteSize (front.flatMap Piece.source)) back).bind fun more =>
        ofTokens (tokens ++ more) := by
  rcases Piece.join_cases front back with ⟨-, hjoin⟩ | ⟨before, a, b, after, rfl, rfl, hjoin⟩
  · rw [ofPieces, hjoin, Token.ofPieces_append, h, Nat.zero_add]
    cases Token.ofPieces (Text.byteSize (front.flatMap Piece.source)) back <;> rfl
  · obtain ⟨first, hfirst, hlast⟩ := bind_ok.mp ((Token.ofPieces_append 0 before _).symm.trans h)
    cases hlast
    -- The joined text is one token, where its two parts would be two.
    have hplace : Text.byteSize ((before ++ [Piece.text a]).flatMap Piece.source) =
        0 + Text.byteSize (before.flatMap Piece.source) + (Piece.text a).size := by
      simp [Piece.size, Piece.source]
    have hsize : (Piece.text (a ++ b)).size = (Piece.text a).size + (Piece.text b).size :=
      Text.byteSize_append a b
    rw [ofPieces, hjoin, Token.ofPieces_append, hfirst, hplace, Except.bind, Token.ofPieces_cons,
      Token.ofPieces_cons, hsize, Nat.add_assoc _ (Piece.text a).size]
    cases Token.ofPieces _ after with
    | error error => rfl
    | ok rest =>
      simp only [TokenKind.ofPiece, Except.bind, Except.map, String.ofList_append]
      exact (ofTokens_literal_literal first _ _ _ _ _ rest).symm

end Node

-- ---------------------------------------------------------------------------
-- Rendering
-- ---------------------------------------------------------------------------

namespace Node

variable (context : Context) (table : FilterTable)

theorem meaningOf_append (front back : List Node) (frames : List Frame) :
    meaningOf context table (front ++ back) frames =
      (do
        let a ← meaningOf context table front frames
        let b ← meaningOf context table back frames
        return a ++ b) := by
  induction front with
  | nil => exact (seq_empty _).symm
  | cons node front ih => rw [List.cons_append, meaningOf, ih, meaningOf, seq_assoc]

theorem meaningOf_literal (text : String) (frames : List Frame) :
    meaningOf context table [.literal text] frames = .ok text :=
  congrArg Except.ok String.append_empty

theorem meaningOf_appendText (text : String) (body : List Node) (frames : List Frame) :
    meaningOf context table (appendText text body) frames =
      (do
        let a ← meaningOf context table body frames
        let b ← Except.ok text
        return a ++ b) := by
  rcases appendText_cases text body with ⟨-, happend⟩ | ⟨front, previous, rfl, happend⟩
  · rw [happend, meaningOf_append, meaningOf_literal]
  · rw [happend, meaningOf_append, meaningOf_append, meaningOf_literal, meaningOf_literal,
      seq_assoc]
    rfl

theorem meaningOf_join (front back : List Node) (frames : List Frame) :
    meaningOf context table (join front back) frames =
      (do
        let a ← meaningOf context table front frames
        let b ← meaningOf context table back frames
        return a ++ b) := by
  unfold join
  split
  · rw [meaningOf_append, meaningOf_appendText, seq_assoc]
    rfl
  · exact meaningOf_append context table front _ frames

end Node

-- ---------------------------------------------------------------------------
-- Templates
-- ---------------------------------------------------------------------------

namespace Template

theorem compile_eq_ofPieces (source : String) :
    compile source = (Node.ofPieces 0 (Piece.cut source.toList)).map mk := by
  rw [compile, Node.ofPieces, Token.scan]
  cases Token.ofPieces 0 (Piece.cut source.toList) <;> rfl

theorem compile_append_eq {front back : String} {first : Template} (h : compile front = .ok first)
    (hborder : ¬Text.OpensAcross front.toList back.toList) :
    compile (front ++ back) =
      ((compile back).map fun second => mk (Node.join first.nodes
        (Node.relocateAll (Text.byteSize front.toList + ·) second.nodes))).mapError
          (CompileError.shift (Text.byteSize front.toList)) := by
  obtain ⟨tokens, hscan, hnodes⟩ := bind_ok.mp h
  obtain ⟨nodes, hread, rfl⟩ := map_ok.mp hnodes
  have hcut := Piece.cut_append (Token.isWhole_of_ofPieces hscan) hborder
  -- Scanning and reading both take the second text as if it began at the end of the first.
  have hjoin : Node.ofPieces 0 (Piece.join (Piece.cut front.toList) (Piece.cut back.toList)) =
      (Node.ofPieces (Text.byteSize front.toList + 0) (Piece.cut back.toList)).map
        (Node.join nodes) := by
    rw [Node.ofPieces_join hscan, Piece.flatMap_source_cut, Node.ofPieces, Nat.add_zero]
    simp only [Node.ofTokens_append hread]
    cases Token.ofPieces (Text.byteSize front.toList) (Piece.cut back.toList) <;> rfl
  rw [compile_eq_ofPieces, compile_eq_ofPieces, String.toList_append, hcut, hjoin,
    Node.ofPieces_add]
  cases Node.ofPieces 0 (Piece.cut back.toList) <;> rfl

/-- A template text followed by another is compiled if the other is. Then its nodes are those of the
two, and it writes what the two write, up to the first error. If not, the error is that of the
second text. The bytes of the first text count for all places in the second. -/
theorem compile_append {front back : String} {first : Template} (h : compile front = .ok first)
    (hborder : ¬Text.OpensAcross front.toList back.toList) :
    let bytes := Text.byteSize front.toList
    match compile back with
    | .error error => compile (front ++ back) = .error (error.shift bytes)
    | .ok second =>
      ∃ whole, compile (front ++ back) = .ok whole ∧
        whole.nodes = Node.join first.nodes (Node.relocateAll (bytes + ·) second.nodes) ∧
        ∀ context table, (whole.render context table).result =
          (do
            let a ← (first.render context table).result
            let b ← (second.render context table).result.mapError (RenderError.relocate (bytes + ·))
            return a ++ b) := by
  intro bytes
  have happend := compile_append_eq h hborder
  cases hback : compile back with
  | error error =>
    rw [happend, hback]
    rfl
  | ok second =>
    rw [hback] at happend
    refine ⟨_, happend, rfl, fun context table => ?_⟩
    rw [render, render, render, renderNodes_result, renderNodes_result, renderNodes_result,
      Node.meaningOf_join, Node.meaningOf_relocate]

theorem compile_append_literals :
    let front := "\u00e9\x7b\x7b x \x7d\x7da\x7b"
    let back := " b\x7b\x7b y|f \x7d\x7d"
    ¬Text.OpensAcross front.toList back.toList ∧
      ∃ first second whole, compile front = .ok first ∧ compile back = .ok second ∧
        compile (front ++ back) = .ok whole ∧
        whole.nodes = [.literal "\u00e9", .output ⟨"x", []⟩ [] 2, .literal "a\x7b b",
          .output ⟨"y", []⟩ ["f"] 13] ∧
        (whole.render [("x", .string "1")] []).result = .error (.unknownFilter "f" 13) := by
  have hfront : compile "\u00e9\x7b\x7b x \x7d\x7da\x7b" =
      .ok ⟨[.literal "\u00e9", .output ⟨"x", []⟩ [] 2, .literal "a\x7b"]⟩ := rfl
  have hback : compile " b\x7b\x7b y|f \x7d\x7d" =
      .ok ⟨[.literal " b", .output ⟨"y", []⟩ ["f"] 2]⟩ := rfl
  have hborder : ¬Text.OpensAcross "\u00e9\x7b\x7b x \x7d\x7da\x7b".toList
      " b\x7b\x7b y|f \x7d\x7d".toList := by decide
  have happend := compile_append hfront hborder
  rw [hback] at happend
  obtain ⟨whole, hwhole, hnodes, hrender⟩ := happend
  intro front back
  refine ⟨hborder, _, _, whole, hfront, hback, hwhole, hnodes, ?_⟩
  rw [hrender]
  rfl

end Template

end Stencil
