import Stencil.Proofs.Cutting
import Stencil.Proofs.Outcome
import Stencil.Token.Reader

/-!
# Scanning

Where the tokens stand that are read from the pieces of a text. Pieces are read one after the
other, each from where the one before it ends, so a token begins where its piece begins and no two
tokens begin at the same place. The tokens before one that stands somewhere, or before the piece at
fault, are those of the text up to there.
-/

namespace Stencil

def TokenKind.delimiter? : TokenKind → Option Delimiter
  | .literal _ => none
  | .output .. => some .output
  | .opening _ | .branch _ | .closing _ | .named _ => some .block

namespace Piece

def delimiter? : Piece → Option Delimiter
  | .text _ => none
  | .tag delimiter _ => some delimiter
  | .unterminated delimiter _ => some delimiter

def IsWhole : Piece → Prop
  | .unterminated .. => False
  | _ => True

theorem source_of_delimiter? {piece : Piece} {delimiter : Delimiter}
    (h : piece.delimiter? = some delimiter) :
    ∃ rest, piece.source = delimiter.opening.toList ++ rest := by
  cases piece with
  | text content => cases h
  | tag other body =>
    cases h
    exact ⟨_, by rw [source_tag, List.append_assoc]⟩
  | unterminated other body =>
    cases h
    exact ⟨body, source_unterminated delimiter body⟩

end Piece

namespace TokenKind

theorem delimiter?_of_readArguments {tag : Tag} {arguments : List String} {kind : TokenKind}
    (h : readArguments tag arguments = .ok kind) : kind.delimiter? = some .block := by
  revert h
  fun_cases readArguments tag arguments
  case case1 | case6 | case7 =>
    intro h
    obtain ⟨_, _, rfl⟩ := map_ok.mp h
    rfl
  all_goals
    rintro ⟨⟩
    try rfl

theorem delimiter?_of_ofPiece {offset : Nat} {piece : Piece} {kind : TokenKind}
    (h : ofPiece offset piece = .ok kind) : piece.IsWhole ∧ kind.delimiter? = piece.delimiter? := by
  cases piece with
  | text content =>
    cases h
    exact ⟨trivial, rfl⟩
  | unterminated delimiter body => cases h
  | tag delimiter body =>
    refine ⟨trivial, ?_⟩
    cases delimiter with
    | output =>
      rw [ofPiece, mapError_ok] at h
      simp only [readOutput] at h
      split at h
      · cases h
      · obtain ⟨filters, -, rfl⟩ := map_ok.mp h
        rfl
    | block =>
      rw [ofPiece, readWords.eq_def] at h
      split at h
      · cases h
      · split at h
        · cases h
        · exact delimiter?_of_readArguments (mapError_ok.mp h)

end TokenKind

-- ---------------------------------------------------------------------------
-- Reading pieces
-- ---------------------------------------------------------------------------

namespace Token

variable {offset : Nat} {tokens : List Token}

theorem ofPieces_cons (offset : Nat) (piece : Piece) (pieces : List Piece) :
    ofPieces offset (piece :: pieces) =
      (TokenKind.ofPiece offset piece).bind fun kind =>
        (ofPieces (offset + piece.size) pieces).map
          (⟨kind, ⟨offset, offset + piece.size⟩⟩ :: ·) := by
  rw [ofPieces]
  cases TokenKind.ofPiece offset piece <;> rfl

theorem ofPieces_cons_ok {piece : Piece} {pieces : List Piece} :
    ofPieces offset (piece :: pieces) = .ok tokens ↔
      ∃ kind others, TokenKind.ofPiece offset piece = .ok kind ∧
        ofPieces (offset + piece.size) pieces = .ok others ∧
        tokens = ⟨kind, ⟨offset, offset + piece.size⟩⟩ :: others := by
  simp only [ofPieces_cons, bind_ok, map_ok]
  constructor
  · rintro ⟨kind, hkind, others, hothers, rfl⟩
    exact ⟨kind, others, hkind, hothers, rfl⟩
  · rintro ⟨kind, others, hkind, hothers, rfl⟩
    exact ⟨kind, hkind, others, hothers, rfl⟩

theorem ofPieces_append (offset : Nat) (front back : List Piece) :
    ofPieces offset (front ++ back) =
      (ofPieces offset front).bind fun before =>
        (ofPieces (offset + Text.byteSize (front.flatMap Piece.source)) back).map
          (before ++ ·) := by
  induction front generalizing offset with
  | nil =>
    rw [List.nil_append, List.flatMap_nil, Text.byteSize_nil, Nat.add_zero]
    cases ofPieces offset back <;> rfl
  | cons piece front ih =>
    have hplace : offset + Text.byteSize ((piece :: front).flatMap Piece.source) =
        offset + piece.size + Text.byteSize (front.flatMap Piece.source) := by
      rw [List.flatMap_cons, Text.byteSize_append, Nat.add_assoc]
      rfl
    rw [List.cons_append, ofPieces_cons, ofPieces_cons, hplace]
    cases TokenKind.ofPiece offset piece with
    | error error => rfl
    | ok kind =>
      simp only [ih]
      cases ofPieces (offset + piece.size) front with
      | error error => rfl
      | ok before =>
        simp only [Except.bind, Except.map]
        cases ofPieces (offset + piece.size + Text.byteSize (front.flatMap Piece.source)) back <;>
          rfl

theorem isWhole_of_ofPieces {pieces : List Piece} (h : ofPieces offset pieces = .ok tokens) :
    ∀ piece ∈ pieces, piece.IsWhole := by
  induction pieces generalizing offset tokens with
  | nil => exact List.forall_mem_nil _
  | cons piece pieces ih =>
    obtain ⟨kind, others, hkind, hothers, -⟩ := ofPieces_cons_ok.mp h
    exact List.forall_mem_cons.mpr ⟨(TokenKind.delimiter?_of_ofPiece hkind).1, ih hothers⟩

theorem exists_piece_of_ofPieces {pieces : List Piece} {before : List Token} {token : Token}
    {after : List Token} (h : ofPieces offset pieces = .ok (before ++ token :: after)) :
    ∃ front piece back, pieces = front ++ piece :: back ∧ ofPieces offset front = .ok before ∧
      token.span.start = offset + Text.byteSize (front.flatMap Piece.source) ∧
      token.span.stop = token.span.start + piece.size ∧
      TokenKind.ofPiece token.span.start piece = .ok token.kind := by
  induction before generalizing offset pieces with
  | nil =>
    cases pieces with
    | nil => cases h
    | cons piece pieces =>
      obtain ⟨kind, others, hkind, -, htokens⟩ := ofPieces_cons_ok.mp h
      obtain ⟨rfl, rfl⟩ := List.cons.inj htokens
      exact ⟨[], piece, pieces, rfl, rfl, rfl, rfl, hkind⟩
  | cons first before ih =>
    cases pieces with
    | nil => cases h
    | cons piece pieces =>
      obtain ⟨kind, others, hkind, hothers, htokens⟩ := ofPieces_cons_ok.mp h
      obtain ⟨rfl, rfl⟩ := List.cons.inj htokens
      obtain ⟨front, found, back, rfl, hfront, hstart, hstop, hread⟩ := ih hothers
      refine ⟨piece :: front, found, back, rfl, ?_, ?_, hstop, hread⟩
      · exact ofPieces_cons_ok.mpr ⟨kind, before, hkind, hfront, rfl⟩
      · rw [hstart, List.flatMap_cons, Text.byteSize_append, Nat.add_assoc]
        rfl

theorem exists_piece_of_ofPieces_error {pieces : List Piece} {error : CompileError}
    (h : ofPieces offset pieces = .error error) :
    ∃ front piece back before, pieces = front ++ piece :: back ∧
      ofPieces offset front = .ok before ∧
      TokenKind.ofPiece (offset + Text.byteSize (front.flatMap Piece.source)) piece =
        .error error := by
  induction pieces generalizing offset with
  | nil => cases h
  | cons piece pieces ih =>
    rw [ofPieces_cons, bind_error] at h
    rcases h with hkind | ⟨kind, hkind, hothers⟩
    · exact ⟨[], piece, pieces, [], rfl, rfl, hkind⟩
    · obtain ⟨front, found, back, before, rfl, hfront, hread⟩ := ih (map_error.mp hothers)
      refine ⟨piece :: front, found, back, _, rfl,
        ofPieces_cons_ok.mpr ⟨kind, before, hkind, hfront, rfl⟩, ?_⟩
      rw [← hread, List.flatMap_cons, Text.byteSize_append, Nat.add_assoc]
      rfl

theorem mem_ofPieces {pieces : List Piece} (h : ofPieces offset pieces = .ok tokens)
    {token : Token} (ht : token ∈ tokens) :
    ∃ front piece back, pieces = front ++ piece :: back ∧
      token.span.start = offset + Text.byteSize (front.flatMap Piece.source) ∧
      token.span.stop = token.span.start + piece.size ∧
      TokenKind.ofPiece token.span.start piece = .ok token.kind := by
  obtain ⟨before, after, rfl⟩ := List.append_of_mem ht
  obtain ⟨front, piece, back, hpieces, -, hread⟩ := exists_piece_of_ofPieces h
  exact ⟨front, piece, back, hpieces, hread⟩

end Token

-- ---------------------------------------------------------------------------
-- Places
-- ---------------------------------------------------------------------------

theorem Text.byteSize_pos {text : List Char} (h : text ≠ []) : 0 < byteSize text := by
  cases text with
  | nil => exact (h rfl).elim
  | cons c text => exact Nat.add_pos_left c.utf8Size_pos _

namespace Token

/-- No piece is empty, so every token begins after the one before it. -/
theorem pairwise_start_ofPieces {offset : Nat} {pieces : List Piece} {tokens : List Token}
    (hne : ∀ piece ∈ pieces, piece.source ≠ []) (h : ofPieces offset pieces = .ok tokens) :
    tokens.Pairwise fun a b => a.span.start < b.span.start := by
  induction pieces generalizing offset tokens with
  | nil =>
    cases h
    exact List.Pairwise.nil
  | cons piece pieces ih =>
    obtain ⟨hpiece, hpieces⟩ := List.forall_mem_cons.mp hne
    obtain ⟨kind, others, -, hothers, rfl⟩ := ofPieces_cons_ok.mp h
    refine List.pairwise_cons.mpr ⟨fun token ht => ?_, ih hpieces hothers⟩
    obtain ⟨front, found, back, -, hstart, -⟩ := mem_ofPieces hothers ht
    have hsize : 0 < piece.size := Text.byteSize_pos hpiece
    simp only [hstart]
    omega

theorem pairwise_start_scan {source : List Char} {tokens : List Token}
    (h : scan source = .ok tokens) : tokens.Pairwise fun a b => a.span.start < b.span.start :=
  pairwise_start_ofPieces (Piece.source_ne_nil_of_mem_cut source) h

theorem eq_of_start_eq {source : List Char} {tokens : List Token} (h : scan source = .ok tokens)
    {a b : Token} (ha : a ∈ tokens) (hb : b ∈ tokens) (hstart : a.span.start = b.span.start) :
    a = b := by
  have hnodup : (tokens.map fun token => token.span.start).Nodup :=
    List.pairwise_map.mpr ((pairwise_start_scan h).imp Nat.ne_of_lt)
  exact List.inj_on_of_nodup_map hnodup ha hb hstart

/-- The text up to a piece has the tokens of the pieces before it. -/
theorem scan_front_of_cut {source : List Char} {front : List Piece} {piece : Piece}
    {back : List Piece} (hcut : Piece.cut source = front ++ piece :: back) {before : List Token}
    (h : ofPieces 0 front = .ok before) :
    source = front.flatMap Piece.source ++ piece.source ++ back.flatMap Piece.source ∧
      scan (front.flatMap Piece.source) = .ok before := by
  constructor
  · have hsource := Piece.flatMap_source_cut source
    rw [hcut] at hsource
    simp [← hsource]
  · rw [scan, Piece.cut_flatMap_source_of_append hcut]
    exact h

/-- The text up to a token has the tokens before it, and goes on with the opening delimiter of the
token, if it has one. -/
theorem exists_front_of_scan {source : List Char} {before : List Token} {token : Token}
    {after : List Token} (h : scan source = .ok (before ++ token :: after)) {delimiter : Delimiter}
    (hd : token.kind.delimiter? = some delimiter) :
    ∃ front back, source = front ++ delimiter.opening.toList ++ back ∧
      Text.byteSize front = token.span.start ∧ scan front = .ok before := by
  obtain ⟨front, piece, back, hcut, hfront, hstart, -, hread⟩ := exists_piece_of_ofPieces h
  rw [(TokenKind.delimiter?_of_ofPiece hread).2] at hd
  obtain ⟨rest, hpiece⟩ := Piece.source_of_delimiter? hd
  obtain ⟨hsource, hscan⟩ := scan_front_of_cut hcut hfront
  refine ⟨front.flatMap Piece.source, rest ++ back.flatMap Piece.source, ?_, ?_, hscan⟩
  · rw [hsource, hpiece]
    simp
  · rw [hstart, Nat.zero_add]

end Token

end Stencil
