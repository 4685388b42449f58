import Stencil.Proofs.Scanning

/-!
# Tiling

The tokens of a text lie in it side by side, and where one ends and the next begins is settled by
the text alone. A tiling is a list of places that may be those of tokens: plain text holds no
opening delimiter and leaves no half of one at its end, and a tag ends at the first closing
delimiter after its opening one. A text that can be scanned has one tiling, that of its tokens.
-/

namespace Stencil

namespace Text

/-- The characters of a text from one place up to another, both of which are between characters. -/
def Slice (source : List Char) (span : Span) (part : List Char) : Prop :=
  ∃ front back, source = front ++ part ++ back ∧ byteSize front = span.start ∧
    byteSize (front ++ part) = span.stop

/-- Of two beginnings of a text, the one with more bytes continues the other. -/
theorem exists_append_of_byteSize_le {a b c d : List Char} (h : a ++ b = c ++ d)
    (hsize : byteSize a ≤ byteSize c) : ∃ middle, c = a ++ middle ∧ b = middle ++ d := by
  rcases List.append_eq_append_iff.mp h with hmiddle | ⟨rest, rfl, rfl⟩
  · exact hmiddle
  · cases rest with
    | nil => exact ⟨[], by simp, by simp⟩
    | cons first rest =>
      have hfirst := first.utf8Size_pos
      simp only [byteSize_append, byteSize_cons] at hsize
      omega

theorem append_inj_of_byteSize {a b c d : List Char} (h : a ++ b = c ++ d)
    (hsize : byteSize a = byteSize c) : a = c ∧ b = d := by
  obtain ⟨middle, rfl, rfl⟩ := exists_append_of_byteSize_le h hsize.le
  cases middle with
  | nil => exact ⟨by simp, by simp⟩
  | cons first rest =>
    have hfirst := first.utf8Size_pos
    simp only [byteSize_append, byteSize_cons] at hsize
    omega

theorem Slice.eq_of_start {front rest : List Char} {span : Span} {part : List Char}
    (h : Slice (front ++ rest) span part) (hstart : span.start = byteSize front) :
    ∃ back, rest = part ++ back ∧ span = ⟨byteSize front, byteSize front + byteSize part⟩ := by
  obtain ⟨before, back, hsource, hbefore, hstop⟩ := h
  rw [List.append_assoc] at hsource
  obtain ⟨rfl, rfl⟩ := append_inj_of_byteSize hsource (hstart.symm.trans hbefore.symm)
  obtain ⟨start, stop⟩ := span
  refine ⟨back, rfl, ?_⟩
  rw [byteSize_append] at hstop
  simp_all

theorem Slice.unique {source : List Char} {span : Span} {a b : List Char}
    (ha : Slice source span a) (hb : Slice source span b) : a = b := by
  obtain ⟨front, back, rfl, hstart, hstop⟩ := ha
  rw [List.append_assoc] at hb
  obtain ⟨after, hrest, rfl⟩ := hb.eq_of_start hstart.symm
  have hsize : byteSize a = byteSize b := by simpa using hstop
  exact (append_inj_of_byteSize hrest hsize).1

end Text

structure Stretch where
  delimiter? : Option Delimiter
  span : Span

def Token.stretch (token : Token) : Stretch :=
  ⟨token.kind.delimiter?, token.span⟩

namespace Stretch

/-- What a stretch is by itself. Plain text opens no tag. A tag begins with its opening delimiter
and ends with the closing one that begins first at the end of the opening one or after it. -/
def Fits (source : List Char) (stretch : Stretch) : Prop :=
  stretch.span.start < stretch.span.stop ∧
    match stretch.delimiter? with
    | none => ∃ part, Text.Slice source stretch.span part ∧
        ∀ delimiter : Delimiter, ¬delimiter.opening.toList <:+: part
    | some delimiter =>
      (∃ body, Text.Slice source stretch.span
        (delimiter.opening.toList ++ body ++ delimiter.closing.toList)) ∧
      ∀ front back, source = front ++ delimiter.closing.toList ++ back →
        stretch.span.start + Text.byteSize delimiter.opening.toList ≤ Text.byteSize front →
          stretch.span.stop ≤ Text.byteSize (front ++ delimiter.closing.toList)

/-- Whether one stretch may stand before another: plain text only before a tag, and then not with a
brace at its end. -/
def Before (source : List Char) (a b : Stretch) : Prop :=
  a.delimiter? = none →
    b.delimiter? ≠ none ∧ ∀ part, Text.Slice source a.span part → part.getLast? ≠ some '\x7b'

end Stretch

/-- Stretches that cover a text from `offset` on, each beginning where the one before it ends. -/
structure Tiles (source : List Char) (offset : Nat) (stretches : List Stretch) : Prop where
  contiguous : offset :: stretches.map (·.span.stop) =
    stretches.map (·.span.start) ++ [Text.byteSize source]
  fits : ∀ stretch ∈ stretches, stretch.Fits source
  before : stretches.IsChain (Stretch.Before source)

-- ---------------------------------------------------------------------------
-- Pieces as stretches
-- ---------------------------------------------------------------------------

namespace Piece

def stretch (offset : Nat) (piece : Piece) : Stretch :=
  ⟨piece.delimiter?, ⟨offset, offset + piece.size⟩⟩

def stretches (offset : Nat) : List Piece → List Stretch
  | [] => []
  | piece :: pieces => piece.stretch offset :: stretches (offset + piece.size) pieces

theorem slice_source (front back : List Char) (piece : Piece) :
    Text.Slice (front ++ (piece.source ++ back)) (piece.stretch (Text.byteSize front)).span
      piece.source :=
  ⟨front, back, by simp, rfl, by simp [stretch, size]⟩

theorem proper_tag_iff (front back : List Char) {delimiter : Delimiter} {body : List Char} :
    (tag delimiter body).Proper ↔ ∀ before after,
      front ++ ((tag delimiter body).source ++ back) =
          before ++ delimiter.closing.toList ++ after →
        Text.byteSize front + Text.byteSize delimiter.opening.toList ≤ Text.byteSize before →
          Text.byteSize front + (tag delimiter body).size ≤
            Text.byteSize (before ++ delimiter.closing.toList) := by
  have hclosing : delimiter.closing.toList = [delimiter.innerClose] ++ ['\x7d'] :=
    delimiter.toList_closing
  rw [size, source_tag]
  constructor
  · intro h before after hsource hstart
    by_contra hshort
    have hparts : (front ++ delimiter.opening.toList) ++
        (body ++ delimiter.closing.toList ++ back) =
          before ++ (delimiter.closing.toList ++ after) := by simpa using hsource
    obtain ⟨inside, rfl, hinside⟩ :=
      Text.exists_append_of_byteSize_le hparts (by simpa using hstart)
    -- A delimiter that begins inside the body ends before the one that ends the tag does.
    have hends : (inside ++ delimiter.closing.toList) ++ after =
        (body ++ [delimiter.innerClose]) ++ '\x7d' :: back := by
      simpa [hclosing] using hinside.symm
    have hsize : Text.byteSize (inside ++ delimiter.closing.toList) ≤
        Text.byteSize (body ++ [delimiter.innerClose]) := by
      simp at hshort ⊢
      omega
    obtain ⟨rest, hrest, -⟩ := Text.exists_append_of_byteSize_le hends hsize
    exact h ⟨inside, rest, hrest.symm⟩
  · rintro h ⟨inside, rest, hbody⟩
    have hsize := congrArg Text.byteSize hbody
    have hfirst := h (front ++ delimiter.opening.toList ++ inside) (rest ++ '\x7d' :: back) ?_ ?_
    · simp at hfirst hsize
      omega
    · have : body ++ delimiter.closing.toList ++ back =
          inside ++ delimiter.closing.toList ++ rest ++ '\x7d' :: back := by
        rw [hbody, hclosing]
        simp
      simp only [List.append_assoc, List.append_cancel_left_eq] at this ⊢
      exact this
    · simp

theorem fits_stretch (front back : List Char) {piece : Piece} (h : piece.Proper)
    (hwhole : piece.IsWhole) :
    (piece.stretch (Text.byteSize front)).Fits (front ++ (piece.source ++ back)) := by
  have hslice := slice_source front back piece
  have hsize : 0 < piece.size := Text.byteSize_pos (source_ne_nil_of_proper h)
  refine ⟨Nat.lt_add_of_pos_right hsize, ?_⟩
  cases piece with
  | text content => exact ⟨content, hslice, h.2⟩
  | tag delimiter body =>
    refine ⟨⟨body, ?_⟩, (proper_tag_iff front back).mp h⟩
    rw [← source_tag]
    exact hslice
  | unterminated delimiter body => exact hwhole.elim

theorem exists_piece_of_fits {front rest : List Char} {stretch : Stretch}
    (h : stretch.Fits (front ++ rest)) (hstart : stretch.span.start = Text.byteSize front) :
    ∃ (piece : Piece) (back : List Char), rest = piece.source ++ back ∧ piece.Proper ∧
      piece.IsWhole ∧ stretch = piece.stretch (Text.byteSize front) := by
  obtain ⟨hne, hfits⟩ := h
  obtain ⟨delimiter?, span⟩ := stretch
  cases delimiter? with
  | none =>
    obtain ⟨part, hslice, hplain⟩ := hfits
    obtain ⟨back, rfl, rfl⟩ := hslice.eq_of_start hstart
    refine ⟨.text part, back, rfl, ⟨?_, hplain⟩, trivial, rfl⟩
    rintro rfl
    simp at hne
  | some delimiter =>
    obtain ⟨⟨body, hslice⟩, hfirst⟩ := hfits
    obtain ⟨back, rfl, rfl⟩ := hslice.eq_of_start hstart
    rw [← source_tag] at hfirst ⊢
    exact ⟨.tag delimiter body, back, rfl, (proper_tag_iff front back).mpr hfirst, trivial, rfl⟩

theorem before_stretch_iff (front back : List Char) {piece next : Piece} (offset : Nat)
    (hpiece : piece.IsWhole) (hnext : next.IsWhole) :
    (piece.stretch (Text.byteSize front)).Before (front ++ (piece.source ++ back))
      (next.stretch offset) ↔ piece.Before next := by
  have hslice := slice_source front back piece
  cases piece with
  | tag delimiter body => exact ⟨fun _ => trivial, nofun⟩
  | unterminated delimiter body => exact hpiece.elim
  | text content =>
    cases next with
    | text other => exact ⟨fun h => ((h rfl).1 rfl).elim, False.elim⟩
    | unterminated delimiter body => exact hnext.elim
    | tag delimiter body =>
      refine ⟨fun h => (h rfl).2 content hslice, fun h _ => ⟨Option.some_ne_none _, ?_⟩⟩
      intro part hpart
      rw [hpart.unique hslice]
      exact h

end Piece

theorem tiles_nil {source : List Char} {offset : Nat} :
    Tiles source offset [] ↔ offset = Text.byteSize source := by
  constructor
  · intro h
    simpa using h.contiguous
  · rintro rfl
    exact ⟨rfl, List.forall_mem_nil _, List.isChain_nil⟩

theorem tiles_cons {source : List Char} {offset : Nat} {stretch : Stretch}
    {stretches : List Stretch} :
    Tiles source offset (stretch :: stretches) ↔
      stretch.span.start = offset ∧ stretch.Fits source ∧
        (∀ next ∈ stretches.head?, stretch.Before source next) ∧
        Tiles source stretch.span.stop stretches := by
  constructor
  · rintro ⟨hcontiguous, hfits, hbefore⟩
    obtain ⟨hstart, hrest⟩ := List.cons.inj hcontiguous
    obtain ⟨hfit, hfits⟩ := List.forall_mem_cons.mp hfits
    obtain ⟨hnext, hbefore⟩ := List.isChain_cons.mp hbefore
    exact ⟨hstart.symm, hfit, hnext, hrest, hfits, hbefore⟩
  · rintro ⟨rfl, hfit, hnext, hrest, hfits, hbefore⟩
    refine ⟨?_, List.forall_mem_cons.mpr ⟨hfit, hfits⟩, List.isChain_cons.mpr ⟨hnext, hbefore⟩⟩
    rw [List.map_cons, List.map_cons, List.cons_append, hrest]

/-- A tiling is where the pieces of a leftmost cut lie of which every tag is closed. -/
theorem tiles_iff (front : List Char) {rest : List Char} {stretches : List Stretch} :
    Tiles (front ++ rest) (Text.byteSize front) stretches ↔
      ∃ pieces, Piece.Leftmost pieces ∧ (∀ piece ∈ pieces, piece.IsWhole) ∧
        pieces.flatMap Piece.source = rest ∧
        stretches = Piece.stretches (Text.byteSize front) pieces := by
  constructor
  · intro h
    induction stretches generalizing front rest with
    | nil =>
      have hsize := tiles_nil.mp h
      have hrest : rest = [] := by
        by_contra hne
        have hpos := Text.byteSize_pos hne
        rw [Text.byteSize_append] at hsize
        omega
      exact ⟨[], Piece.leftmost_nil, List.forall_mem_nil _, hrest.symm, rfl⟩
    | cons stretch stretches ih =>
      obtain ⟨hstart, hfits, hnext, htail⟩ := tiles_cons.mp h
      obtain ⟨piece, back, rfl, hproper, hwhole, rfl⟩ := Piece.exists_piece_of_fits hfits hstart
      have hplace : (piece.stretch (Text.byteSize front)).span.stop =
          Text.byteSize (front ++ piece.source) := (Text.byteSize_append _ _).symm
      rw [hplace, ← List.append_assoc] at htail
      obtain ⟨pieces, hpieces, hall, rfl, rfl⟩ := ih _ htail
      refine ⟨piece :: pieces, Piece.leftmost_cons.mpr ⟨hproper, ?_, hpieces⟩,
        List.forall_mem_cons.mpr ⟨hwhole, hall⟩, rfl, ?_⟩
      · intro next hn
        obtain ⟨others, rfl⟩ := List.head?_eq_some_iff.mp hn
        exact (Piece.before_stretch_iff front _ _ hwhole (hall next (by simp))).mp (hnext _ rfl)
      · rw [Piece.stretches, Text.byteSize_append]
        rfl
  · rintro ⟨pieces, hpieces, hall, rfl, rfl⟩
    induction pieces generalizing front with
    | nil => exact tiles_nil.mpr (by simp)
    | cons piece pieces ih =>
      obtain ⟨hproper, hnext, hleftmost⟩ := Piece.leftmost_cons.mp hpieces
      obtain ⟨hwhole, hothers⟩ := List.forall_mem_cons.mp hall
      rw [List.flatMap_cons, Piece.stretches]
      refine tiles_cons.mpr ⟨rfl, Piece.fits_stretch front _ hproper hwhole, ?_, ?_⟩
      · intro next hn
        cases pieces with
        | nil => cases hn
        | cons other pieces =>
          cases hn
          exact (Piece.before_stretch_iff front _ _ hwhole (hothers other (by simp))).mpr
            (hnext other rfl)
      · have htail := ih (front ++ piece.source) hleftmost hothers
        rwa [List.append_assoc, Text.byteSize_append] at htail

-- ---------------------------------------------------------------------------
-- Tokens as stretches
-- ---------------------------------------------------------------------------

namespace Token

theorem map_stretch_ofPieces {offset : Nat} {pieces : List Piece} {tokens : List Token}
    (h : ofPieces offset pieces = .ok tokens) :
    tokens.map stretch = Piece.stretches offset pieces := by
  induction pieces generalizing offset tokens with
  | nil =>
    cases h
    rfl
  | cons piece pieces ih =>
    obtain ⟨kind, others, hkind, hothers, rfl⟩ := ofPieces_cons_ok.mp h
    rw [List.map_cons, ih hothers, stretch, (TokenKind.delimiter?_of_ofPiece hkind).2]
    rfl

theorem tiles_scan {source : List Char} {tokens : List Token} (h : scan source = .ok tokens) :
    Tiles source 0 (tokens.map stretch) := by
  exact (tiles_iff []).mpr ⟨Piece.cut source, Piece.leftmost_cut source, isWhole_of_ofPieces h,
    Piece.flatMap_source_cut source, map_stretch_ofPieces h⟩

theorem slice_of_literal {source : List Char} {tokens : List Token} (h : scan source = .ok tokens)
    {token : Token} (ht : token ∈ tokens) {text : String} (hkind : token.kind = .literal text) :
    Text.Slice source token.span text.toList := by
  obtain ⟨front, piece, back, hcut, hstart, hstop, hread⟩ := mem_ofPieces h ht
  rw [hkind] at hread
  have hpiece : piece = .text text.toList := by
    have hdelimiter := (TokenKind.delimiter?_of_ofPiece hread).2
    cases piece with
    | text content =>
      cases hread
      rw [String.toList_ofList]
    | _ => cases hdelimiter
  subst hpiece
  have hsource := Piece.flatMap_source_cut source
  rw [hcut, List.flatMap_append, List.flatMap_cons] at hsource
  refine ⟨front.flatMap Piece.source, back.flatMap Piece.source, ?_, ?_, ?_⟩
  · rw [← hsource, List.append_assoc]
    rfl
  · rw [hstart, Nat.zero_add]
  · rw [Text.byteSize_append, hstop, hstart, Nat.zero_add]
    rfl

/-- The tokens of a text tile it, plain text is what stands in its place, and there is no other
tiling. -/
theorem scan_tiles {source : List Char} {tokens : List Token} (h : scan source = .ok tokens) :
    Tiles source 0 (tokens.map stretch) ∧
      (∀ token ∈ tokens, ∀ text, token.kind = .literal text →
        Text.Slice source token.span text.toList) ∧
      ∀ stretches, Tiles source 0 stretches → stretches = tokens.map stretch := by
  refine ⟨tiles_scan h, fun token ht text hkind => slice_of_literal h ht hkind, ?_⟩
  intro stretches htiles
  obtain ⟨pieces, hleftmost, -, hsource, rfl⟩ :=
    (tiles_iff []).mp htiles
  rw [map_stretch_ofPieces h, ← hsource, Piece.cut_flatMap_source hleftmost]
  rfl

theorem scan_tiles_braces :
    let source := "\u00e9\x7b \x7b\x7b x \x7d\x7d\x7d\x7b% endif %\x7d".toList
    ∃ tokens, scan source = .ok tokens ∧
      (∃ token ∈ tokens, token.kind = .literal "\x7d" ∧ Text.Slice source token.span ['\x7d']) ∧
      Tiles source 0 [⟨none, ⟨0, 4⟩⟩, ⟨some .output, ⟨4, 11⟩⟩, ⟨none, ⟨11, 12⟩⟩,
        ⟨some .block, ⟨12, 23⟩⟩] ∧
      ∀ stretches, Tiles source 0 stretches → stretches = tokens.map stretch := by
  intro source
  have hscan : scan source = .ok [⟨.literal "\u00e9\x7b ", ⟨0, 4⟩⟩,
      ⟨.output ⟨"x", []⟩ [], ⟨4, 11⟩⟩, ⟨.literal "\x7d", ⟨11, 12⟩⟩,
      ⟨.closing .endChoice, ⟨12, 23⟩⟩] := rfl
  obtain ⟨htiles, hslice, hunique⟩ := scan_tiles hscan
  have hbrace := hslice ⟨.literal "\x7d", ⟨11, 12⟩⟩ (by simp) "\x7d" rfl
  exact ⟨_, hscan, ⟨_, by simp, rfl, hbrace⟩, htiles, hunique⟩

end Token

end Stencil
