import Stencil.Tag
import Stencil.Text.Position

/-!
# Pieces

The first cut of a template text: stretches of plain text and delimited bodies, not yet read. A
tag opens at the first `{` that another `{` or a `%` follows and closes at the first closing
delimiter after that. The main statement is that the pieces put together are the text.
-/

namespace Stencil

/-- A stretch of a template text. A tag that nothing closes takes all that follows its opening. -/
inductive Piece where
  | text (content : List Char)
  | tag (delimiter : Delimiter) (body : List Char)
  | unterminated (delimiter : Delimiter) (body : List Char)
  deriving DecidableEq, Repr

namespace Piece

def source : Piece → List Char
  | .text content => content
  | .tag delimiter body => '{' :: delimiter.inner :: body ++ [delimiter.innerClose, '}']
  | .unterminated delimiter body => '{' :: delimiter.inner :: body

def size (piece : Piece) : Nat :=
  Text.byteSize piece.source

def consText (c : Char) : List Piece → List Piece
  | .text content :: pieces => .text (c :: content) :: pieces
  | pieces => .text [c] :: pieces

def consTag (delimiter : Delimiter) : List Char × Option (List Piece) → List Piece
  | (body, some pieces) => .tag delimiter body :: pieces
  | (body, none) => [.unterminated delimiter body]

mutual

/-- Cuts a text that begins outside every tag. -/
def cut : List Char → List Piece
  | [] => []
  | '{' :: '{' :: rest => consTag .output (cutTag .output rest)
  | '{' :: '%' :: rest => consTag .block (cutTag .block rest)
  | c :: rest => consText c (cut rest)

/-- Cuts a text that begins inside a tag: the rest of the tag's body, and the pieces after the
tag if something closes it. -/
def cutTag (delimiter : Delimiter) : List Char → List Char × Option (List Piece)
  | [] => ([], none)
  | [c] => ([c], none)
  | c :: d :: rest =>
    if c = delimiter.innerClose ∧ d = '}' then
      ([], some (cut rest))
    else
      let found := cutTag delimiter (d :: rest)
      (c :: found.1, found.2)

end

theorem flatMap_source_consText (c : Char) (pieces : List Piece) :
    (consText c pieces).flatMap source = c :: pieces.flatMap source := by
  unfold consText
  split <;> simp [source]

theorem flatMap_source_consTag (delimiter : Delimiter) (c : Char)
    (found : List Char × Option (List Piece)) :
    (consTag delimiter (c :: found.1, found.2)).flatMap source =
      '{' :: delimiter.inner :: c :: ((consTag delimiter found).flatMap source).drop 2 := by
  obtain ⟨body, after⟩ := found
  cases after <;> simp [consTag, source]

/-- The pieces put together are the text that was cut. -/
theorem flatMap_source_cut (text : List Char) : (cut text).flatMap source = text := by
  induction text using cut.induct (motive_2 := fun delimiter text =>
    (consTag delimiter (cutTag delimiter text)).flatMap source =
      '{' :: delimiter.inner :: text) with
  | case1 => rfl
  | case2 rest ih => simpa [cut, Delimiter.inner] using ih
  | case3 rest ih => simpa [cut, Delimiter.inner] using ih
  | case4 c rest hv hb ih => rw [cut, flatMap_source_consText, ih] <;> assumption
  | case5 delimiter => rfl
  | case6 delimiter c => rfl
  | case7 delimiter c d rest h ih => simp [cutTag, h, consTag, source, ih]
  | case8 delimiter c d rest h ih =>
    rw [cutTag, if_neg h, flatMap_source_consTag, ih]
    rfl

end Piece

end Stencil
