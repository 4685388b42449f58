import Stencil.Proofs.Tiling

/-!
# Lines and columns

Which position belongs to which offset. An offset in the UTF-8 form of a text has the position of
the last boundary between characters up to it, and that position counts the line breaks before the
boundary and the characters after the last of them. Read in their order, line first, positions are
the boundaries in theirs, so a position tells which boundary it belongs to.
-/

namespace Stencil.Text

-- ---------------------------------------------------------------------------
-- Boundaries
-- ---------------------------------------------------------------------------

/-- Whether an offset in the UTF-8 form of a text lies between two characters, or at an end. -/
def IsBoundary (text : List Char) (offset : Nat) : Prop :=
  (⟨offset⟩ : String.Pos.Raw).IsValid (String.ofList text)

/-- The characters of a text that end within `offset` bytes. -/
def within : List Char → Nat → List Char
  | [], _ => []
  | c :: text, offset =>
    if c.utf8Size ≤ offset then c :: within text (offset - c.utf8Size) else []

variable {text : List Char} {offset boundary : Nat}

theorem byteSize_eq_utf8ByteSize (text : List Char) :
    byteSize text = (String.ofList text).utf8ByteSize := by
  induction text with
  | nil => rfl
  | cons c text ih =>
    rw [byteSize_cons, ih, String.ofList_cons]
    simp

theorem isBoundary_iff :
    IsBoundary text boundary ↔ ∃ front back, text = front ++ back ∧ byteSize front = boundary := by
  rw [IsBoundary, String.Pos.Raw.isValid_iff_exists_append]
  simp only [String.Pos.Raw.ext_iff, String.byteIdx_rawEndPos]
  constructor
  · rintro ⟨front, back, htext, rfl⟩
    refine ⟨front.toList, back.toList, ?_, ?_⟩
    · simpa using congrArg String.toList htext
    · simp [byteSize_eq_utf8ByteSize]
  · rintro ⟨front, back, rfl, rfl⟩
    exact ⟨String.ofList front, String.ofList back, String.ofList_append,
      byteSize_eq_utf8ByteSize front⟩

theorem byteSize_within_le (text : List Char) (offset : Nat) :
    byteSize (within text offset) ≤ offset := by
  induction text generalizing offset with
  | nil => exact Nat.zero_le offset
  | cons c text ih =>
    rw [within]
    split
    · next hfits =>
      have hrest := ih (offset - c.utf8Size)
      rw [byteSize_cons]
      omega
    · exact Nat.zero_le offset

/-- What is left begins with a character that ends past `offset`. -/
theorem exists_append_within (text : List Char) (offset : Nat) :
    ∃ back, text = within text offset ++ back ∧
      ∀ c ∈ back.head?, offset < byteSize (within text offset) + c.utf8Size := by
  induction text generalizing offset with
  | nil => exact ⟨[], rfl, nofun⟩
  | cons c text ih =>
    rw [within]
    split
    · next hfits =>
      obtain ⟨back, htext, hback⟩ := ih (offset - c.utf8Size)
      refine ⟨back, congrArg (List.cons c) htext, fun d hd => ?_⟩
      have hnext := hback d hd
      rw [byteSize_cons]
      omega
    · next hlong => exact ⟨c :: text, rfl, by simpa using hlong⟩

theorem isGreatest_within (text : List Char) (offset : Nat) :
    IsGreatest {boundary | IsBoundary text boundary ∧ boundary ≤ min offset (byteSize text)}
      (byteSize (within text offset)) := by
  obtain ⟨back, htext, hback⟩ := exists_append_within text offset
  have hsize : byteSize text = byteSize (within text offset) + byteSize back := by
    rw [← byteSize_append, ← htext]
  have hwithin := byteSize_within_le text offset
  refine ⟨⟨isBoundary_iff.mpr ⟨_, back, htext, rfl⟩, by omega⟩, ?_⟩
  rintro boundary ⟨hboundary, hle⟩
  obtain ⟨front, rest, hfront, rfl⟩ := isBoundary_iff.mp hboundary
  by_contra hlonger
  obtain ⟨middle, rfl, rfl⟩ :=
    exists_append_of_byteSize_le (htext.symm.trans hfront) (by omega)
  cases middle with
  | nil => simp at hlonger
  | cons c middle =>
    -- a longer beginning holds the character that ends past the offset
    have hnext := hback c rfl
    simp only [byteSize_append, byteSize_cons] at hle
    omega

-- ---------------------------------------------------------------------------
-- Positions
-- ---------------------------------------------------------------------------

namespace Position

/-- Positions are in the order of their lines, and those of one line in the order of columns. -/
instance : Preorder Position :=
  Preorder.lift fun position => toLex (position.line, position.column)

theorem lt_iff {a b : Position} :
    a < b ↔ a.line < b.line ∨ a.line = b.line ∧ a.column < b.column :=
  Prod.Lex.toLex_lt_toLex

theorem lt_next (position : Position) (c : Char) : position < position.next c := by
  unfold next
  split
  · exact lt_iff.mpr (.inl (Nat.lt_succ_self position.line))
  · exact lt_iff.mpr (.inr ⟨rfl, Nat.lt_succ_self position.column⟩)

theorem lt_foldl_next (position : Position) (h : text ≠ []) :
    position < text.foldl next position := by
  induction text generalizing position with
  | nil => exact absurd rfl h
  | cons c text ih =>
    cases text with
    | nil => exact lt_next position c
    | cons d text =>
      exact (lt_next position c).trans (ih (position.next c) (List.cons_ne_nil d text))

theorem advance_eq_foldl (position : Position) (text : List Char) (offset : Nat) :
    position.advance text offset = (within text offset).foldl next position := by
  induction text generalizing position offset with
  | nil => rfl
  | cons c text ih =>
    rw [advance, within]
    split
    · exact ih (position.next c) (offset - c.utf8Size)
    · rfl

theorem of_append (front back : List Char) :
    of (front ++ back) (byteSize front) = front.foldl next start :=
  advance_append start front back

theorem of_byteSize_within (text : List Char) (offset : Nat) :
    of text (byteSize (within text offset)) = of text offset := by
  obtain ⟨back, htext, -⟩ := exists_append_within text offset
  have hof := of_append (within text offset) back
  rw [← htext] at hof
  exact hof.trans (advance_eq_foldl start text offset).symm

/-- The position after a text, by induction from its end: a line break begins a new line, and any
other character goes on with the last one. -/
theorem foldl_next_start (text : List Char) :
    text.foldl next start =
      ⟨text.count '\n' + 1, (text.rtakeWhile (· ≠ '\n')).length + 1⟩ := by
  induction text using List.reverseRecOn with
  | nil => rfl
  | append_singleton text c ih =>
    rw [List.foldl_append, ih, List.foldl_cons, List.foldl_nil, next, List.rtakeWhile_concat]
    by_cases hc : c = '\n'
    · simp [hc]
    · simp [hc]

theorem strictMonoOn_of (text : List Char) :
    StrictMonoOn (of text) {boundary | IsBoundary text boundary} := by
  intro a ha b hb hlt
  obtain ⟨front, rest, rfl, rfl⟩ := isBoundary_iff.mp ha
  obtain ⟨longer, back, htext, rfl⟩ := isBoundary_iff.mp hb
  obtain ⟨middle, rfl, rfl⟩ := exists_append_of_byteSize_le htext hlt.le
  have hmiddle : middle ≠ [] := by
    rintro rfl
    simp at hlt
  rw [of_append, ← List.append_assoc, of_append, List.foldl_append]
  exact lt_foldl_next _ hmiddle

/-- An offset has the position of the last boundary up to it: one line more than there are line
breaks before that boundary, and one column more than there are characters after the last of them.
Later boundaries have later positions, so no two have the same. -/
theorem of_order_embedding (text : List Char) :
    (∀ offset, ∃ front back, text = front ++ back ∧
      IsGreatest {boundary | IsBoundary text boundary ∧ boundary ≤ min offset (byteSize text)}
        (byteSize front) ∧
      of text offset = of text (byteSize front) ∧
      (of text offset).line = front.count '\n' + 1 ∧
      (of text offset).column = (front.rtakeWhile (· ≠ '\n')).length + 1) ∧
    StrictMonoOn (of text) {boundary | IsBoundary text boundary} ∧
    Set.InjOn (of text) {boundary | IsBoundary text boundary} := by
  refine ⟨fun offset => ?_, strictMonoOn_of text, (strictMonoOn_of text).injOn⟩
  obtain ⟨back, htext, -⟩ := exists_append_within text offset
  refine ⟨within text offset, back, htext, isGreatest_within text offset,
    (of_byteSize_within text offset).symm, ?_⟩
  have hposition : of text offset = (within text offset).foldl next start :=
    advance_eq_foldl start text offset
  rw [hposition, foldl_next_start]
  exact ⟨rfl, rfl⟩

example : (of "a\n\u00e9b".toList 3, of "a\n\u00e9b".toList 9) = (⟨2, 1⟩, ⟨2, 3⟩) := by decide

end Position

end Stencil.Text
