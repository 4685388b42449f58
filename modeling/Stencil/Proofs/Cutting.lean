import Mathlib
import Stencil.Token.Piece

/-!
# Cutting

A cut of a text is known by what its pieces hold. No text holds an opening delimiter, or ends with
the brace that would make one with the piece after it, and a tag holds its closing delimiter only
where it ends. The cut that is made is of that kind, and no other cut of the text is: every tag
begins and ends at the first place where it can.
-/

namespace Stencil

theorem Delimiter.toList_opening (delimiter : Delimiter) :
    delimiter.opening.toList = ['\x7b', delimiter.inner] :=
  String.toList_ofList

theorem Delimiter.toList_closing (delimiter : Delimiter) :
    delimiter.closing.toList = [delimiter.innerClose, '\x7d'] :=
  String.toList_ofList

theorem Delimiter.not_opening_prefix {c : Char} (h : c ≠ '\x7b') (text : List Char)
    (delimiter : Delimiter) : ¬delimiter.opening.toList <+: c :: text := by
  intro hopens
  rw [toList_opening] at hopens
  exact h (List.cons_prefix_cons.mp hopens).1.symm

@[simp] theorem Delimiter.byteSize_opening (delimiter : Delimiter) :
    Text.byteSize delimiter.opening.toList = 2 := by
  cases delimiter <;> rfl

@[simp] theorem Delimiter.byteSize_closing (delimiter : Delimiter) :
    Text.byteSize delimiter.closing.toList = 2 := by
  cases delimiter <;> rfl

@[simp] theorem Delimiter.utf8Size_innerClose (delimiter : Delimiter) :
    delimiter.innerClose.utf8Size = 1 := by
  cases delimiter <;> rfl

theorem Text.not_pair_infix_iff {a b : Char} {text : List Char} :
    ¬[a, b] <:+: text ↔ text.IsChain fun x y => ¬(x = a ∧ y = b) := by
  rw [List.isChain_iff_forall_rel_of_append_cons_cons]
  constructor
  · rintro h x y front back rfl ⟨rfl, rfl⟩
    exact h ⟨front, back, by simp⟩
  · rintro h ⟨front, back, htext⟩
    have hparts : text = front ++ a :: b :: back := by simp [← htext]
    exact h hparts ⟨rfl, rfl⟩

namespace Piece

theorem source_tag (delimiter : Delimiter) (body : List Char) :
    (tag delimiter body).source =
      delimiter.opening.toList ++ body ++ delimiter.closing.toList := by
  simp [source, Delimiter.toList_opening, Delimiter.toList_closing]

theorem source_unterminated (delimiter : Delimiter) (body : List Char) :
    (unterminated delimiter body).source = delimiter.opening.toList ++ body := by
  simp [source, Delimiter.toList_opening]

/-- What a piece is by itself: a text that opens no tag, or a tag that its delimiter closes at the
first place. -/
def Proper : Piece → Prop
  | .text content => content ≠ [] ∧ ∀ delimiter : Delimiter, ¬delimiter.opening.toList <:+: content
  | .tag delimiter body => ¬delimiter.closing.toList <:+: body ++ [delimiter.innerClose]
  | .unterminated delimiter body => ¬delimiter.closing.toList <:+: body

def Before : Piece → Piece → Prop
  | .text _, .text _ => False
  | .text content, _ => content.getLast? ≠ some '\x7b'
  | .tag .., _ => True
  | .unterminated .., _ => False

def Leftmost (pieces : List Piece) : Prop :=
  (∀ piece ∈ pieces, piece.Proper) ∧ pieces.IsChain Before

theorem leftmost_nil : Leftmost [] :=
  ⟨List.forall_mem_nil _, List.isChain_nil⟩

theorem leftmost_cons {piece : Piece} {pieces : List Piece} :
    Leftmost (piece :: pieces) ↔
      piece.Proper ∧ (∀ next ∈ pieces.head?, piece.Before next) ∧ Leftmost pieces := by
  simp only [Leftmost, List.forall_mem_cons, List.isChain_cons]
  tauto

theorem leftmost_append {front back : List Piece} :
    Leftmost (front ++ back) ↔ Leftmost front ∧ Leftmost back ∧
      ∀ last ∈ front.getLast?, ∀ first ∈ back.head?, last.Before first := by
  simp only [Leftmost, List.forall_mem_append, List.isChain_append]
  tauto

-- ---------------------------------------------------------------------------
-- The cut that is made
-- ---------------------------------------------------------------------------

theorem cutTag_cases (delimiter : Delimiter) (text : List Char) :
    (¬delimiter.closing.toList <:+: text ∧ cutTag delimiter text = (text, none)) ∨
      ∃ body rest, text = body ++ delimiter.closing.toList ++ rest ∧
        ¬delimiter.closing.toList <:+: body ++ [delimiter.innerClose] ∧
        cutTag delimiter text = (body, some (cut rest)) := by
  simp only [Delimiter.toList_closing, Text.not_pair_infix_iff]
  induction text with
  | nil => exact .inl ⟨List.isChain_nil, rfl⟩
  | cons c text ih =>
    cases text with
    | nil => exact .inl ⟨List.isChain_singleton c, rfl⟩
    | cons d rest =>
      by_cases hends : c = delimiter.innerClose ∧ d = '\x7d'
      · obtain ⟨rfl, rfl⟩ := hends
        refine .inr ⟨[], rest, rfl, List.isChain_singleton _, ?_⟩
        rw [cutTag, if_pos ⟨rfl, rfl⟩]
      · rw [cutTag, if_neg hends]
        rcases ih with ⟨hopen, hcut⟩ | ⟨body, after, htext, hfirst, hcut⟩
        · exact .inl ⟨List.isChain_cons_cons.mpr ⟨hends, hopen⟩, by rw [hcut]⟩
        · refine .inr ⟨c :: body, after, by rw [htext]; rfl, ?_, by rw [hcut]⟩
          -- What follows `c` in the body or right after it is `d`.
          refine List.isChain_cons.mpr ⟨fun next hn => ?_, hfirst⟩
          obtain rfl : next = d := by
            cases body <;> simp_all
          exact hends

theorem leftmost_consText {c : Char} {pieces : List Piece} (h : Leftmost pieces)
    (hc : ∀ delimiter : Delimiter,
      ¬delimiter.opening.toList <+: c :: pieces.flatMap source) :
    Leftmost (consText c pieces) := by
  unfold consText
  split
  · next content pieces =>
    obtain ⟨⟨hne, hplain⟩, hnext, hpieces⟩ := leftmost_cons.mp h
    refine leftmost_cons.mpr ⟨⟨List.cons_ne_nil c content, fun delimiter => ?_⟩, ?_, hpieces⟩
    · rw [List.infix_cons_iff, not_or]
      refine ⟨fun hopens => hc delimiter ?_, hplain delimiter⟩
      exact hopens.trans (by simp [source, List.cons_prefix_cons])
    · intro next hn
      have hbefore := hnext next hn
      cases next with
      | text other => exact hbefore
      | _ => exact (List.getLast?_cons_of_ne_nil hne).trans_ne hbefore
  · next hnot =>
    refine leftmost_cons.mpr ⟨⟨List.cons_ne_nil c [], fun delimiter hopens => ?_⟩, ?_, h⟩
    · simpa [Delimiter.toList_opening] using hopens.length_le
    · -- The piece after it begins with a brace, so `c` is none.
      intro next hn
      obtain ⟨others, rfl⟩ := List.head?_eq_some_iff.mp hn
      cases next with
      | text content => exact (hnot content others rfl).elim
      | _ =>
        intro hbrace
        obtain rfl : c = '\x7b' := by simpa using hbrace
        exact hc .output (by simp [source, Delimiter.toList_opening, Delimiter.inner])

theorem leftmost_consTag (delimiter : Delimiter) (text : List Char)
    (h : ∀ pieces, (cutTag delimiter text).2 = some pieces → Leftmost pieces) :
    Leftmost (consTag delimiter (cutTag delimiter text)) := by
  rcases cutTag_cases delimiter text with ⟨hopen, hcut⟩ | ⟨body, rest, -, hfirst, hcut⟩
  · rw [hcut]
    exact leftmost_cons.mpr ⟨hopen, nofun, leftmost_nil⟩
  · rw [hcut]
    exact leftmost_cons.mpr ⟨hfirst, fun _ _ => trivial, h _ (by rw [hcut])⟩

theorem source_ne_nil_of_proper {piece : Piece} (h : piece.Proper) : piece.source ≠ [] := by
  cases piece with
  | text content => exact h.1
  | tag delimiter body => exact List.cons_ne_nil _ _
  | unterminated delimiter body => exact List.cons_ne_nil _ _

theorem leftmost_cut (text : List Char) : Leftmost (cut text) := by
  induction text using cut.induct (motive_2 := fun delimiter text =>
    ∀ pieces, (cutTag delimiter text).2 = some pieces → Leftmost pieces) with
  | case1 => exact leftmost_nil
  | case2 rest ih => exact leftmost_consTag .output rest ih
  | case3 rest ih => exact leftmost_consTag .block rest ih
  | case4 c rest hv hb ih =>
    rw [cut]
    · refine leftmost_consText ih fun delimiter hopens => ?_
      rw [flatMap_source_cut] at hopens
      obtain ⟨rest, hrest⟩ := hopens
      simp only [Delimiter.toList_opening, List.cons_append, List.nil_append, List.cons.injEq]
        at hrest
      obtain ⟨rfl, hrest⟩ := hrest
      cases delimiter with
      | output => exact hv rest rfl hrest.symm
      | block => exact hb rest rfl hrest.symm
    · exact hv
    · exact hb
  | case5 delimiter pieces hfound => cases hfound
  | case6 delimiter c pieces hfound => cases hfound
  | case7 delimiter c d rest h ih pieces hfound =>
    rw [cutTag, if_pos h] at hfound
    cases hfound
    exact ih
  | case8 delimiter c d rest h ih pieces hfound =>
    rw [cutTag, if_neg h] at hfound
    exact ih pieces hfound

theorem source_ne_nil_of_mem_cut (text : List Char) : ∀ piece ∈ cut text, piece.source ≠ [] :=
  fun piece hp => source_ne_nil_of_proper ((leftmost_cut text).1 piece hp)

-- ---------------------------------------------------------------------------
-- The only leftmost cut
-- ---------------------------------------------------------------------------

theorem cut_cons_of_not_opening {c : Char} {text : List Char}
    (h : ∀ delimiter : Delimiter, ¬delimiter.opening.toList <+: c :: text) :
    cut (c :: text) = consText c (cut text) := by
  rw [cut]
  · rintro rest rfl rfl
    exact h .output (by simp [Delimiter.toList_opening, Delimiter.inner])
  · rintro rest rfl rfl
    exact h .block (by simp [Delimiter.toList_opening, Delimiter.inner])

theorem consText_of_before {c : Char} {content : List Char} {pieces : List Piece}
    (h : ∀ next ∈ pieces.head?, (text content).Before next) :
    consText c pieces = .text [c] :: pieces := by
  cases pieces with
  | nil => rfl
  | cons next others =>
    cases next with
    | text other => exact (h _ rfl).elim
    | _ => rfl

theorem cut_text_append {content rest : List Char} (h : (text content).Proper)
    (hnext : ∀ next ∈ (cut rest).head?, (text content).Before next) :
    cut (content ++ rest) = .text content :: cut rest := by
  induction content with
  | nil => exact (h.1 rfl).elim
  | cons c content ih =>
    cases content with
    | nil =>
      rw [List.singleton_append, cut_cons_of_not_opening, consText_of_before hnext]
      -- Only a text that nothing follows may end with a brace.
      intro delimiter hopens
      obtain ⟨rfl, hinner⟩ := List.cons_prefix_cons.mp (delimiter.toList_opening ▸ hopens)
      cases hcut : cut rest with
      | nil =>
        have hrest := flatMap_source_cut rest
        rw [hcut, List.flatMap_nil] at hrest
        rw [← hrest] at hinner
        simp at hinner
      | cons next others =>
        have hbefore := hnext next (by rw [hcut]; rfl)
        cases next with
        | text other => exact hbefore
        | _ => exact hbefore rfl
    | cons d content =>
      have hproper : (text (d :: content)).Proper :=
        ⟨List.cons_ne_nil d content, fun delimiter hopens =>
          h.2 delimiter (hopens.trans (List.suffix_cons c (d :: content)).isInfix)⟩
      have hbefore : ∀ next ∈ (cut rest).head?, (text (d :: content)).Before next := by
        intro next hn
        have := hnext next hn
        cases next with
        | text other => exact this
        | _ => exact (List.getLast?_cons_of_ne_nil (List.cons_ne_nil d content)).symm.trans_ne this
      rw [List.cons_append, cut_cons_of_not_opening, ih hproper hbefore, consText]
      intro delimiter hopens
      refine h.2 delimiter (List.IsPrefix.isInfix ?_)
      simpa [Delimiter.toList_opening, List.cons_prefix_cons] using hopens

theorem cutTag_append {delimiter : Delimiter} {body : List Char}
    (h : (tag delimiter body).Proper) (rest : List Char) :
    cutTag delimiter (body ++ delimiter.innerClose :: '\x7d' :: rest) =
      (body, some (cut rest)) := by
  rw [Proper, Delimiter.toList_closing, Text.not_pair_infix_iff] at h
  induction body with
  | nil => rw [List.nil_append, cutTag, if_pos ⟨rfl, rfl⟩]
  | cons c body ih =>
    obtain ⟨hc, hbody⟩ := List.isChain_cons.mp h
    have hread := ih hbody
    cases body with
    | nil =>
      rw [List.nil_append] at hread
      rw [List.singleton_append, cutTag, if_neg (hc _ rfl), hread]
    | cons d body =>
      rw [List.cons_append] at hread
      rw [List.cons_append, List.cons_append, cutTag, if_neg (hc d rfl), hread]

theorem cut_tag_append {delimiter : Delimiter} {body : List Char}
    (h : (tag delimiter body).Proper) (rest : List Char) :
    cut ((tag delimiter body).source ++ rest) = .tag delimiter body :: cut rest := by
  have hcut : cut ((tag delimiter body).source ++ rest) = consTag delimiter
      (cutTag delimiter (body ++ delimiter.innerClose :: '\x7d' :: rest)) := by
    cases delimiter <;> simp [source, Delimiter.inner, cut]
  rw [hcut, cutTag_append h, consTag]

theorem proper_tag (delimiter : Delimiter) {body : List Char} (h : '\x7d' ∉ body) :
    (tag delimiter body).Proper := by
  intro hcloses
  have hcount := hcloses.count_le '\x7d'
  rw [List.count_append, List.count_eq_zero_of_not_mem h] at hcount
  revert hcount
  cases delimiter <;> decide

theorem cut_unterminated_source {delimiter : Delimiter} {body : List Char}
    (h : (unterminated delimiter body).Proper) :
    cut (unterminated delimiter body).source = [.unterminated delimiter body] := by
  have hcut : cut (unterminated delimiter body).source =
      consTag delimiter (cutTag delimiter body) := by
    cases delimiter <;> simp [source, Delimiter.inner, cut]
  rcases cutTag_cases delimiter body with ⟨-, hbody⟩ | ⟨front, rest, rfl, -, -⟩
  · rw [hcut, hbody, consTag]
  · exact (h ⟨front, rest, rfl⟩).elim

theorem cut_flatMap_source {pieces : List Piece} (h : Leftmost pieces) :
    cut (pieces.flatMap source) = pieces := by
  induction pieces with
  | nil => rw [List.flatMap_nil, cut]
  | cons piece pieces ih =>
    obtain ⟨hproper, hnext, hpieces⟩ := leftmost_cons.mp h
    have hrest := ih hpieces
    rw [List.flatMap_cons]
    cases piece with
    | text content =>
      rw [source, cut_text_append hproper (by rwa [hrest]), hrest]
    | tag delimiter body => rw [cut_tag_append hproper, hrest]
    | unterminated delimiter body =>
      cases pieces with
      | nil => rw [List.flatMap_nil, List.append_nil, cut_unterminated_source hproper]
      | cons next others => exact (hnext next rfl).elim

/-- The text of the first pieces of a cut is cut into them. -/
theorem cut_flatMap_source_of_append {text : List Char} {front back : List Piece}
    (h : cut text = front ++ back) : cut (front.flatMap source) = front := by
  have hleftmost := leftmost_cut text
  rw [h] at hleftmost
  exact cut_flatMap_source (leftmost_append.mp hleftmost).1

end Piece

end Stencil
